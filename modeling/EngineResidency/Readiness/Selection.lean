-- SUMMARY: The evidence that counts is the first of the most recent among the records asked for.
import EngineResidency.Readiness
import Mathlib.Data.List.MinMax
import Mathlib.Data.Prod.Lex

/-!
# The selection of evidence

`bestEvidence` keeps a record until a more recent one comes. So it selects a maximum, and
among records that are equally recent the one that was recorded first.
-/

namespace EngineResidency

/-- The record is of the category, the subject and the namespace that are asked for. -/
def ComponentEvidence.isSelected (category : ComponentCategory) (subject evidenceNamespace : Str)
    (e : ComponentEvidence) : Bool :=
  decide (e.category = category ∧ (subject ≠ [] → e.subject = subject) ∧
    (evidenceNamespace ≠ [] → e.namespace_ = evidenceNamespace))

/-- Records are compared by their generation, then by the time of the observation. -/
def ComponentEvidence.recency (e : ComponentEvidence) : ℕ ×ₗ ℕ :=
  toLex (e.evidenceGeneration.raw.toNat, e.observedAtNs.toNat)

theorem recency_lt_iff {e b : ComponentEvidence} : b.recency < e.recency ↔
    b.evidenceGeneration.raw < e.evidenceGeneration.raw ∨
      e.evidenceGeneration = b.evidenceGeneration ∧ b.observedAtNs < e.observedAtNs := by
  have hgeneration : b.evidenceGeneration.raw.toNat = e.evidenceGeneration.raw.toNat ↔
      e.evidenceGeneration = b.evidenceGeneration := by
    rw [UInt64.toNat_inj]
    constructor
    · intro h
      cases hb : b.evidenceGeneration
      cases he : e.evidenceGeneration
      rw [hb, he] at h
      exact congrArg _ h.symm
    · intro h
      rw [h]
  rw [ComponentEvidence.recency, ComponentEvidence.recency, Prod.Lex.toLex_lt_toLex,
    UInt64.lt_iff_toNat_lt, UInt64.lt_iff_toNat_lt, hgeneration]

section Selection

variable {category : ComponentCategory} {subject evidenceNamespace : Str}
  {evidence : List ComponentEvidence} {e b : ComponentEvidence}

/-- Records that are not asked for are passed over, and the others compared. -/
theorem keepBest_eq (best : Option ComponentEvidence) (e : ComponentEvidence) :
    keepBest category subject evidenceNamespace best e =
      if e.isSelected category subject evidenceNamespace = true then
        match best with
        | none => some e
        | some b => if b.recency < e.recency then some e else some b
      else best := by
  unfold keepBest ComponentEvidence.isSelected
  simp only [decide_eq_true_eq]
  by_cases hcategory : e.category = category
  case neg => rw [if_pos hcategory, if_neg fun h => hcategory h.1]
  rw [if_neg (not_not.mpr hcategory)]
  by_cases hsubject : subject ≠ [] ∧ e.subject ≠ subject
  case pos => rw [if_pos hsubject, if_neg fun h => hsubject.2 (h.2.1 hsubject.1)]
  rw [if_neg hsubject]
  by_cases hnamespace : evidenceNamespace ≠ [] ∧ e.namespace_ ≠ evidenceNamespace
  case pos => rw [if_pos hnamespace, if_neg fun h => hnamespace.2 (h.2.2 hnamespace.1)]
  rw [if_neg hnamespace, if_pos ⟨hcategory, not_and_not_right.mp hsubject,
    not_and_not_right.mp hnamespace⟩]
  cases best with
  | none => rfl
  | some b =>
    simp only [recency_lt_iff]
    split
    · rw [if_pos (.inl ‹_›)]
    rename_i holder
    split
    · rw [if_pos (.inr ‹_›)]
    · rename_i hearlier
      rw [if_neg (not_or.mpr ⟨holder, hearlier⟩)]

/-- The selection is the first of the most recent records that are asked for. -/
theorem bestEvidence_eq_argmax (evidence : List ComponentEvidence) :
    bestEvidence evidence category subject evidenceNamespace =
      (evidence.filter (·.isSelected category subject evidenceNamespace)).argmax (·.recency) := by
  rw [bestEvidence_eq_foldl]
  induction evidence using List.reverseRecOn with
  | nil => rfl
  | append_singleton evidence e ih =>
    rw [List.foldl_append, List.foldl_cons, List.foldl_nil, ih, keepBest_eq, List.filter_append]
    split
    · rename_i hselected
      rw [List.filter_cons_of_pos hselected, List.filter_nil, List.argmax_concat]
      cases List.argmax ComponentEvidence.recency
        (evidence.filter (·.isSelected category subject evidenceNamespace)) <;> rfl
    · rename_i hother
      rw [List.filter_cons_of_neg hother, List.filter_nil, List.append_nil]

/-- Rewriting the records changes nothing in the selection, as long as what is asked for and
what is compared stays. -/
theorem bestEvidence_map {f : ComponentEvidence → ComponentEvidence}
    (hselected : ∀ e, (f e).isSelected category subject evidenceNamespace =
      e.isSelected category subject evidenceNamespace)
    (hrecency : ∀ e, (f e).recency = e.recency) (evidence : List ComponentEvidence) :
    bestEvidence (evidence.map f) category subject evidenceNamespace =
      (bestEvidence evidence category subject evidenceNamespace).map f := by
  simp only [bestEvidence_eq_foldl]
  induction evidence using List.reverseRecOn with
  | nil => rfl
  | append_singleton evidence e ih =>
    simp only [List.map_append, List.map_cons, List.map_nil, List.foldl_append, List.foldl_cons,
      List.foldl_nil, ih, keepBest_eq, hselected]
    split
    · cases evidence.foldl (keepBest category subject evidenceNamespace) none with
      | none => rfl
      | some b =>
        simp only [Option.map_some, hrecency]
        split <;> rfl
    · rfl

theorem bestEvidence_concat (evidence : List ComponentEvidence) (e : ComponentEvidence) :
    bestEvidence (evidence ++ [e]) category subject evidenceNamespace =
      keepBest category subject evidenceNamespace
        (bestEvidence evidence category subject evidenceNamespace) e := by
  simp only [bestEvidence_eq_foldl, List.foldl_append, List.foldl_cons, List.foldl_nil]

theorem bestEvidence_eq_none_iff :
    bestEvidence evidence category subject evidenceNamespace = none ↔
      ∀ e ∈ evidence, e.isSelected category subject evidenceNamespace = false := by
  rw [bestEvidence_eq_argmax, List.argmax_eq_none, List.filter_eq_nil_iff]
  simp only [Bool.not_eq_true]

/-- Nothing that is asked for is more recent than what is selected. -/
theorem recency_le_of_bestEvidence
    (h : bestEvidence evidence category subject evidenceNamespace = some b) (he : e ∈ evidence)
    (hselected : e.isSelected category subject evidenceNamespace = true) :
    e.recency ≤ b.recency := by
  rw [bestEvidence_eq_argmax] at h
  exact List.le_of_mem_argmax (List.mem_filter.mpr ⟨he, hselected⟩) h

end Selection

end EngineResidency
