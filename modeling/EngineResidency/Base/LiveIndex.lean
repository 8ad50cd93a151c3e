-- SUMMARY: Tables with an index that names the one live entry of each owner.
import EngineResidency.Base.UMap

/-!
# Indexes of live entries

Every entry of a table has an owner and is live or not. An index names, for each
owner, the live entry it owns; so no owner has two. Entries that are stored, rewritten
and closed keep the index right only under conditions, which are stated here.
-/

namespace AList

variable {K V O : Type} [DecidableEq K] [DecidableEq O]

/-- The index names the live entry of an owner exactly if there is one. -/
def Indexes (owner : V → O) (live : V → Prop) (m : UMap K V) (index : UMap O K) : Prop :=
  ∀ o k, index.lookup o = some k ↔ ∃ v, m.lookup k = some v ∧ owner v = o ∧ live v

namespace Indexes

variable {owner : V → O} {live : V → Prop} {m : UMap K V} {index : UMap O K} {k : K} {v : V}
  {f : V → V}

theorem empty : Indexes owner live (∅ : UMap K V) (∅ : UMap O K) := by
  intro o k
  simp

/-- No owner has two live entries. -/
theorem unique {k' : K} {v' : V} (h : Indexes owner live m index) (hv : m.lookup k = some v)
    (hv' : m.lookup k' = some v') (hlive : live v) (hlive' : live v')
    (howner : owner v = owner v') : k = k' := by
  have hfirst := (h (owner v) k).mpr ⟨v, hv, rfl, hlive⟩
  have hsecond := (h (owner v) k').mpr ⟨v', hv', howner.symm, hlive'⟩
  exact Option.some.inj (hfirst.symm.trans hsecond)

/-- A live entry is stored for an owner that has none. -/
theorem insert_iff (h : Indexes owner live m index) (hfree : index.lookup (owner v) = none)
    (hlive : live v) :
    Indexes owner live (m.insert k v) (index.insert (owner v) k) ↔
      ∀ o, index.lookup o ≠ some k := by
  constructor
  · intro hnew o ho
    have hne : o ≠ owner v := by
      rintro rfl
      rw [hfree] at ho
      cases ho
    obtain ⟨v', hv', howner, -⟩ := (hnew o k).mp ((lookup_insert_ne hne).trans ho)
    rw [lookup_insert] at hv'
    cases hv'
    exact hne howner.symm
  · intro hfresh o k'
    rw [lookup_insert', lookup_insert']
    by_cases ho : o = owner v
    · subst ho
      rw [if_pos rfl]
      constructor
      · intro hk
        cases hk
        exact ⟨v, if_pos rfl, rfl, hlive⟩
      · rintro ⟨v', hv', howner, hlive'⟩
        split at hv'
        · rename_i hk
          rw [hk]
        · have hnamed := (h _ k').mpr ⟨v', hv', howner, hlive'⟩
          rw [hfree] at hnamed
          cases hnamed
    · rw [if_neg ho, h o k']
      constructor
      · rintro ⟨v', hv', howner, hlive'⟩
        have hk : k' ≠ k := by
          rintro rfl
          exact hfresh o ((h o k').mpr ⟨v', hv', howner, hlive'⟩)
        exact ⟨v', (if_neg hk).trans hv', howner, hlive'⟩
      · rintro ⟨v', hv', howner, hlive'⟩
        split at hv'
        · cases hv'
          exact absurd howner.symm ho
        · exact ⟨v', hv', howner, hlive'⟩

/-- An entry is rewritten that stays as live as it was. -/
theorem modify (h : Indexes owner live m index)
    (hf : ∀ v, m.lookup k = some v → owner (f v) = owner v ∧ (live (f v) ↔ live v)) :
    Indexes owner live (m.modify k f) index := by
  intro o k'
  rw [h o k', lookup_modify]
  by_cases hk : k' = k
  · subst hk
    rw [if_pos rfl]
    constructor
    · rintro ⟨v, hv, howner, hlive⟩
      obtain ⟨hsame, hiff⟩ := hf v hv
      exact ⟨f v, by rw [hv]; rfl, hsame.trans howner, hiff.mpr hlive⟩
    · rintro ⟨v', hv', howner, hlive⟩
      rw [Option.map_eq_some_iff] at hv'
      obtain ⟨v, hv, rfl⟩ := hv'
      obtain ⟨hsame, hiff⟩ := hf v hv
      exact ⟨v, hv, hsame.symm.trans howner, hiff.mp hlive⟩
  · rw [if_neg hk]

section Close

variable (h : Indexes owner live m index) (hv : m.lookup k = some v) (hf : ¬ live (f v))
include h hv hf

/-- The live entries that are left after one has been closed. -/
theorem live_modify_iff (o : O) (k' : K) :
    (∃ w, (m.modify k f).lookup k' = some w ∧ owner w = o ∧ live w) ↔
      k' ≠ k ∧ index.lookup o = some k' := by
  rw [h o k', lookup_modify]
  by_cases hk : k' = k
  · subst hk
    rw [if_pos rfl, hv]
    constructor
    · rintro ⟨w, hw, -, hlive⟩
      cases hw
      exact absurd hlive hf
    · rintro ⟨hne, -⟩
      exact absurd rfl hne
  · rw [if_neg hk]
    exact ⟨fun hw => ⟨hk, hw⟩, fun hw => hw.2⟩

/-- The entry is closed and stays in the index. -/
theorem mark_iff : Indexes owner live (m.modify k f) index ↔ index.lookup (owner v) ≠ some k := by
  constructor
  · intro hnew hnamed
    have hclosed := (live_modify_iff h hv hf _ k).mp ((hnew _ k).mp hnamed)
    exact hclosed.1 rfl
  · intro hother o k'
    rw [live_modify_iff h hv hf]
    refine ⟨fun hnamed => ⟨?_, hnamed⟩, fun hw => hw.2⟩
    rintro rfl
    obtain ⟨v', hv', rfl, -⟩ := (h o k').mp hnamed
    cases hv.symm.trans hv'
    exact hother hnamed

/-- The entry is closed and whatever its owner has in the index is taken out. -/
theorem close_iff : Indexes owner live (m.modify k f) (index.erase (owner v)) ↔
    ∀ k', index.lookup (owner v) = some k' → k' = k := by
  constructor
  · intro hnew k' hnamed
    by_contra hk
    have hlive := (live_modify_iff h hv hf _ k').mpr ⟨hk, hnamed⟩
    have herased := (hnew _ k').mpr hlive
    rw [lookup_erase] at herased
    cases herased
  · intro hown o k'
    rw [live_modify_iff h hv hf]
    by_cases ho : o = owner v
    · subst ho
      rw [lookup_erase]
      constructor
      · intro hnone
        cases hnone
      · rintro ⟨hk, hnamed⟩
        exact absurd (hown k' hnamed) hk
    · rw [lookup_erase_ne ho]
      refine ⟨fun hnamed => ⟨?_, hnamed⟩, fun hw => hw.2⟩
      rintro rfl
      obtain ⟨v', hv', rfl, -⟩ := (h o k').mp hnamed
      cases hv.symm.trans hv'
      exact ho rfl

end Close

end Indexes

end AList
