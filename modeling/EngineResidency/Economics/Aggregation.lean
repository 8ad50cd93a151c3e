-- SUMMARY: What the aggregation of costs computes, and when an overflow cuts it short.
import EngineResidency.Base.Saturation
import EngineResidency.Economics

/-!
# Aggregation of costs

The loop over the components adds them up, and keeps the greatest of them and whether one
was measured. It stops at the component that takes the sum beyond 64 bits. The sum is right
then, but a greater or a measured component that comes later is not seen.
-/

namespace EngineResidency

open Saturation

/-- The cost of a component as a number. -/
def CostComponent.ns (c : CostComponent) : ℕ := c.effectiveNs.toNat

def CostComponent.isMeasured (c : CostComponent) : Bool := c.provenance == Provenance.measured

theorem CostComponent.isMeasured_iff {c : CostComponent} :
    c.isMeasured = true ↔ c.provenance = Provenance.measured := beq_iff_eq

/-- The guard of the loop finds the sums beyond 64 bits. -/
theorem overflows_iff {total eff : UInt64} :
    total > 0xFFFFFFFFFFFFFFFF - eff ↔ 2 ^ 64 ≤ total.toNat + eff.toNat := by
  have hmax : (0xFFFFFFFFFFFFFFFF : UInt64).toNat = 2 ^ 64 - 1 := rfl
  have heff := eff.toNat_lt
  have hle : eff ≤ 0xFFFFFFFFFFFFFFFF := by
    rw [UInt64.le_iff_toNat_le, hmax]
    omega
  rw [gt_iff_lt, UInt64.lt_iff_toNat_lt, UInt64.toNat_sub_of_le _ _ hle, hmax]
  omega

theorem toNat_max (a b : UInt64) : (max a b).toNat = max a.toNat b.toNat := by
  change (if a ≤ b then b else a).toNat = _
  by_cases hle : a ≤ b
  · rw [if_pos hle, max_eq_right (UInt64.le_iff_toNat_le.mp hle)]
  · rw [if_neg hle, max_eq_left]
    exact le_of_lt (UInt64.lt_iff_toNat_lt.mp (UInt64.not_le.mp hle))

/-- What the loop has accumulated is the saturated sum of all components, the greatest of those
it has seen, and whether one of these was measured. -/
theorem aggregateLoop_seen (acc : CostAcc) (cs : List CostComponent) :
    (aggregateLoop acc cs).total.toNat =
      min (acc.total.toNat + weight CostComponent.ns cs) (2 ^ 64 - 1) ∧
    (aggregateLoop acc cs).criticalPath.toNat = max acc.criticalPath.toNat
      (heaviest CostComponent.ns (seen CostComponent.ns (2 ^ 64) acc.total.toNat cs)) ∧
    (aggregateLoop acc cs).anyMeasured = (acc.anyMeasured ||
      (seen CostComponent.ns (2 ^ 64) acc.total.toNat cs).any CostComponent.isMeasured) := by
  induction cs generalizing acc with
  | nil =>
    have htotal := acc.total.toNat_lt
    refine ⟨?_, ?_, ?_⟩
    · simp only [aggregateLoop, weight, List.map_nil, List.sum_nil]
      omega
    · simp [aggregateLoop, seen, heaviest]
    · simp [aggregateLoop, seen]
  | cons c cs ih =>
    rw [weight_cons, seen]
    by_cases hover : acc.total > 0xFFFFFFFFFFFFFFFF - c.effectiveNs
    · -- the loop ends here: the sum is saturated, and nothing later is seen
      have hsum : 2 ^ 64 ≤ acc.total.toNat + c.ns := overflows_iff.mp hover
      have hmax : (0xFFFFFFFFFFFFFFFF : UInt64).toNat = 2 ^ 64 - 1 := rfl
      rw [if_pos hsum]
      simp only [aggregateLoop, if_pos hover]
      refine ⟨?_, ?_, ?_⟩
      · rw [hmax]
        omega
      · rw [toNat_max]
        exact congrArg (max _) (max_eq_left (Nat.zero_le _)).symm
      · exact congrArg (acc.anyMeasured || ·) (Bool.or_false _).symm
    · have hsum : ¬ 2 ^ 64 ≤ acc.total.toNat + c.ns := fun h => hover (overflows_iff.mpr h)
      have hadd : (acc.total + c.effectiveNs).toNat = acc.total.toNat + c.ns := by
        rw [UInt64.toNat_add]
        exact Nat.mod_eq_of_lt (not_le.mp hsum)
      rw [if_neg hsum]
      simp only [aggregateLoop, if_neg hover]
      obtain ⟨htotal, hpath, hmeasured⟩ := ih
        { acc with
          anyMeasured := acc.anyMeasured || c.provenance == Provenance.measured
          anyUnknown :=
            acc.anyUnknown || (c.effectiveNs == 0 && c.estimatedNs == 0 && c.measuredNs == 0)
          criticalPath := max acc.criticalPath c.effectiveNs
          total := acc.total + c.effectiveNs }
      dsimp only at htotal hpath hmeasured
      rw [hadd] at htotal hpath hmeasured
      refine ⟨?_, ?_, ?_⟩
      · rw [htotal, Nat.add_assoc]
      · rw [hpath, toNat_max, max_assoc]
        rfl
      · rw [hmeasured, Bool.or_assoc, List.any_cons]
        rfl

/-! ## The aggregated cost -/

def sequential : Str := lit "SEQUENTIAL"

def parallelCriticalPath : Str := lit "PARALLEL_CRITICAL_PATH"

section Aggregate

variable {cs : List CostComponent} {action : RecoveryAction} {model : Str}

/-- The components that the aggregation sees. -/
def seenComponents (cs : List CostComponent) : List CostComponent :=
  seen CostComponent.ns (2 ^ 64) 0 cs

theorem total_sequential : (aggregateRecoveryCost cs action sequential).totalNs.toNat =
    min (weight CostComponent.ns cs) (2 ^ 64 - 1) := by
  obtain ⟨htotal, -, -⟩ := aggregateLoop_seen {} cs
  rw [show ({} : CostAcc).total.toNat = 0 from rfl, Nat.zero_add] at htotal
  exact htotal

/-- Both models report the greatest component that was seen, and whether one was measured. -/
theorem aggregate_seen (hmodel : model = sequential ∨ model = parallelCriticalPath) :
    (aggregateRecoveryCost cs action model).parallelBestNs.toNat =
      heaviest CostComponent.ns (seenComponents cs) ∧
    (aggregateRecoveryCost cs action model).provenance =
      if (seenComponents cs).any CostComponent.isMeasured then .measured else .estimated := by
  obtain ⟨-, hpath, hmeasured⟩ := aggregateLoop_seen {} cs
  have hpath' : (aggregateLoop {} cs).criticalPath.toNat =
      heaviest CostComponent.ns (seenComponents cs) := hpath.trans (max_eq_right (Nat.zero_le _))
  have hprovenance : (if (aggregateLoop {} cs).anyMeasured then Provenance.measured
      else if !(aggregateLoop {} cs).anyUnknown then .estimated else .estimated) =
      if (seenComponents cs).any CostComponent.isMeasured then .measured else .estimated := by
    rw [hmeasured, ite_self]
    rfl
  rcases hmodel with rfl | rfl
  · exact ⟨hpath', hprovenance⟩
  · exact ⟨hpath', hprovenance⟩

theorem total_parallel : (aggregateRecoveryCost cs action parallelCriticalPath).totalNs =
    (aggregateRecoveryCost cs action parallelCriticalPath).parallelBestNs := rfl

/-- The aggregation is what it is defined to be, in whatever order the components come. -/
structure AggregatesExactly (cs : List CostComponent) (action : RecoveryAction) : Prop where
  sum : (aggregateRecoveryCost cs action sequential).totalNs.toNat =
    min (weight CostComponent.ns cs) (2 ^ 64 - 1)
  critical : (aggregateRecoveryCost cs action parallelCriticalPath).totalNs.toNat =
    heaviest CostComponent.ns cs
  best : ∀ model ∈ [sequential, parallelCriticalPath],
    (aggregateRecoveryCost cs action model).parallelBestNs.toNat = heaviest CostComponent.ns cs
  measured : ∀ model ∈ [sequential, parallelCriticalPath],
    (aggregateRecoveryCost cs action model).provenance = .measured ↔
      ∃ c ∈ cs, c.provenance = .measured
  order : ∀ model ∈ [sequential, parallelCriticalPath], ∀ cs', cs.Perm cs' →
    (aggregateRecoveryCost cs' action model).totalNs =
      (aggregateRecoveryCost cs action model).totalNs ∧
    (aggregateRecoveryCost cs' action model).parallelBestNs =
      (aggregateRecoveryCost cs action model).parallelBestNs ∧
    (aggregateRecoveryCost cs' action model).provenance =
      (aggregateRecoveryCost cs action model).provenance

theorem mem_models : model ∈ [sequential, parallelCriticalPath] ↔
    model = sequential ∨ model = parallelCriticalPath := by
  rw [List.mem_cons, List.mem_singleton]

/-- The provenance is measured when a measured component was seen. -/
theorem provenance_measured_iff (action : RecoveryAction)
    (hmodel : model = sequential ∨ model = parallelCriticalPath) :
    (aggregateRecoveryCost cs action model).provenance = .measured ↔
      ∃ c ∈ seenComponents cs, c.isMeasured = true := by
  rw [(aggregate_seen hmodel).2, ← List.any_eq_true]
  split <;> simp_all

/-- The aggregation is exact when in every order a greatest component is seen, and a measured
one if there is one. -/
theorem aggregatesExactly_iff_seen : AggregatesExactly cs action ↔ ∀ cs', cs.Perm cs' →
    heaviest CostComponent.ns (seenComponents cs') = heaviest CostComponent.ns cs ∧
    ((∃ c ∈ seenComponents cs', c.isMeasured = true) ↔ ∃ c ∈ cs, c.isMeasured = true) := by
  constructor
  · intro h cs' hperm
    have hseq := mem_models.mpr (.inl rfl)
    obtain ⟨-, hbest, hprovenance⟩ := h.order sequential hseq cs' hperm
    constructor
    · rw [← h.best sequential hseq, ← hbest]
      exact (aggregate_seen (.inl rfl)).1.symm
    · rw [← provenance_measured_iff action (.inl rfl), hprovenance,
        h.measured sequential hseq]
      simp only [CostComponent.isMeasured_iff]
  · intro h
    obtain ⟨hheaviest, hmeasured⟩ := h cs (List.Perm.refl cs)
    have hbest : ∀ m, m = sequential ∨ m = parallelCriticalPath → ∀ cs', cs.Perm cs' →
        (aggregateRecoveryCost cs' action m).parallelBestNs =
          (aggregateRecoveryCost cs action m).parallelBestNs := by
      intro m hm cs' hperm
      apply UInt64.toNat_inj.mp
      rw [(aggregate_seen hm).1, (aggregate_seen hm).1, (h cs' hperm).1, hheaviest]
    refine ⟨total_sequential, ?_, fun m hm => ?_, fun m hm => ?_, fun m hm cs' hperm => ?_⟩
    · rw [total_parallel, (aggregate_seen (.inr rfl)).1, hheaviest]
    · rw [(aggregate_seen (mem_models.mp hm)).1, hheaviest]
    · rw [provenance_measured_iff action (mem_models.mp hm), hmeasured]
      simp only [CostComponent.isMeasured_iff]
    · refine ⟨?_, hbest m (mem_models.mp hm) cs' hperm, ?_⟩
      · rcases mem_models.mp hm with rfl | rfl
        · apply UInt64.toNat_inj.mp
          rw [total_sequential, total_sequential, weight_perm hperm]
        · rw [total_parallel, total_parallel, hbest _ (.inr rfl) cs' hperm]
      · have hany : (seenComponents cs').any CostComponent.isMeasured =
            (seenComponents cs).any CostComponent.isMeasured := by
          rw [Bool.eq_iff_iff, List.any_eq_true, List.any_eq_true, (h cs' hperm).2, hmeasured]
        rw [(aggregate_seen (mem_models.mp hm)).2, (aggregate_seen (mem_models.mp hm)).2, hany]

/-- A greatest component is seen in every order when the lesser ones stay below 64 bits. -/
theorem heaviest_seen_iff : (∀ cs', cs.Perm cs' →
      heaviest CostComponent.ns (seenComponents cs') = heaviest CostComponent.ns cs) ↔
    weight CostComponent.ns (cs.filter fun c => c.ns < heaviest CostComponent.ns cs) < 2 ^ 64 := by
  by_cases hempty : cs = []
  · subst hempty
    refine iff_of_true (fun cs' hperm => ?_) (by decide)
    rw [List.nil_perm.mp hperm]
    rfl
  · -- the components that are wanted are those of the greatest cost
    have hwanted : ∃ c ∈ cs, decide (c.ns = heaviest CostComponent.ns cs) = true := by
      obtain ⟨c, hc, heq⟩ := exists_heaviest hempty
      exact ⟨c, hc, decide_eq_true heq⟩
    have hothers : (cs.filter fun c => decide (c.ns < heaviest CostComponent.ns cs)) =
        cs.filter fun c => !decide (c.ns = heaviest CostComponent.ns cs) := by
      apply List.filter_congr
      intro c hc
      have hle := le_heaviest (w := CostComponent.ns) hc
      rw [← decide_not, decide_eq_decide]
      exact ⟨ne_of_lt, lt_of_le_of_ne hle⟩
    rw [hothers, ← exists_seen_perm_iff (by decide) hwanted]
    refine forall_congr' fun cs' => forall_congr' fun hperm => ?_
    have hseen : seen CostComponent.ns (2 ^ 64) 0 cs' ≠ [] := by
      cases cs' with
      | nil => exact absurd (List.perm_nil.mp hperm) hempty
      | cons c cs' =>
        rw [seen]
        split <;> exact List.cons_ne_nil _ _
    constructor
    · intro heq
      obtain ⟨c, hc, hmax⟩ := exists_heaviest hseen
      exact ⟨c, hc, decide_eq_true (hmax.trans heq)⟩
    · rintro ⟨c, hc, hmax⟩
      apply le_antisymm
      · exact heaviest_le fun x hx => le_heaviest (hperm.mem_iff.mpr (mem_of_mem_seen hx))
      · rw [← of_decide_eq_true hmax]
        exact le_heaviest hc

/-- A measured component is seen in every order when the others stay below 64 bits. -/
theorem measured_seen_iff : (∀ cs', cs.Perm cs' →
      ((∃ c ∈ seenComponents cs', c.isMeasured = true) ↔ ∃ c ∈ cs, c.isMeasured = true)) ↔
    ((∃ c ∈ cs, c.isMeasured = true) →
      weight CostComponent.ns (cs.filter fun c => !c.isMeasured) < 2 ^ 64) := by
  constructor
  · intro h hwanted
    rw [← exists_seen_perm_iff (by decide) hwanted]
    exact fun cs' hperm => (h cs' hperm).mpr hwanted
  · intro h cs' hperm
    constructor
    · rintro ⟨c, hc, hmeasured⟩
      exact ⟨c, hperm.mem_iff.mpr (mem_of_mem_seen hc), hmeasured⟩
    · intro hwanted
      exact (exists_seen_perm_iff (by decide) hwanted).mpr (h hwanted) cs' hperm

end Aggregate

/-- The aggregation is exact for the lists whose components below the greatest, and whose
components that were not measured when one was, add up to less than 2^64. -/
theorem aggregatesExactly_iff (cs : List CostComponent) (action : RecoveryAction) :
    AggregatesExactly cs action ↔
      weight CostComponent.ns (cs.filter fun c => c.ns < heaviest CostComponent.ns cs) < 2 ^ 64 ∧
      ((∃ c ∈ cs, c.isMeasured = true) →
        weight CostComponent.ns (cs.filter fun c => !c.isMeasured) < 2 ^ 64) := by
  rw [aggregatesExactly_iff_seen, ← heaviest_seen_iff, ← measured_seen_iff]
  constructor
  · intro h
    exact ⟨fun cs' hperm => (h cs' hperm).1, fun cs' hperm => (h cs' hperm).2⟩
  · rintro ⟨hheaviest, hmeasured⟩ cs' hperm
    exact ⟨hheaviest cs' hperm, hmeasured cs' hperm⟩

/-- Two stages of half the range hide the stage that comes after them. -/
theorem longest_stage_missed :
    ¬ ∀ (cs : List CostComponent) (action : RecoveryAction), AggregatesExactly cs action := by
  intro h
  have hstages := (h [{ estimatedNs := 0x8000000000000000 }, { estimatedNs := 0x8000000000000000 },
    { estimatedNs := 0x9000000000000000, provenance := .measured }] .replaceLost).critical
  exact absurd hstages (by decide +kernel)

end EngineResidency
