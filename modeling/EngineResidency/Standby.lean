-- SUMMARY: Accounting of standby capacity over a pool policy, the slots and the scanned incarnations.
import EngineResidency.Base.UMap
import EngineResidency.Readiness
import Mathlib.Data.List.Sort
import Mathlib.Data.Prod.Lex

/-!
# Standby

The runtime scans the incarnations of an engine; the accounting sorts the candidates,
excludes those that cannot stand by and gives the slots to the first that remain. What
else a pool policy says is read by nobody.
-/

namespace EngineResidency

/-- The pool policy supplied to local reconciliation. -/
structure StandbyPoolPolicy where
  poolId : EnginePoolId := {}
  engineId : EngineId := {}
  targetStandby : UInt32 := 0
  deriving DecidableEq, Repr

/-- The standby accounting of a pool. -/
structure StandbyAccounting where
  poolId : EnginePoolId := {}
  target : UInt32 := 0
  eligible : UInt32 := 0
  preparing : UInt32 := 0
  blocked : UInt32 := 0
  stale : UInt32 := 0
  active : UInt32 := 0
  deficit : UInt32 := 0
  blockers : List Str := []
  candidates : List EngineIncarnationId := []
  deferredSlots : List EngineSlotId := []
  deriving DecidableEq, Repr

/-- Candidates are ordered by their id, then by the id of their process. -/
def EngineIncarnation.standsBefore (a b : EngineIncarnation) : Bool :=
  if a.incarnationId ≠ b.incarnationId then a.incarnationId.raw < b.incarnationId.raw
  else a.process.pid < b.process.pid

def orderCandidates (candidates : List EngineIncarnation) : List EngineIncarnation :=
  candidates.insertionSort fun a b => b.standsBefore a = false

/-- Only a running incarnation that does not serve can stand by. -/
def EngineIncarnation.atRest (c : EngineIncarnation) : Bool :=
  c.state.lifecycle == .running && c.state.activation != .active

/-- Whether the scan has found an incarnation ready or degraded. -/
def foundServing (readiness : UMap EngineIncarnationId ReadinessOutcome) (c : EngineIncarnation) :
    Bool :=
  match readiness.lookup c.incarnationId with
  | some outcome => outcome.serves
  | none => false

/-- The candidates that the exclusions leave, in their order. -/
def eligibleStandby (candidates : List EngineIncarnation)
    (readiness : UMap EngineIncarnationId ReadinessOutcome) : List EngineIncarnation :=
  (orderCandidates candidates).filter fun c => c.atRest && foundServing readiness c

/-- At most one eligible incarnation counts for a slot; without slots they all count. -/
def countedStandby (slots : List EngineSlotId) (eligible : List EngineIncarnation) :
    List EngineIncarnation :=
  if slots = [] then eligible else eligible.take slots.length

def blockedText (b : EngineIncarnation) : Str :=
  lit "blocked:" ++ lit (toString b.incarnationId.raw.toNat) ++ lit ":" ++
    lit b.state.preparation.toString

def deficitText (deficit : UInt32) : Str :=
  lit "deficit:need " ++ lit (toString deficit.toNat) ++ lit " standby"

/-- Deterministic local reconciliation for a pool policy. -/
def reconcileStandby (policy : StandbyPoolPolicy) (slots : List EngineSlotId)
    (eligibleCandidates blocked : List EngineIncarnation)
    (readiness : UMap EngineIncarnationId ReadinessOutcome) (activeCount : UInt32) :
    StandbyAccounting :=
  let ordered := orderCandidates eligibleCandidates
  let eligible := eligibleStandby eligibleCandidates readiness
  let eligibleCount := UInt32.ofNat <|
    if slots = [] then eligible.length else min eligible.length slots.length
  let deficit := if policy.targetStandby > eligibleCount then policy.targetStandby - eligibleCount else 0
  { poolId := policy.poolId
    target := policy.targetStandby
    eligible := eligibleCount
    -- A candidate that does not run, or serves, is passed over without a trace.
    stale := UInt32.ofNat (ordered.countP fun c => c.atRest && !foundServing readiness c)
    active := activeCount
    deficit := deficit
    blockers := blocked.map blockedText ++ List.replicate (min deficit.toNat 8) (deficitText deficit)
    candidates :=
      if slots = [] then [] else (eligible.take slots.length).map EngineIncarnation.incarnationId
    deferredSlots := if slots = [] then [] else slots.drop eligible.length }

/-! ## What is counted -/

section Accounting

variable {policy : StandbyPoolPolicy} {slots : List EngineSlotId}
  {candidates blocked : List EngineIncarnation}
  {readiness : UMap EngineIncarnationId ReadinessOutcome} {active : UInt32}

/-- The number of the accounting is the number of incarnations that count. -/
theorem eligible_eq_counted :
    (reconcileStandby policy slots candidates blocked readiness active).eligible =
      UInt32.ofNat (countedStandby slots (eligibleStandby candidates readiness)).length := by
  unfold reconcileStandby countedStandby
  split
  · rfl
  · rw [List.length_take, Nat.min_comm]

/-- Only incarnations that count are listed. -/
theorem mem_counted_of_candidates {id : EngineIncarnationId}
    (h : id ∈ (reconcileStandby policy slots candidates blocked readiness active).candidates) :
    ∃ c ∈ countedStandby slots (eligibleStandby candidates readiness), c.incarnationId = id := by
  unfold countedStandby
  by_cases hslots : slots = []
  · simp [reconcileStandby, hslots] at h
  · simpa [reconcileStandby, hslots, ← List.map_take] using h

end Accounting

/-! ## Places -/

/-- The first `n` elements of a list that is sorted by a key are those with fewer than `n`
smaller ones. -/
theorem mem_take_of_sorted {A K : Type} [LinearOrder K] {key : A → K} {l : List A} {x : A} {n : ℕ}
    (h : l.Pairwise fun a b => key a < key b) :
    x ∈ l.take n ↔ x ∈ l ∧ l.countP (fun a => decide (key a < key x)) < n := by
  induction l generalizing n with
  | nil => simp
  | cons a l ih =>
    obtain ⟨hfirst, hrest⟩ := List.pairwise_cons.mp h
    cases n with
    | zero => simp
    | succ n =>
      rw [List.take_succ_cons, List.mem_cons, List.mem_cons, ih hrest, List.countP_cons]
      constructor
      · rintro (rfl | ⟨hx, hlt⟩)
        · have hnone : l.countP (fun b => decide (key b < key x)) = 0 := by
            refine List.countP_eq_zero.mpr fun b hb hlt => ?_
            exact absurd (of_decide_eq_true hlt) (not_lt_of_gt (hfirst b hb))
          refine ⟨.inl rfl, ?_⟩
          simp [hnone]
        · refine ⟨.inr hx, ?_⟩
          simpa [hfirst x hx] using hlt
      · rintro ⟨rfl | hx, hlt⟩
        · exact .inl rfl
        · refine .inr ⟨hx, ?_⟩
          simpa [hfirst x hx] using hlt

/-- The order of the candidates. -/
def EngineIncarnation.standbyKey (c : EngineIncarnation) : ℕ ×ₗ ℕ :=
  toLex (c.incarnationId.raw.toNat, c.process.pid.toNat)

theorem standsBefore_iff {a b : EngineIncarnation} :
    a.standsBefore b = true ↔ a.standbyKey < b.standbyKey := by
  have hid : a.incarnationId.raw.toNat = b.incarnationId.raw.toNat ↔
      a.incarnationId = b.incarnationId :=
    ⟨fun h => congrArg Identity.mk (UInt64.toNat_inj.mp h), fun h => by rw [h]⟩
  rw [EngineIncarnation.standbyKey, EngineIncarnation.standbyKey, Prod.Lex.toLex_lt_toLex, hid,
    EngineIncarnation.standsBefore]
  by_cases h : a.incarnationId = b.incarnationId
  · simp [h, UInt32.lt_iff_toNat_lt]
  · simp [h, UInt64.lt_iff_toNat_lt]

theorem standsBefore_eq_false {a b : EngineIncarnation} :
    b.standsBefore a = false ↔ a.standbyKey ≤ b.standbyKey := by
  rw [← Bool.not_eq_true, standsBefore_iff, not_lt]

theorem orderCandidates_perm (candidates : List EngineIncarnation) :
    (orderCandidates candidates).Perm candidates :=
  List.perm_insertionSort _ _

/-- Candidates with different ids are ordered strictly by them. -/
theorem orderCandidates_sorted {candidates : List EngineIncarnation}
    (hids : (candidates.map EngineIncarnation.incarnationId).Nodup) :
    (orderCandidates candidates).Pairwise fun a b =>
      a.incarnationId.raw.toNat < b.incarnationId.raw.toNat := by
  have htotal : Std.Total fun a b : EngineIncarnation => b.standsBefore a = false :=
    ⟨fun a b => by
      rw [standsBefore_eq_false, standsBefore_eq_false]
      exact le_total _ _⟩
  have htrans : IsTrans EngineIncarnation fun a b => b.standsBefore a = false :=
    ⟨fun a b c hab hbc =>
      standsBefore_eq_false.mpr
        ((standsBefore_eq_false.mp hab).trans (standsBefore_eq_false.mp hbc))⟩
  have hsorted : (orderCandidates candidates).Pairwise fun a b => b.standsBefore a = false :=
    List.pairwise_insertionSort _ candidates
  have hdistinct : (orderCandidates candidates).Pairwise fun a b =>
      a.incarnationId ≠ b.incarnationId :=
    List.pairwise_map.mp (((orderCandidates_perm candidates).map _).nodup_iff.mpr hids)
  refine hsorted.imp₂ (fun a b hle hne => ?_) hdistinct
  rw [standsBefore_eq_false, EngineIncarnation.standbyKey, EngineIncarnation.standbyKey,
    Prod.Lex.toLex_le_toLex] at hle
  refine hle.resolve_right fun h => hne ?_
  exact congrArg Identity.mk (UInt64.toNat_inj.mp h.1)

/-- Which incarnations count: of those that are eligible, those with fewer smaller ones than
there are slots. -/
theorem mem_counted_iff {candidates : List EngineIncarnation}
    {readiness : UMap EngineIncarnationId ReadinessOutcome} {slots : List EngineSlotId}
    (hids : (candidates.map EngineIncarnation.incarnationId).Nodup) {c : EngineIncarnation} :
    c ∈ countedStandby slots (eligibleStandby candidates readiness) ↔
      c ∈ candidates ∧ c.atRest = true ∧ foundServing readiness c = true ∧
        (slots = [] ∨ candidates.countP (fun a => a.atRest && foundServing readiness a &&
          decide (a.incarnationId.raw.toNat < c.incarnationId.raw.toNat)) < slots.length) := by
  have hmem : c ∈ eligibleStandby candidates readiness ↔
      c ∈ candidates ∧ c.atRest = true ∧ foundServing readiness c = true := by
    rw [eligibleStandby, List.mem_filter, (orderCandidates_perm candidates).mem_iff,
      Bool.and_eq_true]
  by_cases hslots : slots = []
  · simp only [countedStandby, hslots, if_true, true_or, and_true, hmem]
  · have hsorted := (orderCandidates_sorted hids).filter
      fun c => c.atRest && foundServing readiness c
    have hplace := mem_take_of_sorted (x := c) (n := slots.length) hsorted
    rw [List.countP_filter, (orderCandidates_perm candidates).countP_eq] at hplace
    simp only [countedStandby, hslots, if_false, false_or]
    rw [eligibleStandby, hplace, ← eligibleStandby, hmem, and_assoc, and_assoc]
    simp only [Bool.and_comm]

/-! ## Order -/

/-- Candidates with different ids have one order. -/
theorem orderCandidates_eq_of_perm {candidates candidates' : List EngineIncarnation}
    (hids : (candidates.map EngineIncarnation.incarnationId).Nodup)
    (hperm : candidates.Perm candidates') :
    orderCandidates candidates = orderCandidates candidates' := by
  have hids' : (candidates'.map EngineIncarnation.incarnationId).Nodup :=
    (hperm.map _).nodup_iff.mp hids
  apply List.Perm.eq_of_pairwise _ (orderCandidates_sorted hids) (orderCandidates_sorted hids')
  · exact (orderCandidates_perm candidates).trans (hperm.trans (orderCandidates_perm candidates').symm)
  · intro a b _ _ hab hba
    exact absurd hab (Nat.lt_asymm hba)

section Accounting

variable {policy : StandbyPoolPolicy} {slots : List EngineSlotId}
  {candidates blocked : List EngineIncarnation}
  {readiness : UMap EngineIncarnationId ReadinessOutcome} {active : UInt32}

/-- The incarnations that pass the filters, in the order in which they arrive. -/
def passing (candidates : List EngineIncarnation)
    (readiness : UMap EngineIncarnationId ReadinessOutcome) : List EngineIncarnation :=
  candidates.filter fun c => c.atRest && foundServing readiness c

theorem eligibleStandby_perm :
    (eligibleStandby candidates readiness).Perm (passing candidates readiness) :=
  (orderCandidates_perm candidates).filter _

theorem candidates_eq (hslots : slots ≠ []) :
    (reconcileStandby policy slots candidates blocked readiness active).candidates =
      (countedStandby slots (eligibleStandby candidates readiness)).map
        EngineIncarnation.incarnationId := by
  simp only [reconcileStandby, countedStandby, hslots, if_false]

/-- The listed candidates are strictly ordered by their ids. -/
theorem candidates_sorted (hids : (candidates.map EngineIncarnation.incarnationId).Nodup) :
    (reconcileStandby policy slots candidates blocked readiness active).candidates.Pairwise
      fun a b => a.raw.toNat < b.raw.toNat := by
  by_cases hslots : slots = []
  · simp [reconcileStandby, hslots]
  · rw [candidates_eq hslots, List.pairwise_map, countedStandby, if_neg hslots]
    exact ((orderCandidates_sorted hids).filter _).take

theorem length_counted :
    (countedStandby slots (eligibleStandby candidates readiness)).length =
      if slots = [] then (passing candidates readiness).length
      else min (passing candidates readiness).length slots.length := by
  unfold countedStandby
  split
  · exact eligibleStandby_perm.length_eq
  · rw [List.length_take, eligibleStandby_perm.length_eq, Nat.min_comm]

/-- The count does not wrap around for lists of less than 2^32 incarnations. -/
theorem eligible_toNat (hlen : candidates.length < 2 ^ 32) :
    (reconcileStandby policy slots candidates blocked readiness active).eligible.toNat =
      (countedStandby slots (eligibleStandby candidates readiness)).length := by
  rw [eligible_eq_counted, UInt32.toNat_ofNat_of_lt']
  have hpassing : (passing candidates readiness).length ≤ candidates.length :=
    List.length_filter_le _ _
  rw [length_counted]
  split
  · exact lt_of_le_of_lt hpassing hlen
  · exact lt_of_le_of_lt ((Nat.min_le_left _ _).trans hpassing) hlen

/-- The deficit is what the target exceeds the eligible incarnations by. -/
theorem deficit_toNat :
    (reconcileStandby policy slots candidates blocked readiness active).deficit.toNat =
      policy.targetStandby.toNat -
        (reconcileStandby policy slots candidates blocked readiness active).eligible.toNat := by
  generalize hacc : reconcileStandby policy slots candidates blocked readiness active = acc
  have hdeficit : acc.deficit =
      if policy.targetStandby > acc.eligible then policy.targetStandby - acc.eligible else 0 :=
    hacc ▸ rfl
  rw [hdeficit]
  split
  · rename_i hgt
    exact UInt32.toNat_sub_of_le _ _ (UInt32.le_of_lt hgt)
  · rename_i hle
    rw [gt_iff_lt, UInt32.not_lt, UInt32.le_iff_toNat_le] at hle
    rw [Nat.sub_eq_zero_of_le hle]
    rfl

/-- Every slot is given to a candidate or deferred. -/
theorem slots_accounted (hslots : slots ≠ []) :
    (reconcileStandby policy slots candidates blocked readiness active).candidates.length +
      (reconcileStandby policy slots candidates blocked readiness active).deferredSlots.length =
        slots.length := by
  rw [candidates_eq hslots, List.length_map, countedStandby, if_neg hslots, List.length_take]
  simp only [reconcileStandby, hslots, if_false, List.length_drop]
  omega

/-- The order in which candidates, slots and blocked incarnations arrive does not matter to
what is counted. -/
theorem reconcileStandby_perm (hids : (candidates.map EngineIncarnation.incarnationId).Nodup)
    {slots' : List EngineSlotId} {candidates' blocked' : List EngineIncarnation}
    (hcandidates : candidates.Perm candidates') (hslots : slots.Perm slots') :
    reconcileStandby policy slots' candidates' blocked' readiness active =
      { reconcileStandby policy slots candidates blocked readiness active with
        blockers := (reconcileStandby policy slots' candidates' blocked' readiness active).blockers
        deferredSlots :=
          (reconcileStandby policy slots' candidates' blocked' readiness active).deferredSlots } := by
  have horder := orderCandidates_eq_of_perm hids hcandidates
  have hlen := hslots.length_eq
  have hempty : slots' = [] ↔ slots = [] := by
    rw [← List.length_eq_zero_iff, ← hlen, List.length_eq_zero_iff]
  simp only [reconcileStandby, eligibleStandby, horder, hlen, hempty]

theorem mem_passing {c : EngineIncarnation} :
    c ∈ passing candidates readiness ↔
      c ∈ candidates ∧ c.atRest = true ∧ foundServing readiness c = true := by
  rw [passing, List.mem_filter, Bool.and_eq_true]

/-- The listed candidates are the incarnations that pass the filters with fewer smaller ones
than there are slots. -/
theorem mem_candidates_iff (hids : (candidates.map EngineIncarnation.incarnationId).Nodup)
    (hslots : slots ≠ []) {id : EngineIncarnationId} :
    id ∈ (reconcileStandby policy slots candidates blocked readiness active).candidates ↔
      ∃ c ∈ passing candidates readiness, c.incarnationId = id ∧
        (passing candidates readiness).countP
          (fun a => decide (a.incarnationId.raw.toNat < id.raw.toNat)) < slots.length := by
  have hcount : ∀ x : ℕ, (passing candidates readiness).countP
      (fun a => decide (a.incarnationId.raw.toNat < x)) =
      candidates.countP fun a => a.atRest && foundServing readiness a &&
        decide (a.incarnationId.raw.toNat < x) := by
    intro x
    rw [passing, List.countP_filter]
    simp only [Bool.and_comm]
  rw [candidates_eq hslots, List.mem_map, hcount]
  constructor
  · rintro ⟨c, hc, rfl⟩
    obtain ⟨hmem, hrest, hserves, hplace⟩ := (mem_counted_iff hids).mp hc
    exact ⟨c, mem_passing.mpr ⟨hmem, hrest, hserves⟩, rfl, hplace.resolve_left hslots⟩
  · rintro ⟨c, hc, rfl, hplace⟩
    obtain ⟨hmem, hrest, hserves⟩ := mem_passing.mp hc
    exact ⟨c, (mem_counted_iff hids).mpr ⟨hmem, hrest, hserves, .inr hplace⟩, rfl⟩

/-- The accounting is exact, and the order of what arrives does not matter to it. -/
theorem reconcileStandby_exact (policy : StandbyPoolPolicy) (slots : List EngineSlotId)
    (candidates blocked : List EngineIncarnation)
    (readiness : UMap EngineIncarnationId ReadinessOutcome) (active : UInt32)
    (hids : (candidates.map EngineIncarnation.incarnationId).Nodup)
    (hcandidates : candidates.length < 2 ^ 32) :
    let acc := reconcileStandby policy slots candidates blocked readiness active
    let n := (passing candidates readiness).length
    acc.candidates.Pairwise (fun a b => a.raw.toNat < b.raw.toNat) ∧
    (slots ≠ [] →
      (∀ id, id ∈ acc.candidates ↔ ∃ c ∈ passing candidates readiness, c.incarnationId = id ∧
        (passing candidates readiness).countP
          (fun a => decide (a.incarnationId.raw.toNat < id.raw.toNat)) < slots.length) ∧
      acc.candidates.length = min n slots.length ∧
      acc.eligible.toNat = acc.candidates.length ∧
      acc.candidates.length + acc.deferredSlots.length = slots.length) ∧
    (slots = [] → acc.eligible.toNat = n) ∧
    acc.deficit.toNat = policy.targetStandby.toNat - acc.eligible.toNat ∧
    ∀ slots' candidates' blocked', slots.Perm slots' → candidates.Perm candidates' →
      blocked.Perm blocked' →
      let acc' := reconcileStandby policy slots' candidates' blocked' readiness active
      acc'.eligible = acc.eligible ∧ acc'.candidates = acc.candidates ∧ acc'.stale = acc.stale ∧
        acc'.active = acc.active ∧ acc'.deficit = acc.deficit := by
  intro acc n
  have heligible : acc.eligible.toNat = _ := eligible_toNat hcandidates
  have hlength := @length_counted slots candidates readiness
  refine ⟨candidates_sorted hids, fun hsome => ?_, fun hnone => ?_, deficit_toNat, ?_⟩
  · have hlist : acc.candidates.length =
        (countedStandby slots (eligibleStandby candidates readiness)).length := by
      rw [show acc.candidates = _ from candidates_eq hsome, List.length_map]
    rw [if_neg hsome] at hlength
    exact ⟨fun id => mem_candidates_iff hids hsome, hlist.trans hlength,
      heligible.trans hlist.symm, slots_accounted hsome⟩
  · rw [heligible, hlength, if_pos hnone]
  · intro slots' candidates' blocked' hslots' hcandidates' _ acc'
    have heq := @reconcileStandby_perm policy slots candidates blocked readiness active hids slots'
      candidates' blocked' hcandidates' hslots'
    rw [show acc' = _ from heq]
    exact ⟨rfl, rfl, rfl, rfl, rfl⟩

/-- A running, ready incarnation. -/
def warmIncarnation (id : UInt64) : EngineIncarnation :=
  { incarnationId := ⟨id⟩, state := { lifecycle := .running, activation := .inactive } }

/-- Two warm incarnations that arrive in the wrong order, and three slots. -/
theorem reconcileStandby_exact_sample :
    let readiness : UMap EngineIncarnationId ReadinessOutcome :=
      (AList.insert ⟨3⟩ .ready ∅ : UMap EngineIncarnationId ReadinessOutcome).insert ⟨5⟩ .degraded
    let acc := reconcileStandby { targetStandby := 4 } [⟨1⟩, ⟨2⟩, ⟨3⟩]
      [warmIncarnation 5, warmIncarnation 3] [] readiness 1
    acc.candidates = [⟨3⟩, ⟨5⟩] ∧ acc.eligible.toNat = 2 ∧ acc.deferredSlots.length = 1 ∧
      acc.deficit.toNat = 2 := by
  intro readiness acc
  obtain ⟨-, hslots, -, hdeficit, -⟩ := reconcileStandby_exact { targetStandby := 4 }
    [⟨1⟩, ⟨2⟩, ⟨3⟩] [warmIncarnation 5, warmIncarnation 3] [] readiness 1 (by decide) (by decide)
  obtain ⟨-, -, heligible, hsum⟩ := hslots (by decide)
  have hlist : acc.candidates = [⟨3⟩, ⟨5⟩] := by decide +kernel
  have hcount : acc.eligible.toNat = 2 := heligible.trans (congrArg List.length hlist)
  refine ⟨hlist, hcount, ?_, ?_⟩
  · have hsum' : acc.candidates.length + acc.deferredSlots.length = 3 := hsum
    rw [hlist] at hsum'
    exact Nat.add_left_cancel hsum'
  · have hdeficit' : acc.deficit.toNat = 4 - acc.eligible.toNat := hdeficit
    rw [hdeficit', hcount]

end Accounting

end EngineResidency
