-- SUMMARY: Which failed operations leave the runtime as it was.
import EngineResidency.Runtime.ServingUse

/-!
# Failed operations

Most operations check everything before their first write. Six count a generation on
after they have written, and a generation that is exhausted throws there. A drain that is
exhausted has been requested before, so its request has written nothing new; the other
five leave their writes behind, unless these were in place already. `WritesBeforeThrow`
says when that happens, and nothing else stands in the way of a clean failure.
-/

namespace EngineResidency.Runtime

open EStateM

variable {s s' : Impl} {op : Op} {r : Except Err Reply} {id : EngineIncarnationId}

/-- The two states differ at most in the private counters. Tables are compared by what
they hold under each key. -/
structure SameObservable (s s' : Impl) : Prop where
  authority : s'.authority = s.authority
  engines : ∀ k, s'.engines.lookup k = s.engines.lookup k
  profiles : ∀ k, s'.profiles.lookup k = s.profiles.lookup k
  incarnations : ∀ k, s'.incarnations.lookup k = s.incarnations.lookup k
  currentByEngine : ∀ k, s'.currentByEngine.lookup k = s.currentByEngine.lookup k
  evidence : ∀ k, s'.evidence.lookup k = s.evidence.lookup k
  plans : ∀ k, s'.plans.lookup k = s.plans.lookup k
  attempts : ∀ k, s'.attempts.lookup k = s.attempts.lookup k
  activeAttempt : ∀ k, s'.activeAttempt.lookup k = s.activeAttempt.lookup k
  activeUses : ∀ k, s'.activeUses.lookup k = s.activeUses.lookup k
  activeUseCount : s'.activeUseCount = s.activeUseCount
  slots : ∀ k, s'.slots.lookup k = s.slots.lookup k
  activations : ∀ k, s'.activations.lookup k = s.activations.lookup k
  drains : ∀ k, s'.drains.lookup k = s.drains.lookup k
  replacementPlans : ∀ k, s'.replacementPlans.lookup k = s.replacementPlans.lookup k
  permits : ∀ k, s'.permits.lookup k = s.permits.lookup k
  costHistory : s'.costHistory = s.costHistory

theorem SameObservable.refl (s : Impl) : SameObservable s s := by
  constructor <;> intros <;> rfl

/-- If the operation throws a domain error, it leaves the runtime as it was. -/
def FailsCleanly (s : Impl) (op : Op) : Prop :=
  ∀ e, machine.result s op = .error (.domain e) → SameObservable s (machine.next s op)

/-! ## Exhausted generations -/

/-- The generation cannot be counted on. -/
def exhausted {t : GenTag} (g : Generation t) : Prop := ∃ e, g.next = .error e

theorem next_error {t : GenTag} {g : Generation t} {e : Err} (h : g.next = .error e) :
    ∃ d, e = .domain d := by
  unfold Generation.next at h
  split at h
  · cases h
    exact ⟨_, rfl⟩
  · cases h

/-- The writes of the operation come before a throw, and change something. -/
def WritesBeforeThrow (s : Impl) : Op → Prop
  -- The epoch is raised before the authority generation is counted on.
  | .advanceEpoch => ¬ exhausted s.authority.epoch ∧ exhausted s.authority.authority
  -- The configuration is stored before the loop over the incarnations.
  | .updateEngineConfig engineId newGen =>
    (∃ engine, s.engines.lookup engineId = some engine ∧
      newGen.isAtOrBefore engine.configGeneration = false) ∧
    ∃ id i, s.findInc id = some i ∧ i.engineId = engineId ∧ exhausted i.readinessGeneration
  -- The next three write a record before they count its readiness generation on.
  | .revalidate id =>
    ∃ i, s.findInc id = some i ∧ exhausted i.readinessGeneration ∧
      ¬ (revalidated i = i ∧ s.currentByEngine.lookup i.engineId = some i.incarnationId)
  | .invalidateIncarnationComponents id reason =>
    ∃ i, s.findInc id = some i ∧ exhausted i.readinessGeneration ∧
      ¬ (setPreparation .invalidated i = i ∧
        ∀ e ∈ s.evidenceFor id, invalidatedEvidence reason e = e)
  | .completePreparation attemptId now =>
    ∃ a i outcome, s.attempts.lookup attemptId = some a ∧ s.findInc a.incarnationId = some i ∧
      i.isCurrent = true ∧ Completes s a i now outcome ∧ outcome.serves ∧
      exhausted i.readinessGeneration ∧
      ¬ (completedAttempt outcome a = a ∧ setPreparation .prepared i = i)
  | _ => False

/-! ## Clean failures -/

/-- Rewriting a value with itself changes no entry. -/
theorem lookup_modify_of_fixed {K V : Type} [DecidableEq K] {m : UMap K V} {k : K} {v : V}
    {f : V → V} (hv : m.lookup k = some v) (hf : f v = v) (k' : K) :
    (m.modify k f).lookup k' = m.lookup k' := by
  rw [AList.lookup_modify]
  split
  · rename_i hk
    rw [hk, hv, Option.map_some, hf]
  · rfl

theorem sameObservable_reinstate {i : EngineIncarnation} (hi : s.findInc id = some i)
    (hfixed : revalidated i = i)
    (htable : s.currentByEngine.lookup i.engineId = some i.incarnationId) :
    SameObservable s (reinstate id i s) where
  __ := SameObservable.refl s
  incarnations := lookup_modify_of_fixed hi hfixed
  currentByEngine k := by
    simp only [reinstate, AList.lookup_insert']
    split
    · rename_i hk
      rw [hk, htable]
    · rfl

theorem sameObservable_invalidateEvidence {i : EngineIncarnation} {reason : Str}
    (hi : s.findInc id = some i) (hfixed : setPreparation .invalidated i = i)
    (hvoid : ∀ e ∈ s.evidenceFor id, invalidatedEvidence reason e = e) :
    SameObservable s (invalidateEvidence id reason s) where
  __ := SameObservable.refl s
  incarnations := lookup_modify_of_fixed hi hfixed
  evidence k := by
    simp only [invalidateEvidence]
    cases hes : s.evidence.lookup id with
    | none => rw [AList.modify_of_lookup_none hes]
    | some es =>
      refine lookup_modify_of_fixed hes ?_ k
      rw [Impl.evidenceFor, hes] at hvoid
      exact (List.map_congr_left hvoid).trans (List.map_id es)

theorem completedState_of_serves {outcome : ReadinessOutcome} (h : outcome.serves) :
    completedState outcome = .prepared := if_pos h

theorem sameObservable_storeCompletion {i : EngineIncarnation} {a : PreparationAttempt}
    {attemptId : PreparationAttemptId} {outcome : ReadinessOutcome} (hserves : outcome.serves)
    (ha : s.attempts.lookup attemptId = some a) (hi : s.findInc id = some i)
    (hattempt : completedAttempt outcome a = a) (hfixed : setPreparation .prepared i = i) :
    SameObservable s (storeCompletion attemptId id outcome s) where
  __ := SameObservable.refl s
  incarnations := by
    simp only [storeCompletion, completedState_of_serves hserves]
    exact lookup_modify_of_fixed hi hfixed
  attempts := lookup_modify_of_fixed ha hattempt

/-- The generation of a drain that does not exist yet is not exhausted. -/
theorem sameObservable_touchDrain (h : exhausted ((s.drains.lookup id).getD {}).generation) :
    SameObservable s (s.touchDrain id) where
  __ := SameObservable.refl s
  drains k := by
    have hsome : (s.drains.lookup id).isSome = true := by
      cases hd : s.drains.lookup id with
      | some d => rfl
      | none =>
        obtain ⟨e, he⟩ := h
        rw [hd] at he
        cases he
    simp only [Impl.touchDrain, if_pos hsome]

/-- An operation that throws without having written anything new leaves the runtime as it
was. -/
theorem Transition.sameObservable {e : Err} (h : Transition s op (.error e) s')
    (hw : ¬ WritesBeforeThrow s op) (huses : UseBound s) : SameObservable s s' := by
  generalize hr : (Except.error e : Except Err Reply) = r at h
  cases h with
  | refused => exact .refl s
  | defineEngineRefused => exact { SameObservable.refl s with }
  | defineProfileRefused => exact { SameObservable.refl s with }
  | updateEngineConfig _ _ hengine hlater _ _ hstuck =>
    obtain ⟨k, i, hi, howner, hnext⟩ := hstuck e hr.symm
    exact absurd ⟨⟨_, hengine, hlater⟩, k, i, hi, howner, e, hnext⟩ hw
  | revalidateExhausted hinc hgen =>
    by_contra hchanged
    exact hw ⟨_, hinc, ⟨_, hgen⟩, fun hplace =>
      hchanged (sameObservable_reinstate hinc hplace.1 hplace.2)⟩
  | advanceEpochExhausted hepoch hauthority =>
    refine absurd ⟨?_, _, hauthority⟩ hw
    rintro ⟨e', he'⟩
    rw [hepoch] at he'
    cases he'
  | completePreparationExhausted hattempt hinc hcurrent hserves hcompletes hgen =>
    by_contra hchanged
    exact hw ⟨_, _, _, hattempt, hinc, hcurrent, hcompletes, hserves, ⟨_, hgen⟩, fun hplace =>
      hchanged (sameObservable_storeCompletion hserves hattempt hinc hplace.1 hplace.2)⟩
  | releaseServingUseUnderflow huse hopen _ hzero =>
    -- The counter is not below the number of open uses, and one is open.
    have hpos := AList.count_pos_of_lookup (p := unreleased) huse (by simp [unreleased, hopen])
    have hle := huses.count_le
    rw [hzero] at hle
    exact absurd hle (Nat.not_le.mpr hpos)
  | requestDrainExhausted _ hgen => exact sameObservable_touchDrain ⟨_, hgen⟩
  | invalidateExhausted hinc hgen =>
    by_contra hchanged
    exact hw ⟨_, hinc, ⟨_, hgen⟩, fun hplace =>
      hchanged (sameObservable_invalidateEvidence hinc hplace.1 hplace.2)⟩
  | _ => cases hr

/-! ## Failures that leave writes behind -/

/-- What a clean failure says of an operation that is known to throw in a state. -/
theorem FailsCleanly.sameObservable {t : Impl} (h : FailsCleanly s op)
    (hwp : wp (step op) (fun r s' => (∃ d, r = .error (.domain d)) ∧ s' = t) s) :
    SameObservable s t := by
  obtain ⟨⟨d, hd⟩, ht⟩ := wp_iff.mp hwp
  rw [← ht]
  exact h d hd

/-- Counting an exhausted generation on throws a domain error on the spot. -/
theorem wp_exhausted {t : GenTag} {g : Generation t} {A : Type} {k : Generation t → Rt A}
    {Q : Except Err A → Impl → Prop} (hg : exhausted g) (hQ : ∀ d, Q (.error (.domain d)) s) :
    wp (unwrap g.next >>= k) Q s := by
  obtain ⟨e, he⟩ := hg
  refine wp_unwrap (fun e' he' => ?_) fun g' hok => ?_
  · obtain ⟨d, rfl⟩ := next_error he'
    exact hQ d
  · rw [he] at hok
    cases hok

theorem not_failsCleanly_advanceEpoch (h : WritesBeforeThrow s .advanceEpoch) :
    ¬ FailsCleanly s .advanceEpoch := by
  intro hclean
  obtain ⟨hopen, hauthority⟩ := h
  cases hepoch : s.authority.epoch.next with
  | error e' => exact hopen ⟨e', hepoch⟩
  | ok epoch =>
    have hsame : SameObservable s (setEpoch epoch s) := by
      refine hclean.sameObservable (wp_map (wp_get ?_))
      refine wp_unwrap (fun e' he' => ?_) fun epoch' hepoch' => ?_
      · rw [hepoch] at he'
        cases he'
      · cases hepoch.symm.trans hepoch'
        exact wp_modify (wp_exhausted hauthority fun d => ⟨⟨d, rfl⟩, rfl⟩)
    -- A generation that was counted on is not the one from before.
    have hfixed : epoch = s.authority.epoch := congrArg AuthorityState.epoch hsame.authority
    have hnext := Generation.next_ok hepoch
    rw [hfixed] at hnext
    omega

theorem not_failsCleanly_revalidate (h : WritesBeforeThrow s (.revalidate id)) :
    ¬ FailsCleanly s (.revalidate id) := by
  intro hclean
  obtain ⟨i, hi, hgen, hchanged⟩ := h
  have hsame : SameObservable s (reinstate id i s) := by
    refine hclean.sameObservable (wp_map (wp_get (wp_found_of_eq hi ?_)))
    exact wp_modify (wp_exhausted hgen fun d => ⟨⟨d, rfl⟩, rfl⟩)
  refine hchanged ⟨?_, ?_⟩
  · have hinc := hsame.incarnations id
    simp only [reinstate, Impl.modifyInc, AList.lookup_modify_self] at hinc
    rw [Impl.findInc] at hi
    rw [hi] at hinc
    exact Option.some.inj hinc
  · have htable := hsame.currentByEngine i.engineId
    simp only [reinstate, AList.lookup_insert] at htable
    exact htable.symm

theorem not_failsCleanly_invalidate {reason : Str}
    (h : WritesBeforeThrow s (.invalidateIncarnationComponents id reason)) :
    ¬ FailsCleanly s (.invalidateIncarnationComponents id reason) := by
  intro hclean
  obtain ⟨i, hi, hgen, hchanged⟩ := h
  have hsame : SameObservable s (invalidateEvidence id reason s) := by
    refine hclean.sameObservable (wp_map (wp_get (wp_found_of_eq hi ?_)))
    exact wp_modify (wp_exhausted hgen fun d => ⟨⟨d, rfl⟩, rfl⟩)
  refine hchanged ⟨?_, fun x hx => ?_⟩
  · have hinc := hsame.incarnations id
    simp only [invalidateEvidence, Impl.modifyInc, AList.lookup_modify_self] at hinc
    rw [Impl.findInc] at hi
    rw [hi] at hinc
    exact Option.some.inj hinc
  · have hevidence := hsame.evidence id
    simp only [invalidateEvidence, AList.lookup_modify_self] at hevidence
    rw [Impl.evidenceFor] at hx
    cases hes : s.evidence.lookup id with
    | none => simp [hes] at hx
    | some es =>
      rw [hes, Option.map_some, Option.some.injEq] at hevidence
      rw [hes, Option.getD_some] at hx
      exact List.map_inj_left.mp (hevidence.trans (List.map_id es).symm) x hx

theorem not_failsCleanly_completePreparation {attemptId : PreparationAttemptId} {now : DurationNs}
    (h : WritesBeforeThrow s (.completePreparation attemptId now)) :
    ¬ FailsCleanly s (.completePreparation attemptId now) := by
  intro hclean
  obtain ⟨a, i, outcome, ha, hi, hcurrent, hcompletes, hserves, hgen, hchanged⟩ := h
  obtain ⟨profile, engine, hprofile, hengine, rfl⟩ := hcompletes.evaluated
  have hsame : SameObservable s (storeCompletion attemptId a.incarnationId
      (EngineResidency.evaluateReadiness engine profile i (s.evidenceFor a.incarnationId)
        now).outcome s) := by
    -- All checks pass, so the writes are made before the generation is counted on.
    refine hclean.sameObservable (wp_map (wp_get (wp_found_of_eq ha ?_)))
    refine wp_passes (by simp [hcompletes.live]) ?_
    refine wp_passes (not_not_intro hcompletes.epoch) ?_
    refine wp_passes (not_not_intro hcompletes.authority) ?_
    refine wp_found_of_eq hi ?_
    refine wp_passes (by simp [hcurrent]) ?_
    refine wp_found_of_eq hprofile (wp_found_of_eq hengine ?_)
    refine wp_modify (wp_ite (fun _ => ?_) fun hnot => absurd hserves hnot)
    exact wp_exhausted hgen fun d => ⟨⟨d, rfl⟩, rfl⟩
  refine hchanged ⟨?_, ?_⟩
  · have hattempt := hsame.attempts attemptId
    simp only [storeCompletion, Impl.modifyInc, Impl.modifyAttempt, AList.lookup_modify_self,
      ha] at hattempt
    exact Option.some.inj hattempt
  · have hinc := hsame.incarnations a.incarnationId
    rw [Impl.findInc] at hi
    simp only [storeCompletion, completedState_of_serves hserves, Impl.modifyInc,
      Impl.modifyAttempt, AList.lookup_modify_self, hi] at hinc
    exact Option.some.inj hinc

/-- Once its checks have passed, a configuration change has been stored, however its loop
ends. -/
theorem updateEngineConfig_stores {engineId : EngineId} {newGen : EngineConfigGeneration}
    {engine : EngineDefinition} (hengine : s.engines.lookup engineId = some engine)
    (hlater : newGen.isAtOrBefore engine.configGeneration = false) :
    wp (step (.updateEngineConfig engineId newGen)) (fun r s' =>
      s'.engines = (storeConfig engineId newGen s).engines ∧
        ∀ e, r = .error e → ∃ d, e = .domain d) s := by
  refine wp_map (wp_get (wp_found_of_eq hengine ?_))
  refine wp_passes (by simp [hlater]) ?_
  refine wp_modify (wp_forM (I := fun _ t => t.engines = (storeConfig engineId newGen s).engines)
    rfl (fun pre id post _ t ht => ?_) fun t ht => wp_pure ⟨ht, nofun⟩)
  refine wp_get ?_
  cases t.findInc id with
  | none => exact wp_pure ht
  | some i =>
    refine wp_ite (fun _ => ?_) fun _ => wp_pure ht
    refine wp_modify (wp_unwrap (fun e he => ⟨ht, fun e' he' => ?_⟩) fun _ _ => ht)
    cases he'
    exact next_error he

theorem not_failsCleanly_updateEngineConfig {engineId : EngineId} {newGen : EngineConfigGeneration}
    (h : WritesBeforeThrow s (.updateEngineConfig engineId newGen)) :
    ¬ FailsCleanly s (.updateEngineConfig engineId newGen) := by
  intro hclean
  obtain ⟨⟨engine, hengine, hlater⟩, id, i, hi, howner, e, hgen⟩ := h
  obtain ⟨hstored, hdomain⟩ := wp_iff.mp (updateEngineConfig_stores hengine hlater)
  -- A loop that ends well has counted on the generation of every incarnation of the engine.
  have hthrows : ∃ e, machine.result s (.updateEngineConfig engineId newGen) = .error e := by
    have hstep := step_transition s (.updateEngineConfig engineId newGen)
    generalize machine.result s (.updateEngineConfig engineId newGen) = r at hstep ⊢
    generalize machine.next s (.updateEngineConfig engineId newGen) = s' at hstep
    cases hstep with
    | refused => exact ⟨_, rfl⟩
    | updateEngineConfig hr _ _ _ _ hdone =>
      rcases hr with rfl | hr
      · have hok := hdone rfl id i hi howner
        rw [hgen] at hok
        cases hok
      · exact hr
  obtain ⟨e', he'⟩ := hthrows
  obtain ⟨d, rfl⟩ := hdomain e' he'
  have hsame := (hclean d he').engines engineId
  have hnext : (machine.next s (.updateEngineConfig engineId newGen)).engines =
      (storeConfig engineId newGen s).engines := hstored
  rw [hnext, storeConfig, AList.lookup_modify_self, hengine, Option.map_some,
    Option.some.injEq] at hsame
  have hfixed : newGen = engine.configGeneration := congrArg EngineDefinition.configGeneration hsame
  rw [hfixed] at hlater
  simp [Generation.isAtOrBefore] at hlater

/-- In every reachable state, an operation fails cleanly exactly when it writes nothing
new before it throws. -/
theorem fails_cleanly_iff (opts : RuntimeOptions) (ops : List Op) (op : Op) :
    FailsCleanly (machine.exec (Impl.new opts) ops) op ↔
      ¬ WritesBeforeThrow (machine.exec (Impl.new opts) ops) op := by
  have huses : UseBound (machine.exec (Impl.new opts) ops) :=
    Machine.exec_always (useBound_new opts) (fun s op hs => (step_transition s op).useBound hs) ops
  generalize machine.exec (Impl.new opts) ops = s at huses ⊢
  constructor
  · intro hclean hwrites
    cases op with
    | updateEngineConfig => exact not_failsCleanly_updateEngineConfig hwrites hclean
    | revalidate => exact not_failsCleanly_revalidate hwrites hclean
    | advanceEpoch => exact not_failsCleanly_advanceEpoch hwrites hclean
    | completePreparation => exact not_failsCleanly_completePreparation hwrites hclean
    | invalidateIncarnationComponents => exact not_failsCleanly_invalidate hwrites hclean
    | _ => exact hwrites
  · intro hw d hd
    have hstep := step_transition s op
    rw [hd] at hstep
    exact hstep.sameObservable hw huses

/-- A saved state whose authority and whose one incarnation have come to the end of their
generations. -/
def sampleExhausted : PersistentState :=
  { coordinatorEpoch := 1
    authorityGeneration := 0xFFFFFFFFFFFFFFFF
    engines := [{ engineId := ⟨1⟩, configGeneration := ⟨1⟩ }]
    incarnations :=
      [{ incarnationId := ⟨2⟩, engineId := ⟨1⟩, readinessGeneration := ⟨0xFFFFFFFFFFFFFFFF⟩ }] }

def sampleExhaustedBlob : Str :=
  match Persistence.serializePersistentState sampleExhausted with
  | .ok blob => blob
  | .error _ => []

/-- After a recovery from it, an epoch change, a configuration change, a revalidation and
an invalidation throw and leave what they have written behind. -/
theorem failure_leaves_writes :
    ¬ FailsCleanly (machine.exec (Impl.new {}) [.load sampleExhaustedBlob]) .advanceEpoch ∧
    ¬ FailsCleanly (machine.exec (Impl.new {}) [.load sampleExhaustedBlob])
      (.updateEngineConfig ⟨1⟩ ⟨2⟩) ∧
    ¬ FailsCleanly (machine.exec (Impl.new {}) [.load sampleExhaustedBlob]) (.revalidate ⟨2⟩) ∧
    ¬ FailsCleanly (machine.exec (Impl.new {}) [.load sampleExhaustedBlob])
      (.invalidateIncarnationComponents ⟨2⟩ []) := by
  have hauthority : (machine.exec (Impl.new {}) [.load sampleExhaustedBlob]).authority =
      { epoch := ⟨1⟩, authority := ⟨0xFFFFFFFFFFFFFFFF⟩ } := by decide +kernel
  have hengine : ((machine.exec (Impl.new {}) [.load sampleExhaustedBlob]).engines.lookup
      ⟨1⟩).any (fun e => e.configGeneration == ⟨1⟩) = true := by decide +kernel
  have hinc : ((machine.exec (Impl.new {}) [.load sampleExhaustedBlob]).findInc ⟨2⟩).any
      (fun i => i.engineId == ⟨1⟩ && i.readinessGeneration == ⟨0xFFFFFFFFFFFFFFFF⟩ &&
        !i.isCurrent && i.state.preparation == .revalidationRequired) = true := by decide +kernel
  generalize machine.exec (Impl.new {}) [.load sampleExhaustedBlob] = s at hauthority hengine hinc ⊢
  obtain ⟨engine, hengine, hconfig⟩ := (Option.any_eq_true _ _).mp hengine
  obtain ⟨i, hi, hfields⟩ := (Option.any_eq_true _ _).mp hinc
  simp only [Bool.and_eq_true, beq_iff_eq, Bool.not_eq_true'] at hconfig hfields
  obtain ⟨⟨⟨howner, hgen⟩, hcurrent⟩, hpreparation⟩ := hfields
  have hstuck : exhausted i.readinessGeneration := by
    rw [hgen]
    exact ⟨_, rfl⟩
  refine ⟨not_failsCleanly_advanceEpoch ⟨?_, ?_⟩,
    not_failsCleanly_updateEngineConfig ⟨⟨engine, hengine, ?_⟩, _, i, hi, howner, hstuck⟩,
    not_failsCleanly_revalidate ⟨i, hi, hstuck, ?_⟩,
    not_failsCleanly_invalidate ⟨i, hi, hstuck, ?_⟩⟩
  · rintro ⟨e, he⟩
    rw [hauthority] at he
    cases he
  · rw [hauthority]
    exact ⟨_, rfl⟩
  · rw [hconfig]
    rfl
  · rintro ⟨hfixed, -⟩
    have hcurrent' : true = i.isCurrent := congrArg EngineIncarnation.isCurrent hfixed
    rw [hcurrent] at hcurrent'
    cases hcurrent'
  · rintro ⟨hfixed, -⟩
    have hpreparation' : .invalidated = i.state.preparation :=
      congrArg (fun i => i.state.preparation) hfixed
    rw [hpreparation] at hpreparation'
    cases hpreparation'

end EngineResidency.Runtime
