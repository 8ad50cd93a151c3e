-- SUMMARY: When an attempt that is finished stays as it is.
import EngineResidency.Runtime.Atomicity

/-!
# Finished attempts

An attempt is over once it has been cancelled, has failed or has published READY. The
three are kept in three fields, and each operation on an attempt asks another one of
them: a step and a completion ask whether it has been cancelled, a cancellation asks
whether it has published, and a rollback asks nothing. So an attempt that has been
rolled back can be completed, and a published one can be completed again.
`KeepsFinished` is the check these operations leave out.
-/

namespace EngineResidency

/-- The attempt has been cancelled, has failed or has published READY. -/
def PreparationAttempt.Finished (a : PreparationAttempt) : Prop :=
  a.cancelled = true ∨ a.state = .failed ∨ a.publishedReady = true

namespace Runtime

open EStateM

variable {s s' : Impl} {op : Op} {r : Except Err Reply} {x : PreparationAttemptId}
  {a : PreparationAttempt} {plan : PreparationPlan} {now : DurationNs}
  {inc : EngineIncarnation} {outcome : ReadinessOutcome}

/-! ## Operations that pass their checks -/

/-- The checks of the begin of an attempt. -/
structure Begins (s : Impl) (plan : PreparationPlan) : Prop where
  planned : ∃ stored, s.plans.lookup plan.planId = some stored ∧ stored.epoch = s.authority.epoch
  current : ∃ inc, s.findInc plan.incarnationId = some inc ∧ inc.isCurrent = true
  free : s.activeAttempt.lookup plan.incarnationId = none
  room : s.activeAttempt.size < s.opts.maxPendingPreparationAttempts.toNat

/-- The checks of a step of an attempt. -/
structure Steps (s : Impl) (a : PreparationAttempt) (plan : PreparationPlan) : Prop where
  live : a.cancelled = false
  epoch : a.epoch = s.authority.epoch
  planned : s.plans.lookup a.planId = some plan

/-- The checks of the completion of the attempt `x`, and what it reads. -/
structure Finishes (s : Impl) (x : PreparationAttemptId) (now : DurationNs)
    (a : PreparationAttempt) (inc : EngineIncarnation) (outcome : ReadinessOutcome) : Prop where
  attempt : s.attempts.lookup x = some a
  found : s.findInc a.incarnationId = some inc
  current : inc.isCurrent = true
  completes : Completes s a inc now outcome

theorem beginPreparation_next (h : Begins s plan) :
    machine.next s (.beginPreparation plan) = storeAttempt (nextAttempt s plan) s := by
  obtain ⟨stored, hstored, hepoch⟩ := h.planned
  obtain ⟨inc, hinc, hcurrent⟩ := h.current
  have hwp : wp (step (.beginPreparation plan)) (fun _ s' =>
      s' = storeAttempt (nextAttempt s plan) s) s := by
    refine wp_map (wp_get (wp_found_of_eq hstored ?_))
    refine wp_passes (not_not_intro hepoch) (wp_found_of_eq hinc ?_)
    refine wp_passes (by simp [hcurrent]) (wp_passes (by simp [h.free]) ?_)
    exact wp_passes (Nat.not_le.mpr h.room) (wp_modify (wp_pure rfl))
  exact wp_iff.mp hwp

theorem stepPreparation_next (ha : s.attempts.lookup x = some a) (h : Steps s a plan) :
    machine.next s (.stepPreparation x) = s.modifyAttempt x (advanceAttempt plan) := by
  have hwp : wp (step (.stepPreparation x)) (fun _ s' =>
      s' = s.modifyAttempt x (advanceAttempt plan)) s := by
    refine wp_map (wp_get (wp_found_of_eq ha ?_))
    refine wp_passes (by simp [h.live]) (wp_passes (not_not_intro h.epoch) ?_)
    exact wp_found_of_eq h.planned (wp_modify (wp_pure rfl))
  exact wp_iff.mp hwp

/-- The state that a completion leaves behind, whether it returns or throws. -/
def completed (x : PreparationAttemptId) (incId : EngineIncarnationId) (inc : EngineIncarnation)
    (outcome : ReadinessOutcome) (s : Impl) : Impl :=
  if outcome.serves then
    match inc.readinessGeneration.next with
    | .error _ => storeCompletion x incId outcome s
    | .ok gen =>
      endAttempt incId ((storeCompletion x incId outcome s).modifyInc incId (publishReadiness gen))
  else endAttempt incId (storeCompletion x incId outcome s)

theorem completePreparation_next (h : Finishes s x now a inc outcome) :
    machine.next s (.completePreparation x now) = completed x a.incarnationId inc outcome s := by
  have hcompletes := h.completes
  obtain ⟨profile, engine, hprofile, hengine, rfl⟩ := hcompletes.evaluated
  have hwp : wp (step (.completePreparation x now)) (fun _ s' =>
      s' = completed x a.incarnationId inc (EngineResidency.evaluateReadiness engine profile inc
        (s.evidenceFor a.incarnationId) now).outcome s) s := by
    refine wp_map (wp_get (wp_found_of_eq h.attempt ?_))
    refine wp_passes (by simp [hcompletes.live]) ?_
    refine wp_passes (not_not_intro hcompletes.epoch) ?_
    refine wp_passes (not_not_intro hcompletes.authority) (wp_found_of_eq h.found ?_)
    refine wp_passes (by simp [h.current]) (wp_found_of_eq hprofile (wp_found_of_eq hengine ?_))
    refine wp_modify (wp_ite (fun hserves => ?_) fun hserves => ?_)
    · refine wp_unwrap (fun e hgen => ?_) fun gen hgen => ?_
      · rw [completed, if_pos hserves, hgen]
      · refine wp_modify (wp_modify (wp_pure ?_))
        rw [completed, if_pos hserves, hgen]
    · refine wp_modify (wp_pure ?_)
      rw [completed, if_neg hserves]
  exact wp_iff.mp hwp

theorem cancelPreparation_next (ha : s.attempts.lookup x = some a)
    (hopen : a.publishedReady = false) :
    machine.next s (.cancelPreparation x) =
      endAttempt a.incarnationId (s.modifyAttempt x cancelled) := by
  have hwp : wp (step (.cancelPreparation x)) (fun _ s' =>
      s' = endAttempt a.incarnationId (s.modifyAttempt x cancelled)) s := by
    refine wp_map (wp_get (wp_found_of_eq ha ?_))
    exact wp_passes (by simp [hopen]) (wp_modify (wp_pure rfl))
  exact wp_iff.mp hwp

theorem rollbackPreparation_next (ha : s.attempts.lookup x = some a) :
    machine.next s (.rollbackPreparation x) =
      endAttempt a.incarnationId (s.modifyAttempt x rolledBack) := by
  have hwp : wp (step (.rollbackPreparation x)) (fun _ s' =>
      s' = endAttempt a.incarnationId (s.modifyAttempt x rolledBack)) s := by
    refine wp_map (wp_get (wp_found_of_eq ha ?_))
    exact wp_modify (wp_pure rfl)
  exact wp_iff.mp hwp

/-! ## What an operation does to the attempts -/

/-- The attempt that an operation acts for. -/
def Op.attempt : Op → Option PreparationAttemptId
  | .stepPreparation x | .completePreparation x _ | .cancelPreparation x | .rollbackPreparation x =>
    some x
  | _ => none

/-- What an operation does to the plans, the attempts and the table of active attempts. -/
inductive AttemptStep (s : Impl) : Op → Impl → Prop
  | refused {op : Op} : AttemptStep s op s
  | other {op : Op} {s' : Impl} (hop : op.attempt = none) (hattempts : s'.attempts = s.attempts)
    (hactive : s'.activeAttempt = s.activeAttempt) (hplans : s'.plans = s.plans) :
    AttemptStep s op s'
  | planned {incId : EngineIncarnationId} {profId : ReadinessProfileId}
    {target : DesiredResidency} {now : DurationNs} {plan : PreparationPlan}
    (hplan : plan.planId = ⟨s.idPlan + 1 + 1⟩)
    (hroom : s.plans.size < s.opts.maxPendingPreparationAttempts.toNat) :
    AttemptStep s (.createPreparationPlan incId profId target now) (storePlan plan s)
  | begun {plan : PreparationPlan} (h : Begins s plan) :
    AttemptStep s (.beginPreparation plan) (storeAttempt (nextAttempt s plan) s)
  | stepped {x : PreparationAttemptId} {a : PreparationAttempt} {plan : PreparationPlan}
    (ha : s.attempts.lookup x = some a) (h : Steps s a plan) :
    AttemptStep s (.stepPreparation x) (s.modifyAttempt x (advanceAttempt plan))
  | completed {x : PreparationAttemptId} {now : DurationNs} {a : PreparationAttempt}
    {inc : EngineIncarnation} {outcome : ReadinessOutcome} (h : Finishes s x now a inc outcome) :
    AttemptStep s (.completePreparation x now) (completed x a.incarnationId inc outcome s)
  | cancelled {x : PreparationAttemptId} {a : PreparationAttempt}
    (ha : s.attempts.lookup x = some a) (hopen : a.publishedReady = false) :
    AttemptStep s (.cancelPreparation x)
      (endAttempt a.incarnationId (s.modifyAttempt x Runtime.cancelled))
  | rolledBack {x : PreparationAttemptId} {a : PreparationAttempt}
    (ha : s.attempts.lookup x = some a) :
    AttemptStep s (.rollbackPreparation x)
      (endAttempt a.incarnationId (s.modifyAttempt x Runtime.rolledBack))

theorem Transition.attemptStep (h : Transition s op r s') : AttemptStep s op s' := by
  cases h with
  | refused => exact .refused
  | @createPreparationPlan incId profId target now inc profile engine plan hinc hcurrent hprofile
      hroom hengine hplan =>
    subst hplan
    exact .planned rfl hroom
  | @beginPreparation plan stored inc hplan hepoch hinc hcurrent hfree hroom =>
    exact .begun ⟨⟨stored, hplan, hepoch⟩, ⟨inc, hinc, hcurrent⟩, hfree, hroom⟩
  | stepPreparation hattempt hlive hepoch hplan =>
    exact .stepped hattempt ⟨hlive, hepoch, hplan⟩
  | @completePreparationExhausted x now a inc outcome e hattempt hinc hcurrent hserves hcompletes
      hgen =>
    have h := AttemptStep.completed ⟨hattempt, hinc, hcurrent, hcompletes⟩
    rwa [completed, if_pos hserves, hgen] at h
  | @completePreparation x now a inc outcome gen hattempt hlive hepoch hauthority hinc hcurrent
      hserves hgen hcompletes =>
    have h := AttemptStep.completed ⟨hattempt, hinc, hcurrent, hcompletes⟩
    rwa [completed, if_pos hserves, hgen] at h
  | @completePreparationFailed x now a inc outcome hattempt hlive hinc hcurrent hserves
      hcompletes =>
    have h := AttemptStep.completed ⟨hattempt, hinc, hcurrent, hcompletes⟩
    rwa [completed, if_neg hserves] at h
  | cancelPreparation hattempt hopen => exact .cancelled hattempt hopen
  | rollbackPreparation hattempt => exact .rolledBack hattempt
  | _ => exact .other rfl rfl rfl rfl

theorem attemptStep (s : Impl) (op : Op) : AttemptStep s op (machine.next s op) :=
  (step_transition s op).attemptStep

section Completed

variable {incId : EngineIncarnationId}

theorem completed_attempts : (completed x incId inc outcome s).attempts =
    s.attempts.modify x (completedAttempt outcome) := by
  unfold completed
  split
  · split <;> rfl
  · rfl

theorem completed_plans : (completed x incId inc outcome s).plans = s.plans := by
  unfold completed
  split
  · split <;> rfl
  · rfl

/-- What a completion leaves of the incarnation. -/
def completedInc (outcome : ReadinessOutcome) (inc : EngineIncarnation) : EngineIncarnation :=
  if outcome.serves then
    match inc.readinessGeneration.next with
    | .error _ => setPreparation .prepared inc
    | .ok gen => publishReadiness gen (setPreparation .prepared inc)
  else setPreparation .failed inc

theorem completed_findInc (hinc : s.findInc incId = some inc) :
    (completed x incId inc outcome s).findInc incId = some (completedInc outcome inc) := by
  rw [Impl.findInc] at hinc ⊢
  unfold completed completedInc
  by_cases hserves : outcome.serves
  · simp only [hserves, if_true]
    split
    · simp [storeCompletion, completedState, hserves, Impl.modifyInc, Impl.modifyAttempt, hinc]
    · simp [endAttempt, storeCompletion, completedState, hserves, Impl.modifyInc,
        Impl.modifyAttempt, hinc]
  · simp [hserves, endAttempt, storeCompletion, completedState, Impl.modifyInc,
      Impl.modifyAttempt, hinc]

end Completed

/-- The attempt that an operation ends. -/
def Op.ends : Op → Option PreparationAttemptId
  | .completePreparation x _ | .cancelPreparation x | .rollbackPreparation x => some x
  | _ => none

theorem finished_completedAttempt : (completedAttempt outcome a).Finished := by
  unfold completedAttempt
  split
  · exact .inr (.inr rfl)
  · exact .inr (.inl rfl)

/-- A completion, a cancellation and a rollback that return leave a finished attempt. -/
theorem finished_of_ends {reply : Reply} (hop : op.ends = some x)
    (hok : machine.result s op = .ok reply) :
    ∃ a, (machine.next s op).attempts.lookup x = some a ∧ a.Finished := by
  have h := step_transition s op
  rw [hok] at h
  generalize machine.next s op = s' at h
  cases h with
  | @completePreparation _ _ a _ outcome _ hattempt =>
    cases hop
    refine ⟨completedAttempt outcome a, ?_, finished_completedAttempt⟩
    simp [endAttempt, storeCompletion, Impl.modifyInc, Impl.modifyAttempt, hattempt]
  | @completePreparationFailed _ _ a _ outcome hattempt =>
    cases hop
    refine ⟨completedAttempt outcome a, ?_, finished_completedAttempt⟩
    simp [endAttempt, storeCompletion, Impl.modifyInc, Impl.modifyAttempt, hattempt]
  | @cancelPreparation _ a hattempt =>
    cases hop
    refine ⟨cancelled a, ?_, .inl rfl⟩
    simp [endAttempt, Impl.modifyAttempt, hattempt]
  | @rollbackPreparation _ a hattempt =>
    cases hop
    refine ⟨rolledBack a, ?_, .inr (.inl rfl)⟩
    simp [endAttempt, Impl.modifyAttempt, hattempt]
  | _ => cases hop

/-! ## Finished attempts are left alone -/

/-- The end of an attempt. -/
structure Ending where
  attemptId : PreparationAttemptId
  state : PreparationState
  publishedReady : Bool
  incarnationId : EngineIncarnationId

/-- The attempt is finished and has come to this end. -/
structure EndsAs (e : Ending) (a : PreparationAttempt) : Prop where
  finished : a.Finished
  state : a.state = e.state
  publishedReady : a.publishedReady = e.publishedReady
  incarnationId : a.incarnationId = e.incarnationId

/-- The attempt of `e` has come to its end. -/
def Ended (e : Ending) (s : Impl) : Prop :=
  ∃ a, s.attempts.lookup e.attemptId = some a ∧ EndsAs e a

/-- The readiness generation and the preparation state of an incarnation are the same. -/
def SameReadiness (id : EngineIncarnationId) (s s' : Impl) : Prop :=
  (s'.findInc id).map (fun i => (i.readinessGeneration, i.state.preparation)) =
    (s.findInc id).map fun i => (i.readinessGeneration, i.state.preparation)

/-- If the operation acts for the attempt of `e`, it leaves the readiness of its incarnation
alone. -/
def SparesIncarnation (e : Ending) (s : Impl) (op : Op) (s' : Impl) : Prop :=
  op.attempt = some e.attemptId → SameReadiness e.incarnationId s s'

/-- Once an attempt of the run is finished, no later operation sets its flag or changes its
state, and none that acts for it touches the readiness of its incarnation. -/
def FinishedAreTerminal (s : Impl) (ops : List Op) : Prop :=
  ∀ e, machine.Terminal (Ended e)
    (fun s op => SparesIncarnation e s op (machine.next s op)) s ops

/-- What the completion of a finished attempt writes is there already. -/
def CompletesAgain (outcome : ReadinessOutcome) (a : PreparationAttempt) (inc : EngineIncarnation) :
    Prop :=
  if outcome.serves then
    a.state = .prepared ∧ a.publishedReady = true ∧ inc.state.preparation = .prepared ∧
      exhausted inc.readinessGeneration
  else a.state = .failed ∧ inc.state.preparation = .failed

/-- An attempt that begins takes the identity of no finished one. A finished attempt is not
completed, not rolled back unless it has failed, and not stepped to the end of its plan. -/
def KeepsFinished (s : Impl) : Op → Prop
  | .beginPreparation plan => Begins s plan → ∀ a,
    s.attempts.lookup (nextAttempt s plan).attemptId = some a → ¬ a.Finished
  | .stepPreparation x => ∀ a plan, s.attempts.lookup x = some a → Steps s a plan → a.Finished →
    a.state = .preparing ∨ a.nextStepIndex + 1 < plan.steps.length
  | .completePreparation x now => ∀ a inc outcome, Finishes s x now a inc outcome → a.Finished →
    CompletesAgain outcome a inc
  | .rollbackPreparation x => ∀ a, s.attempts.lookup x = some a → a.Finished → a.state = .failed
  | _ => True

/-! ## One step -/

theorem advanceAttempt_state : (advanceAttempt plan a).state =
    if plan.steps.length ≤ a.nextStepIndex + 1 then .preparing else a.state := by
  unfold advanceAttempt
  cases hstep : plan.steps[a.nextStepIndex]? with
  | none =>
    have hdone : plan.steps.length ≤ a.nextStepIndex := List.getElem?_eq_none_iff.mp hstep
    simp [hdone, Nat.le_succ_of_le hdone]
  | some step =>
    by_cases hlast : plan.steps.length ≤ a.nextStepIndex + 1
    · simp [hlast]
    · simp [hlast]

/-- A step writes no field but the state, the index and the descriptions. -/
theorem advanceAttempt_eq (plan : PreparationPlan) (a : PreparationAttempt) :
    ∃ n descriptions, advanceAttempt plan a =
    { a with
      state := (advanceAttempt plan a).state
      nextStepIndex := n
      completedSteps := descriptions } := by
  unfold advanceAttempt
  cases plan.steps[a.nextStepIndex]? with
  | none =>
    dsimp only
    split <;> exact ⟨_, _, rfl⟩
  | some step =>
    dsimp only
    split <;> exact ⟨_, _, rfl⟩

/-- A cancelled attempt has failed. -/
def CancelledFailed (s : Impl) : Prop :=
  s.attempts.All fun a => a.cancelled = true → a.state = .failed

theorem cancelledFailed_new (opts : RuntimeOptions) : CancelledFailed (Impl.new opts) := .empty

theorem AttemptStep.cancelledFailed (h : AttemptStep s op s') (hs : CancelledFailed s) :
    CancelledFailed s' := by
  unfold CancelledFailed at hs ⊢
  cases h with
  | refused | planned => exact hs
  | other _ hattempts =>
    rw [hattempts]
    exact hs
  | begun => exact hs.insert nofun
  | stepped ha hsteps =>
    -- Only an attempt that has not been cancelled is stepped.
    refine hs.modify_of_lookup ha fun hcancelled => ?_
    obtain ⟨n, descriptions, heq⟩ := advanceAttempt_eq _ _
    rw [heq] at hcancelled
    exact absurd hcancelled (by simp [hsteps.live])
  | completed h =>
    rw [completed_attempts]
    refine hs.modify_of_lookup h.attempt fun hcancelled => ?_
    unfold completedAttempt at hcancelled
    split at hcancelled <;> exact absurd hcancelled (by simp [h.completes.live])
  | cancelled ha => exact hs.modify_of_lookup ha fun _ => rfl
  | rolledBack ha => exact hs.modify_of_lookup ha fun _ => rfl

theorem EndsAs.completedAttempt {e : Ending} (h : EndsAs e a)
    (hagain : CompletesAgain outcome a inc) : EndsAs e (completedAttempt outcome a) := by
  unfold CompletesAgain at hagain
  unfold Runtime.completedAttempt
  by_cases hserves : outcome.serves
  · rw [if_pos hserves] at hagain ⊢
    obtain ⟨hstate, hready, -, -⟩ := hagain
    exact ⟨.inr (.inr rfl), hstate.symm.trans h.state, hready.symm.trans h.publishedReady,
      h.incarnationId⟩
  · rw [if_neg hserves] at hagain ⊢
    exact ⟨.inr (.inl rfl), hagain.1.symm.trans h.state, h.publishedReady, h.incarnationId⟩

theorem EndsAs.advanceAttempt {e : Ending} (h : EndsAs e a)
    (hplan : a.state = .preparing ∨ a.nextStepIndex + 1 < plan.steps.length) :
    EndsAs e (advanceAttempt plan a) := by
  have hstate : (Runtime.advanceAttempt plan a).state = a.state := by
    rw [advanceAttempt_state]
    rcases hplan with hstate | hmore
    · rw [hstate, ite_self]
    · rw [if_neg (Nat.not_le.mpr hmore)]
  obtain ⟨n, descriptions, heq⟩ := advanceAttempt_eq plan a
  rw [heq, hstate]
  exact ⟨h.finished, h.state, h.publishedReady, h.incarnationId⟩

/-- Rewriting the record of one attempt. -/
theorem Ended.modify {e : Ending} {f : PreparationAttempt → PreparationAttempt} (h : Ended e s)
    (hattempts : s'.attempts = s.attempts.modify x f)
    (hf : ∀ a, s.attempts.lookup x = some a → EndsAs e a → EndsAs e (f a)) : Ended e s' := by
  obtain ⟨a, ha, hends⟩ := h
  unfold Ended
  by_cases hx : e.attemptId = x
  · rw [hx] at ha
    rw [hattempts, hx, AList.lookup_modify_self, ha]
    exact ⟨f a, rfl, hf a ha hends⟩
  · rw [hattempts, AList.lookup_modify_ne _ _ hx]
    exact ⟨a, ha, hends⟩

/-- The step leaves every finished attempt, and its incarnation, alone. -/
def LeavesFinished (s : Impl) (op : Op) (s' : Impl) : Prop :=
  ∀ e, Ended e s → SparesIncarnation e s op s' ∧ Ended e s'

/-- The completion of an attempt that changes nothing leaves the readiness alone. -/
theorem CompletesAgain.completedInc (h : CompletesAgain outcome a inc) :
    (completedInc outcome inc).readinessGeneration = inc.readinessGeneration ∧
      (completedInc outcome inc).state.preparation = inc.state.preparation := by
  unfold CompletesAgain at h
  unfold Runtime.completedInc
  by_cases hserves : outcome.serves
  · rw [if_pos hserves] at h ⊢
    obtain ⟨-, -, hprepared, err, hgen⟩ := h
    rw [hgen]
    exact ⟨rfl, hprepared.symm⟩
  · rw [if_neg hserves] at h ⊢
    exact ⟨rfl, h.2.symm⟩

theorem AttemptStep.leavesFinished (h : AttemptStep s op s') (hs : CancelledFailed s)
    (hop : KeepsFinished s op) : LeavesFinished s op s' := by
  intro e hended
  cases h with
  | refused => exact ⟨fun _ => rfl, hended⟩
  | other hnone hattempts =>
    refine ⟨fun hfor => ?_, ?_⟩
    · rw [hnone] at hfor
      cases hfor
    · unfold Ended
      rw [hattempts]
      exact hended
  | planned => exact ⟨nofun, hended⟩
  | @begun plan hbegins =>
    refine ⟨nofun, ?_⟩
    obtain ⟨a, ha, hends⟩ := hended
    have hne : e.attemptId ≠ (nextAttempt s plan).attemptId := by
      intro heq
      rw [heq] at ha
      exact hop hbegins a ha hends.finished
    exact ⟨a, (AList.lookup_insert_ne hne).trans ha, hends⟩
  | @stepped x a plan ha hsteps =>
    refine ⟨fun _ => rfl, hended.modify rfl fun b hb hends => ?_⟩
    cases ha.symm.trans hb
    exact hends.advanceAttempt (hop a plan ha hsteps hends.finished)
  | @completed x now a inc outcome hfinishes =>
    refine ⟨fun hfor => ?_, hended.modify completed_attempts fun b hb hends => ?_⟩
    · obtain ⟨b, hb, hends⟩ := hended
      cases hfor
      cases hfinishes.attempt.symm.trans hb
      obtain ⟨hgen, hpreparation⟩ := (hop a inc outcome hfinishes hends.finished).completedInc
      unfold SameReadiness
      rw [← hends.incarnationId, completed_findInc hfinishes.found, hfinishes.found]
      simp only [Option.map_some, hgen, hpreparation]
    · cases hfinishes.attempt.symm.trans hb
      exact hends.completedAttempt (hop a inc outcome hfinishes hends.finished)
  | @cancelled x a ha hopen =>
    refine ⟨fun _ => rfl, hended.modify rfl fun b hb hends => ?_⟩
    cases ha.symm.trans hb
    -- What can be cancelled has not published, so it is finished only if it has failed.
    have hfailed : a.state = .failed := by
      rcases hends.finished with hcancelled | hfailed | hready
      · exact hs x a ha hcancelled
      · exact hfailed
      · rw [hopen] at hready
        cases hready
    exact ⟨.inl rfl, hfailed.symm.trans hends.state, hends.publishedReady, hends.incarnationId⟩
  | @rolledBack x a ha =>
    refine ⟨fun _ => rfl, hended.modify rfl fun b hb hends => ?_⟩
    cases ha.symm.trans hb
    have hfailed := hop a ha hends.finished
    exact ⟨.inr (.inl rfl), hfailed.symm.trans hends.state, hends.publishedReady,
      hends.incarnationId⟩

/-- A finished attempt under `x`, as an end. -/
theorem ended_of_finished (ha : s.attempts.lookup x = some a) (hfinished : a.Finished) :
    Ended ⟨x, a.state, a.publishedReady, a.incarnationId⟩ s :=
  ⟨a, ha, hfinished, rfl, rfl, rfl⟩

theorem next_ne {t : GenTag} {g g' : Generation t} (h : g.next = .ok g') : g' ≠ g := by
  rintro rfl
  exact absurd (Generation.next_ok h) (Nat.ne_of_lt (Nat.lt_succ_self _))

theorem completesAgain_of_same (hstate : (completedAttempt outcome a).state = a.state)
    (hready : (completedAttempt outcome a).publishedReady = a.publishedReady)
    (hgen : (completedInc outcome inc).readinessGeneration = inc.readinessGeneration)
    (hpreparation : (completedInc outcome inc).state.preparation = inc.state.preparation) :
    CompletesAgain outcome a inc := by
  unfold completedAttempt at hstate hready
  unfold completedInc at hgen hpreparation
  unfold CompletesAgain
  by_cases hserves : outcome.serves
  · rw [if_pos hserves] at *
    cases hnext : inc.readinessGeneration.next with
    | error err =>
      rw [hnext] at hpreparation
      exact ⟨hstate.symm, hready.symm, hpreparation.symm, err, hnext⟩
    | ok gen =>
      rw [hnext] at hgen
      exact absurd hgen (next_ne hnext)
  · rw [if_neg hserves] at *
    exact ⟨hstate.symm, hpreparation.symm⟩

/-- A step that leaves every finished attempt alone meets the condition. -/
theorem keepsFinished_of_leaves (h : LeavesFinished s op (machine.next s op)) :
    KeepsFinished s op := by
  cases op with
  | beginPreparation plan =>
    intro hbegins a ha hfinished
    obtain ⟨-, b, hb, hends⟩ := h _ (ended_of_finished ha hfinished)
    rw [beginPreparation_next hbegins] at hb
    have hb : (s.attempts.insert _ (nextAttempt s plan)).lookup _ = some b := hb
    rw [AList.lookup_insert] at hb
    cases hb
    -- The attempt that begins is not finished.
    rcases hends.finished with hcancelled | hfailed | hready
    · cases hcancelled
    · cases hfailed
    · cases hready
  | stepPreparation x =>
    intro a plan ha hsteps hfinished
    obtain ⟨-, b, hb, hends⟩ := h _ (ended_of_finished ha hfinished)
    rw [stepPreparation_next ha hsteps, Impl.modifyAttempt, AList.lookup_modify_self, ha] at hb
    cases hb
    have hstate : (advanceAttempt plan a).state = a.state := hends.state
    rw [advanceAttempt_state] at hstate
    split at hstate
    · exact .inl hstate.symm
    · rename_i hmore
      exact .inr (Nat.not_le.mp hmore)
  | completePreparation x now =>
    intro a inc outcome hfinishes hfinished
    obtain ⟨hspares, b, hb, hends⟩ := h _ (ended_of_finished hfinishes.attempt hfinished)
    have hsame := hspares rfl
    unfold SameReadiness at hsame
    rw [completePreparation_next hfinishes] at hb hsame
    rw [completed_findInc hfinishes.found, hfinishes.found] at hsame
    rw [completed_attempts, AList.lookup_modify_self, hfinishes.attempt] at hb
    cases hb
    simp only [Option.map_some, Option.some.injEq, Prod.mk.injEq] at hsame
    exact completesAgain_of_same hends.state hends.publishedReady hsame.1 hsame.2
  | rollbackPreparation x =>
    intro a ha hfinished
    obtain ⟨-, b, hb, hends⟩ := h _ (ended_of_finished ha hfinished)
    rw [rollbackPreparation_next ha] at hb
    simp only [endAttempt, Impl.modifyAttempt, AList.lookup_modify_self, ha] at hb
    cases hb
    exact hends.state.symm
  | _ => trivial

/-! ## Whole runs -/

/-- Finished attempts are terminal in a run if and only if no step of it begins an attempt
under the identity of a finished one, completes, rolls back or steps a finished one. -/
theorem finished_attempts_terminal_iff (opts : RuntimeOptions) (ops : List Op) :
    FinishedAreTerminal (Impl.new opts) ops ↔ machine.Along KeepsFinished (Impl.new opts) ops := by
  unfold FinishedAreTerminal
  rw [Machine.terminal_iff]
  refine Machine.along_congr (I := CancelledFailed) (cancelledFailed_new opts) ?_ ?_
  · intro s op hs
    exact (attemptStep s op).cancelledFailed hs
  · intro s op hs
    constructor
    · intro h
      exact keepsFinished_of_leaves h
    · intro h
      exact (attemptStep s op).leavesFinished hs h

/-- The plan that the runtime makes for the incarnation that `sampleStart` has started. -/
def samplePlan : PreparationPlan where
  planId := ⟨2⟩
  planGeneration := ⟨1⟩
  incarnationId := ⟨2⟩
  incarnationGeneration := ⟨1⟩
  profileId := ⟨1⟩
  profileGeneration := ⟨1⟩
  epoch := ⟨1⟩
  authority := ⟨1⟩
  steps := planSteps 1 []
  cancellationBoundary := lit "before readiness publication"
  rollbackAction := lit "release attempt-owned resources; keep verified state"
  expectedReadiness := lit "READY after all steps complete"

/-- Start an incarnation and begin an attempt for it. -/
def sampleBegun : List Op :=
  sampleStart ++ [.createPreparationPlan ⟨2⟩ ⟨1⟩ .warm 0, .beginPreparation samplePlan]

example : (machine.exec (Impl.new {}) sampleBegun).plans.lookup ⟨2⟩ = some samplePlan := by rfl

/-- An attempt that has been rolled back publishes READY, and one that has published READY
advances the readiness generation once more. -/
theorem finished_attempts_resume :
    ¬ FinishedAreTerminal (Impl.new {})
        (sampleBegun ++ [.rollbackPreparation ⟨2⟩, .completePreparation ⟨2⟩ 0]) ∧
      ¬ FinishedAreTerminal (Impl.new {})
        (sampleBegun ++ [.completePreparation ⟨2⟩ 0, .completePreparation ⟨2⟩ 0]) := by
  constructor
  · intro h
    obtain ⟨-, a, ha, hends⟩ := h ⟨⟨2⟩, .failed, false, ⟨2⟩⟩
      (sampleBegun ++ [.rollbackPreparation ⟨2⟩]) [] (.completePreparation ⟨2⟩ 0) [] rfl
      ⟨_, rfl, .inr (.inl rfl), rfl, rfl, rfl⟩
    cases ha
    cases hends.publishedReady
  · intro h
    obtain ⟨hspares, -⟩ := h ⟨⟨2⟩, .prepared, true, ⟨2⟩⟩
      (sampleBegun ++ [.completePreparation ⟨2⟩ 0]) [] (.completePreparation ⟨2⟩ 0) [] rfl
      ⟨_, rfl, .inr (.inr rfl), rfl, rfl, rfl⟩
    have hsame := hspares rfl
    unfold SameReadiness at hsame
    revert hsame
    decide +kernel

end Runtime

end EngineResidency
