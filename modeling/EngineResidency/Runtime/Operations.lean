-- SUMMARY: The operations of the runtime facade, with the checks and writes of the source in their order.
import EngineResidency.Runtime.State

/-!
# Runtime operations

One program for each operation of the facade. The checks, the texts they throw
and the writes stand in the order of the source, so an operation that throws
late leaves behind exactly the writes the source leaves behind. A group of writes
that no check interrupts is a function on states, defined before its operation.

A reading of the clock is an argument of the operation that takes it. Arguments
that the source ignores (callers and reasons that are not stored) are left out.
The programs that only read the state are functions of it.
-/

namespace EngineResidency.Runtime

open EStateM (rejectIf found unwrap)

/-! ## Definitions -/

/-- The counter behind the generation of an engine that names none. -/
def countEngine (engine : EngineDefinition) (s : Impl) : Impl :=
  { s with
    idEngine := if engine.engineGeneration.isValid then s.idEngine else s.idEngine + 1 }

/-- The definition that is stored, with the defaults for what it leaves open. -/
def completedEngine (s : Impl) (engine : EngineDefinition) : EngineDefinition :=
  { engine with
    engineGeneration :=
      if engine.engineGeneration.isValid then engine.engineGeneration else ⟨s.idEngine + 1⟩
    configGeneration :=
      if engine.configGeneration.isValid then engine.configGeneration else ⟨1⟩ }

def storeEngine (engine : EngineDefinition) (s : Impl) : Impl :=
  { s with engines := s.engines.insert engine.engineId engine }

def defineEngine (engine : EngineDefinition) : Rt EngineDefinition := do
  rejectIf (engine.engineId.isValid = false)
    (domainError .invalidArgument "engine id required")
  modify (countEngine engine)
  let s ← get
  rejectIf (s.opts.maxEngines.toNat ≤ s.engines.size) (domainError .boundsExceeded "max engines")
  modify (storeEngine (completedEngine s engine))
  return completedEngine s engine

def setPreparation (p : PreparationState) (i : EngineIncarnation) : EngineIncarnation :=
  { i with state.preparation := p }

def setReadiness (gen : ReadinessGeneration) (i : EngineIncarnation) : EngineIncarnation :=
  { i with readinessGeneration := gen }

def storeConfig (engineId : EngineId) (newGen : EngineConfigGeneration) (s : Impl) : Impl :=
  { s with engines := s.engines.modify engineId fun e => { e with configGeneration := newGen } }

/-- One iteration of the loop that a configuration change runs over all
incarnations. -/
def invalidateForConfig (engineId : EngineId) (id : EngineIncarnationId) : Rt Unit := do
  let s ← get
  match s.findInc id with
  | none => return ()
  | some inc =>
    if inc.engineId = engineId then do
      modify (Impl.modifyInc id (setPreparation .invalidated))
      let gen ← unwrap inc.readinessGeneration.next
      modify (Impl.modifyInc id (setReadiness gen))
    else return ()

def updateEngineConfig (engineId : EngineId) (newGen : EngineConfigGeneration) : Rt Unit := do
  let s ← get
  let engine ← found (s.engines.lookup engineId) (domainError .unknownEngine "unknown engine")
  rejectIf (newGen.isAtOrBefore engine.configGeneration)
    (domainError .staleGeneration "config generation regression")
  modify (storeConfig engineId newGen)
  -- The exhaustion of one generation stops the loop between two incarnations.
  s.incarnations.keys.forM (invalidateForConfig engineId)
  return ()

/-- The counter behind the identity of a profile that names none. -/
def countProfile (profile : ReadinessProfile) (s : Impl) : Impl :=
  { s with idProfile := if profile.profileId.isValid then s.idProfile else s.idProfile + 1 }

/-- The profile that is stored, with the defaults for what it leaves open. -/
def completedProfile (s : Impl) (profile : ReadinessProfile) : ReadinessProfile :=
  { profile with
    profileId := if profile.profileId.isValid then profile.profileId else ⟨s.idProfile + 1⟩
    profileGeneration :=
      if profile.profileGeneration.isValid then profile.profileGeneration else ⟨1⟩ }

def storeProfile (profile : ReadinessProfile) (s : Impl) : Impl :=
  { s with profiles := s.profiles.insert profile.profileId profile }

def defineProfile (profile : ReadinessProfile) : Rt ReadinessProfile := do
  modify (countProfile profile)
  let s ← get
  let _ ← found (s.engines.lookup profile.engineId)
    (domainError .unknownEngine "engine not defined")
  modify (storeProfile (completedProfile s profile))
  return completedProfile s profile

/-! ## Registration and authority -/

/-- The permit that is issued next. -/
def nextPermit (s : Impl) (w : WorkerId) (b : WorkerBootId) : RegistrationPermit :=
  { permitId := ⟨s.idPermit + 1 + 1⟩
    epoch := s.authority.epoch
    workerId := w
    workerBoot := b
    sequence := s.authority.registrationCounter + 1
    authority := s.authority.authority }

def storePermit (permit : RegistrationPermit) (s : Impl) : Impl :=
  { s with
    idPermit := s.idPermit + 1
    authority.registrationCounter := s.authority.registrationCounter + 1
    permits := s.permits.insert permit.permitId permit }

def issueRegistrationPermit (w : WorkerId) (b : WorkerBootId) : Rt RegistrationPermit := do
  let s ← get
  rejectIf (b.isBefore ⟨1⟩) (domainError .invalidArgument "worker boot required")
  rejectIf (s.bootFenced w b) (domainError .fencedWorker "fenced worker boot")
  rejectIf (s.opts.maxRegistrationPermits.toNat ≤ s.permits.size)
    (domainError .boundsExceeded "max permits")
  modify (storePermit (nextPermit s w b))
  return nextPermit s w b

/-- Whether a live incarnation already stands for this boot of the worker. -/
def isDuplicateOf (inc i : EngineIncarnation) : Bool :=
  i.workerId == inc.workerId && i.workerBoot == inc.workerBoot && !i.state.lifecycle.isDead

/-- Whether an engine has a current incarnation that is still alive. -/
def hasLiveCurrent (s : Impl) (engineId : EngineId) : Bool :=
  match s.currentByEngine.lookup engineId with
  | none => false
  | some cur =>
    match s.findInc cur with
    | none => false
    | some i => !i.state.lifecycle.isDead

/-- The record that a registration stores. -/
def registered (s : Impl) (inc : EngineIncarnation) (now : DurationNs) : EngineIncarnation :=
  { inc with
    incarnationId := ⟨s.idInc + 1 + 1⟩
    incarnationGeneration := ⟨1⟩
    coordinatorEpoch := s.authority.epoch
    authorityGeneration := s.authority.authority
    registration := .registered
    state.lifecycle := .starting
    state.recovery := .nominal
    state.registration := .registered
    readinessGeneration := ⟨1⟩
    lastActivityNs := now
    isCurrent := !hasLiveCurrent s inc.engineId }

/-- Store a registered incarnation and spend its permit. -/
def enroll (stored : EngineIncarnation) (permitId : RegistrationPermitId) (s : Impl) : Impl :=
  { s with
    idInc := s.idInc + 1
    currentByEngine :=
      if stored.isCurrent then s.currentByEngine.insert stored.engineId stored.incarnationId
      else s.currentByEngine
    incarnations := s.incarnations.insert stored.incarnationId stored
    permits := s.permits.modify permitId fun p => { p with consumed := true }
    consumed := insert permitId s.consumed }

def registerIncarnation (inc : EngineIncarnation) (permit : RegistrationPermit)
    (now : DurationNs) : Rt EngineIncarnation := do
  let s ← get
  let p ← found (s.permits.lookup permit.permitId)
    (domainError .registrationRejected "unknown permit")
  rejectIf p.consumed (domainError .registrationRejected "permit already consumed")
  rejectIf (p.workerId ≠ inc.workerId ∨ p.workerBoot ≠ inc.workerBoot)
    (domainError .registrationRejected "permit/worker mismatch")
  rejectIf (p.epoch ≠ s.authority.epoch) (domainError .staleEpoch "permit epoch stale")
  rejectIf (s.bootFenced inc.workerId inc.workerBoot) (domainError .fencedWorker "fenced boot")
  let _ ← found (s.engines.lookup inc.engineId) (domainError .unknownEngine "unknown engine")
  rejectIf (s.incarnations.values.any (isDuplicateOf inc))
    (domainError .registrationRejected "duplicate incarnation for boot")
  rejectIf (s.opts.maxIncarnations.toNat ≤ s.incarnations.size)
    (domainError .boundsExceeded "max incarnations")
  modify (enroll (registered s inc now) permit.permitId)
  return registered s inc now

def running (now : DurationNs) (i : EngineIncarnation) : EngineIncarnation :=
  { i with state.lifecycle := .running, state.health := .healthy, lastActivityNs := now }

def markRunning (id : EngineIncarnationId) (now : DurationNs) : Rt Unit := do
  let s ← get
  let _ ← found (s.findInc id) (domainError .unknownIncarnation "unknown incarnation")
  modify (Impl.modifyInc id (running now))
  return ()

def revalidated (i : EngineIncarnation) : EngineIncarnation :=
  { i with
    state.recovery := .nominal
    state.preparation := .prepared
    isCurrent := true
    state.lifecycle := .running }

/-- Make an incarnation current again. -/
def reinstate (id : EngineIncarnationId) (inc : EngineIncarnation) (s : Impl) : Impl :=
  { s.modifyInc id revalidated with
    currentByEngine := s.currentByEngine.insert inc.engineId inc.incarnationId }

def revalidate (id : EngineIncarnationId) : Rt Unit := do
  let s ← get
  let inc ← found (s.findInc id) (domainError .unknownIncarnation "unknown incarnation")
  modify (reinstate id inc)
  let gen ← unwrap inc.readinessGeneration.next
  modify (Impl.modifyInc id (setReadiness gen))
  return ()

/-- What fencing a boot does to the records of that boot. -/
def fenceInc (w : WorkerId) (b : WorkerBootId) (i : EngineIncarnation) : EngineIncarnation :=
  if i.workerId = w ∧ i.workerBoot = b then
    { i with
      state.health := .fenced
      state.lifecycle := .lost
      state.activation := .fenced
      state.registration := .fenced
      isCurrent := false }
  else i

def fenceBoot (w : WorkerId) (b : WorkerBootId) (s : Impl) : Impl :=
  { s with
    fenced := s.fenced.insert w (insert b ((s.fenced.lookup w).getD ∅))
    incarnations := s.incarnations.mapVal (fenceInc w b) }

def fenceWorker (w : WorkerId) (b : WorkerBootId) : Rt Unit := do
  modify (fenceBoot w b)
  return ()

/-- What an epoch change does to a record: a running incarnation has to
revalidate. -/
def demoteForEpoch (i : EngineIncarnation) : EngineIncarnation :=
  if i.state.lifecycle = .running then
    { i with state.recovery := .revalidating, isCurrent := false }
  else i

def setEpoch (epoch : CoordinatorEpoch) (s : Impl) : Impl :=
  { s with authority.epoch := epoch }

/-- Change the authority: running incarnations and slots lose theirs. -/
def enterAuthority (authority : AuthorityGeneration) (s : Impl) : Impl :=
  { s with
    authority.authority := authority
    incarnations := s.incarnations.mapVal demoteForEpoch
    slots := ∅ }

def advanceEpoch : Rt CoordinatorEpoch := do
  let s ← get
  let epoch ← unwrap s.authority.epoch.next
  modify (setEpoch epoch)
  let authority ← unwrap s.authority.authority.next
  modify (enterAuthority authority)
  return epoch

/-! ## Component evidence -/

/-- The first evidence of a backend or a device context completes the start of
an incarnation. -/
def confirmStart (category : ComponentCategory) (i : EngineIncarnation) : EngineIncarnation :=
  if (category = .backend ∨ category = .deviceContext) ∧ i.state.lifecycle = .starting then
    { i with state.lifecycle := .running, state.health := .healthy }
  else i

/-- The evidence that is stored for a publication. -/
def stampedEvidence (s : Impl) (ev : ComponentEvidence) (now : DurationNs) : ComponentEvidence :=
  { ev with
    evidenceId := ⟨s.idEvid + 1 + 1⟩
    evidenceGeneration := ⟨1⟩
    observedAtNs := now }

def storeEvidence (ev : ComponentEvidence) (s : Impl) : Impl :=
  { (s.pushEvidence ev.incarnationId ev).modifyInc ev.incarnationId fun i =>
      confirmStart ev.category { i with lastActivityNs := ev.observedAtNs } with
    idEvid := s.idEvid + 1 }

def publishComponent (ev : ComponentEvidence) (now : DurationNs) : Rt ComponentEvidence := do
  let s ← get
  let inc ← found (s.findInc ev.incarnationId)
    (domainError .unknownIncarnation "unknown incarnation")
  rejectIf (inc.state.registration = .fenced ∨ inc.state.health = .fenced)
    (domainError .fencedWorker "fenced incarnation")
  rejectIf (s.bootFenced inc.workerId inc.workerBoot) (domainError .fencedWorker "fenced boot")
  rejectIf (ev.coordinatorEpoch ≠ s.authority.epoch)
    (domainError .staleEpoch "evidence epoch is not current")
  rejectIf (s.opts.maxComponentEvidence.toNat ≤ s.evidenceTotal)
    (domainError .boundsExceeded "max component evidence")
  modify (storeEvidence (stampedEvidence s ev now))
  return stampedEvidence s ev now

/-! ## Readiness -/

/-- The public query: the evaluator behind the checks of the profile and of the
recovery state. -/
def evaluateReadiness (s : Impl) (incId : EngineIncarnationId) (profId : ReadinessProfileId)
    (now : DurationNs) : Except Err ReadinessResult := do
  let inc ← (s.findInc incId).elim
    (.error (domainError .unknownIncarnation "unknown incarnation")) .ok
  let profile ← (s.profiles.lookup profId).elim
    (.error (domainError .unknownProfile "unknown profile")) .ok
  if profile.engineId ≠ inc.engineId then
    .error (domainError .incompatibleProfile "profile belongs to another engine")
  else
    let engine ← (s.engines.lookup inc.engineId).elim
      (.error (domainError .unknownEngine "unknown engine")) .ok
    if inc.state.recovery.awaitsRevalidation then
      return {
        engineId := inc.engineId
        engineGeneration := inc.engineGeneration
        incarnationId := inc.incarnationId
        incarnationGeneration := inc.incarnationGeneration
        profileId := profId
        profileGeneration := profile.profileGeneration
        readinessGeneration := inc.readinessGeneration
        outcome := .revalidationRequired
        coherentSnapshot := false
        detail := lit "incarnation requires revalidation under current authority" }
    else
      return EngineResidency.evaluateReadiness engine profile inc (s.evidenceFor incId) now

/-! ## Preparation -/

/-- The steps of a plan: one for each missing component, or a warmup. -/
def planSteps (maxSteps : UInt32) (missing : List Str) : List PreparationStep :=
  let steps := (missing.take maxSteps.toNat).map fun m =>
    { action := .bindModel
      category := .model
      subject := m
      description := lit "prepare missing component " ++ m : PreparationStep }
  if steps.isEmpty then
    [{ action := .warmUp
       category := .warmup
       subject := lit "warmup"
       description := lit "run warmup" }]
  else steps

/-- The plan for an incarnation whose evaluation reports `missing`. -/
def nextPlan (s : Impl) (inc : EngineIncarnation) (profile : ReadinessProfile)
    (incId : EngineIncarnationId) (profId : ReadinessProfileId) (target : DesiredResidency)
    (missing : List Str) : PreparationPlan :=
  { planId := ⟨s.idPlan + 1 + 1⟩
    planGeneration := ⟨1⟩
    incarnationId := incId
    incarnationGeneration := inc.incarnationGeneration
    profileId := profId
    profileGeneration := profile.profileGeneration
    targetResidency := target
    epoch := s.authority.epoch
    authority := s.authority.authority
    sourceBoot := inc.sourceBoot
    steps := planSteps s.opts.maxPreparationPlanSteps missing
    cancellationBoundary := lit "before readiness publication"
    rollbackAction := lit "release attempt-owned resources; keep verified state"
    expectedReadiness := lit "READY after all steps complete" }

def storePlan (plan : PreparationPlan) (s : Impl) : Impl :=
  { s.modifyInc plan.incarnationId (setPreparation .planned) with
    idPlan := s.idPlan + 1
    plans := s.plans.insert plan.planId plan }

def createPreparationPlan (incId : EngineIncarnationId) (profId : ReadinessProfileId)
    (target : DesiredResidency) (now : DurationNs) : Rt PreparationPlan := do
  let s ← get
  let inc ← found (s.findInc incId) (domainError .unknownIncarnation "unknown incarnation")
  rejectIf (inc.isCurrent = false) (domainError .staleIncarnation "not current")
  let profile ← found (s.profiles.lookup profId) (domainError .unknownProfile "unknown profile")
  rejectIf (s.opts.maxPendingPreparationAttempts.toNat ≤ s.plans.size)
    (domainError .boundsExceeded "max plans")
  let engine ← found (s.engines.lookup inc.engineId) .outOfRange
  let rr := EngineResidency.evaluateReadiness engine profile inc (s.evidenceFor incId) now
  let plan := nextPlan s inc profile incId profId target rr.missing
  modify (storePlan plan)
  return plan

/-- The attempt that starts a plan. -/
def nextAttempt (s : Impl) (plan : PreparationPlan) : PreparationAttempt :=
  { attemptId := ⟨s.idAttempt + 1 + 1⟩
    attemptGeneration := ⟨1⟩
    planId := plan.planId
    planGeneration := plan.planGeneration
    incarnationId := plan.incarnationId
    incarnationGeneration := plan.incarnationGeneration
    profileId := plan.profileId
    profileGeneration := plan.profileGeneration
    epoch := s.authority.epoch
    authority := s.authority.authority
    state := .planned }

def storeAttempt (a : PreparationAttempt) (s : Impl) : Impl :=
  { s.modifyInc a.incarnationId (setPreparation .preparing) with
    idAttempt := s.idAttempt + 1
    attempts := s.attempts.insert a.attemptId a
    activeAttempt := s.activeAttempt.insert a.incarnationId a.attemptId }

/-- The plan is the caller's copy; only its epoch is checked against the stored
one. -/
def beginPreparation (plan : PreparationPlan) : Rt PreparationAttempt := do
  let s ← get
  let stored ← found (s.plans.lookup plan.planId) (domainError .unknownAttempt "unknown plan")
  rejectIf (stored.epoch ≠ s.authority.epoch) (domainError .planStale "plan epoch stale")
  let inc ← found (s.findInc plan.incarnationId)
    (domainError .staleIncarnation "incarnation not current")
  rejectIf (inc.isCurrent = false) (domainError .staleIncarnation "incarnation not current")
  rejectIf ((s.activeAttempt.lookup plan.incarnationId).isSome)
    (domainError .invalidState "attempt already active")
  rejectIf (s.opts.maxPendingPreparationAttempts.toNat ≤ s.activeAttempt.size)
    (domainError .boundsExceeded "max attempts")
  modify (storeAttempt (nextAttempt s plan))
  return nextAttempt s plan

/-- An attempt after one more step of its plan. -/
def advanceAttempt (plan : PreparationPlan) (a : PreparationAttempt) : PreparationAttempt :=
  let a := match plan.steps[a.nextStepIndex]? with
    | some step =>
      { a with
        completedSteps := a.completedSteps ++ [step.description]
        nextStepIndex := a.nextStepIndex + 1 }
    | none => a
  if plan.steps.length ≤ a.nextStepIndex then { a with state := .preparing } else a

def stepPreparation (attemptId : PreparationAttemptId) : Rt PreparationAttempt := do
  let s ← get
  let a ← found (s.attempts.lookup attemptId) (domainError .unknownAttempt "unknown attempt")
  rejectIf a.cancelled (domainError .attemptCancelled "attempt cancelled")
  rejectIf (a.epoch ≠ s.authority.epoch) (domainError .staleEpoch "attempt epoch stale")
  let plan ← found (s.plans.lookup a.planId) (domainError .unknownAttempt "unknown plan")
  modify (Impl.modifyAttempt attemptId (advanceAttempt plan))
  return advanceAttempt plan a

/-- How an attempt ends: prepared when the evaluation authorizes work. -/
def completedAttempt (outcome : ReadinessOutcome) (a : PreparationAttempt) : PreparationAttempt :=
  if outcome.serves then
    { a with authorityRevalidated := true, state := .prepared, publishedReady := true }
  else
    { a with
      authorityRevalidated := true
      state := .failed
      failureStage := lit "readiness not achieved" }

/-- What the completion of an attempt does to the incarnation first. -/
def completedState (outcome : ReadinessOutcome) : PreparationState :=
  if outcome.serves then .prepared else .failed

def storeCompletion (attemptId : PreparationAttemptId) (incId : EngineIncarnationId)
    (outcome : ReadinessOutcome) (s : Impl) : Impl :=
  (s.modifyAttempt attemptId (completedAttempt outcome)).modifyInc incId
    (setPreparation (completedState outcome))

def publishReadiness (gen : ReadinessGeneration) (i : EngineIncarnation) : EngineIncarnation :=
  { i with readinessGeneration := gen, state.observed := .warm }

/-- No attempt is active for an incarnation any more. -/
def endAttempt (incId : EngineIncarnationId) (s : Impl) : Impl :=
  { s with activeAttempt := s.activeAttempt.erase incId }

def completePreparation (attemptId : PreparationAttemptId) (now : DurationNs) :
    Rt PreparationAttempt := do
  let s ← get
  let a ← found (s.attempts.lookup attemptId) (domainError .unknownAttempt "unknown attempt")
  rejectIf a.cancelled (domainError .attemptCancelled "attempt cancelled")
  rejectIf (a.epoch ≠ s.authority.epoch) (domainError .staleEpoch "attempt epoch stale")
  rejectIf (a.authority ≠ s.authority.authority)
    (domainError .staleAuthority "attempt authority stale")
  let inc ← found (s.findInc a.incarnationId)
    (domainError .staleIncarnation "incarnation not current")
  rejectIf (inc.isCurrent = false) (domainError .staleIncarnation "incarnation not current")
  let profile ← found (s.profiles.lookup a.profileId)
    (domainError .unknownProfile "unknown profile")
  let engine ← found (s.engines.lookup inc.engineId)
    (domainError .unknownEngine "unknown engine")
  let rr := EngineResidency.evaluateReadiness engine profile inc
    (s.evidenceFor a.incarnationId) now
  modify (storeCompletion attemptId a.incarnationId rr.outcome)
  -- Only an attempt that succeeds publishes a generation, which may be exhausted.
  if rr.outcome.serves then
    let gen ← unwrap inc.readinessGeneration.next
    modify (Impl.modifyInc a.incarnationId (publishReadiness gen))
  modify (endAttempt a.incarnationId)
  return completedAttempt rr.outcome a

def cancelled (a : PreparationAttempt) : PreparationAttempt :=
  { a with cancelled := true, state := .failed }

def cancelPreparation (attemptId : PreparationAttemptId) : Rt Unit := do
  let s ← get
  let a ← found (s.attempts.lookup attemptId) (domainError .unknownAttempt "unknown attempt")
  rejectIf a.publishedReady (domainError .invalidState "cannot cancel committed attempt")
  modify fun s => endAttempt a.incarnationId (s.modifyAttempt attemptId cancelled)
  return ()

def rolledBack (a : PreparationAttempt) : PreparationAttempt :=
  { a with state := .failed, failureStage := lit "rolled back" }

def rollbackPreparation (attemptId : PreparationAttemptId) : Rt Unit := do
  let s ← get
  let a ← found (s.attempts.lookup attemptId) (domainError .unknownAttempt "unknown attempt")
  modify fun s => endAttempt a.incarnationId (s.modifyAttempt attemptId rolledBack)
  return ()

/-! ## Activation -/

/-- Whether the holder of a slot no longer stands in the way of a takeover. -/
def holderDead (s : Impl) (holder : EngineIncarnationId) : Bool :=
  match s.findInc holder with
  | none => true
  | some h =>
    h.state.health == .fenced || h.state.health == .lost || h.state.lifecycle.isDead ||
      h.state.recovery.awaitsRevalidation

/-- Whether a slot is held by another incarnation that is still alive. -/
def slotTaken (s : Impl) (slotId : EngineSlotId) (inc : EngineIncarnation) : Bool :=
  match s.slots.lookup slotId with
  | none => false
  | some slot =>
    slot.assignedIncarnation.isValid && slot.assignedIncarnation != inc.incarnationId &&
      !holderDead s slot.assignedIncarnation

/-- The slot table after `inc` has taken a slot. -/
def assignSlot (slots : UMap EngineSlotId StandbySlot) (slotId : EngineSlotId)
    (inc : EngineIncarnation) : UMap EngineSlotId StandbySlot :=
  if slotId.isValid then
    match slots.lookup slotId with
    | some _ =>
      slots.modify slotId fun slot => { slot with assignedIncarnation := inc.incarnationId }
    | none =>
      slots.insert slotId
        { slotId := slotId
          poolId := ⟨1⟩
          name := lit "default"
          assignedIncarnation := inc.incarnationId }
  else slots

/-- The readiness gate of an activation. A request without a profile passes. -/
def activationGate (s : Impl) (req : ActivationRequest) (inc : EngineIncarnation)
    (now : DurationNs) : Except Err Unit :=
  if req.profileId.isValid then do
    let profile ← (s.profiles.lookup req.profileId).elim
      (.error (domainError .unknownProfile "unknown profile")) .ok
    let engine ← (s.engines.lookup inc.engineId).elim (.error .outOfRange) .ok
    let rr := EngineResidency.evaluateReadiness engine profile inc
      (s.evidenceFor inc.incarnationId) now
    if rr.outcome.serves then .ok ()
    else .error (domainError .invalidState "activation requires current readiness")
  else .ok ()

/-- The record of an activation. -/
def nextActivation (s : Impl) (req : ActivationRequest) (inc : EngineIncarnation) :
    ActivationRecord :=
  { activationId := ⟨s.idActivation + 1 + 1⟩
    activationGeneration := ⟨1⟩
    engineId := inc.engineId
    engineGeneration := inc.engineGeneration
    incarnationId := inc.incarnationId
    incarnationGeneration := inc.incarnationGeneration
    profileId := req.profileId
    readinessGeneration := inc.readinessGeneration
    standbyGeneration := req.standbyGeneration
    slotId := req.slotId
    state := .active
    prior := inc.state.activation
    current := true
    detail := lit "authorized local activation" }

def activated (i : EngineIncarnation) : EngineIncarnation :=
  { i with state.activation := .active, isCurrent := true }

/-- Give an incarnation the authority over its engine, and its slot. -/
def grantActivation (id : EngineIncarnationId) (inc : EngineIncarnation) (r : ActivationRecord)
    (s : Impl) : Impl :=
  { s.modifyInc id activated with
    slots := assignSlot s.slots r.slotId inc
    idActivation := s.idActivation + 1
    currentByEngine := s.currentByEngine.insert inc.engineId inc.incarnationId
    activations := s.activations.insert r.activationId r }

def activate (req : ActivationRequest) (now : DurationNs) : Rt ActivationRecord := do
  let s ← get
  rejectIf (req.callerAuthority ≠ s.authority.authority)
    (domainError .staleAuthority "caller authority stale")
  let inc ← found (s.findInc req.incarnationId)
    (domainError .unknownIncarnation "unknown incarnation")
  rejectIf (inc.state.health = .fenced ∨ inc.state.registration = .fenced)
    (domainError .fencedWorker "fenced incarnation")
  rejectIf (inc.state.lifecycle ≠ .running) (domainError .invalidState "incarnation not running")
  rejectIf (inc.readinessGeneration ≠ req.readinessGeneration)
    (domainError .staleGeneration "readiness generation stale")
  unwrap (activationGate s req inc now)
  rejectIf (req.slotId.isValid ∧ slotTaken s req.slotId inc)
    (domainError .activationConflict "exclusive slot already assigned")
  modify (grantActivation req.incarnationId inc (nextActivation s req inc))
  return nextActivation s req inc

/-! ## Serving use -/

/-- The token that an admission returns. -/
def admittedToken (s : Impl) (wanted : ServingUseToken) : ServingUseToken :=
  { wanted with useId := ⟨s.idUse + 1 + 1⟩, useGeneration := ⟨1⟩ }

/-- The accounting record of an admission. -/
def admittedUse (s : Impl) (wanted : ServingUseToken) (inc : EngineIncarnation)
    (admittedAt : DurationNs) : ActiveUse :=
  let token := admittedToken s wanted
  { useId := token.useId
    useGeneration := token.useGeneration
    engineId := inc.engineId
    engineGeneration := inc.engineGeneration
    incarnationId := inc.incarnationId
    incarnationGeneration := inc.incarnationGeneration
    profileId := wanted.profileId
    readinessGeneration := wanted.readinessGeneration
    activationGeneration := wanted.activationGeneration
    executionId := wanted.executionId
    admittedAtNs := admittedAt
    detail := lit "admitted" }

def touched (at_ : DurationNs) (i : EngineIncarnation) : EngineIncarnation :=
  { i with lastActivityNs := at_ }

/-- Store an admission for the incarnation stored under `id`. -/
def storeUse (id : EngineIncarnationId) (use : ActiveUse) (s : Impl) : Impl :=
  { s.modifyInc id (touched use.admittedAtNs) with
    idUse := s.idUse + 1
    activeUses := s.activeUses.insert use.useId use
    activeUseCount := s.activeUseCount + 1 }

/-- The clock is read twice: for the evaluation and for the admission time. -/
def acquireServingUse (wanted : ServingUseToken) (now admittedAt : DurationNs) :
    Rt ServingUseToken := do
  let s ← get
  let inc ← found (s.findInc wanted.incarnationId)
    (domainError .unknownIncarnation "unknown incarnation")
  rejectIf (inc.isCurrent = false) (domainError .staleIncarnation "not current")
  rejectIf (inc.state.lifecycle ≠ .running) (domainError .invalidState "not running")
  rejectIf (s.admissionFenced wanted.incarnationId)
    (domainError .useAfterDrain "admission fenced by drain")
  rejectIf (wanted.readinessGeneration ≠ inc.readinessGeneration)
    (domainError .staleGeneration "stale readiness acquisition")
  let profile ← found (s.profiles.lookup wanted.profileId)
    (domainError .unknownProfile "unknown profile")
  let engine ← found (s.engines.lookup inc.engineId)
    (domainError .unknownEngine "unknown engine")
  let rr := EngineResidency.evaluateReadiness engine profile inc
    (s.evidenceFor inc.incarnationId) now
  rejectIf (¬ rr.outcome.serves)
    (domainError .invalidState ("readiness no longer satisfied: " ++ rr.outcome.toString))
  rejectIf (s.opts.maxActiveUses.toNat ≤ s.activeUseCount.toNat)
    (domainError .boundsExceeded "max active uses")
  modify (storeUse wanted.incarnationId (admittedUse s wanted inc admittedAt))
  return admittedToken s wanted

/-- The phase of a drain once the last use has been released. -/
def settleDrain (remaining : UInt32) (d : DrainState) : DrainState :=
  if d.admissionFenced ∧ remaining = 0 then
    { d with phase := if d.backendCleanupAck then .drained else .backendCleanupPending }
  else d

def closed (outcome : WorkOutcome) (detail : Str) (now : DurationNs) (u : ActiveUse) : ActiveUse :=
  { u with released := true, outcome := outcome, releasedAtNs := now, detail := detail }

/-- Account for a released use of an incarnation, which may complete its drain. -/
def settle (id : EngineIncarnationId) (s : Impl) : Impl :=
  { s.modifyDrain id (settleDrain (s.remainingUses id)) with
    activeUseCount := s.activeUseCount - 1 }

def releaseServingUse (token : ServingUseToken) (outcome : WorkOutcome) (detail : Str)
    (now : DurationNs) : Rt Unit := do
  let s ← get
  let use ← found (s.activeUses.lookup token.useId)
    (domainError .unknownUse "unknown serving use")
  rejectIf use.released (domainError .duplicateRelease "duplicate release has no effect")
  rejectIf (use.incarnationId ≠ token.incarnationId)
    (domainError .staleIncarnation "release from old incarnation")
  modify (Impl.modifyUse token.useId (closed outcome detail now))
  -- The record is released by now, also when this throws.
  rejectIf (s.activeUseCount = 0) (domainError .invalidState "active use underflow")
  modify (settle token.incarnationId)
  return ()

/-! ## Drain -/

def draining (i : EngineIncarnation) : EngineIncarnation :=
  { i with state.lifecycle := .draining, state.activation := .draining }

/-- A drain after it has been requested. The phase REQUESTED that the source sets
first is overwritten by the count. -/
def requested (gen : DrainGeneration) (remaining : UInt32) (d : DrainState) : DrainState :=
  { d with
    generation := gen
    admissionFenced := true
    detail := lit "drain requested"
    phase := if remaining = 0 then .backendCleanupPending else .activeUseRemaining }

/-- Keep new work out of an incarnation. -/
def beginDrain (id : EngineIncarnationId) (gen : DrainGeneration) (s : Impl) : Impl :=
  (s.modifyInc id draining).modifyDrain id (requested gen (s.remainingUses id))

def requestDrain (id : EngineIncarnationId) : Rt Unit := do
  let s ← get
  let _ ← found (s.findInc id) (domainError .unknownIncarnation "unknown incarnation")
  modify (Impl.touchDrain id)
  let gen ← unwrap ((s.drains.lookup id).getD {}).generation.next
  modify (beginDrain id gen)
  return ()

def acknowledged (remaining : UInt32) (d : DrainState) : DrainState :=
  { d with
    backendCleanupAck := true
    phase := if d.admissionFenced ∧ remaining = 0 then .drained else d.phase }

def acknowledgeBackendCleanup (id : EngineIncarnationId) : Rt Unit := do
  let s ← get
  let _ ← found (s.drains.lookup id) (domainError .invalidState "no drain in progress")
  modify (Impl.modifyDrain id (acknowledged (s.remainingUses id)))
  return ()

def drainState (s : Impl) (id : EngineIncarnationId) : DrainState := (s.drains.lookup id).getD {}

/-! ## Replacement -/

/-- The plan that is stored for a replacement. -/
def nextReplacement (s : Impl) (plan : ReplacementPlan) : ReplacementPlan :=
  { plan with
    replacementId := ⟨s.idRepl + 1 + 1⟩
    replacementGeneration := ⟨1⟩
    phase := .preparing
    resourceOverlapAvailable := plan.overlapBytes == 0 }

def storeReplacement (plan : ReplacementPlan) (s : Impl) : Impl :=
  { s with
    idRepl := s.idRepl + 1
    replacementPlans := s.replacementPlans.insert plan.replacementId plan }

def beginReplacement (plan : ReplacementPlan) : Rt ReplacementPlan := do
  let s ← get
  rejectIf (plan.epoch ≠ s.authority.epoch) (domainError .staleEpoch "replacement epoch stale")
  rejectIf (plan.authority ≠ s.authority.authority)
    (domainError .staleAuthority "replacement authority stale")
  let cand ← found (s.findInc plan.candidateIncarnation)
    (domainError .staleIncarnation "candidate not running")
  rejectIf (cand.state.lifecycle ≠ .running)
    (domainError .staleIncarnation "candidate not running")
  let old ← found (s.findInc plan.oldIncarnation)
    (domainError .unknownIncarnation "old incarnation unknown")
  rejectIf (cand.incarnationId = old.incarnationId)
    (domainError .invalidArgument "candidate and old identical")
  modify (storeReplacement (nextReplacement s plan))
  return nextReplacement s plan

def superseded (i : EngineIncarnation) : EngineIncarnation :=
  { i with state.activation := .fenced, isCurrent := false }

def promoted (i : EngineIncarnation) : EngineIncarnation :=
  { i with isCurrent := true, state.activation := .standby, state.lifecycle := .running }

/-- Keep new work out of the incarnation stored under `oldId`, if there is one. -/
def fenceOldDrain (oldId : EngineIncarnationId) (s : Impl) : UMap EngineIncarnationId DrainState :=
  match s.findInc oldId with
  | none => s.drains
  | some old =>
    ((s.touchDrain old.incarnationId).modifyDrain old.incarnationId fun d =>
      { d with admissionFenced := true }).drains

/-- Move the authority over an engine from the old incarnation to the candidate. The
two writes go through the map, one after the other: the two may be the same. -/
def cutover (p : ReplacementPlan) (cand : EngineIncarnation) (s : Impl) : Impl :=
  { s with
    drains := fenceOldDrain p.oldIncarnation s
    incarnations :=
      (s.incarnations.modify p.oldIncarnation superseded).modify p.candidateIncarnation promoted
    currentByEngine := s.currentByEngine.insert cand.engineId cand.incarnationId }

def setPhase (phase : ReplacementPhase) (p : ReplacementPlan) : ReplacementPlan :=
  { p with phase := phase }

def commitCutover (rid : ReplacementId) : Rt ReplacementPlan := do
  let s ← get
  let p ← found (s.replacementPlans.lookup rid) (domainError .notFound "replacement not found")
  rejectIf (p.phase ≠ .preparing) (domainError .invalidState "not in preparing phase")
  let cand ← found (s.findInc p.candidateIncarnation)
    (domainError .staleIncarnation "candidate not running")
  rejectIf (cand.state.lifecycle ≠ .running)
    (domainError .staleIncarnation "candidate not running")
  modify fun s => (cutover p cand s).modifyReplacement rid (setPhase .cutover)
  return setPhase .cutover p

def retired (i : EngineIncarnation) : EngineIncarnation :=
  { i with state.lifecycle := .retired, state.health := .lost, isCurrent := false }

def retireOld (rid : ReplacementId) : Rt ReplacementPlan := do
  let s ← get
  let p ← found (s.replacementPlans.lookup rid) (domainError .notFound "replacement not found")
  modify fun s =>
    (s.modifyInc p.oldIncarnation retired).modifyReplacement rid (setPhase .complete)
  return setPhase .complete p

/-! ## Invalidation -/

def invalidatedEvidence (reason : Str) (e : ComponentEvidence) : ComponentEvidence :=
  { e with state := .revalidationRequired, invalidationReason := reason }

def invalidateEvidence (id : EngineIncarnationId) (reason : Str) (s : Impl) : Impl :=
  { s.modifyInc id (setPreparation .invalidated) with
    evidence := s.evidence.modify id (List.map (invalidatedEvidence reason)) }

def invalidateIncarnationComponents (id : EngineIncarnationId) (reason : Str) : Rt Unit := do
  let s ← get
  let inc ← found (s.findInc id) (domainError .unknownIncarnation "unknown incarnation")
  modify (invalidateEvidence id reason)
  let gen ← unwrap inc.readinessGeneration.next
  modify (Impl.modifyInc id (setReadiness gen))
  return ()

/-! ## Recovery economics -/

def storeCosts (components : List CostComponent) (s : Impl) : Impl :=
  { s with costHistory := s.costHistory ++ components }

def aggregateRecoveryCost (components : List CostComponent) (action : RecoveryAction)
    (aggregationModel : Str) : Rt RecoveryCost := do
  let s ← get
  rejectIf (s.opts.maxCostSamples.toNat < s.costHistory.length + components.length)
    (domainError .boundsExceeded "max cost samples")
  modify (storeCosts components)
  return EngineResidency.aggregateRecoveryCost components action aggregationModel

/-! ## Persistence -/

/-- What a runtime saves. -/
def persisted (s : Impl) : PersistentState where
  coordinatorEpoch := s.authority.epoch.raw
  authorityGeneration := s.authority.authority.raw
  registrationCounter := s.authority.registrationCounter
  engines := s.engines.values
  profiles := s.profiles.values
  incarnations := s.incarnations.values
  evidence := s.evidence.values.flatten
  replacements := s.replacementPlans.values
  costHistory := s.costHistory

def serialize (s : Impl) : Except Err Str := Persistence.serializePersistentState (persisted s)

/-- A recovered incarnation has no authority until it revalidates. -/
def demoteRecovered (i : EngineIncarnation) : EngineIncarnation :=
  { i with
    state.recovery := .revalidating
    isCurrent := false
    state.activation := .inactive
    state.preparation := .revalidationRequired }

/-- Recovered evidence proves nothing. -/
def demoteEvidence (e : ComponentEvidence) : ComponentEvidence :=
  { e with state := .revalidationRequired }

/-- A recovered counter, or the first value when none was saved. -/
def orFirst (v : UInt64) : UInt64 := if v > 0 then v else 1

/-- The value the identity counters resume from after a recovery. -/
def kResumedCounter : UInt64 := 1000000

/-- The state after a recovery. Drains, uses, plans, attempts, activations, slots,
permits, consumed permits and fences are kept as they are. -/
def restored (s : Impl) (p : PersistentState) : Impl :=
  { s with
    authority :=
      { epoch := ⟨orFirst p.coordinatorEpoch⟩
        authority := ⟨orFirst p.authorityGeneration⟩
        registrationCounter := p.registrationCounter }
    engines := p.engines.foldl (fun m e => m.insert e.engineId e) ∅
    profiles := p.profiles.foldl (fun m q => m.insert q.profileId q) ∅
    incarnations := p.incarnations.foldl
      (fun m i => m.insert i.incarnationId (demoteRecovered i)) ∅
    evidence := p.evidence.foldl
      (fun m e => m.insert e.incarnationId
        ((m.lookup e.incarnationId).getD [] ++ [demoteEvidence e])) ∅
    replacementPlans := p.replacements.foldl (fun m r => m.insert r.replacementId r) ∅
    costHistory := p.costHistory
    currentByEngine := ∅
    idInc := kResumedCounter
    idEvid := kResumedCounter
    idUse := kResumedCounter
    idAttempt := kResumedCounter
    idPlan := kResumedCounter
    idActivation := kResumedCounter
    idRepl := kResumedCounter
    idPermit := kResumedCounter }

def load (blob : Str) : Rt Unit := do
  let p ← unwrap ((Persistence.deserializePersistentState blob).mapError
    (domainError .persistenceCorrupt))
  rejectIf (p.version ≠ kPersistenceVersion)
    (domainError .persistenceUnsupportedVersion "unsupported version")
  modify fun s => restored s p
  return ()

/-! ## Inspection -/

def currentReadinessGeneration (s : Impl) (id : EngineIncarnationId) :
    Except Err ReadinessGeneration :=
  (s.findInc id).elim (.error (domainError .unknownIncarnation "unknown incarnation"))
    fun i => .ok i.readinessGeneration

/-- An unknown incarnation counts as fenced. -/
def incarnationIsFenced (s : Impl) (id : EngineIncarnationId) : Bool :=
  match s.findInc id with
  | none => true
  | some i =>
    i.state.health == .fenced || i.state.registration == .fenced ||
      i.state.lifecycle == .lost || i.state.lifecycle == .retired

end EngineResidency.Runtime
