-- SUMMARY: What each operation of the runtime can do to the state, said once and proved of the operations.
import EngineResidency.Runtime.Step

/-!
# Transitions of the runtime

`Transition s op r s'` says once what an operation can do in a state: it refuses
before its first write, or it passes its checks and writes. An operation with a
late throw has one more rule for the writes that precede it. Every statement about
the runtime is derived from `step_transition`, not from the operations.
-/

namespace EngineResidency.Runtime

open EStateM

/-- What an interrupted configuration change leaves of a record. -/
def MaybeInvalidated (i i' : EngineIncarnation) : Prop :=
  i' = i ∨ ∃ gen, i' = setReadiness gen (setPreparation .invalidated i)

/-- The readiness generation stays, or counts on by one. -/
def KeepsOrCounts (i i' : EngineIncarnation) : Prop :=
  i'.readinessGeneration = i.readinessGeneration ∨
    i.readinessGeneration.next = .ok i'.readinessGeneration

/-- The checks of the completion of an attempt, and the outcome it then evaluates. -/
structure Completes (s : Impl) (a : PreparationAttempt) (inc : EngineIncarnation)
    (now : DurationNs) (outcome : ReadinessOutcome) : Prop where
  live : a.cancelled = false
  epoch : a.epoch = s.authority.epoch
  authority : a.authority = s.authority.authority
  evaluated : ∃ profile engine, s.profiles.lookup a.profileId = some profile ∧
    s.engines.lookup inc.engineId = some engine ∧
    outcome = (EngineResidency.evaluateReadiness engine profile inc
      (s.evidenceFor a.incarnationId) now).outcome

/-- What an operation can do in a state. -/
inductive Transition (s : Impl) : Op → Except Err Reply → Impl → Prop
  /-- A throw before the first write. -/
  | refused {op : Op} {e : Err} : Transition s op (.error e) s
  | defineEngineRefused {engine : EngineDefinition} {e : Err} :
    Transition s (.defineEngine engine) (.error e) (countEngine engine s)
  | defineEngine {engine stored : EngineDefinition}
    (hvalid : engine.engineId.isValid = true)
    (hroom : s.engines.size < s.opts.maxEngines.toNat)
    (hstored : stored = completedEngine (countEngine engine s) engine) :
    Transition s (.defineEngine engine) (.ok (.engine stored))
      (storeEngine stored (countEngine engine s))
  /-- The loop over the incarnations may throw between two of them. -/
  | updateEngineConfig {engineId : EngineId} {newGen : EngineConfigGeneration}
    {r : Except Err Reply} {f : EngineIncarnationId → EngineIncarnation → EngineIncarnation}
    {engine : EngineDefinition}
    (hr : r = .ok .done ∨ ∃ e, r = .error e) (hf : ∀ k i, MaybeInvalidated i (f k i))
    (hengine : s.engines.lookup engineId = some engine)
    (hlater : newGen.isAtOrBefore engine.configGeneration = false)
    (hgen : ∀ k i, s.findInc k = some i → KeepsOrCounts i (f k i))
    (hdone : r = .ok .done → ∀ k i, s.findInc k = some i → i.engineId = engineId →
      i.readinessGeneration.next = .ok (f k i).readinessGeneration)
    (hstuck : ∀ e, r = .error e → ∃ k i, s.findInc k = some i ∧ i.engineId = engineId ∧
      i.readinessGeneration.next = .error e) :
    Transition s (.updateEngineConfig engineId newGen) r
      { storeConfig engineId newGen s with incarnations := s.incarnations.mapEntries f }
  | defineProfileRefused {profile : ReadinessProfile} {e : Err} :
    Transition s (.defineProfile profile) (.error e) (countProfile profile s)
  | defineProfile {profile stored : ReadinessProfile} {engine : EngineDefinition}
    (hengine : s.engines.lookup profile.engineId = some engine)
    (hstored : stored = completedProfile (countProfile profile s) profile) :
    Transition s (.defineProfile profile) (.ok (.profile stored))
      (storeProfile stored (countProfile profile s))
  | issueRegistrationPermit {w : WorkerId} {b : WorkerBootId}
    (hboot : b.isBefore ⟨1⟩ = false) (hfenced : s.bootFenced w b = false)
    (hroom : s.permits.size < s.opts.maxRegistrationPermits.toNat) :
    Transition s (.issueRegistrationPermit w b) (.ok (.permit (nextPermit s w b)))
      (storePermit (nextPermit s w b) s)
  | registerIncarnation {inc : EngineIncarnation} {permit p : RegistrationPermit}
    {now : DurationNs} {engine : EngineDefinition}
    (hpermit : s.permits.lookup permit.permitId = some p) (hspent : p.consumed = false)
    (hworker : p.workerId = inc.workerId) (hboot : p.workerBoot = inc.workerBoot)
    (hepoch : p.epoch = s.authority.epoch)
    (hfenced : s.bootFenced inc.workerId inc.workerBoot = false)
    (hengine : s.engines.lookup inc.engineId = some engine)
    (hdup : s.incarnations.values.any (isDuplicateOf inc) = false)
    (hroom : s.incarnations.size < s.opts.maxIncarnations.toNat) :
    Transition s (.registerIncarnation inc permit now) (.ok (.incarnation (registered s inc now)))
      (enroll (registered s inc now) permit.permitId s)
  | markRunning {id : EngineIncarnationId} {now : DurationNs} {inc : EngineIncarnation}
    (hinc : s.findInc id = some inc) :
    Transition s (.markRunning id now) (.ok .done) (s.modifyInc id (running now))
  | revalidateExhausted {id : EngineIncarnationId} {inc : EngineIncarnation} {e : Err}
    (hinc : s.findInc id = some inc) (hgen : inc.readinessGeneration.next = .error e) :
    Transition s (.revalidate id) (.error e) (reinstate id inc s)
  | revalidate {id : EngineIncarnationId} {inc : EngineIncarnation} {gen : ReadinessGeneration}
    (hinc : s.findInc id = some inc) (hgen : inc.readinessGeneration.next = .ok gen) :
    Transition s (.revalidate id) (.ok .done) ((reinstate id inc s).modifyInc id (setReadiness gen))
  | fenceWorker {w : WorkerId} {b : WorkerBootId} :
    Transition s (.fenceWorker w b) (.ok .done) (fenceBoot w b s)
  | advanceEpochExhausted {epoch : CoordinatorEpoch} {e : Err}
    (hepoch : s.authority.epoch.next = .ok epoch)
    (hauthority : s.authority.authority.next = .error e) :
    Transition s .advanceEpoch (.error e) (setEpoch epoch s)
  | advanceEpoch {epoch : CoordinatorEpoch} {authority : AuthorityGeneration}
    (hepoch : s.authority.epoch.next = .ok epoch)
    (hauthority : s.authority.authority.next = .ok authority) :
    Transition s .advanceEpoch (.ok (.epoch epoch)) (enterAuthority authority (setEpoch epoch s))
  | publishComponent {ev : ComponentEvidence} {now : DurationNs} {inc : EngineIncarnation}
    (hinc : s.findInc ev.incarnationId = some inc)
    (hregistration : inc.state.registration ≠ .fenced) (hhealth : inc.state.health ≠ .fenced)
    (hfenced : s.bootFenced inc.workerId inc.workerBoot = false)
    (hepoch : ev.coordinatorEpoch = s.authority.epoch)
    (hroom : s.evidenceTotal < s.opts.maxComponentEvidence.toNat) :
    Transition s (.publishComponent ev now) (.ok (.evidence (stampedEvidence s ev now)))
      (storeEvidence (stampedEvidence s ev now) s)
  | createPreparationPlan {incId : EngineIncarnationId} {profId : ReadinessProfileId}
    {target : DesiredResidency} {now : DurationNs} {inc : EngineIncarnation}
    {profile : ReadinessProfile} {engine : EngineDefinition} {plan : PreparationPlan}
    (hinc : s.findInc incId = some inc) (hcurrent : inc.isCurrent = true)
    (hprofile : s.profiles.lookup profId = some profile)
    (hroom : s.plans.size < s.opts.maxPendingPreparationAttempts.toNat)
    (hengine : s.engines.lookup inc.engineId = some engine)
    (hplan : plan = nextPlan s inc profile incId profId target
      (EngineResidency.evaluateReadiness engine profile inc (s.evidenceFor incId) now).missing) :
    Transition s (.createPreparationPlan incId profId target now) (.ok (.plan plan))
      (storePlan plan s)
  | beginPreparation {plan stored : PreparationPlan} {inc : EngineIncarnation}
    (hplan : s.plans.lookup plan.planId = some stored)
    (hepoch : stored.epoch = s.authority.epoch)
    (hinc : s.findInc plan.incarnationId = some inc) (hcurrent : inc.isCurrent = true)
    (hfree : s.activeAttempt.lookup plan.incarnationId = none)
    (hroom : s.activeAttempt.size < s.opts.maxPendingPreparationAttempts.toNat) :
    Transition s (.beginPreparation plan) (.ok (.attempt (nextAttempt s plan)))
      (storeAttempt (nextAttempt s plan) s)
  | stepPreparation {attemptId : PreparationAttemptId} {a : PreparationAttempt}
    {plan : PreparationPlan}
    (hattempt : s.attempts.lookup attemptId = some a) (hlive : a.cancelled = false)
    (hepoch : a.epoch = s.authority.epoch) (hplan : s.plans.lookup a.planId = some plan) :
    Transition s (.stepPreparation attemptId) (.ok (.attempt (advanceAttempt plan a)))
      (s.modifyAttempt attemptId (advanceAttempt plan))
  | completePreparationExhausted {attemptId : PreparationAttemptId} {now : DurationNs}
    {a : PreparationAttempt} {inc : EngineIncarnation} {outcome : ReadinessOutcome} {e : Err}
    (hattempt : s.attempts.lookup attemptId = some a)
    (hinc : s.findInc a.incarnationId = some inc) (hcurrent : inc.isCurrent = true)
    (hserves : outcome.serves) (hcompletes : Completes s a inc now outcome)
    (hgen : inc.readinessGeneration.next = .error e) :
    Transition s (.completePreparation attemptId now) (.error e)
      (storeCompletion attemptId a.incarnationId outcome s)
  | completePreparation {attemptId : PreparationAttemptId} {now : DurationNs}
    {a : PreparationAttempt} {inc : EngineIncarnation} {outcome : ReadinessOutcome}
    {gen : ReadinessGeneration}
    (hattempt : s.attempts.lookup attemptId = some a) (hlive : a.cancelled = false)
    (hepoch : a.epoch = s.authority.epoch) (hauthority : a.authority = s.authority.authority)
    (hinc : s.findInc a.incarnationId = some inc) (hcurrent : inc.isCurrent = true)
    (hserves : outcome.serves) (hgen : inc.readinessGeneration.next = .ok gen)
    (hcompletes : Completes s a inc now outcome) :
    Transition s (.completePreparation attemptId now)
      (.ok (.attempt (completedAttempt outcome a)))
      (endAttempt a.incarnationId
        ((storeCompletion attemptId a.incarnationId outcome s).modifyInc a.incarnationId
          (publishReadiness gen)))
  | completePreparationFailed {attemptId : PreparationAttemptId} {now : DurationNs}
    {a : PreparationAttempt} {inc : EngineIncarnation} {outcome : ReadinessOutcome}
    (hattempt : s.attempts.lookup attemptId = some a) (hlive : a.cancelled = false)
    (hinc : s.findInc a.incarnationId = some inc) (hcurrent : inc.isCurrent = true)
    (hserves : ¬ outcome.serves) (hcompletes : Completes s a inc now outcome) :
    Transition s (.completePreparation attemptId now)
      (.ok (.attempt (completedAttempt outcome a)))
      (endAttempt a.incarnationId (storeCompletion attemptId a.incarnationId outcome s))
  | cancelPreparation {attemptId : PreparationAttemptId} {a : PreparationAttempt}
    (hattempt : s.attempts.lookup attemptId = some a) (hopen : a.publishedReady = false) :
    Transition s (.cancelPreparation attemptId) (.ok .done)
      (endAttempt a.incarnationId (s.modifyAttempt attemptId cancelled))
  | rollbackPreparation {attemptId : PreparationAttemptId} {a : PreparationAttempt}
    (hattempt : s.attempts.lookup attemptId = some a) :
    Transition s (.rollbackPreparation attemptId) (.ok .done)
      (endAttempt a.incarnationId (s.modifyAttempt attemptId rolledBack))
  | activate {req : ActivationRequest} {now : DurationNs} {inc : EngineIncarnation}
    (hauthority : req.callerAuthority = s.authority.authority)
    (hinc : s.findInc req.incarnationId = some inc)
    (hhealth : inc.state.health ≠ .fenced) (hregistration : inc.state.registration ≠ .fenced)
    (hrunning : inc.state.lifecycle = .running)
    (hgen : inc.readinessGeneration = req.readinessGeneration)
    (hgate : activationGate s req inc now = .ok ())
    (hslot : req.slotId.isValid = true → slotTaken s req.slotId inc = false) :
    Transition s (.activate req now) (.ok (.activation (nextActivation s req inc)))
      (grantActivation req.incarnationId inc (nextActivation s req inc) s)
  | acquireServingUse {wanted : ServingUseToken} {now admittedAt : DurationNs}
    {inc : EngineIncarnation} {profile : ReadinessProfile} {engine : EngineDefinition}
    (hinc : s.findInc wanted.incarnationId = some inc) (hcurrent : inc.isCurrent = true)
    (hrunning : inc.state.lifecycle = .running)
    (hdrain : s.admissionFenced wanted.incarnationId = false)
    (hgen : wanted.readinessGeneration = inc.readinessGeneration)
    (hprofile : s.profiles.lookup wanted.profileId = some profile)
    (hengine : s.engines.lookup inc.engineId = some engine)
    (hready : (EngineResidency.evaluateReadiness engine profile inc
      (s.evidenceFor inc.incarnationId) now).outcome.serves)
    (hroom : s.activeUseCount.toNat < s.opts.maxActiveUses.toNat) :
    Transition s (.acquireServingUse wanted now admittedAt)
      (.ok (.token (admittedToken s wanted)))
      (storeUse wanted.incarnationId (admittedUse s wanted inc admittedAt) s)
  /-- The underflow throws after the record has been released. -/
  | releaseServingUseUnderflow {token : ServingUseToken} {outcome : WorkOutcome} {detail : Str}
    {now : DurationNs} {use : ActiveUse} {e : Err}
    (huse : s.activeUses.lookup token.useId = some use) (hopen : use.released = false)
    (hinc : use.incarnationId = token.incarnationId) (hcount : s.activeUseCount = 0) :
    Transition s (.releaseServingUse token outcome detail now) (.error e)
      (s.modifyUse token.useId (closed outcome detail now))
  | releaseServingUse {token : ServingUseToken} {outcome : WorkOutcome} {detail : Str}
    {now : DurationNs} {use : ActiveUse}
    (huse : s.activeUses.lookup token.useId = some use) (hopen : use.released = false)
    (hinc : use.incarnationId = token.incarnationId) (hcount : s.activeUseCount ≠ 0) :
    Transition s (.releaseServingUse token outcome detail now) (.ok .done)
      (settle token.incarnationId (s.modifyUse token.useId (closed outcome detail now)))
  | requestDrainExhausted {id : EngineIncarnationId} {inc : EngineIncarnation} {e : Err}
    (hinc : s.findInc id = some inc)
    (hgen : ((s.drains.lookup id).getD {}).generation.next = .error e) :
    Transition s (.requestDrain id) (.error e) (s.touchDrain id)
  | requestDrain {id : EngineIncarnationId} {inc : EngineIncarnation} {gen : DrainGeneration}
    (hinc : s.findInc id = some inc)
    (hgen : ((s.drains.lookup id).getD {}).generation.next = .ok gen) :
    Transition s (.requestDrain id) (.ok .done) (beginDrain id gen (s.touchDrain id))
  | acknowledgeBackendCleanup {id : EngineIncarnationId} {d : DrainState}
    (hdrain : s.drains.lookup id = some d) :
    Transition s (.acknowledgeBackendCleanup id) (.ok .done)
      (s.modifyDrain id (acknowledged (s.remainingUses id)))
  | beginReplacement {plan : ReplacementPlan} {cand old : EngineIncarnation}
    (hepoch : plan.epoch = s.authority.epoch)
    (hauthority : plan.authority = s.authority.authority)
    (hcand : s.findInc plan.candidateIncarnation = some cand)
    (hrunning : cand.state.lifecycle = .running)
    (hold : s.findInc plan.oldIncarnation = some old)
    (hne : cand.incarnationId ≠ old.incarnationId) :
    Transition s (.beginReplacement plan) (.ok (.replacement (nextReplacement s plan)))
      (storeReplacement (nextReplacement s plan) s)
  | commitCutover {rid : ReplacementId} {p : ReplacementPlan} {cand : EngineIncarnation}
    (hplan : s.replacementPlans.lookup rid = some p) (hphase : p.phase = .preparing)
    (hcand : s.findInc p.candidateIncarnation = some cand)
    (hrunning : cand.state.lifecycle = .running) :
    Transition s (.commitCutover rid) (.ok (.replacement (setPhase .cutover p)))
      ((cutover p cand s).modifyReplacement rid (setPhase .cutover))
  | retireOld {rid : ReplacementId} {p : ReplacementPlan}
    (hplan : s.replacementPlans.lookup rid = some p) :
    Transition s (.retireOld rid) (.ok (.replacement (setPhase .complete p)))
      ((s.modifyInc p.oldIncarnation retired).modifyReplacement rid (setPhase .complete))
  | invalidateExhausted {id : EngineIncarnationId} {reason : Str} {inc : EngineIncarnation}
    {e : Err} (hinc : s.findInc id = some inc)
    (hgen : inc.readinessGeneration.next = .error e) :
    Transition s (.invalidateIncarnationComponents id reason) (.error e)
      (invalidateEvidence id reason s)
  | invalidateIncarnationComponents {id : EngineIncarnationId} {reason : Str}
    {inc : EngineIncarnation} {gen : ReadinessGeneration}
    (hinc : s.findInc id = some inc) (hgen : inc.readinessGeneration.next = .ok gen) :
    Transition s (.invalidateIncarnationComponents id reason) (.ok .done)
      ((invalidateEvidence id reason s).modifyInc id (setReadiness gen))
  | aggregateRecoveryCost {components : List CostComponent} {action : RecoveryAction}
    {aggregationModel : Str}
    (hroom : s.costHistory.length + components.length ≤ s.opts.maxCostSamples.toNat) :
    Transition s (.aggregateRecoveryCost components action aggregationModel)
      (.ok (.cost (EngineResidency.aggregateRecoveryCost components action aggregationModel)))
      (storeCosts components s)
  | load {blob : Str} {p : PersistentState}
    (hblob : Persistence.deserializePersistentState blob = .ok p) :
    Transition s (.load blob) (.ok .done) (restored s p)


/-! ## The operations make these transitions -/

section Soundness

variable {s : Impl}

/-- The operation `m`, which `op` names, makes a transition of `op`. -/
def Makes {α : Type} (s : Impl) (op : Op) (reply : α → Reply) (m : Rt α) : Prop :=
  wp m (fun r s' => Transition s op (r.map reply) s') s

theorem defineEngine_makes (engine : EngineDefinition) :
    Makes s (.defineEngine engine) .engine (defineEngine engine) := by
  refine wp_rejectIf (fun _ => .refused) fun hvalid => ?_
  refine wp_modify (wp_get ?_)
  refine wp_rejectIf (fun _ => .defineEngineRefused) fun hroom => ?_
  exact wp_modify (wp_pure (.defineEngine (by simpa using hvalid) (Nat.lt_of_not_le hroom) rfl))

theorem defineProfile_makes (profile : ReadinessProfile) :
    Makes s (.defineProfile profile) .profile (defineProfile profile) := by
  refine wp_modify (wp_get ?_)
  refine wp_found (fun _ => .defineProfileRefused) fun engine hengine => ?_
  exact wp_modify (wp_pure (.defineProfile hengine rfl))

theorem issueRegistrationPermit_makes (w : WorkerId) (b : WorkerBootId) :
    Makes s (.issueRegistrationPermit w b) .permit (issueRegistrationPermit w b) := by
  refine wp_get ?_
  refine wp_rejectIf (fun _ => .refused) fun hboot => ?_
  refine wp_rejectIf (fun _ => .refused) fun hfenced => ?_
  refine wp_rejectIf (fun _ => .refused) fun hroom => ?_
  exact wp_modify (wp_pure (.issueRegistrationPermit (Bool.eq_false_iff.mpr hboot)
    (Bool.eq_false_iff.mpr hfenced) (Nat.lt_of_not_le hroom)))

theorem registerIncarnation_makes (inc : EngineIncarnation) (permit : RegistrationPermit)
    (now : DurationNs) :
    Makes s (.registerIncarnation inc permit now) .incarnation
      (registerIncarnation inc permit now) := by
  refine wp_get ?_
  refine wp_found (fun _ => .refused) fun p hpermit => ?_
  refine wp_rejectIf (fun _ => .refused) fun hspent => ?_
  refine wp_rejectIf (fun _ => .refused) fun hmatch => ?_
  refine wp_rejectIf (fun _ => .refused) fun hepoch => ?_
  refine wp_rejectIf (fun _ => .refused) fun hfenced => ?_
  refine wp_found (fun _ => .refused) fun engine hengine => ?_
  refine wp_rejectIf (fun _ => .refused) fun hdup => ?_
  refine wp_rejectIf (fun _ => .refused) fun hroom => ?_
  rw [not_or, not_not, not_not] at hmatch
  exact wp_modify (wp_pure (.registerIncarnation hpermit (Bool.eq_false_iff.mpr hspent) hmatch.1
    hmatch.2 (not_not.mp hepoch) (Bool.eq_false_iff.mpr hfenced) hengine
    (Bool.eq_false_iff.mpr hdup) (Nat.lt_of_not_le hroom)))

theorem markRunning_makes (id : EngineIncarnationId) (now : DurationNs) :
    Makes s (.markRunning id now) (fun _ => .done) (markRunning id now) := by
  refine wp_get ?_
  refine wp_found (fun _ => .refused) fun inc hinc => ?_
  exact wp_modify (wp_pure (.markRunning hinc))

theorem revalidate_makes (id : EngineIncarnationId) :
    Makes s (.revalidate id) (fun _ => .done) (revalidate id) := by
  refine wp_get ?_
  refine wp_found (fun _ => .refused) fun inc hinc => ?_
  refine wp_modify ?_
  refine wp_unwrap (fun e hgen => .revalidateExhausted hinc hgen) fun gen hgen => ?_
  exact wp_modify (wp_pure (.revalidate hinc hgen))

theorem fenceWorker_makes (w : WorkerId) (b : WorkerBootId) :
    Makes s (.fenceWorker w b) (fun _ => .done) (fenceWorker w b) :=
  wp_modify (wp_pure .fenceWorker)

theorem advanceEpoch_makes : Makes s .advanceEpoch .epoch advanceEpoch := by
  refine wp_get ?_
  refine wp_unwrap (fun e _ => .refused) fun epoch hepoch => ?_
  refine wp_modify ?_
  refine wp_unwrap (fun e hauthority => .advanceEpochExhausted hepoch hauthority) fun authority hauthority => ?_
  exact wp_modify (wp_pure (.advanceEpoch hepoch hauthority))

theorem publishComponent_makes (ev : ComponentEvidence) (now : DurationNs) :
    Makes s (.publishComponent ev now) .evidence (publishComponent ev now) := by
  refine wp_get ?_
  refine wp_found (fun _ => .refused) fun inc hinc => ?_
  refine wp_rejectIf (fun _ => .refused) fun hstate => ?_
  refine wp_rejectIf (fun _ => .refused) fun hfenced => ?_
  refine wp_rejectIf (fun _ => .refused) fun hepoch => ?_
  refine wp_rejectIf (fun _ => .refused) fun hroom => ?_
  rw [not_or] at hstate
  exact wp_modify (wp_pure (.publishComponent hinc hstate.1 hstate.2
    (Bool.eq_false_iff.mpr hfenced) (not_not.mp hepoch) (Nat.lt_of_not_le hroom)))

theorem createPreparationPlan_makes (incId : EngineIncarnationId) (profId : ReadinessProfileId)
    (target : DesiredResidency) (now : DurationNs) :
    Makes s (.createPreparationPlan incId profId target now) .plan
      (createPreparationPlan incId profId target now) := by
  refine wp_get ?_
  refine wp_found (fun _ => .refused) fun inc hinc => ?_
  refine wp_rejectIf (fun _ => .refused) fun hcurrent => ?_
  refine wp_found (fun _ => .refused) fun profile hprofile => ?_
  refine wp_rejectIf (fun _ => .refused) fun hroom => ?_
  refine wp_found (fun _ => .refused) fun engine hengine => ?_
  exact wp_modify (wp_pure (.createPreparationPlan hinc (by simpa using hcurrent) hprofile
    (Nat.lt_of_not_le hroom) hengine rfl))

theorem beginPreparation_makes (plan : PreparationPlan) :
    Makes s (.beginPreparation plan) .attempt (beginPreparation plan) := by
  refine wp_get ?_
  refine wp_found (fun _ => .refused) fun stored hplan => ?_
  refine wp_rejectIf (fun _ => .refused) fun hepoch => ?_
  refine wp_found (fun _ => .refused) fun inc hinc => ?_
  refine wp_rejectIf (fun _ => .refused) fun hcurrent => ?_
  refine wp_rejectIf (fun _ => .refused) fun hfree => ?_
  refine wp_rejectIf (fun _ => .refused) fun hroom => ?_
  exact wp_modify (wp_pure (.beginPreparation hplan (not_not.mp hepoch) hinc
    (by simpa using hcurrent) (by simpa using hfree) (Nat.lt_of_not_le hroom)))

theorem stepPreparation_makes (attemptId : PreparationAttemptId) :
    Makes s (.stepPreparation attemptId) .attempt (stepPreparation attemptId) := by
  refine wp_get ?_
  refine wp_found (fun _ => .refused) fun a hattempt => ?_
  refine wp_rejectIf (fun _ => .refused) fun hlive => ?_
  refine wp_rejectIf (fun _ => .refused) fun hepoch => ?_
  refine wp_found (fun _ => .refused) fun plan hplan => ?_
  exact wp_modify (wp_pure (.stepPreparation hattempt (Bool.eq_false_iff.mpr hlive)
    (not_not.mp hepoch) hplan))

theorem cancelPreparation_makes (attemptId : PreparationAttemptId) :
    Makes s (.cancelPreparation attemptId) (fun _ => .done) (cancelPreparation attemptId) := by
  refine wp_get ?_
  refine wp_found (fun _ => .refused) fun a hattempt => ?_
  refine wp_rejectIf (fun _ => .refused) fun hopen => ?_
  exact wp_modify (wp_pure (.cancelPreparation hattempt (Bool.eq_false_iff.mpr hopen)))

theorem rollbackPreparation_makes (attemptId : PreparationAttemptId) :
    Makes s (.rollbackPreparation attemptId) (fun _ => .done) (rollbackPreparation attemptId) := by
  refine wp_get ?_
  refine wp_found (fun _ => .refused) fun a hattempt => ?_
  exact wp_modify (wp_pure (.rollbackPreparation hattempt))

theorem completePreparation_makes (attemptId : PreparationAttemptId) (now : DurationNs) :
    Makes s (.completePreparation attemptId now) .attempt
      (completePreparation attemptId now) := by
  refine wp_get ?_
  refine wp_found (fun _ => .refused) fun a hattempt => ?_
  refine wp_rejectIf (fun _ => .refused) fun hlive => ?_
  refine wp_rejectIf (fun _ => .refused) fun hepoch => ?_
  refine wp_rejectIf (fun _ => .refused) fun hauthority => ?_
  refine wp_found (fun _ => .refused) fun inc hinc => ?_
  refine wp_rejectIf (fun _ => .refused) fun hcurrent => ?_
  refine wp_found (fun _ => .refused) fun profile hprofile => ?_
  refine wp_found (fun _ => .refused) fun engine hengine => ?_
  refine wp_modify ?_
  rw [Bool.not_eq_false] at hcurrent
  rw [Bool.not_eq_true] at hlive
  have hcompletes : Completes s a inc now (EngineResidency.evaluateReadiness engine profile inc
      (s.evidenceFor a.incarnationId) now).outcome :=
    ⟨hlive, not_not.mp hepoch, not_not.mp hauthority, profile, engine, hprofile, hengine, rfl⟩
  refine wp_ite (fun hserves => ?_) fun hserves => ?_
  · refine wp_unwrap (fun e hgen => .completePreparationExhausted hattempt hinc hcurrent hserves
      hcompletes hgen) fun gen hgen => ?_
    exact wp_modify (wp_modify (wp_pure (.completePreparation hattempt hlive (not_not.mp hepoch)
      (not_not.mp hauthority) hinc hcurrent hserves hgen hcompletes)))
  · exact wp_modify (wp_pure (.completePreparationFailed hattempt hlive hinc hcurrent hserves
      hcompletes))

theorem activate_makes (req : ActivationRequest) (now : DurationNs) :
    Makes s (.activate req now) .activation (activate req now) := by
  refine wp_get ?_
  refine wp_rejectIf (fun _ => .refused) fun hauthority => ?_
  refine wp_found (fun _ => .refused) fun inc hinc => ?_
  refine wp_rejectIf (fun _ => .refused) fun hfenced => ?_
  refine wp_rejectIf (fun _ => .refused) fun hrunning => ?_
  refine wp_rejectIf (fun _ => .refused) fun hgen => ?_
  refine wp_unwrap (fun _ _ => .refused) fun _ hgate => ?_
  refine wp_rejectIf (fun _ => .refused) fun hslot => ?_
  rw [not_or] at hfenced
  exact wp_modify (wp_pure (.activate (not_not.mp hauthority) hinc hfenced.1 hfenced.2
    (not_not.mp hrunning) (not_not.mp hgen) hgate (by simpa using hslot)))

theorem acquireServingUse_makes (wanted : ServingUseToken) (now admittedAt : DurationNs) :
    Makes s (.acquireServingUse wanted now admittedAt) .token
      (acquireServingUse wanted now admittedAt) := by
  refine wp_get ?_
  refine wp_found (fun _ => .refused) fun inc hinc => ?_
  refine wp_rejectIf (fun _ => .refused) fun hcurrent => ?_
  refine wp_rejectIf (fun _ => .refused) fun hrunning => ?_
  refine wp_rejectIf (fun _ => .refused) fun hdrain => ?_
  refine wp_rejectIf (fun _ => .refused) fun hgen => ?_
  refine wp_found (fun _ => .refused) fun profile hprofile => ?_
  refine wp_found (fun _ => .refused) fun engine hengine => ?_
  refine wp_rejectIf (fun _ => .refused) fun hready => ?_
  refine wp_rejectIf (fun _ => .refused) fun hroom => ?_
  exact wp_modify (wp_pure (.acquireServingUse hinc (by simpa using hcurrent)
    (not_not.mp hrunning) (Bool.eq_false_iff.mpr hdrain) (not_not.mp hgen) hprofile hengine
    (not_not.mp hready) (Nat.lt_of_not_le hroom)))

theorem releaseServingUse_makes (token : ServingUseToken) (outcome : WorkOutcome) (detail : Str)
    (now : DurationNs) :
    Makes s (.releaseServingUse token outcome detail now) (fun _ => .done)
      (releaseServingUse token outcome detail now) := by
  refine wp_get ?_
  refine wp_found (fun _ => .refused) fun use huse => ?_
  refine wp_rejectIf (fun _ => .refused) fun hopen => ?_
  refine wp_rejectIf (fun _ => .refused) fun hinc => ?_
  rw [Bool.not_eq_true] at hopen
  refine wp_modify ?_
  refine wp_rejectIf
    (fun hcount => .releaseServingUseUnderflow huse hopen (not_not.mp hinc) hcount)
    fun hcount => ?_
  exact wp_modify (wp_pure (.releaseServingUse huse hopen (not_not.mp hinc) hcount))

theorem requestDrain_makes (id : EngineIncarnationId) :
    Makes s (.requestDrain id) (fun _ => .done) (requestDrain id) := by
  refine wp_get ?_
  refine wp_found (fun _ => .refused) fun inc hinc => ?_
  refine wp_modify ?_
  refine wp_unwrap (fun e hgen => .requestDrainExhausted hinc hgen) fun gen hgen => ?_
  exact wp_modify (wp_pure (.requestDrain hinc hgen))

theorem acknowledgeBackendCleanup_makes (id : EngineIncarnationId) :
    Makes s (.acknowledgeBackendCleanup id) (fun _ => .done) (acknowledgeBackendCleanup id) := by
  refine wp_get ?_
  refine wp_found (fun _ => .refused) fun d hdrain => ?_
  exact wp_modify (wp_pure (.acknowledgeBackendCleanup hdrain))

theorem beginReplacement_makes (plan : ReplacementPlan) :
    Makes s (.beginReplacement plan) .replacement (beginReplacement plan) := by
  refine wp_get ?_
  refine wp_rejectIf (fun _ => .refused) fun hepoch => ?_
  refine wp_rejectIf (fun _ => .refused) fun hauthority => ?_
  refine wp_found (fun _ => .refused) fun cand hcand => ?_
  refine wp_rejectIf (fun _ => .refused) fun hrunning => ?_
  refine wp_found (fun _ => .refused) fun old hold => ?_
  refine wp_rejectIf (fun _ => .refused) fun hne => ?_
  exact wp_modify (wp_pure (.beginReplacement (not_not.mp hepoch) (not_not.mp hauthority) hcand
    (not_not.mp hrunning) hold hne))

theorem commitCutover_makes (rid : ReplacementId) :
    Makes s (.commitCutover rid) .replacement (commitCutover rid) := by
  refine wp_get ?_
  refine wp_found (fun _ => .refused) fun p hplan => ?_
  refine wp_rejectIf (fun _ => .refused) fun hphase => ?_
  refine wp_found (fun _ => .refused) fun cand hcand => ?_
  refine wp_rejectIf (fun _ => .refused) fun hrunning => ?_
  exact wp_modify (wp_pure (.commitCutover hplan (not_not.mp hphase) hcand
    (not_not.mp hrunning)))

theorem retireOld_makes (rid : ReplacementId) :
    Makes s (.retireOld rid) .replacement (retireOld rid) := by
  refine wp_get ?_
  refine wp_found (fun _ => .refused) fun p hplan => ?_
  exact wp_modify (wp_pure (.retireOld hplan))

theorem invalidateIncarnationComponents_makes (id : EngineIncarnationId) (reason : Str) :
    Makes s (.invalidateIncarnationComponents id reason) (fun _ => .done)
      (invalidateIncarnationComponents id reason) := by
  refine wp_get ?_
  refine wp_found (fun _ => .refused) fun inc hinc => ?_
  refine wp_modify ?_
  refine wp_unwrap (fun e hgen => .invalidateExhausted hinc hgen) fun gen hgen => ?_
  exact wp_modify (wp_pure (.invalidateIncarnationComponents hinc hgen))

theorem aggregateRecoveryCost_makes (components : List CostComponent) (action : RecoveryAction)
    (aggregationModel : Str) :
    Makes s (.aggregateRecoveryCost components action aggregationModel) .cost
      (aggregateRecoveryCost components action aggregationModel) := by
  refine wp_get ?_
  refine wp_rejectIf (fun _ => .refused) fun hroom => ?_
  exact wp_modify (wp_pure (.aggregateRecoveryCost (Nat.le_of_not_lt hroom)))

theorem load_makes (blob : Str) : Makes s (.load blob) (fun _ => .done) (load blob) := by
  refine wp_unwrap (fun _ _ => .refused) fun p hblob => ?_
  refine wp_rejectIf (fun _ => .refused) fun _ => ?_
  have hok : Persistence.deserializePersistentState blob = .ok p := by
    cases hres : Persistence.deserializePersistentState blob with
    | error msg => simp [hres, Except.mapError] at hblob
    | ok q => simpa [hres, Except.mapError] using hblob
  exact wp_modify (wp_pure (.load hok))

/-! ### The loop of a configuration change -/

theorem MaybeInvalidated.refl (i : EngineIncarnation) : MaybeInvalidated i i := .inl rfl

theorem MaybeInvalidated.invalidate {i i' : EngineIncarnation} (gen : ReadinessGeneration)
    (h : MaybeInvalidated i i') :
    MaybeInvalidated i (setReadiness gen (setPreparation .invalidated i')) := by
  rcases h with rfl | ⟨gen', rfl⟩
  · exact .inr ⟨gen, rfl⟩
  · exact .inr ⟨gen, rfl⟩

/-- The state after the loop has treated the incarnations `done`: their records are
invalidated with a new generation, the others are as they were. -/
structure Invalidating (s : Impl) (engineId : EngineId) (newGen : EngineConfigGeneration)
    (f : EngineIncarnationId → EngineIncarnation → EngineIncarnation)
    (done : List EngineIncarnationId) (t : Impl) : Prop where
  eq : t = { storeConfig engineId newGen s with incarnations := s.incarnations.mapEntries f }
  maybe : ∀ k i, MaybeInvalidated i (f k i)
  waiting : ∀ k i, k ∉ done → f k i = i
  counted : ∀ k i, s.findInc k = some i → KeepsOrCounts i (f k i)
  treated : ∀ k ∈ done, ∀ i, s.findInc k = some i → i.engineId = engineId →
    i.readinessGeneration.next = .ok (f k i).readinessGeneration

/-- The function that also rewrites the record of `id` with `g`. -/
def rewriting (f : EngineIncarnationId → EngineIncarnation → EngineIncarnation)
    (id : EngineIncarnationId) (g : EngineIncarnation → EngineIncarnation) :
    EngineIncarnationId → EngineIncarnation → EngineIncarnation :=
  fun k i => if k = id then g (f k i) else f k i

section Loop

variable {engineId : EngineId} {newGen : EngineConfigGeneration} {t : Impl}
  {f : EngineIncarnationId → EngineIncarnation → EngineIncarnation}
  {done : List EngineIncarnationId} {id : EngineIncarnationId}

theorem invalidating_nil (s : Impl) (engineId : EngineId) (newGen : EngineConfigGeneration) :
    Invalidating s engineId newGen (fun _ i => i) [] (storeConfig engineId newGen s) where
  eq := by rw [AList.mapEntries_id]; rfl
  maybe _ i := .refl i
  waiting _ _ _ := rfl
  counted _ _ _ := .inl rfl
  treated _ hk := absurd hk List.not_mem_nil

theorem Invalidating.findInc (h : Invalidating s engineId newGen f done t) (hid : id ∉ done) :
    t.findInc id = s.findInc id := by
  rw [h.eq, Impl.findInc, Impl.findInc, AList.lookup_mapEntries]
  cases s.incarnations.lookup id with
  | none => rfl
  | some i => exact congrArg some (h.waiting id i hid)

/-- An incarnation that the loop leaves alone. -/
theorem Invalidating.skip (h : Invalidating s engineId newGen f done t)
    (hskip : ∀ i, s.findInc id = some i → i.engineId ≠ engineId) :
    Invalidating s engineId newGen f (done ++ [id]) t where
  eq := h.eq
  maybe := h.maybe
  waiting k i hk := h.waiting k i fun hmem => hk (List.mem_append_left _ hmem)
  counted := h.counted
  treated k hk i hi hengine := by
    rcases List.mem_append.mp hk with hk | hk
    · exact h.treated k hk i hi hengine
    · obtain rfl := List.mem_singleton.mp hk
      exact absurd hengine (hskip i hi)

/-- An incarnation that the loop invalidates. -/
theorem Invalidating.invalidate {inc : EngineIncarnation} {gen : ReadinessGeneration}
    (h : Invalidating s engineId newGen f done t) (hid : id ∉ done)
    (hinc : s.findInc id = some inc) (hgen : inc.readinessGeneration.next = .ok gen) :
    Invalidating s engineId newGen
      (rewriting f id fun i => setReadiness gen (setPreparation .invalidated i)) (done ++ [id])
      (t.modifyInc id fun i => setReadiness gen (setPreparation .invalidated i)) where
  eq := by
    rw [h.eq]
    simp only [Impl.modifyInc, AList.modify, AList.mapEntries_mapEntries]
    rfl
  maybe k i := by
    unfold rewriting
    split
    · exact (h.maybe k i).invalidate gen
    · exact h.maybe k i
  waiting k i hk := by
    rw [List.mem_append, List.mem_singleton, not_or] at hk
    rw [rewriting, if_neg hk.2]
    exact h.waiting k i hk.1
  counted k i hi := by
    unfold rewriting
    split
    · rename_i hk
      subst hk
      cases hi.symm.trans hinc
      exact .inr hgen
    · exact h.counted k i hi
  treated k hk i hi hengine := by
    unfold rewriting
    split
    · rename_i heq
      subst heq
      cases hi.symm.trans hinc
      exact hgen
    · rename_i hne
      rcases List.mem_append.mp hk with hk | hk
      · exact h.treated k hk i hi hengine
      · exact absurd (List.mem_singleton.mp hk) hne

/-- The loop stops at an incarnation whose generation is exhausted. The record keeps the
generation and is invalidated all the same. -/
theorem Invalidating.stuck {engine : EngineDefinition} {inc : EngineIncarnation} {e : Err}
    (h : Invalidating s engineId newGen f done t)
    (hengine : s.engines.lookup engineId = some engine)
    (hlater : newGen.isAtOrBefore engine.configGeneration = false)
    (hinc : s.findInc id = some inc) (howner : inc.engineId = engineId)
    (hgen : inc.readinessGeneration.next = .error e) :
    Transition s (.updateEngineConfig engineId newGen) (.error e)
      (t.modifyInc id (setPreparation .invalidated)) := by
  have heq : t.modifyInc id (setPreparation .invalidated) =
      { storeConfig engineId newGen s with
        incarnations := s.incarnations.mapEntries
          (rewriting f id (setPreparation .invalidated)) } := by
    rw [h.eq]
    simp only [Impl.modifyInc, AList.modify, AList.mapEntries_mapEntries]
    rfl
  rw [heq]
  refine .updateEngineConfig (.inr ⟨e, rfl⟩) (fun k i => ?_) hengine hlater (fun k i hi => ?_)
    (by simp) fun e' he' => ?_
  · unfold rewriting
    split
    · exact (h.maybe k i).invalidate (f k i).readinessGeneration
    · exact h.maybe k i
  · unfold rewriting
    split
    · exact h.counted k i hi
    · exact h.counted k i hi
  · cases he'
    exact ⟨id, inc, hinc, howner, hgen⟩

theorem Invalidating.finished {engine : EngineDefinition}
    (h : Invalidating s engineId newGen f s.incarnations.keys t)
    (hengine : s.engines.lookup engineId = some engine)
    (hlater : newGen.isAtOrBefore engine.configGeneration = false) :
    Transition s (.updateEngineConfig engineId newGen) (.ok .done) t := by
  rw [h.eq]
  exact .updateEngineConfig (.inl rfl) h.maybe hengine hlater h.counted
    (fun _ k i hi => h.treated k (AList.mem_of_lookup hi) i hi) nofun

end Loop

/-- One iteration of the loop. -/
theorem invalidateForConfig_invalidating {engineId : EngineId} {newGen : EngineConfigGeneration}
    {t : Impl} {engine : EngineDefinition} {done : List EngineIncarnationId}
    {f : EngineIncarnationId → EngineIncarnation → EngineIncarnation} {id : EngineIncarnationId}
    (h : Invalidating s engineId newGen f done t) (hid : id ∉ done)
    (hengine : s.engines.lookup engineId = some engine)
    (hlater : newGen.isAtOrBefore engine.configGeneration = false) :
    wp (invalidateForConfig engineId id) (fun r t' => match r with
      | .ok _ => ∃ f', Invalidating s engineId newGen f' (done ++ [id]) t'
      | .error e => Transition s (.updateEngineConfig engineId newGen) (.error e) t') t := by
  refine wp_get ?_
  rw [h.findInc hid]
  cases hinc : s.findInc id with
  | none =>
    refine wp_pure ⟨f, h.skip fun i hi => ?_⟩
    rw [hinc] at hi
    cases hi
  | some inc =>
    refine wp_ite (fun howner => ?_) fun howner => wp_pure ⟨f, h.skip fun i hi => ?_⟩
    · refine wp_modify ?_
      refine wp_unwrap (fun e hgen => h.stuck hengine hlater hinc howner hgen) fun gen hgen => ?_
      have hjoin : (t.modifyInc id (setPreparation .invalidated)).modifyInc id (setReadiness gen) =
          t.modifyInc id fun i => setReadiness gen (setPreparation .invalidated i) := by
        simp only [Impl.modifyInc, AList.modify_modify]
      have hnext := h.invalidate hid hinc hgen
      rw [← hjoin] at hnext
      exact ⟨_, hnext⟩
    · cases hi.symm.trans hinc
      exact howner

theorem updateEngineConfig_makes (engineId : EngineId) (newGen : EngineConfigGeneration) :
    Makes s (.updateEngineConfig engineId newGen) (fun _ => .done)
      (updateEngineConfig engineId newGen) := by
  refine wp_get ?_
  refine wp_found (fun _ => .refused) fun engine hengine => ?_
  refine wp_rejectIf (fun _ => .refused) fun hlater => ?_
  rw [Bool.not_eq_true] at hlater
  refine wp_modify ?_
  refine wp_forM (I := fun done t => ∃ f, Invalidating s engineId newGen f done t)
    ⟨_, invalidating_nil s engineId newGen⟩ (fun pre id post heq t ht => ?_) fun t ht => ?_
  · obtain ⟨f, hf⟩ := ht
    have hid : id ∉ pre := by
      have hnodup : s.incarnations.keys.Nodup := s.incarnations.keys_nodup
      rw [heq] at hnodup
      exact fun hmem => (List.nodup_append.mp hnodup).2.2 id hmem id List.mem_cons_self rfl
    refine wp_mono (invalidateForConfig_invalidating hf hid hengine hlater) fun r t' ht' => ?_
    cases r with
    | ok _ => exact ht'
    | error e => exact ht'
  · obtain ⟨f, hf⟩ := ht
    exact wp_pure (hf.finished hengine hlater)

end Soundness

/-- Every operation makes one of its transitions. -/
theorem step_transition (s : Impl) (op : Op) :
    Transition s op (machine.result s op) (machine.next s op) := by
  have h : wp (step op) (Transition s op) s := by
    cases op with
    | defineEngine engine => exact wp_map (defineEngine_makes engine)
    | updateEngineConfig engineId newGen => exact wp_map (updateEngineConfig_makes engineId newGen)
    | defineProfile profile => exact wp_map (defineProfile_makes profile)
    | issueRegistrationPermit w b => exact wp_map (issueRegistrationPermit_makes w b)
    | registerIncarnation inc permit now =>
      exact wp_map (registerIncarnation_makes inc permit now)
    | markRunning id now => exact wp_map (markRunning_makes id now)
    | revalidate id => exact wp_map (revalidate_makes id)
    | fenceWorker w b => exact wp_map (fenceWorker_makes w b)
    | advanceEpoch => exact wp_map advanceEpoch_makes
    | publishComponent ev now => exact wp_map (publishComponent_makes ev now)
    | createPreparationPlan incId profId target now =>
      exact wp_map (createPreparationPlan_makes incId profId target now)
    | beginPreparation plan => exact wp_map (beginPreparation_makes plan)
    | stepPreparation attemptId => exact wp_map (stepPreparation_makes attemptId)
    | completePreparation attemptId now => exact wp_map (completePreparation_makes attemptId now)
    | cancelPreparation attemptId => exact wp_map (cancelPreparation_makes attemptId)
    | rollbackPreparation attemptId => exact wp_map (rollbackPreparation_makes attemptId)
    | activate req now => exact wp_map (activate_makes req now)
    | acquireServingUse wanted now admittedAt =>
      exact wp_map (acquireServingUse_makes wanted now admittedAt)
    | releaseServingUse token outcome detail now =>
      exact wp_map (releaseServingUse_makes token outcome detail now)
    | requestDrain id => exact wp_map (requestDrain_makes id)
    | acknowledgeBackendCleanup id => exact wp_map (acknowledgeBackendCleanup_makes id)
    | beginReplacement plan => exact wp_map (beginReplacement_makes plan)
    | commitCutover rid => exact wp_map (commitCutover_makes rid)
    | retireOld rid => exact wp_map (retireOld_makes rid)
    | invalidateIncarnationComponents id reason =>
      exact wp_map (invalidateIncarnationComponents_makes id reason)
    | aggregateRecoveryCost components action aggregationModel =>
      exact wp_map (aggregateRecoveryCost_makes components action aggregationModel)
    | load blob => exact wp_map (load_makes blob)
  exact wp_iff.mp h

/-- The checks that an admitted use has passed. -/
structure Admissible (s : Impl) (wanted : ServingUseToken) (now : DurationNs)
    (inc : EngineIncarnation) (profile : ReadinessProfile) (engine : EngineDefinition) :
    Prop where
  found : s.findInc wanted.incarnationId = some inc
  current : inc.isCurrent = true
  running : inc.state.lifecycle = .running
  undrained : s.admissionFenced wanted.incarnationId = false
  profiled : s.profiles.lookup wanted.profileId = some profile
  defined : s.engines.lookup inc.engineId = some engine
  ready : (EngineResidency.evaluateReadiness engine profile inc
    (s.evidenceFor inc.incarnationId) now).outcome.serves

theorem acquireServingUse_ok {s : Impl} {wanted : ServingUseToken} {now admittedAt : DurationNs}
    {reply : Reply}
    (h : machine.result s (.acquireServingUse wanted now admittedAt) = .ok reply) :
    ∃ inc profile engine, Admissible s wanted now inc profile engine := by
  have hstep := step_transition s (.acquireServingUse wanted now admittedAt)
  rw [h] at hstep
  generalize machine.next s (.acquireServingUse wanted now admittedAt) = s' at hstep
  cases hstep with
  | acquireServingUse hinc hcurrent hrunning hdrain hgen hprofile hengine hready hroom =>
    exact ⟨_, _, _, hinc, hcurrent, hrunning, hdrain, hprofile, hengine, hready⟩

/-- A recovery from an accepted blob succeeds. -/
theorem load_ok {s : Impl} {blob : Str} {p : PersistentState}
    (h : Persistence.deserializePersistentState blob = .ok p)
    (hversion : p.version = kPersistenceVersion) :
    machine.step (.load blob) s = (.ok .done, restored s p) := by
  have hwp : wp (step (.load blob)) (fun r s' => r = .ok .done ∧ s' = restored s p) s := by
    refine wp_map ?_
    rw [load, h]
    refine wp_unwrap (fun _ he => nomatch he) fun q hq => ?_
    cases hq
    refine wp_rejectIf (fun hne => absurd hversion hne) fun _ => ?_
    exact wp_modify (wp_pure ⟨rfl, rfl⟩)
  obtain ⟨hresult, hnext⟩ := wp_iff.mp hwp
  exact Prod.ext hresult hnext

/-! ## Completed attempts -/

theorem completedAttempt_incarnationId (outcome : ReadinessOutcome) (a : PreparationAttempt) :
    (completedAttempt outcome a).incarnationId = a.incarnationId := by
  unfold completedAttempt
  split
  · rfl
  · rfl

theorem completedAttempt_failed {outcome : ReadinessOutcome} (a : PreparationAttempt)
    (h : ¬ outcome.serves) : (completedAttempt outcome a).state = .failed := by
  simp [completedAttempt, h]

theorem completedAttempt_publishedReady {outcome : ReadinessOutcome} (a : PreparationAttempt)
    (h : ¬ outcome.serves) : (completedAttempt outcome a).publishedReady = a.publishedReady := by
  simp [completedAttempt, h]

end EngineResidency.Runtime
