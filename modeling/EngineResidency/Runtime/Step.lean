-- SUMMARY: The runtime as a machine over its public operations.
import EngineResidency.Base.Machine
import EngineResidency.Runtime.Operations

/-!
# The runtime as a machine

`Op` lists the public operations that may write; the public queries are functions
of the state and change nothing. `machine` runs one operation at a time: a throw is
a result, and the caller goes on from the state the throw left behind.
-/

namespace EngineResidency.Runtime

open EStateM

/-- The public operations that may write. -/
inductive Op where
  | defineEngine (engine : EngineDefinition)
  | updateEngineConfig (engineId : EngineId) (newGen : EngineConfigGeneration)
  | defineProfile (profile : ReadinessProfile)
  | issueRegistrationPermit (w : WorkerId) (b : WorkerBootId)
  | registerIncarnation (inc : EngineIncarnation) (permit : RegistrationPermit) (now : DurationNs)
  | markRunning (id : EngineIncarnationId) (now : DurationNs)
  | revalidate (id : EngineIncarnationId)
  | fenceWorker (w : WorkerId) (b : WorkerBootId)
  | advanceEpoch
  | publishComponent (ev : ComponentEvidence) (now : DurationNs)
  | createPreparationPlan (incId : EngineIncarnationId) (profId : ReadinessProfileId)
      (target : DesiredResidency) (now : DurationNs)
  | beginPreparation (plan : PreparationPlan)
  | stepPreparation (attemptId : PreparationAttemptId)
  | completePreparation (attemptId : PreparationAttemptId) (now : DurationNs)
  | cancelPreparation (attemptId : PreparationAttemptId)
  | rollbackPreparation (attemptId : PreparationAttemptId)
  | activate (req : ActivationRequest) (now : DurationNs)
  | acquireServingUse (wanted : ServingUseToken) (now admittedAt : DurationNs)
  | releaseServingUse (token : ServingUseToken) (outcome : WorkOutcome) (detail : Str)
      (now : DurationNs)
  | requestDrain (id : EngineIncarnationId)
  | acknowledgeBackendCleanup (id : EngineIncarnationId)
  | beginReplacement (plan : ReplacementPlan)
  | commitCutover (rid : ReplacementId)
  | retireOld (rid : ReplacementId)
  | invalidateIncarnationComponents (id : EngineIncarnationId) (reason : Str)
  | aggregateRecoveryCost (components : List CostComponent) (action : RecoveryAction)
      (aggregationModel : Str)
  | load (blob : Str)

/-- What an operation returns. -/
inductive Reply where
  | done
  | engine (e : EngineDefinition)
  | profile (p : ReadinessProfile)
  | permit (p : RegistrationPermit)
  | incarnation (i : EngineIncarnation)
  | epoch (e : CoordinatorEpoch)
  | evidence (e : ComponentEvidence)
  | plan (p : PreparationPlan)
  | attempt (a : PreparationAttempt)
  | activation (r : ActivationRecord)
  | token (t : ServingUseToken)
  | replacement (p : ReplacementPlan)
  | cost (c : RecoveryCost)

def step : Op → Rt Reply
  | .defineEngine engine => .engine <$> defineEngine engine
  | .updateEngineConfig engineId newGen => (fun _ => .done) <$> updateEngineConfig engineId newGen
  | .defineProfile profile => .profile <$> defineProfile profile
  | .issueRegistrationPermit w b => .permit <$> issueRegistrationPermit w b
  | .registerIncarnation inc permit now => .incarnation <$> registerIncarnation inc permit now
  | .markRunning id now => (fun _ => .done) <$> markRunning id now
  | .revalidate id => (fun _ => .done) <$> revalidate id
  | .fenceWorker w b => (fun _ => .done) <$> fenceWorker w b
  | .advanceEpoch => .epoch <$> advanceEpoch
  | .publishComponent ev now => .evidence <$> publishComponent ev now
  | .createPreparationPlan incId profId target now =>
    .plan <$> createPreparationPlan incId profId target now
  | .beginPreparation plan => .attempt <$> beginPreparation plan
  | .stepPreparation attemptId => .attempt <$> stepPreparation attemptId
  | .completePreparation attemptId now => .attempt <$> completePreparation attemptId now
  | .cancelPreparation attemptId => (fun _ => .done) <$> cancelPreparation attemptId
  | .rollbackPreparation attemptId => (fun _ => .done) <$> rollbackPreparation attemptId
  | .activate req now => .activation <$> activate req now
  | .acquireServingUse wanted now admittedAt =>
    .token <$> acquireServingUse wanted now admittedAt
  | .releaseServingUse token outcome detail now =>
    (fun _ => .done) <$> releaseServingUse token outcome detail now
  | .requestDrain id => (fun _ => .done) <$> requestDrain id
  | .acknowledgeBackendCleanup id => (fun _ => .done) <$> acknowledgeBackendCleanup id
  | .beginReplacement plan => .replacement <$> beginReplacement plan
  | .commitCutover rid => .replacement <$> commitCutover rid
  | .retireOld rid => .replacement <$> retireOld rid
  | .invalidateIncarnationComponents id reason =>
    (fun _ => .done) <$> invalidateIncarnationComponents id reason
  | .aggregateRecoveryCost components action aggregationModel =>
    .cost <$> aggregateRecoveryCost components action aggregationModel
  | .load blob => (fun _ => .done) <$> load blob

/-- The runtime as a machine. -/
def machine : Machine Impl Op (Except Err Reply) := ⟨fun op s => runResult (step op) s⟩

/-- The operation is a recovery. -/
def Op.IsLoad : Op → Prop
  | .load _ => True
  | _ => False

instance (op : Op) : Decidable op.IsLoad := by
  cases op <;> first | exact isTrue trivial | exact isFalse id

/-! ## A sample run -/

/-- Define one engine with one profile and start one incarnation of it. -/
def sampleStart : List Op :=
  [.defineEngine { engineId := ⟨1⟩ },
   .defineProfile { profileId := ⟨1⟩, engineId := ⟨1⟩ },
   .issueRegistrationPermit ⟨1⟩ ⟨1⟩,
   .registerIncarnation { engineId := ⟨1⟩, workerId := ⟨1⟩, workerBoot := ⟨1⟩ }
     { permitId := ⟨2⟩ } 0,
   .markRunning ⟨2⟩ 0]

/-- A use of the incarnation that `sampleStart` has started. -/
def sampleWanted : ServingUseToken :=
  { incarnationId := ⟨2⟩, profileId := ⟨1⟩, readinessGeneration := ⟨1⟩ }

def sampleAcquire : Op := .acquireServingUse sampleWanted 0 0

def sampleRelease : Op :=
  .releaseServingUse { useId := ⟨2⟩, incarnationId := ⟨2⟩ } .completed [] 0

end EngineResidency.Runtime
