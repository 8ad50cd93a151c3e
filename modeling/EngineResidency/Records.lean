-- SUMMARY: The records of the runtime: definitions, incarnations, profiles, evidence and persistent state.
import EngineResidency.Identities
import EngineResidency.Enums

/-!
# Records

The data model of the runtime, with the member defaults of the source. The
first part holds the records that the persistence format writes, the second
part those that live only inside one process.
-/

namespace EngineResidency

/-- A byte string. Nothing in the program assumes an encoding. -/
abbrev Str := List UInt8

/-- The bytes of a literal. -/
def lit (s : String) : Str := s.toList.map fun c => UInt8.ofNat c.toNat

/-- Nanoseconds on a monotonic clock. -/
abbrev DurationNs := UInt64

/-! ## Persistent records -/

/-- An exact compatibility identity inside a namespace. -/
structure CompatibilityKey where
  ns : Str := []
  value : Str := []
  deriving DecidableEq, Repr

namespace CompatibilityKey

def withNamespace (value : Str) : CompatibilityKey := ⟨lit "engine-residency/reference/v1", value⟩

def isValid (k : CompatibilityKey) : Bool := !k.ns.isEmpty && !k.value.isEmpty

end CompatibilityKey

/-- What a worker claims about one prepared component of an incarnation. -/
structure ComponentEvidence where
  evidenceId : EvidenceId := {}
  evidenceGeneration : EvidenceGeneration := {}
  category : ComponentCategory := .backend
  state : ComponentState := .unknown
  provenance : Provenance := .unknown
  subject : Str := []
  namespace_ : Str := []
  engineId : EngineId := {}
  engineGeneration : EngineGeneration := {}
  incarnationId : EngineIncarnationId := {}
  incarnationGeneration : EngineIncarnationGeneration := {}
  workerId : WorkerId := {}
  workerBoot : WorkerBootId := {}
  sourceId : SourceId := {}
  sourceBoot : SourceBootId := {}
  backendId : BackendId := {}
  backendGeneration : BackendGeneration := {}
  deviceId : DeviceId := {}
  deviceGeneration : DeviceGeneration := {}
  deviceContextGeneration : DeviceContextGeneration := {}
  deviceOrdinal : UInt32 := 0
  compatibility : CompatibilityKey := {}
  modelGeneration : ModelGeneration := {}
  adapterGeneration : AdapterGeneration := {}
  kvCapacityGeneration : KvCapacityGeneration := {}
  kvStateGeneration : KvStateGeneration := {}
  kernelGeneration : KernelGeneration := {}
  graphGeneration : GraphGeneration := {}
  artifactGeneration : ArtifactGeneration := {}
  allocationGeneration : AllocationGeneration := {}
  dependencyGeneration : DependencyGeneration := {}
  resourceClaimGeneration : ResourceClaimGeneration := {}
  warmupGeneration : WarmupGeneration := {}
  profileId : ReadinessProfileId := {}
  profileGeneration : ReadinessProfileGeneration := {}
  sizeBytes : UInt64 := 0
  elapsedNs : DurationNs := 0
  observedAtNs : DurationNs := 0
  maxAgeNs : DurationNs := 0
  detail : Str := []
  invalidationReason : Str := []
  coordinatorEpoch : CoordinatorEpoch := {}

/-- Whether evidence is fresh at a clock reading. Evidence without a maximal age
never expires; evidence that expires but was never observed is not fresh. -/
def ComponentEvidence.isFresh (e : ComponentEvidence) (now : DurationNs) : Bool :=
  if e.maxAgeNs = 0 then true
  else if e.observedAtNs = 0 then false
  else e.observedAtNs ≤ now && now - e.observedAtNs ≤ e.maxAgeNs

/-- A logical engine, independent of any process. -/
structure EngineDefinition where
  engineId : EngineId := {}
  engineGeneration : EngineGeneration := {}
  configGeneration : EngineConfigGeneration := {}
  name : Str := []
  role : ServingRole := .generalInference
  backendId : BackendId := {}
  backendGeneration : BackendGeneration := {}
  backendSpecific : Bool := true
  modelId : ModelId := {}
  modelGeneration : ModelGeneration := {}
  modelName : Str := []
  modelBytes : UInt64 := 0
  adapterGeneration : AdapterGeneration := {}
  requiresAdapter : Bool := false
  deviceId : DeviceId := {}
  deviceGeneration : DeviceGeneration := {}
  deviceOrdinal : UInt32 := 0
  deviceSpecific : Bool := false
  workspaceBytes : UInt64 := 0
  kvCapacityEntries : UInt64 := 0
  kernelKey : Str := []
  kernelGeneration : KernelGeneration := {}
  kernelRequired : Bool := true
  graphRequired : Bool := false
  graphOptionalFallback : Bool := false
  graphGeneration : GraphGeneration := {}
  tokenizerKey : Str := []
  tokenizerGeneration : ArtifactGeneration := {}
  tokenizerRequired : Bool := false
  compatibility : CompatibilityKey := {}
  compatibilityRequired : Bool := true
  preparationPolicy : Str := []
  warmupRequired : Bool := true
  standbyEligible : Bool := false
  standbyTarget : UInt32 := 0
  maxConcurrency : UInt32 := 1
  resourceClaimGeneration : ResourceClaimGeneration := {}
  resourceClaimRef : Str := []
  dependencyRefs : List Str := []
  dependencyGeneration : DependencyGeneration := {}
  provenance : Provenance := .reported
  profileIds : List ReadinessProfileId := []

/-- The orthogonal state dimensions of an incarnation. -/
structure StateSet where
  desired : DesiredResidency := .absent
  observed : DesiredResidency := .absent
  lifecycle : ProcessLifecycle := .registering
  preparation : PreparationState := .unprepared
  activation : ActivationState := .inactive
  health : HealthState := .unknown
  recovery : RecoveryState := .nominal
  registration : RegistrationState := .none
  drain : DrainPhase := .none
  deriving DecidableEq, Repr

/-- Diagnostic facts about an operating-system process. -/
structure ProcessId where
  pid : UInt32 := 0
  startSeconds : UInt64 := 0
  label : Str := []
  deriving DecidableEq, Repr

/-- One boot of an engine process, bound to the authority that admitted it. -/
structure EngineIncarnation where
  incarnationId : EngineIncarnationId := {}
  incarnationGeneration : EngineIncarnationGeneration := {}
  engineId : EngineId := {}
  engineGeneration : EngineGeneration := {}
  configGeneration : EngineConfigGeneration := {}
  workerId : WorkerId := {}
  workerBoot : WorkerBootId := {}
  sourceId : SourceId := {}
  sourceBoot : SourceBootId := {}
  coordinatorEpoch : CoordinatorEpoch := {}
  authorityGeneration : AuthorityGeneration := {}
  registrationPermit : RegistrationPermitId := {}
  backendId : BackendId := {}
  backendGeneration : BackendGeneration := {}
  deviceId : DeviceId := {}
  deviceGeneration : DeviceGeneration := {}
  deviceContextGeneration : DeviceContextGeneration := {}
  deviceOrdinal : UInt32 := 0
  process : ProcessId := {}
  registration : RegistrationState := .none
  state : StateSet := {}
  readinessGeneration : ReadinessGeneration := {}
  isCurrent : Bool := false
  lastActivityNs : DurationNs := 0
  nfc : Str := []

/-- One requirement of a readiness profile. -/
structure ProfileRequirement where
  category : ComponentCategory := .model
  kind : RequirementKind := .required
  minState : ComponentState := .verified
  subject : Str := []
  compatibility : CompatibilityKey := {}
  generationFamily : GenerationFamily := .none
  description : Str := []
  deriving DecidableEq, Repr

/-- The prerequisites of one shape of work. -/
structure ReadinessProfile where
  profileId : ReadinessProfileId := {}
  profileGeneration : ReadinessProfileGeneration := {}
  engineId : EngineId := {}
  engineGeneration : EngineGeneration := {}
  name : Str := []
  role : ServingRole := .generalInference
  maxBatch : UInt32 := 1
  maxSeqLen : UInt32 := 0
  dtype : Str := []
  layout : Str := []
  workspaceBytes : UInt64 := 0
  modelBytes : UInt64 := 0
  kvCapacityEntries : UInt64 := 0
  graphRequired : Bool := false
  graphOptionalFallback : Bool := false
  warmupRequired : Bool := true
  deviceOrdinal : UInt32 := 0
  deviceSpecific : Bool := false
  profileRequired : Bool := true
  policyGeneration : PolicyGeneration := {}
  dependencyGeneration : DependencyGeneration := {}
  requirements : List ProfileRequirement := []
  compatibility : CompatibilityKey := {}

/-- A replacement of one incarnation by another. -/
structure ReplacementPlan where
  replacementId : ReplacementId := {}
  replacementGeneration : ReplacementGeneration := {}
  engineId : EngineId := {}
  engineGeneration : EngineGeneration := {}
  oldIncarnation : EngineIncarnationId := {}
  oldIncarnationGeneration : EngineIncarnationGeneration := {}
  candidateIncarnation : EngineIncarnationId := {}
  candidateIncarnationGeneration : EngineIncarnationGeneration := {}
  epoch : CoordinatorEpoch := {}
  authority : AuthorityGeneration := {}
  phase : ReplacementPhase := .planned
  makeBeforeBreak : Bool := true
  rollbackRequired : Bool := false
  detail : Str := []
  overlapBytes : UInt64 := 0
  resourceOverlapAvailable : Bool := false

/-- A named cost with its provenance. -/
structure CostComponent where
  name : Str := []
  estimatedNs : DurationNs := 0
  measuredNs : DurationNs := 0
  provenance : Provenance := .unknown
  bytes : UInt64 := 0
  unit : Str := []
  deriving DecidableEq, Repr

/-- The version of the persistence format. -/
def kPersistenceVersion : UInt32 := 2

/-- Everything a coordinator writes to disk. -/
structure PersistentState where
  version : UInt32 := kPersistenceVersion
  coordinatorEpoch : UInt64 := 0
  authorityGeneration : UInt64 := 0
  registrationCounter : UInt64 := 0
  engines : List EngineDefinition := []
  profiles : List ReadinessProfile := []
  incarnations : List EngineIncarnation := []
  evidence : List ComponentEvidence := []
  replacements : List ReplacementPlan := []
  costHistory : List CostComponent := []

/-! ## Records of a running process -/

/-- The coordinator's epoch, its latest authority generation, and the counter of
issued permits. -/
structure AuthorityState where
  epoch : CoordinatorEpoch := {}
  authority : AuthorityGeneration := {}
  registrationCounter : UInt64 := 0
  deriving DecidableEq, Repr

/-- An admission token for one boot of one worker. -/
structure RegistrationPermit where
  permitId : RegistrationPermitId := {}
  epoch : CoordinatorEpoch := {}
  workerId : WorkerId := {}
  workerBoot : WorkerBootId := {}
  sequence : UInt64 := 0
  authority : AuthorityGeneration := {}
  consumed : Bool := false
  deriving DecidableEq, Repr

structure PreparationStep where
  action : PreparationAction := .discoverBackend
  category : ComponentCategory := .backend
  subject : Str := []
  description : Str := []
  rollbackRequired : Bool := false
  rollbackDescription : Str := []
  deriving DecidableEq, Repr

/-- A bounded preparation plan for an incarnation and a profile. -/
structure PreparationPlan where
  planId : PreparationPlanId := {}
  planGeneration : PreparationPlanGeneration := {}
  incarnationId : EngineIncarnationId := {}
  incarnationGeneration : EngineIncarnationGeneration := {}
  profileId : ReadinessProfileId := {}
  profileGeneration : ReadinessProfileGeneration := {}
  targetResidency : DesiredResidency := .warm
  epoch : CoordinatorEpoch := {}
  authority : AuthorityGeneration := {}
  sourceBoot : SourceBootId := {}
  steps : List PreparationStep := []
  estimatedBytes : UInt64 := 0
  estimatedNs : DurationNs := 0
  costProvenance : Provenance := .estimated
  cancellationBoundary : Str := []
  rollbackAction : Str := []
  expectedReadiness : Str := []

/-- One execution of a preparation plan. -/
structure PreparationAttempt where
  attemptId : PreparationAttemptId := {}
  attemptGeneration : PreparationAttemptGeneration := {}
  planId : PreparationPlanId := {}
  planGeneration : PreparationPlanGeneration := {}
  incarnationId : EngineIncarnationId := {}
  incarnationGeneration : EngineIncarnationGeneration := {}
  profileId : ReadinessProfileId := {}
  profileGeneration : ReadinessProfileGeneration := {}
  epoch : CoordinatorEpoch := {}
  authority : AuthorityGeneration := {}
  state : PreparationState := .planned
  nextStepIndex : Nat := 0
  cancelled : Bool := false
  publishedReady : Bool := false
  authorityRevalidated : Bool := false
  completedSteps : List Str := []
  failureStage : Str := []

/-- A token that binds a serving use to the exact authority it was granted
under. -/
structure ServingUseToken where
  useId : ServingUseId := {}
  useGeneration : ServingUseGeneration := {}
  engineId : EngineId := {}
  engineGeneration : EngineGeneration := {}
  incarnationId : EngineIncarnationId := {}
  incarnationGeneration : EngineIncarnationGeneration := {}
  profileId : ReadinessProfileId := {}
  readinessGeneration : ReadinessGeneration := {}
  activationGeneration : ActivationGeneration := {}
  executionId : ExecutionId := {}
  workloadId : WorkloadId := {}
  workloadGeneration : WorkloadGeneration := {}
  deriving DecidableEq, Repr

/-- The accounting record of an admitted serving use. -/
structure ActiveUse where
  useId : ServingUseId := {}
  useGeneration : ServingUseGeneration := {}
  engineId : EngineId := {}
  engineGeneration : EngineGeneration := {}
  incarnationId : EngineIncarnationId := {}
  incarnationGeneration : EngineIncarnationGeneration := {}
  profileId : ReadinessProfileId := {}
  readinessGeneration : ReadinessGeneration := {}
  activationGeneration : ActivationGeneration := {}
  executionId : ExecutionId := {}
  released : Bool := false
  outcome : WorkOutcome := .completed
  admittedAtNs : DurationNs := 0
  releasedAtNs : DurationNs := 0
  detail : Str := []
  deriving DecidableEq, Repr

/-- Drain progress of an incarnation. -/
structure DrainState where
  phase : DrainPhase := .none
  generation : DrainGeneration := {}
  activeUse : UInt32 := 0
  admissionFenced : Bool := false
  backendCleanupAck : Bool := false
  detail : Str := []
  deriving DecidableEq, Repr

structure ActivationRequest where
  incarnationId : EngineIncarnationId := {}
  incarnationGeneration : EngineIncarnationGeneration := {}
  engineId : EngineId := {}
  engineGeneration : EngineGeneration := {}
  profileId : ReadinessProfileId := {}
  profileGeneration : ReadinessProfileGeneration := {}
  readinessGeneration : ReadinessGeneration := {}
  standbyGeneration : StandbyGeneration := {}
  callerAuthority : AuthorityGeneration := {}
  slotId : EngineSlotId := {}
  caller : Str := []
  deriving DecidableEq, Repr

structure ActivationRecord where
  activationId : ActivationId := {}
  activationGeneration : ActivationGeneration := {}
  engineId : EngineId := {}
  engineGeneration : EngineGeneration := {}
  incarnationId : EngineIncarnationId := {}
  incarnationGeneration : EngineIncarnationGeneration := {}
  profileId : ReadinessProfileId := {}
  readinessGeneration : ReadinessGeneration := {}
  standbyGeneration : StandbyGeneration := {}
  slotId : EngineSlotId := {}
  state : ActivationState := .inactive
  prior : ActivationState := .inactive
  current : Bool := false
  detail : Str := []
  deriving DecidableEq, Repr

/-- A logical position that holds at most one engine. -/
structure StandbySlot where
  slotId : EngineSlotId := {}
  poolId : EnginePoolId := {}
  name : Str := []
  exclusive : Bool := true
  assignedIncarnation : EngineIncarnationId := {}
  current : Bool := true
  deriving DecidableEq, Repr

/-- The bounds the runtime enforces. -/
structure RuntimeOptions where
  maxEngines : UInt32 := 1000
  maxIncarnations : UInt32 := 8000
  maxComponentEvidence : UInt32 := 200000
  maxPendingPreparationAttempts : UInt32 := 4000
  maxPreparationPlanSteps : UInt32 := 128
  maxActiveUses : UInt32 := 1000000
  maxCostSamples : UInt32 := 50000
  maxRegistrationPermits : UInt32 := 16000
  deriving DecidableEq, Repr

end EngineResidency
