-- SUMMARY: Domain errors and the strongly typed identity and generation wrappers.
import Mathlib.Algebra.Ring.Nat

/-!
# Identities, generations and domain errors

`Identity t` names an object of class `t`; `Generation t` counts how often an
object of class `t` has been superseded. Both are 64-bit values, and each tag
gives a distinct type, so two of them are never mixed up silently.
-/

namespace EngineResidency

/-! ## Errors -/

/-- The error categories, in declaration order: the position of a code is the
number a session reports to its peer. -/
inductive ErrorCode where
  | none | invalidArgument | invalidState | staleAuthority | staleIncarnation
  | staleGeneration | staleEpoch | unknownIncarnation | unknownEngine | unknownProfile
  | unknownSlot | unknownUse | unknownAttempt | notCurrentAuthority | registrationRejected
  | fencedWorker | drainInProgress | activationConflict | activationRequired | useConflict
  | useAfterDrain | useOverflow | duplicateRelease | standbyConflict | capacityExhausted
  | planStale | attemptCancelled | attemptFailed | rollbackRequired | incarnationGone
  | processLost | backendMissing | backendError | graphInvalid | kernelMissing | modelMissing
  | adapterMismatch | kvCapacityInsufficient | incompatibleProfile | dependencyInvalidated
  | persistenceCorrupt | persistenceUnsupportedVersion | persistenceRejected
  | generationExhausted | boundsExceeded | protocolError | frameMalformed | checksumMismatch
  | notPermitted | notSupported | notFound | internal
  deriving DecidableEq, Repr

/-- A rejected transition: its category and an explanatory message. -/
structure DomainError where
  code : ErrorCode
  message : String
  deriving DecidableEq, Repr

/-- What an operation can throw: a domain error, or the `std::out_of_range` of a
checked map access, which no handler of the repository catches. -/
inductive Err where
  | domain (e : DomainError)
  | outOfRange
  deriving DecidableEq, Repr

/-- The exception that `throw_error(code, msg)` raises. -/
def domainError (code : ErrorCode) (msg : String) : Err := .domain ⟨code, msg⟩

/-! ## Identities -/

inductive IdTag where
  | engine | incarnation | enginePool | engineSlot | worker | source | registrationPermit
  | backend | device | readinessProfile | evidence | preparationPlan | preparationAttempt
  | activation | servingUse | replacement | model | workload | execution
  deriving DecidableEq, Repr

structure Identity (t : IdTag) where
  raw : UInt64 := 0
  deriving DecidableEq, Repr

/-- Zero is the identity of nothing. -/
def Identity.isValid {t : IdTag} (i : Identity t) : Bool := i.raw != 0

abbrev EngineId := Identity .engine
abbrev EngineIncarnationId := Identity .incarnation
abbrev EnginePoolId := Identity .enginePool
abbrev EngineSlotId := Identity .engineSlot
abbrev WorkerId := Identity .worker
abbrev SourceId := Identity .source
abbrev RegistrationPermitId := Identity .registrationPermit
abbrev BackendId := Identity .backend
abbrev DeviceId := Identity .device
abbrev ReadinessProfileId := Identity .readinessProfile
abbrev EvidenceId := Identity .evidence
abbrev PreparationPlanId := Identity .preparationPlan
abbrev PreparationAttemptId := Identity .preparationAttempt
abbrev ActivationId := Identity .activation
abbrev ServingUseId := Identity .servingUse
abbrev ReplacementId := Identity .replacement
abbrev ModelId := Identity .model
abbrev WorkloadId := Identity .workload
abbrev ExecutionId := Identity .execution

/-! ## Generations -/

inductive GenTag where
  | engine | engineConfig | incarnation | workerBoot | sourceBoot
  | coordinatorEpoch | authority | backend | device | deviceContext | readinessProfile
  | readiness | evidence | preparationPlan | preparationAttempt | warmup | standby | activation
  | servingUse | drain | replacement | model | adapter | kvCapacity | kvState | kernel | graph
  | artifact | dependency | allocation | resourceClaim | policy | workload
  deriving DecidableEq, Repr

structure Generation (t : GenTag) where
  raw : UInt64 := 0
  deriving DecidableEq, Repr

namespace Generation

variable {t : GenTag}

def isValid (g : Generation t) : Bool := g.raw != 0

/-- The next generation. Exhaustion throws instead of wrapping around into a
generation that has been valid before. -/
def next (g : Generation t) : Except Err (Generation t) :=
  if g.raw = 0xFFFFFFFFFFFFFFFF then
    .error (domainError .generationExhausted
      "generation exhausted; refusing to wrap into a previously valid value")
  else .ok ⟨g.raw + 1⟩

def isBefore (g other : Generation t) : Bool := g.raw < other.raw

def isAtOrBefore (g other : Generation t) : Bool := g.raw ≤ other.raw

/-- Advancing moves strictly forward: the value does not wrap. -/
theorem next_ok {g g' : Generation t} (h : g.next = .ok g') :
    g'.raw.toNat = g.raw.toNat + 1 := by
  unfold next at h
  split at h
  · cases h
  · rename_i hmax
    cases h
    have hne : g.raw.toNat ≠ 2 ^ 64 - 1 := fun heq =>
      hmax (UInt64.toNat_inj.mp heq)
    have hlt := g.raw.toNat_lt
    have hone : (1 : UInt64).toNat = 1 := rfl
    simp only [UInt64.toNat_add, hone]
    omega

end Generation

abbrev EngineGeneration := Generation .engine
abbrev EngineConfigGeneration := Generation .engineConfig
abbrev EngineIncarnationGeneration := Generation .incarnation
abbrev WorkerBootId := Generation .workerBoot
abbrev SourceBootId := Generation .sourceBoot
abbrev CoordinatorEpoch := Generation .coordinatorEpoch
abbrev AuthorityGeneration := Generation .authority
abbrev BackendGeneration := Generation .backend
abbrev DeviceGeneration := Generation .device
abbrev DeviceContextGeneration := Generation .deviceContext
abbrev ReadinessProfileGeneration := Generation .readinessProfile
abbrev ReadinessGeneration := Generation .readiness
abbrev EvidenceGeneration := Generation .evidence
abbrev PreparationPlanGeneration := Generation .preparationPlan
abbrev PreparationAttemptGeneration := Generation .preparationAttempt
abbrev WarmupGeneration := Generation .warmup
abbrev StandbyGeneration := Generation .standby
abbrev ActivationGeneration := Generation .activation
abbrev ServingUseGeneration := Generation .servingUse
abbrev DrainGeneration := Generation .drain
abbrev ReplacementGeneration := Generation .replacement
abbrev ModelGeneration := Generation .model
abbrev AdapterGeneration := Generation .adapter
abbrev KvCapacityGeneration := Generation .kvCapacity
abbrev KvStateGeneration := Generation .kvState
abbrev KernelGeneration := Generation .kernel
abbrev GraphGeneration := Generation .graph
abbrev ArtifactGeneration := Generation .artifact
abbrev DependencyGeneration := Generation .dependency
abbrev AllocationGeneration := Generation .allocation
abbrev ResourceClaimGeneration := Generation .resourceClaim
abbrev PolicyGeneration := Generation .policy
abbrev WorkloadGeneration := Generation .workload

end EngineResidency
