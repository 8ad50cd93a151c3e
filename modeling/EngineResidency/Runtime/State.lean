-- SUMMARY: The state behind the runtime facade, and the reads and in-place writes its operations share.
import EngineResidency.Base.UMap
import EngineResidency.Base.Wp
import EngineResidency.Economics
import EngineResidency.Persistence.Format
import EngineResidency.Readiness
import Mathlib.Data.Finset.Basic

/-!
# Runtime state

`Impl` is what the runtime keeps under its lock. An operation of the facade holds
the lock from its first read to its last write, so it is one atomic program over
`Impl`; a throw inside it keeps the writes made before it.

The epoch is started by the constructor. Fields that are written and never read
(the slot counter, the pool table) are left out, but for the set of consumed permits.
-/

namespace EngineResidency

/-- The state of one runtime. -/
structure Impl where
  opts : RuntimeOptions := {}
  authority : AuthorityState := { epoch := ⟨1⟩, authority := ⟨1⟩ }
  engines : UMap EngineId EngineDefinition := ∅
  profiles : UMap ReadinessProfileId ReadinessProfile := ∅
  incarnations : UMap EngineIncarnationId EngineIncarnation := ∅
  currentByEngine : UMap EngineId EngineIncarnationId := ∅
  evidence : UMap EngineIncarnationId (List ComponentEvidence) := ∅
  activeAttempt : UMap EngineIncarnationId PreparationAttemptId := ∅
  attempts : UMap PreparationAttemptId PreparationAttempt := ∅
  plans : UMap PreparationPlanId PreparationPlan := ∅
  activeUses : UMap ServingUseId ActiveUse := ∅
  activeUseCount : UInt64 := 0
  slots : UMap EngineSlotId StandbySlot := ∅
  activations : UMap ActivationId ActivationRecord := ∅
  drains : UMap EngineIncarnationId DrainState := ∅
  replacementPlans : UMap ReplacementId ReplacementPlan := ∅
  permits : UMap RegistrationPermitId RegistrationPermit := ∅
  consumed : Finset RegistrationPermitId := ∅
  fenced : UMap WorkerId (Finset WorkerBootId) := ∅
  costHistory : List CostComponent := []
  idEngine : UInt64 := 0
  idProfile : UInt64 := 0
  idInc : UInt64 := 0
  idEvid : UInt64 := 0
  idUse : UInt64 := 0
  idAttempt : UInt64 := 0
  idPlan : UInt64 := 0
  idActivation : UInt64 := 0
  idRepl : UInt64 := 0
  idPermit : UInt64 := 0

/-- The programs of the runtime. -/
abbrev Rt := EStateM Err Impl

/-- Whether the process of an incarnation is gone for good. -/
def ProcessLifecycle.isDead (l : ProcessLifecycle) : Bool :=
  l == .lost || l == .failed || l == .retired

/-- Whether an incarnation still has to revalidate under the current authority. -/
def RecoveryState.awaitsRevalidation (r : RecoveryState) : Bool :=
  r == .revalidating || r == .awaitingAuthority

namespace Impl

section Reads

variable (s : Impl)

/-- A runtime as its constructor leaves it. -/
def new (opts : RuntimeOptions) : Impl := { opts }

/-! ## Reads -/

def findInc (id : EngineIncarnationId) : Option EngineIncarnation := s.incarnations.lookup id

/-- The evidence recorded for an incarnation; none is recorded as no evidence. -/
def evidenceFor (id : EngineIncarnationId) : List ComponentEvidence :=
  (s.evidence.lookup id).getD []

/-- The number of evidence records of all incarnations. -/
def evidenceTotal : Nat := (s.evidence.values.map List.length).sum

/-- Whether a boot of a worker has been fenced. -/
def bootFenced (w : WorkerId) (b : WorkerBootId) : Bool :=
  match s.fenced.lookup w with
  | some boots => b ∈ boots
  | none => false

/-- Whether the drain of an incarnation keeps new work out. -/
def admissionFenced (id : EngineIncarnationId) : Bool :=
  match s.drains.lookup id with
  | some d => d.admissionFenced
  | none => false

/-- Whether an unreleased use is bound to an incarnation. -/
def holds (id : EngineIncarnationId) (u : ActiveUse) : Bool :=
  u.incarnationId == id && !u.released

/-- The number of unreleased uses bound to an incarnation, in the 32-bit counter
of the source. -/
def remainingUses (id : EngineIncarnationId) : UInt32 :=
  UInt32.ofNat (s.activeUses.count (holds id))

end Reads

/-! ## Writes -/

def modifyInc (id : EngineIncarnationId) (f : EngineIncarnation → EngineIncarnation) (s : Impl) :
    Impl :=
  { s with incarnations := s.incarnations.modify id f }

def modifyAttempt (id : PreparationAttemptId) (f : PreparationAttempt → PreparationAttempt)
    (s : Impl) : Impl :=
  { s with attempts := s.attempts.modify id f }

def modifyUse (id : ServingUseId) (f : ActiveUse → ActiveUse) (s : Impl) : Impl :=
  { s with activeUses := s.activeUses.modify id f }

def modifyDrain (id : EngineIncarnationId) (f : DrainState → DrainState) (s : Impl) : Impl :=
  { s with drains := s.drains.modify id f }

/-- `drains[id]` of the source: an entry that is missing is created first. -/
def touchDrain (id : EngineIncarnationId) (s : Impl) : Impl :=
  { s with drains := if (s.drains.lookup id).isSome then s.drains else s.drains.insert id {} }

def modifyReplacement (id : ReplacementId) (f : ReplacementPlan → ReplacementPlan) (s : Impl) :
    Impl :=
  { s with replacementPlans := s.replacementPlans.modify id f }

/-- `evidence[id].push_back(e)` of the source. -/
def pushEvidence (id : EngineIncarnationId) (e : ComponentEvidence) (s : Impl) : Impl :=
  { s with evidence := s.evidence.insert id (s.evidenceFor id ++ [e]) }

end Impl

end EngineResidency
