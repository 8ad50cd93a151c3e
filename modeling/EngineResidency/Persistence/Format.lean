-- SUMMARY: The persistence format: one writer and one reader for each record, and the checksummed blob.
import EngineResidency.Base.Codec
import EngineResidency.Records

/-!
# Persistence format

The writers and readers of the durable state, field by field in the order of
the source. The two sides are written independently of each other, as they are
in the source; `Persistence/RoundTrip.lean` proves that they agree.

A reader that fails makes recovery fail as a whole. A record is read into a
default-constructed value, so a field that no reader assigns would keep its
default.
-/

namespace EngineResidency.Persistence

open Codec

/-- The bound on the number of elements of a list. -/
def kMaxCount : Nat := 1000000

/-- The bound on the number of bytes of a string. -/
def kMaxStr : Nat := 1000000

def kPersistenceMagic : UInt32 := 0x45524553

/-- The bound on the size of a blob: 256 MiB. -/
def kMaxSerializedBytes : Nat := 256 * 1024 * 1024

/-- The 64-bit FNV-1a hash of a byte string. -/
def fnv1a (bs : List UInt8) : UInt64 :=
  bs.foldl (fun h b => (h ^^^ b.toUInt64) * 1099511628211) 1469598103934665603

/-! ## Tokens -/

abbrev W := Codec.Writer Err Unit

def wStr (s : Str) : W :=
  if s.length > kMaxStr then throw (domainError .boundsExceeded "string too long")
  else do
    Writer.u32 (UInt32.ofNat s.length)
    Writer.raw s

def rStr : Reader Str := do
  let len ← Reader.u32
  Reader.failIf (len.toNat > kMaxStr)
  Reader.take len.toNat

/-- A wrapper around a 64-bit value. -/
class Raw64 (T : Type) where
  raw : T → UInt64
  ofRaw : UInt64 → T
  ofRaw_raw : ∀ t, ofRaw (raw t) = t

instance {t : IdTag} : Raw64 (Identity t) := ⟨Identity.raw, Identity.mk, fun _ => rfl⟩

instance {t : GenTag} : Raw64 (Generation t) := ⟨Generation.raw, Generation.mk, fun _ => rfl⟩

def wId {T : Type} [Raw64 T] (v : T) : W := Writer.u64 (Raw64.raw v)

def rId {T : Type} [Raw64 T] : Reader T := do
  let x ← Reader.u64
  return Raw64.ofRaw x

def wBool (b : Bool) : W := Writer.u8 (if b then 1 else 0)

/-- Any byte other than zero reads as true. -/
def rBool : Reader Bool := do
  let b ← Reader.u8
  return b != 0

def wEnum {E : Type} [DecidableEq E] [CEnum E] (e : E) : W := Writer.u32 (CEnum.raw e)

/-- Read an enumeration whose last enumerator is `last`. -/
def rEnum {E : Type} [DecidableEq E] [CEnum E] (last : E) : Reader E := do
  let x ← Reader.u32
  Reader.failIf (x > CEnum.raw last)
  return CEnum.ofRaw x

/-- A list is its length followed by its elements. -/
def wList {α : Type} (w : α → W) (as : List α) : W := do
  Writer.u32 (UInt32.ofNat as.length)
  Writer.many w as

def rList {α : Type} (r : Reader α) : Reader (List α) := do
  let n ← Reader.u32
  Reader.failIf (n.toNat > kMaxCount)
  Reader.many r n.toNat

/-! ## Records -/

def wComp (k : CompatibilityKey) : W := do
  wStr k.ns
  wStr k.value

def rComp : Reader CompatibilityKey := do
  let ns ← rStr
  let value ← rStr
  return { ns, value }

def wPid (p : ProcessId) : W := do
  Writer.u32 p.pid
  Writer.u64 p.startSeconds
  wStr p.label

def rPid : Reader ProcessId := do
  let pid ← Reader.u32
  let startSeconds ← Reader.u64
  let label ← rStr
  return { pid, startSeconds, label }

def wState (s : StateSet) : W := do
  wEnum s.desired
  wEnum s.observed
  wEnum s.lifecycle
  wEnum s.preparation
  wEnum s.activation
  wEnum s.health
  wEnum s.recovery
  wEnum s.registration
  wEnum s.drain

def rState : Reader StateSet := do
  let desired ← rEnum DesiredResidency.hot
  let observed ← rEnum DesiredResidency.hot
  let lifecycle ← rEnum ProcessLifecycle.retired
  let preparation ← rEnum PreparationState.revalidationRequired
  let activation ← rEnum ActivationState.fenced
  let health ← rEnum HealthState.fenced
  let recovery ← rEnum RecoveryState.awaitingAuthority
  let registration ← rEnum RegistrationState.rejected
  let drain ← rEnum DrainPhase.retired
  return { desired, observed, lifecycle, preparation, activation, health, recovery, registration,
           drain }

def wReq (r : ProfileRequirement) : W := do
  wEnum r.category
  wEnum r.kind
  wEnum r.minState
  wStr r.subject
  wComp r.compatibility
  wEnum r.generationFamily
  wStr r.description

def rReq : Reader ProfileRequirement := do
  let category ← rEnum ComponentCategory.warmup
  let kind ← rEnum RequirementKind.unsupported
  let minState ← rEnum ComponentState.revalidationRequired
  let subject ← rStr
  let compatibility ← rComp
  let generationFamily ← rEnum GenerationFamily.compatibility
  let description ← rStr
  return { category, kind, minState, subject, compatibility, generationFamily, description }

def wEvid (e : ComponentEvidence) : W := do
  wId e.evidenceId
  wId e.evidenceGeneration
  wEnum e.category
  wEnum e.state
  wEnum e.provenance
  wStr e.subject
  wStr e.namespace_
  wId e.engineId
  wId e.engineGeneration
  wId e.incarnationId
  wId e.incarnationGeneration
  wId e.workerId
  wId e.workerBoot
  wId e.sourceId
  wId e.sourceBoot
  wId e.backendId
  wId e.backendGeneration
  wId e.deviceId
  wId e.deviceGeneration
  wId e.deviceContextGeneration
  Writer.u32 e.deviceOrdinal
  wComp e.compatibility
  wId e.modelGeneration
  wId e.adapterGeneration
  wId e.kvCapacityGeneration
  wId e.kvStateGeneration
  wId e.kernelGeneration
  wId e.graphGeneration
  wId e.artifactGeneration
  wId e.allocationGeneration
  wId e.dependencyGeneration
  wId e.resourceClaimGeneration
  wId e.warmupGeneration
  wId e.profileId
  wId e.profileGeneration
  Writer.u64 e.sizeBytes
  Writer.u64 e.elapsedNs
  Writer.u64 e.observedAtNs
  Writer.u64 e.maxAgeNs
  wStr e.detail
  wStr e.invalidationReason
  wId e.coordinatorEpoch

def rEvid : Reader ComponentEvidence := do
  let evidenceId ← rId
  let evidenceGeneration ← rId
  let category ← rEnum ComponentCategory.warmup
  let state ← rEnum ComponentState.revalidationRequired
  let provenance ← rEnum Provenance.unknown
  let subject ← rStr
  let namespace_ ← rStr
  let engineId ← rId
  let engineGeneration ← rId
  let incarnationId ← rId
  let incarnationGeneration ← rId
  let workerId ← rId
  let workerBoot ← rId
  let sourceId ← rId
  let sourceBoot ← rId
  let backendId ← rId
  let backendGeneration ← rId
  let deviceId ← rId
  let deviceGeneration ← rId
  let deviceContextGeneration ← rId
  let deviceOrdinal ← Reader.u32
  let compatibility ← rComp
  let modelGeneration ← rId
  let adapterGeneration ← rId
  let kvCapacityGeneration ← rId
  let kvStateGeneration ← rId
  let kernelGeneration ← rId
  let graphGeneration ← rId
  let artifactGeneration ← rId
  let allocationGeneration ← rId
  let dependencyGeneration ← rId
  let resourceClaimGeneration ← rId
  let warmupGeneration ← rId
  let profileId ← rId
  let profileGeneration ← rId
  let sizeBytes ← Reader.u64
  let elapsedNs ← Reader.u64
  let observedAtNs ← Reader.u64
  let maxAgeNs ← Reader.u64
  let detail ← rStr
  let invalidationReason ← rStr
  let coordinatorEpoch ← rId
  return { evidenceId, evidenceGeneration, category, state, provenance, subject, namespace_,
           engineId, engineGeneration, incarnationId, incarnationGeneration, workerId, workerBoot,
           sourceId, sourceBoot, backendId, backendGeneration, deviceId, deviceGeneration,
           deviceContextGeneration, deviceOrdinal, compatibility, modelGeneration,
           adapterGeneration, kvCapacityGeneration, kvStateGeneration, kernelGeneration,
           graphGeneration, artifactGeneration, allocationGeneration, dependencyGeneration,
           resourceClaimGeneration, warmupGeneration, profileId, profileGeneration, sizeBytes,
           elapsedNs, observedAtNs, maxAgeNs, detail, invalidationReason, coordinatorEpoch }

def wEngine (e : EngineDefinition) : W := do
  wId e.engineId
  wId e.engineGeneration
  wId e.configGeneration
  wStr e.name
  wEnum e.role
  wId e.backendId
  wId e.backendGeneration
  wBool e.backendSpecific
  wId e.modelId
  wId e.modelGeneration
  wStr e.modelName
  Writer.u64 e.modelBytes
  wId e.adapterGeneration
  wBool e.requiresAdapter
  wId e.deviceId
  wId e.deviceGeneration
  Writer.u32 e.deviceOrdinal
  wBool e.deviceSpecific
  Writer.u64 e.workspaceBytes
  Writer.u64 e.kvCapacityEntries
  wStr e.kernelKey
  wId e.kernelGeneration
  wBool e.kernelRequired
  wBool e.graphRequired
  wBool e.graphOptionalFallback
  wId e.graphGeneration
  wStr e.tokenizerKey
  wId e.tokenizerGeneration
  wBool e.tokenizerRequired
  wComp e.compatibility
  wBool e.compatibilityRequired
  wStr e.preparationPolicy
  wBool e.warmupRequired
  wBool e.standbyEligible
  Writer.u32 e.standbyTarget
  Writer.u32 e.maxConcurrency
  wId e.resourceClaimGeneration
  wStr e.resourceClaimRef
  wList wStr e.dependencyRefs
  wId e.dependencyGeneration
  wEnum e.provenance
  wList wId e.profileIds

def rEngine : Reader EngineDefinition := do
  let engineId ← rId
  let engineGeneration ← rId
  let configGeneration ← rId
  let name ← rStr
  let role ← rEnum ServingRole.unknown
  let backendId ← rId
  let backendGeneration ← rId
  let backendSpecific ← rBool
  let modelId ← rId
  let modelGeneration ← rId
  let modelName ← rStr
  let modelBytes ← Reader.u64
  let adapterGeneration ← rId
  let requiresAdapter ← rBool
  let deviceId ← rId
  let deviceGeneration ← rId
  let deviceOrdinal ← Reader.u32
  let deviceSpecific ← rBool
  let workspaceBytes ← Reader.u64
  let kvCapacityEntries ← Reader.u64
  let kernelKey ← rStr
  let kernelGeneration ← rId
  let kernelRequired ← rBool
  let graphRequired ← rBool
  let graphOptionalFallback ← rBool
  let graphGeneration ← rId
  let tokenizerKey ← rStr
  let tokenizerGeneration ← rId
  let tokenizerRequired ← rBool
  let compatibility ← rComp
  let compatibilityRequired ← rBool
  let preparationPolicy ← rStr
  let warmupRequired ← rBool
  let standbyEligible ← rBool
  let standbyTarget ← Reader.u32
  let maxConcurrency ← Reader.u32
  let resourceClaimGeneration ← rId
  let resourceClaimRef ← rStr
  let dependencyRefs ← rList rStr
  let dependencyGeneration ← rId
  let provenance ← rEnum Provenance.unknown
  let profileIds ← rList rId
  return { engineId, engineGeneration, configGeneration, name, role, backendId, backendGeneration,
           backendSpecific, modelId, modelGeneration, modelName, modelBytes, adapterGeneration,
           requiresAdapter, deviceId, deviceGeneration, deviceOrdinal, deviceSpecific,
           workspaceBytes, kvCapacityEntries, kernelKey, kernelGeneration, kernelRequired,
           graphRequired, graphOptionalFallback, graphGeneration, tokenizerKey,
           tokenizerGeneration, tokenizerRequired, compatibility, compatibilityRequired,
           preparationPolicy, warmupRequired, standbyEligible, standbyTarget, maxConcurrency,
           resourceClaimGeneration, resourceClaimRef, dependencyRefs, dependencyGeneration,
           provenance, profileIds }

def wProfile (p : ReadinessProfile) : W := do
  wId p.profileId
  wId p.profileGeneration
  wId p.engineId
  wId p.engineGeneration
  wStr p.name
  wEnum p.role
  Writer.u32 p.maxBatch
  Writer.u32 p.maxSeqLen
  wStr p.dtype
  wStr p.layout
  Writer.u64 p.workspaceBytes
  Writer.u64 p.modelBytes
  Writer.u64 p.kvCapacityEntries
  wBool p.graphRequired
  wBool p.graphOptionalFallback
  wBool p.warmupRequired
  Writer.u32 p.deviceOrdinal
  wBool p.deviceSpecific
  wBool p.profileRequired
  wId p.policyGeneration
  wId p.dependencyGeneration
  wList wReq p.requirements
  wComp p.compatibility

def rProfile : Reader ReadinessProfile := do
  let profileId ← rId
  let profileGeneration ← rId
  let engineId ← rId
  let engineGeneration ← rId
  let name ← rStr
  let role ← rEnum ServingRole.unknown
  let maxBatch ← Reader.u32
  let maxSeqLen ← Reader.u32
  let dtype ← rStr
  let layout ← rStr
  let workspaceBytes ← Reader.u64
  let modelBytes ← Reader.u64
  let kvCapacityEntries ← Reader.u64
  let graphRequired ← rBool
  let graphOptionalFallback ← rBool
  let warmupRequired ← rBool
  let deviceOrdinal ← Reader.u32
  let deviceSpecific ← rBool
  let profileRequired ← rBool
  let policyGeneration ← rId
  let dependencyGeneration ← rId
  let requirements ← rList rReq
  let compatibility ← rComp
  return { profileId, profileGeneration, engineId, engineGeneration, name, role, maxBatch,
           maxSeqLen, dtype, layout, workspaceBytes, modelBytes, kvCapacityEntries, graphRequired,
           graphOptionalFallback, warmupRequired, deviceOrdinal, deviceSpecific, profileRequired,
           policyGeneration, dependencyGeneration, requirements, compatibility }

def wInc (i : EngineIncarnation) : W := do
  wId i.incarnationId
  wId i.incarnationGeneration
  wId i.engineId
  wId i.engineGeneration
  wId i.configGeneration
  wId i.workerId
  wId i.workerBoot
  wId i.sourceId
  wId i.sourceBoot
  wId i.coordinatorEpoch
  wId i.authorityGeneration
  wId i.registrationPermit
  wId i.backendId
  wId i.backendGeneration
  wId i.deviceId
  wId i.deviceGeneration
  wId i.deviceContextGeneration
  Writer.u32 i.deviceOrdinal
  wPid i.process
  wEnum i.registration
  wState i.state
  wId i.readinessGeneration
  wBool i.isCurrent
  Writer.u64 i.lastActivityNs
  wStr i.nfc

def rInc : Reader EngineIncarnation := do
  let incarnationId ← rId
  let incarnationGeneration ← rId
  let engineId ← rId
  let engineGeneration ← rId
  let configGeneration ← rId
  let workerId ← rId
  let workerBoot ← rId
  let sourceId ← rId
  let sourceBoot ← rId
  let coordinatorEpoch ← rId
  let authorityGeneration ← rId
  let registrationPermit ← rId
  let backendId ← rId
  let backendGeneration ← rId
  let deviceId ← rId
  let deviceGeneration ← rId
  let deviceContextGeneration ← rId
  let deviceOrdinal ← Reader.u32
  let process ← rPid
  let registration ← rEnum RegistrationState.rejected
  let state ← rState
  let readinessGeneration ← rId
  let isCurrent ← rBool
  let lastActivityNs ← Reader.u64
  let nfc ← rStr
  return { incarnationId, incarnationGeneration, engineId, engineGeneration, configGeneration,
           workerId, workerBoot, sourceId, sourceBoot, coordinatorEpoch, authorityGeneration,
           registrationPermit, backendId, backendGeneration, deviceId, deviceGeneration,
           deviceContextGeneration, deviceOrdinal, process, registration, state,
           readinessGeneration, isCurrent, lastActivityNs, nfc }

def wRepl (p : ReplacementPlan) : W := do
  wId p.replacementId
  wId p.replacementGeneration
  wId p.engineId
  wId p.engineGeneration
  wId p.oldIncarnation
  wId p.oldIncarnationGeneration
  wId p.candidateIncarnation
  wId p.candidateIncarnationGeneration
  wId p.epoch
  wId p.authority
  wEnum p.phase
  wBool p.makeBeforeBreak
  wBool p.rollbackRequired
  wStr p.detail
  Writer.u64 p.overlapBytes
  wBool p.resourceOverlapAvailable

def rRepl : Reader ReplacementPlan := do
  let replacementId ← rId
  let replacementGeneration ← rId
  let engineId ← rId
  let engineGeneration ← rId
  let oldIncarnation ← rId
  let oldIncarnationGeneration ← rId
  let candidateIncarnation ← rId
  let candidateIncarnationGeneration ← rId
  let epoch ← rId
  let authority ← rId
  let phase ← rEnum ReplacementPhase.complete
  let makeBeforeBreak ← rBool
  let rollbackRequired ← rBool
  let detail ← rStr
  let overlapBytes ← Reader.u64
  let resourceOverlapAvailable ← rBool
  return { replacementId, replacementGeneration, engineId, engineGeneration, oldIncarnation,
           oldIncarnationGeneration, candidateIncarnation, candidateIncarnationGeneration, epoch,
           authority, phase, makeBeforeBreak, rollbackRequired, detail, overlapBytes,
           resourceOverlapAvailable }

def wCost (c : CostComponent) : W := do
  wStr c.name
  Writer.u64 c.estimatedNs
  Writer.u64 c.measuredNs
  wEnum c.provenance
  Writer.u64 c.bytes
  wStr c.unit

/-- The source also rejects a measurement whose conversion to `double` is not
finite. The conversion of a 64-bit integer is always finite. -/
def rCost : Reader CostComponent := do
  let name ← rStr
  let estimatedNs ← Reader.u64
  let measuredNs ← Reader.u64
  let provenance ← rEnum Provenance.unknown
  let bytes ← Reader.u64
  let unit ← rStr
  return { name, estimatedNs, measuredNs, provenance, bytes, unit }

/-! ## The blob -/

/-- The blob without its checksum. -/
def wBody (state : PersistentState) : W := do
  Writer.u32 kPersistenceMagic
  Writer.u32 kPersistenceVersion
  Writer.u64 state.coordinatorEpoch
  Writer.u64 state.authorityGeneration
  Writer.u64 state.registrationCounter
  wList wEngine state.engines
  wList wProfile state.profiles
  wList wInc state.incarnations
  wList wEvid state.evidence
  wList wRepl state.replacements
  wList wCost state.costHistory

/-- The checksum of a body, as it stands at the end of a blob. -/
def checksumBytes (body : List UInt8) : List UInt8 := leBytes 8 (fnv1a body).toNat

def serializePersistentState (state : PersistentState) : Except Err Str := do
  let ((), body) ← (wBody state).run
  return body ++ checksumBytes body

/-- A reader that reports why it failed. -/
abbrev LoadM := StateT (List UInt8) (Except String)

/-- Run a reader and report `msg` when it fails. -/
def orBad {α : Type} (r : Reader α) (msg : String) : LoadM α := fun inp =>
  match r inp with
  | some p => .ok p
  | none => .error msg

/-- A section of the body: a bounded count and that many records. -/
def rSection {α : Type} (r : Reader α) (count record : String) : LoadM (List α) := do
  let n ← orBad (do let n ← Reader.u32; Reader.failIf (n.toNat > kMaxCount); return n.toNat) count
  orBad (Reader.many r n) record

/-- The engine section checks after each record that the list has room left. -/
def rEngineLoop : Nat → List EngineDefinition → LoadM (List EngineDefinition)
  | 0, engines => pure engines
  | n + 1, engines => do
    let e ← orBad rEngine "engine record"
    if kMaxCount ≤ engines.length then throw "engine overflow"
    else rEngineLoop n (engines ++ [e])

def rEngines : LoadM (List EngineDefinition) := do
  let n ← orBad (do let n ← Reader.u32; Reader.failIf (n.toNat > kMaxCount); return n.toNat)
    "engine count"
  rEngineLoop n []

def rBody : LoadM PersistentState := do
  let _ ← orBad (do let magic ← Reader.u32; Reader.failIf (magic ≠ kPersistenceMagic)) "bad magic"
  let version ← orBad
    (do let v ← Reader.u32; Reader.failIf (v ≠ kPersistenceVersion); return v)
    "unsupported version"
  let coordinatorEpoch ← orBad Reader.u64 "reading epoch"
  let authorityGeneration ← orBad Reader.u64 "reading authority"
  let registrationCounter ← orBad Reader.u64 "reading reg counter"
  let engines ← rEngines
  let profiles ← rSection rProfile "profile count" "profile record"
  let incarnations ← rSection rInc "incarnation count" "incarnation record"
  let evidence ← rSection rEvid "evidence count" "evidence record"
  let replacements ← rSection rRepl "replacement count" "replacement record"
  let costHistory ← rSection rCost "cost count" "cost record"
  return { version, coordinatorEpoch, authorityGeneration, registrationCounter, engines, profiles,
           incarnations, evidence, replacements, costHistory }

/-- Decode a blob. Nothing of a rejected blob is returned. -/
def deserializePersistentState (blob : Str) : Except String PersistentState :=
  if blob.length < 8 + 8 then .error "blob too short"
  else if blob.length > kMaxSerializedBytes then .error "blob oversized"
  else
    let body := blob.take (blob.length - 8)
    let chk := ofLeBytes (blob.drop (blob.length - 8))
    if (fnv1a body).toNat ≠ chk then .error "checksum mismatch"
    else match rBody body with
      | .error msg => .error msg
      | .ok (s, rest) => if rest ≠ [] then .error "trailing garbage" else .ok s

end EngineResidency.Persistence
