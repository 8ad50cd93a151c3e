-- SUMMARY: The state dimensions of the runtime as enumerations that keep the integers no enumerator names.
import Mathlib.Algebra.Ring.Nat
import Mathlib.Data.List.Nodup

/-!
# Enumerations

A scoped enumeration of the source has the underlying type `int`, and a cast
can give it any `int`: the session casts numbers straight from the wire. Each
enumeration below therefore lists its enumerators and has one more constructor,
`undeclared`, for the integers that none of them names. `CEnum` relates the
constructors to the underlying integers; an enumerator's integer is its position.
-/

namespace EngineResidency

/-! ## The underlying integers -/

/-- The integers that no enumerator of an enumeration with `n` enumerators
names, as 32-bit patterns. -/
abbrev Undeclared (n : Nat) := { v : UInt32 // n ≤ v.toNat }

/-- A scoped enumeration: its enumerators in order, and what is left. -/
class CEnum (E : Type) [DecidableEq E] where
  enumerators : List E
  undeclared : Undeclared enumerators.length → E
  /-- The integer behind an `undeclared` value. -/
  payload : E → UInt32
  payload_undeclared : ∀ v, payload (undeclared v) = v.1
  nodup : enumerators.Nodup
  length_lt : enumerators.length < 2 ^ 32
  not_mem : ∀ v, undeclared v ∉ enumerators
  exhaustive : ∀ e, e ∈ enumerators ∨ ∃ v, e = undeclared v

namespace CEnum

variable {E : Type} [DecidableEq E] [CEnum E]

/-- The value is one of the declared enumerators. -/
def Declared (e : E) : Prop := e ∈ enumerators (E := E)

instance (e : E) : Decidable (Declared e) := inferInstanceAs (Decidable (e ∈ enumerators (E := E)))

theorem declared {e : E} (h : decide (Declared e) = true) : Declared e := of_decide_eq_true h

/-- The underlying `int`, as a 32-bit pattern. -/
def raw (e : E) : UInt32 :=
  if Declared e then UInt32.ofNat ((enumerators (E := E)).idxOf e) else payload e

/-- The cast from `int`. -/
def ofRaw (x : UInt32) : E :=
  if h : x.toNat < (enumerators (E := E)).length then enumerators[x.toNat]
  else undeclared ⟨x, Nat.le_of_not_lt h⟩

theorem raw_of_declared {e : E} (h : Declared e) :
    (raw e).toNat = (enumerators (E := E)).idxOf e := by
  have hlt : (enumerators (E := E)).idxOf e < 2 ^ 32 :=
    Nat.lt_trans (List.idxOf_lt_length_of_mem h) length_lt
  rw [raw, if_pos h, UInt32.toNat_ofNat']
  exact Nat.mod_eq_of_lt hlt

theorem raw_undeclared (v : Undeclared (enumerators (E := E)).length) :
    raw (undeclared v) = v.1 := by
  simp [raw, Declared, not_mem v, payload_undeclared]

/-- An enumerator is a value whose integer is a position in the list. -/
theorem declared_iff {e : E} : Declared e ↔ (raw e).toNat < (enumerators (E := E)).length := by
  constructor
  · intro h
    rw [raw_of_declared h]
    exact List.idxOf_lt_length_of_mem h
  · intro hlt
    rcases exhaustive e with h | ⟨v, rfl⟩
    · exact h
    · rw [raw_undeclared] at hlt
      exact absurd v.2 (Nat.not_le_of_lt hlt)

@[simp] theorem ofRaw_raw (e : E) : ofRaw (raw e) = e := by
  rcases exhaustive e with h | ⟨v, rfl⟩
  · have hlt : (enumerators (E := E)).idxOf e < (enumerators (E := E)).length :=
      List.idxOf_lt_length_of_mem h
    simp only [ofRaw, raw_of_declared h, hlt, dite_true, List.getElem_idxOf]
  · have hnot : ¬ (raw (undeclared v : E)).toNat < (enumerators (E := E)).length := by
      rw [raw_undeclared]; exact Nat.not_lt_of_le v.2
    simp only [ofRaw, hnot, dite_false]
    congr 1
    exact Subtype.ext (raw_undeclared v)

@[simp] theorem raw_ofRaw (x : UInt32) : raw (ofRaw x : E) = x := by
  by_cases h : x.toNat < (enumerators (E := E)).length
  · have hmem : Declared (enumerators (E := E))[x.toNat] := List.getElem_mem h
    simp only [ofRaw, h, dite_true]
    apply UInt32.toNat_inj.mp
    rw [raw_of_declared hmem, nodup.idxOf_getElem x.toNat h]
  · simp only [ofRaw, h, dite_false]
    exact raw_undeclared _

theorem declared_ofRaw {x : UInt32} :
    Declared (ofRaw x : E) ↔ x.toNat < (enumerators (E := E)).length := by
  rw [declared_iff, raw_ofRaw]

end CEnum

/-! ## Enumerations of the persisted records -/

/-- What the controlling caller wants the engine to be. -/
inductive DesiredResidency where
  | absent | cold | warm | hot | undeclared (v : Undeclared 4)
  deriving DecidableEq, Repr

instance : CEnum DesiredResidency where
  enumerators := [.absent, .cold, .warm, .hot]
  undeclared := .undeclared
  payload
    | .undeclared v => v.1
    | _ => 0
  payload_undeclared _ := rfl
  nodup := by decide
  length_lt := by decide
  not_mem _ := by simp
  exhaustive e := by cases e <;> simp

/-- What the process of an incarnation is doing. -/
inductive ProcessLifecycle where
  | registering | starting | running | draining | stopping | stopped | lost | failed | retired
  | undeclared (v : Undeclared 9)
  deriving DecidableEq, Repr

instance : CEnum ProcessLifecycle where
  enumerators := [.registering, .starting, .running, .draining, .stopping, .stopped, .lost, .failed, .retired]
  undeclared := .undeclared
  payload
    | .undeclared v => v.1
    | _ => 0
  payload_undeclared _ := rfl
  nodup := by decide
  length_lt := by decide
  not_mem _ := by simp
  exhaustive e := by cases e <;> simp

/-- How far preparation for the target configuration has come. -/
inductive PreparationState where
  | unprepared | planned | preparing | prepared | invalidated | failed | revalidationRequired
  | undeclared (v : Undeclared 7)
  deriving DecidableEq, Repr

instance : CEnum PreparationState where
  enumerators := [.unprepared, .planned, .preparing, .prepared, .invalidated, .failed, .revalidationRequired]
  undeclared := .undeclared
  payload
    | .undeclared v => v.1
    | _ => 0
  payload_undeclared _ := rfl
  nodup := by decide
  length_lt := by decide
  not_mem _ := by simp
  exhaustive e := by cases e <;> simp

/-- Activation and role authority. -/
inductive ActivationState where
  | inactive | standby | activating | active | draining | fenced | undeclared (v : Undeclared 6)
  deriving DecidableEq, Repr

instance : CEnum ActivationState where
  enumerators := [.inactive, .standby, .activating, .active, .draining, .fenced]
  undeclared := .undeclared
  payload
    | .undeclared v => v.1
    | _ => 0
  payload_undeclared _ := rfl
  nodup := by decide
  length_lt := by decide
  not_mem _ := by simp
  exhaustive e := by cases e <;> simp

/-- Health of the underlying process. -/
inductive HealthState where
  | unknown | healthy | degraded | unhealthy | lost | fenced | undeclared (v : Undeclared 6)
  deriving DecidableEq, Repr

instance : CEnum HealthState where
  enumerators := [.unknown, .healthy, .degraded, .unhealthy, .lost, .fenced]
  undeclared := .undeclared
  payload
    | .undeclared v => v.1
    | _ => 0
  payload_undeclared _ := rfl
  nodup := by decide
  length_lt := by decide
  not_mem _ := by simp
  exhaustive e := by cases e <;> simp

/-- Recovery state after a failure or a coordinator restart. -/
inductive RecoveryState where
  | nominal | revalidating | recovering | replaced | failed | awaitingAuthority
  | undeclared (v : Undeclared 6)
  deriving DecidableEq, Repr

instance : CEnum RecoveryState where
  enumerators := [.nominal, .revalidating, .recovering, .replaced, .failed, .awaitingAuthority]
  undeclared := .undeclared
  payload
    | .undeclared v => v.1
    | _ => 0
  payload_undeclared _ := rfl
  nodup := by decide
  length_lt := by decide
  not_mem _ := by simp
  exhaustive e := by cases e <;> simp

/-- Registration of a worker with the authority. -/
inductive RegistrationState where
  | none | pending | registered | fenced | rejected | undeclared (v : Undeclared 5)
  deriving DecidableEq, Repr

instance : CEnum RegistrationState where
  enumerators := [.none, .pending, .registered, .fenced, .rejected]
  undeclared := .undeclared
  payload
    | .undeclared v => v.1
    | _ => 0
  payload_undeclared _ := rfl
  nodup := by decide
  length_lt := by decide
  not_mem _ := by simp
  exhaustive e := by cases e <;> simp

/-- Serving role of a logical engine. -/
inductive ServingRole where
  | generalInference | prefill | decode | embedding | multimodal | referenceCompute | custom
  | unknown | undeclared (v : Undeclared 8)
  deriving DecidableEq, Repr

instance : CEnum ServingRole where
  enumerators := [.generalInference, .prefill, .decode, .embedding, .multimodal, .referenceCompute, .custom,
    .unknown]
  undeclared := .undeclared
  payload
    | .undeclared v => v.1
    | _ => 0
  payload_undeclared _ := rfl
  nodup := by decide
  length_lt := by decide
  not_mem _ := by simp
  exhaustive e := by cases e <;> simp

/-- Category of a prepared component. -/
inductive ComponentCategory where
  | backend | deviceContext | model | adapter | kvCapacity | kvState | kernel | graph
  | tokenizerAsset | runtimeAsset | workspace | resourceClaim | dependency | warmup
  | undeclared (v : Undeclared 14)
  deriving DecidableEq, Repr

instance : CEnum ComponentCategory where
  enumerators := [.backend, .deviceContext, .model, .adapter, .kvCapacity, .kvState, .kernel, .graph,
    .tokenizerAsset, .runtimeAsset, .workspace, .resourceClaim, .dependency, .warmup]
  undeclared := .undeclared
  payload
    | .undeclared v => v.1
    | _ => 0
  payload_undeclared _ := rfl
  nodup := by decide
  length_lt := by decide
  not_mem _ := by simp
  exhaustive e := by cases e <;> simp

/-- State that evidence reports for a component. -/
inductive ComponentState where
  | absent | discovered | available | loading | bound | verified | failed | stale | unknown
  | revalidationRequired | undeclared (v : Undeclared 10)
  deriving DecidableEq, Repr

instance : CEnum ComponentState where
  enumerators := [.absent, .discovered, .available, .loading, .bound, .verified, .failed, .stale, .unknown,
    .revalidationRequired]
  undeclared := .undeclared
  payload
    | .undeclared v => v.1
    | _ => 0
  payload_undeclared _ := rfl
  nodup := by decide
  length_lt := by decide
  not_mem _ := by simp
  exhaustive e := by cases e <;> simp

/-- How a profile treats a requirement. -/
inductive RequirementKind where
  | required | optional | permittedFallback | unsupported | undeclared (v : Undeclared 4)
  deriving DecidableEq, Repr

instance : CEnum RequirementKind where
  enumerators := [.required, .optional, .permittedFallback, .unsupported]
  undeclared := .undeclared
  payload
    | .undeclared v => v.1
    | _ => 0
  payload_undeclared _ := rfl
  nodup := by decide
  length_lt := by decide
  not_mem _ := by simp
  exhaustive e := by cases e <;> simp

/-- Where a quantity comes from. -/
inductive Provenance where
  | measured | reported | derived | estimated | synthetic | reconstructed | unknown
  | undeclared (v : Undeclared 7)
  deriving DecidableEq, Repr

instance : CEnum Provenance where
  enumerators := [.measured, .reported, .derived, .estimated, .synthetic, .reconstructed, .unknown]
  undeclared := .undeclared
  payload
    | .undeclared v => v.1
    | _ => 0
  payload_undeclared _ := rfl
  nodup := by decide
  length_lt := by decide
  not_mem _ := by simp
  exhaustive e := by cases e <;> simp

/-- Progress of a drain. -/
inductive DrainPhase where
  | none | requested | admissionFenced | activeUseRemaining | backendCleanupPending | drained
  | retired | undeclared (v : Undeclared 7)
  deriving DecidableEq, Repr

instance : CEnum DrainPhase where
  enumerators := [.none, .requested, .admissionFenced, .activeUseRemaining, .backendCleanupPending, .drained,
    .retired]
  undeclared := .undeclared
  payload
    | .undeclared v => v.1
    | _ => 0
  payload_undeclared _ := rfl
  nodup := by decide
  length_lt := by decide
  not_mem _ := by simp
  exhaustive e := by cases e <;> simp

/-- The generation a requirement compares with the engine definition. -/
inductive GenerationFamily where
  | none | model | adapter | kvCapacity | kvState | kernel | graph | allocation | resourceClaim
  | dependency | compatibility | undeclared (v : Undeclared 11)
  deriving DecidableEq, Repr

instance : CEnum GenerationFamily where
  enumerators := [.none, .model, .adapter, .kvCapacity, .kvState, .kernel, .graph, .allocation,
    .resourceClaim, .dependency, .compatibility]
  undeclared := .undeclared
  payload
    | .undeclared v => v.1
    | _ => 0
  payload_undeclared _ := rfl
  nodup := by decide
  length_lt := by decide
  not_mem _ := by simp
  exhaustive e := by cases e <;> simp

/-- Phase of a replacement plan. -/
inductive ReplacementPhase where
  | planned | preparing | candidateReady | cutover | oldDrain | retireOld | complete
  | undeclared (v : Undeclared 7)
  deriving DecidableEq, Repr

instance : CEnum ReplacementPhase where
  enumerators := [.planned, .preparing, .candidateReady, .cutover, .oldDrain, .retireOld, .complete]
  undeclared := .undeclared
  payload
    | .undeclared v => v.1
    | _ => 0
  payload_undeclared _ := rfl
  nodup := by decide
  length_lt := by decide
  not_mem _ := by simp
  exhaustive e := by cases e <;> simp

/-! ## Enumerations that are never cast from an integer -/

/-- Outcome of a readiness evaluation. -/
inductive ReadinessOutcome where
  | unknown | blocked | preparing | ready | degraded | stale | revalidationRequired
  deriving DecidableEq, Repr

/-- Actions of a preparation plan. -/
inductive PreparationAction where
  | discoverBackend | bindDeviceContext | acquireAuthorizedResource | bindModel | bindAdapter
  | provisionKvCapacity | restoreCompatibleKvState | bindKernel | instantiateGraph | warmUp
  | verifyOutput | publishReadiness
  deriving DecidableEq, Repr

/-- Actions the economics model compares. -/
inductive RecoveryAction where
  | reuseWarm | warmCold | rebindSurviving | replaceLost | reloadModelState | restoreCompatibleKv
  | instantiateGraph | rerunWarmup
  deriving DecidableEq, Repr

/-- How a unit of admitted work ended. -/
inductive WorkOutcome where
  | completed | failed | unknown | invalidated
  deriving DecidableEq, Repr

/-! ## Names -/

def PreparationState.toString : PreparationState → String
  | .unprepared => "UNPREPARED" | .planned => "PLANNED" | .preparing => "PREPARING"
  | .prepared => "PREPARED" | .invalidated => "INVALIDATED" | .failed => "FAILED"
  | .revalidationRequired => "REVALIDATION_REQUIRED" | .undeclared _ => "UNKNOWN"

def ActivationState.toString : ActivationState → String
  | .inactive => "INACTIVE" | .standby => "STANDBY" | .activating => "ACTIVATING"
  | .active => "ACTIVE" | .draining => "DRAINING" | .fenced => "FENCED"
  | .undeclared _ => "UNKNOWN"

def ComponentCategory.toString : ComponentCategory → String
  | .backend => "BACKEND" | .deviceContext => "DEVICE_CONTEXT" | .model => "MODEL"
  | .adapter => "ADAPTER" | .kvCapacity => "KV_CAPACITY" | .kvState => "KV_STATE"
  | .kernel => "KERNEL" | .graph => "GRAPH" | .tokenizerAsset => "TOKENIZER_ASSET"
  | .runtimeAsset => "RUNTIME_ASSET" | .workspace => "WORKSPACE"
  | .resourceClaim => "RESOURCE_CLAIM" | .dependency => "DEPENDENCY" | .warmup => "WARMUP"
  | .undeclared _ => "UNKNOWN"

def ComponentState.toString : ComponentState → String
  | .absent => "ABSENT" | .discovered => "DISCOVERED" | .available => "AVAILABLE"
  | .loading => "LOADING" | .bound => "BOUND" | .verified => "VERIFIED" | .failed => "FAILED"
  | .stale => "STALE" | .unknown => "UNKNOWN"
  | .revalidationRequired => "REVALIDATION_REQUIRED" | .undeclared _ => "UNKNOWN"

def DrainPhase.toString : DrainPhase → String
  | .none => "NONE" | .requested => "REQUESTED" | .admissionFenced => "ADMISSION_FENCED"
  | .activeUseRemaining => "ACTIVE_USE_REMAINING"
  | .backendCleanupPending => "BACKEND_CLEANUP_PENDING" | .drained => "DRAINED"
  | .retired => "RETIRED" | .undeclared _ => "NONE"

def ReplacementPhase.toString : ReplacementPhase → String
  | .planned => "PLANNED" | .preparing => "PREPARING" | .candidateReady => "CANDIDATE_READY"
  | .cutover => "CUTOVER" | .oldDrain => "OLD_DRAIN" | .retireOld => "RETIRE_OLD"
  | .complete => "COMPLETE" | .undeclared _ => "UNKNOWN"

def ReadinessOutcome.toString : ReadinessOutcome → String
  | .unknown => "UNKNOWN" | .blocked => "BLOCKED" | .preparing => "PREPARING"
  | .ready => "READY" | .degraded => "DEGRADED" | .stale => "STALE"
  | .revalidationRequired => "REVALIDATION_REQUIRED"

end EngineResidency
