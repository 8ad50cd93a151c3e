-- SUMMARY: When the state that a coordinator saves can be recovered.
import EngineResidency.Coordinator.Projection
import EngineResidency.Runtime.Declared

/-!
# Recovery of a saved state

PUBLISH_COMPONENT casts three numbers from the wire to enumerations and does not
check them; the runtime stores them and a save writes them as they are, but recovery
rejects the whole blob over one number that names no enumerator. No other message
puts a number from the wire into an enumeration. So in every run whose accepted
publications name enumerators, what is saved is recovered.
-/

namespace EngineResidency.Coordinator

open EngineResidency.Runtime Persistence
open CEnum (declared)

/-- A publication that passes the checks of the runtime names enumerators. -/
def publishesDeclared (pool : Pool SessionShared Action Action.Res Loop) (sc : Sched Input) :
    Bool :=
  match System.pending pool sc with
  | some (.call (.publishComponent ev)) =>
    !mayPublish pool.shared.runtime ev || decide ev.EnumsDeclared
  | _ => true

/-! ## Startup and calls -/

theorem enumsDeclared_referenceEngine : referenceEngine.EnumsDeclared :=
  ⟨declared rfl, declared rfl⟩

theorem enumsDeclared_referenceProfile : referenceProfile.EnumsDeclared := by
  refine ⟨declared rfl, fun r hr => ?_⟩
  simp only [referenceProfile, referenceRequirements, List.mem_cons, List.not_mem_nil,
    or_false] at hr
  rcases hr with rfl | rfl | rfl | rfl | rfl | rfl | rfl <;>
    exact ⟨declared rfl, declared rfl, declared rfl, declared rfl⟩

theorem storesDeclared_startup {op : Op} (h : IsStartupOp op) (s : Impl) : StoresDeclared s op := by
  rcases h with hseed | hload | rfl
  · simp only [seedReferenceEngine, List.mem_cons, List.not_mem_nil, or_false] at hseed
    rcases hseed with rfl | rfl
    · exact enumsDeclared_referenceEngine
    · exact enumsDeclared_referenceProfile
  · cases op with
    | load blob => trivial
    | _ => exact hload.elim
  · trivial

theorem declaredState_startup (state : Option Str) : DeclaredState (startup state) := by
  refine startup_invariant (declaredState_new {}) (fun s op hop hs => ?_) state
  exact (step_transition s op).declaredState (storesDeclared_startup hop s) hs

/-- A session registers records with default states. -/
theorem enumsDeclared_described (d : WorkerDescription) : d.incarnation.EnumsDeclared :=
  ⟨declared rfl, of_decide_eq_true rfl⟩

theorem storesDeclared_call {pool : Pool SessionShared Action Action.Res Loop} {sc : Sched Input}
    {c : Call} (hpending : System.pending pool sc = some (.call c))
    (hdeclared : publishesDeclared pool sc = true) (now admittedAt : DurationNs) :
    StoresDeclared pool.shared.runtime (c.op now admittedAt) := by
  cases c with
  | registerIncarnation worker permit => exact enumsDeclared_described worker
  | publishComponent ev =>
    intro hmay
    simpa [publishesDeclared, hpending, hmay] using hdeclared
  | _ => trivial

/-! ## Whole runs -/

theorem exec_declaredState (state : Option Str) {scs : List (Sched Input)}
    (hrun : coordinator.machine.Along (fun pool sc => publishesDeclared pool sc = true)
      (listening state) scs) :
    DeclaredState (coordinator.machine.exec (listening state) scs).shared.runtime := by
  refine exec_runtime (declaredState_startup state) hrun ?_
  intro pool tid input c hdeclared hpending hs
  exact (step_transition _ _).declaredState (storesDeclared_call hpending hdeclared _ _) hs

/-- In every run whose accepted publications name enumerators, a save within the bounds
of the format is recovered. -/
theorem saved_state_recovers (state : Option Str) (scs : List (Sched Input))
    (hrun : coordinator.machine.Along (fun pool sc => publishesDeclared pool sc = true)
      (listening state) scs)
    {blob : Str}
    (hsave : Runtime.serialize (coordinator.machine.exec (listening state) scs).shared.runtime =
      .ok blob)
    (hbounded : (persisted (coordinator.machine.exec (listening state) scs).shared.runtime).Bounded)
    (hsize : blob.length ≤ kMaxSerializedBytes) :
    ∃ p, deserializePersistentState blob = .ok p := by
  have hdeclared := (exec_declaredState state hrun).persisted
  obtain ⟨blob', hser, hback⟩ := serialize_recovers
    (PersistentState.wellFormed_of_bounded rfl hbounded hdeclared)
  obtain rfl := Except.ok.inj (hsave.symm.trans hser)
  exact ⟨_, hback hsize⟩

/-- The thread 0 registers and publishes a component of the given category. -/
def samplePublish (category : String) : List (Sched Input) :=
  sampleRegister ++ [receives 0 .publishComponent ("category=" ++ category ++ "\nstate=5\n")] ++
    moves 0 6

/-- The runtime after the publication. -/
def sampleSaved (category : String) : Impl :=
  (coordinator.machine.exec (listening none) (samplePublish category)).shared.runtime

/-- A publication of category 1, the device context. -/
theorem saved_state_recovers_sample :
    ∃ blob, Runtime.serialize (sampleSaved "1") = .ok blob ∧
      ∃ p, deserializePersistentState blob = .ok p := by
  have hlen : (Runtime.serialize (sampleSaved "1")).map List.length = .ok 1606 := by decide +kernel
  cases hsave : Runtime.serialize (sampleSaved "1") with
  | error e =>
    rw [hsave] at hlen
    cases hlen
  | ok blob =>
    rw [hsave] at hlen
    have hsize : blob.length = 1606 := by simpa [Except.map] using hlen
    refine ⟨blob, rfl, saved_state_recovers none (samplePublish "1") ?_ hsave ?_ ?_⟩
    · decide +kernel
    · decide +kernel
    · rw [hsize]
      decide

/-- A publication of category 99 is accepted and saved within all bounds, and the blob
is not recovered. -/
theorem saved_state_rejected :
    ∃ blob, Runtime.serialize (sampleSaved "99") = .ok blob ∧ (persisted (sampleSaved "99")).Bounded ∧
      blob.length ≤ kMaxSerializedBytes ∧ ∀ p, deserializePersistentState blob ≠ .ok p := by
  have hsaved : (Runtime.serialize (sampleSaved "99")).map (fun blob =>
      (blob.length, (deserializePersistentState blob).isOk)) = .ok (1606, false) := by
    decide +kernel
  cases hsave : Runtime.serialize (sampleSaved "99") with
  | error e =>
    rw [hsave] at hsaved
    cases hsaved
  | ok blob =>
    rw [hsave] at hsaved
    obtain ⟨hsize, hrejected⟩ : blob.length = 1606 ∧
        (deserializePersistentState blob).isOk = false := by simpa [Except.map] using hsaved
    refine ⟨blob, rfl, by decide +kernel, ?_, fun p hp => ?_⟩
    · rw [hsize]
      decide
    · rw [hp] at hrejected
      cases hrejected

end EngineResidency.Coordinator
