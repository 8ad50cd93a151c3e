-- SUMMARY: Which uses that a session has acquired are released when it has ended.
import EngineResidency.Coordinator.Release
import EngineResidency.Coordinator.RoutedUse

/-!
# The uses of a session

A session that ends forgets its identity, its router and the one use it has noted. It
releases nothing. So the uses that it has acquired for its peer are released if and only if
somebody has asked for their release with a RELEASE_USE message of its own.
-/

namespace EngineResidency.Coordinator

open EngineResidency.Runtime

/-- The thread of a session has come to its end. -/
def sessionReturned (st : Traces) (tid : Nat) : Bool :=
  match st.pool.threads[tid]? with
  | some (.done none) => true
  | _ => false

/-- A session of the thread has acquired the use for the incarnation. -/
def SessionAcquired (st : Traces) (tid : Nat) (x : ServingUseId) (id : EngineIncarnationId) : Prop :=
  ∃ l e, (⟨tid, .session l, e⟩ : Entry) ∈ st.log ∧ Acquires x id e

/-- When the session has ended, the uses that it has acquired are released. -/
def LeavesNoUse (st : Traces) (tid : Nat) : Prop :=
  sessionReturned st tid = true → ∀ x id, SessionAcquired st tid x id →
    isReleased st.pool.shared.runtime x = true

/-- When the session has ended, the release of each of its uses was asked for. -/
def AsksForReleases (st : Traces) (tid : Nat) : Prop :=
  sessionReturned st tid = true → ∀ x id, SessionAcquired st tid x id →
    ReleaseAsked (deeds st) x id

theorem SessionAcquired.split {st : Traces} {tid : Nat} {x : ServingUseId}
    {id : EngineIncarnationId} (hacquired : SessionAcquired st tid x id) :
    ∃ pre e post, deeds st = pre ++ e :: post ∧ Acquires x id e := by
  obtain ⟨l, e, hmem, hacq⟩ := hacquired
  have hdeed : e ∈ deeds st := List.mem_map.mpr ⟨_, hmem, rfl⟩
  obtain ⟨pre, post, hsplit⟩ := List.append_of_mem hdeed
  exact ⟨pre, e, post, hsplit, hacq⟩

/-- A session leaves no use behind if and only if the release of each of them was asked for
since it was acquired, in every interleaving. -/
theorem session_uses_released_iff (state : Option Str) (scs : List (Sched Input)) (tid : Nat)
    (hfit : UsesFit (coordinator.traced.exec (tracing state) scs).pool.shared.runtime) :
    LeavesNoUse (coordinator.traced.exec (tracing state) scs) tid ↔
      AsksForReleases (coordinator.traced.exec (tracing state) scs) tid := by
  have htally := exec_tallied state scs hfit
  refine forall_congr' fun _ => forall_congr' fun x => forall_congr' fun id =>
    forall_congr' fun hacquired => ⟨fun hreleased => ?_, htally.isReleased⟩
  obtain ⟨pre, e, post, hsplit, hacq⟩ := hacquired.split
  obtain ⟨u, hu, -, hasked⟩ := htally.acquired pre e post x id hsplit hacq
  refine ⟨pre, e, post, hsplit, hacq, hasked.mp ?_⟩
  simpa [isReleased, hu] using hreleased

/-- Where every use is released, no session leaves one behind. -/
theorem leavesNoUse_of_released {state : Option Str} {scs : List (Sched Input)} {tid : Nat}
    (hfit : UsesFit (coordinator.traced.exec (tracing state) scs).pool.shared.runtime)
    (hall : ∀ u ∈ (coordinator.traced.exec (tracing state) scs).pool.shared.runtime.activeUses.values,
      u.released = true) :
    LeavesNoUse (coordinator.traced.exec (tracing state) scs) tid := by
  intro _ x id hacquired
  obtain ⟨pre, e, post, hsplit, hacq⟩ := hacquired.split
  obtain ⟨u, hu, -, -⟩ := (exec_tallied state scs hfit).acquired pre e post x id hsplit hacq
  simp [isReleased, hu, hall u (AList.mem_values.mpr ⟨x, hu⟩)]

/-- A session has acquired the use, as a check. -/
def sessionAcquired (tid : Nat) (x : ServingUseId) (id : EngineIncarnationId) : Entry → Bool
  | ⟨k, .session _, e⟩ => k == tid && acquires x id e
  | _ => false

theorem sessionAcquired_of_check {st : Traces} {tid : Nat} {x : ServingUseId}
    {id : EngineIncarnationId} (h : st.log.any (sessionAcquired tid x id) = true) :
    SessionAcquired st tid x id := by
  obtain ⟨⟨k, l, e⟩, hmem, h⟩ := List.any_eq_true.mp h
  cases l with
  | session l =>
    simp only [sessionAcquired, Bool.and_eq_true, beq_iff_eq] at h
    obtain ⟨rfl, hacq⟩ := h
    exact ⟨l, e, hmem, acquires_of_check hacq⟩
  | start | dispatch => cases h

/-- The thread 1 acquires a use, has it released and disconnects. -/
def sampleTidy : List (Sched Input) :=
  sampleHeld ++ [receives 1 .releaseUse "incarnation_id=2\nuse_id=2\n"] ++ moves 1 7

/-- The session has ended and left no use behind; so it has asked for the release of the use that
it had acquired. -/
theorem session_uses_released_sample :
    let st := coordinator.traced.exec (tracing none) sampleTidy
    sessionReturned st 1 = true ∧ SessionAcquired st 1 ⟨2⟩ ⟨2⟩ ∧ LeavesNoUse st 1 ∧
      AsksForReleases st 1 := by
  obtain ⟨hreturned, hacquired, hsize, hall⟩ :
      sessionReturned (coordinator.traced.exec (tracing none) sampleTidy) 1 = true ∧
      (coordinator.traced.exec (tracing none) sampleTidy).log.any
        (sessionAcquired 1 ⟨2⟩ ⟨2⟩) = true ∧
      (coordinator.traced.exec (tracing none) sampleTidy).pool.shared.runtime.activeUses.size <
        2 ^ 63 ∧
      ∀ u ∈ (coordinator.traced.exec (tracing none) sampleTidy).pool.shared.runtime.activeUses.values,
        u.released = true := by
    decide +kernel
  have hleaves : LeavesNoUse (coordinator.traced.exec (tracing none) sampleTidy) 1 :=
    leavesNoUse_of_released hsize hall
  exact ⟨hreturned, sessionAcquired_of_check hacquired, hleaves,
    (session_uses_released_iff none sampleTidy 1 hsize).mp hleaves⟩

/-- The thread 1 acquires a use and disconnects. -/
def sampleLeaving : List (Sched Input) := sampleHeld ++ moves 1 3

/-- The session has ended, and its use is held for good. -/
theorem session_leaks_use :
    ¬ LeavesNoUse (coordinator.traced.exec (tracing none) sampleLeaving) 1 := by
  obtain ⟨hreturned, hacquired, hopen⟩ :
      sessionReturned (coordinator.traced.exec (tracing none) sampleLeaving) 1 = true ∧
      (coordinator.traced.exec (tracing none) sampleLeaving).log.any
        (sessionAcquired 1 ⟨2⟩ ⟨2⟩) = true ∧
      isReleased (coordinator.traced.exec (tracing none) sampleLeaving).pool.shared.runtime ⟨2⟩ =
        false := by
    decide +kernel
  intro hleaves
  rw [hleaves hreturned ⟨2⟩ ⟨2⟩ (sessionAcquired_of_check hacquired)] at hopen
  cases hopen

end EngineResidency.Coordinator
