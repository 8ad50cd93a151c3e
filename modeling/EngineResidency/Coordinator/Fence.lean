-- SUMMARY: A boot that was fenced over the wire stays fenced in every interleaving of the sessions.
import EngineResidency.Coordinator.Projection
import EngineResidency.Runtime.Fence

/-!
# Fencing over the wire

A handler checks the fence of an incarnation and acts on it in two atomic actions,
and other threads may act in between: the checks of the handlers keep nothing out.
What keeps a fenced boot out are the checks of the operations themselves, and that no
operation a session can call resets what they read.
-/

namespace EngineResidency.Coordinator

open EngineResidency.Runtime

variable {w : WorkerId} {b : WorkerBootId}

theorem Call.respectsFence (c : Call) (now admittedAt : DurationNs) :
    Runtime.respectsFence (c.op now admittedAt) = true := by
  cases c <;> rfl

/-- The event of a fence leaves the boot fenced out. -/
theorem fencedOut_of_event {pool : Pool SessionShared Action Action.Res Loop} {tid : Nat}
    {input : Input} {r : Except Err Reply}
    (h : coordinator.machine.result pool (.move tid input) = some ⟨.call (.fenceWorker w b), r⟩) :
    FencedOut w b (coordinator.machine.next pool (.move tid input)).shared.runtime := by
  rw [(call_event h).2]
  exact fencedOut_fenceWorker pool.shared.runtime w b

/-- A boot that is fenced out stays fenced out under every schedule. -/
theorem exec_fencedOut {pool : Pool SessionShared Action Action.Res Loop}
    (h : FencedOut w b pool.shared.runtime) (scs : List (Sched Input)) :
    FencedOut w b (coordinator.machine.exec pool scs).shared.runtime := by
  refine exec_runtime h Machine.along_true ?_
  intro pool tid input c _ _ hpool
  exact (step_transition _ _).fencedOut (c.respectsFence _ _) hpool

/-- Once a boot has been fenced, whatever the threads do before and after: none of its
incarnations is current or running, and every call that would admit the boot or one
of its incarnations is refused. -/
theorem wire_fence_permanent (state : Option Str) (before after : List (Sched Input))
    {tid : Nat} {input : Input} {r : Except Err Reply}
    (hfence : coordinator.machine.result (coordinator.machine.exec (listening state) before)
      (.move tid input) = some ⟨.call (.fenceWorker w b), r⟩) :
    let pool := coordinator.machine.exec (listening state) (before ++ .move tid input :: after)
    (∀ id i, pool.shared.runtime.findInc id = some i → ofBoot w b i →
      i.isCurrent = false ∧ i.state.lifecycle ≠ .running) ∧
    ∀ tid input c r, coordinator.machine.result pool (.move tid input) = some ⟨.call c, r⟩ →
      AdmitsBoot pool.shared.runtime w b (c.op input.now input.admittedAt) → ∃ e, r = .error e := by
  intro pool
  have hout : FencedOut w b pool.shared.runtime := by
    have hafter := exec_fencedOut (fencedOut_of_event hfence) after
    rwa [← Machine.exec_cons, ← Machine.exec_append] at hafter
  refine ⟨fun id i hi hboot => ?_, fun tid input c r hevent hadmits => ?_⟩
  · have hrecord := hout.records id i hi hboot
    exact ⟨hrecord.notCurrent, hrecord.notRunning⟩
  · rw [(call_event hevent).1]
    exact (step_transition _ _).refused_of_fencedOut hout hadmits

/-- The thread 0 has checked the fence of its incarnation and is about to publish; the
thread 1 is about to fence its boot. -/
def publishRace : List (Sched Input) :=
  sampleRegister ++ [receives 0 .publishComponent "state=5\n"] ++ moves 0 4 ++
    [.spawn] ++ moves 1 2 ++ [receives 1 .fenceWorker "worker_id=7\nworker_boot=3\n"]

/-- The publication that lost the race is refused. -/
theorem wire_fence_permanent_sample :
    coordinator.machine.result (coordinator.machine.exec (listening none) publishRace)
        (.move 1 {}) = some ⟨.call (.fenceWorker ⟨7⟩ ⟨3⟩), .ok .done⟩ ∧
      ∃ c r, coordinator.machine.result
        (coordinator.machine.exec (listening none) (publishRace ++ [.move 1 {}])) (.move 0 {}) =
          some ⟨.call c, r⟩ ∧ ∃ e, r = .error e := by
  have hfence : coordinator.machine.result (coordinator.machine.exec (listening none) publishRace)
      (.move 1 {}) = some ⟨.call (.fenceWorker ⟨7⟩ ⟨3⟩), .ok .done⟩ := rfl
  refine ⟨hfence, _, _, rfl, ?_⟩
  exact (wire_fence_permanent none publishRace [] hfence).2 0 {} _ _ rfl (.evidence rfl ⟨rfl, rfl⟩)

end EngineResidency.Coordinator
