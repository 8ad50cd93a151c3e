-- SUMMARY: What the threads of the coordinator do to the runtime, and the rule for invariants of the runtime under them.
import EngineResidency.Coordinator.Session
import EngineResidency.Runtime.Transition

/-!
# The runtime under the coordinator

A call is the only action that touches the runtime, and it makes one transition of
it. So every run of the coordinator, in any interleaving of its threads, is a run of
the runtime, and what every call keeps, every run keeps.
-/

namespace EngineResidency.Coordinator

open EngineResidency.Runtime

variable {input : Input} {s s' : SessionShared} {pool : Pool SessionShared Action Action.Res Loop}

/-! ## One action -/

theorem performAlive_call {c : Call} {r : Except Err Reply}
    (h : performAlive input s (.call c) = some (r, s')) :
    r = machine.result s.runtime (c.op input.now input.admittedAt) ∧
      s'.runtime = machine.next s.runtime (c.op input.now input.admittedAt) := by
  unfold performAlive at h
  split at h
  · cases h
  · cases h
    exact ⟨rfl, rfl⟩

/-- A call makes its transition of the runtime; every other action leaves it alone. -/
theorem performAlive_runtime {a : Action} {r : a.Res} (h : performAlive input s a = some (r, s')) :
    s'.runtime = s.runtime ∨
      ∃ c, a = .call c ∧
        s'.runtime = machine.next s.runtime (c.op input.now input.admittedAt) := by
  cases a with
  | call c => exact .inr ⟨c, rfl, (performAlive_call h).2⟩
  | locked ready f =>
    simp only [performAlive, perform, Option.ite_none_right_eq_some,
      Option.ite_none_left_eq_some, Option.some.injEq] at h
    obtain ⟨-, -, -, rfl⟩ := h
    exact .inl rfl
  | await ticket =>
    simp only [performAlive, perform] at h
    split at h
    · cases h
    · split at h
      · cases h
        exact .inl rfl
      · obtain ⟨rep, -, heq⟩ := Option.map_eq_some_iff.mp h
        cases heq
        exact .inl rfl
  | query q | recv | send m | abort =>
    unfold performAlive at h
    split at h
    · cases h
    · cases h
      exact .inl rfl

/-- No thread recovers a state. -/
theorem Call.not_isLoad (c : Call) (now admittedAt : DurationNs) :
    ¬ (c.op now admittedAt).IsLoad := by
  cases c <;> exact id

/-! ## Schedules -/

/-- The event of a call tells its result and the runtime it leaves behind. -/
theorem call_event {tid : Nat} {c : Call} {r : Except Err Reply}
    (h : coordinator.machine.result pool (.move tid input) = some ⟨.call c, r⟩) :
    r = machine.result pool.shared.runtime (c.op input.now input.admittedAt) ∧
      (coordinator.machine.next pool (.move tid input)).shared.runtime =
        machine.next pool.shared.runtime (c.op input.now input.admittedAt) := by
  have hturn := System.turned (S := coordinator) pool (.move tid input)
  rw [h] at hturn
  obtain ⟨tid', input', heq, -, hperform⟩ := System.of_event hturn
  cases heq
  exact performAlive_call hperform

/-- What every call of a run keeps of the runtime, the run keeps. -/
theorem exec_runtime {C : Pool SessionShared Action Action.Res Loop → Sched Input → Prop}
    {I : Impl → Prop} {scs : List (Sched Input)} (hinit : I pool.shared.runtime)
    (hrun : coordinator.machine.Along C pool scs)
    (hcall : ∀ pool tid input c, C pool (.move tid input) →
      System.pending pool (.move tid input) = some (.call c) → I pool.shared.runtime →
      I (machine.next pool.shared.runtime (c.op input.now input.admittedAt))) :
    I (coordinator.machine.exec pool scs).shared.runtime := by
  refine System.exec_shared (I := fun s => I s.runtime) hinit hrun ?_
  intro pool tid input a r s hC hpending hperform hI
  rcases performAlive_runtime hperform with hsame | ⟨c, rfl, hnext⟩
  · rw [hsame]
    exact hI
  · rw [hnext]
    exact hcall pool tid input c hC hpending hI

/-! ## Startup -/

/-- The operations of a startup: the reference engine is defined, and a recovered
state enters a new epoch. -/
def IsStartupOp (op : Op) : Prop :=
  op ∈ seedReferenceEngine ∨ op.IsLoad ∨ op = .advanceEpoch

/-- What the operations of a startup keep holds when the coordinator listens. -/
theorem startup_invariant {I : Impl → Prop} (hnew : I (Impl.new {}))
    (hstep : ∀ s op, IsStartupOp op → I s → I (machine.next s op)) (state : Option Str) :
    I (startup state) := by
  have hseed : I (machine.exec (Impl.new {}) seedReferenceEngine) :=
    Machine.exec_invariant hnew
      (Machine.along_of_mem (C := fun _ op => IsStartupOp op) fun op hop _ => .inl hop)
      fun s op hs hop => hstep s op hop hs
  unfold startup
  cases state with
  | none => exact hseed
  | some blob =>
    have hload := hstep _ (.load blob) (.inr (.inl trivial)) hseed
    simp only
    split
    · exact hstep _ .advanceEpoch (.inr (.inr rfl)) hload
    · exact hload

end EngineResidency.Coordinator
