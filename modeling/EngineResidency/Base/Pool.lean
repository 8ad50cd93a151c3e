-- SUMMARY: Programs of atomic actions, and pools of threads that run them in every interleaving.
import EngineResidency.Base.Machine

/-!
# Interleaved programs

A program performs atomic actions one after the other and goes on with their
responses. A pool runs programs side by side over one shared state: a schedule says
which thread moves next and what the environment answers, and between two actions
of a thread any number of actions of other threads may stand. A thread runs a
program over and over, each time from the local state the last round returned.

A pool with its schedules is a machine, so the rules for machines apply; the ones
below reduce a statement about the shared state to one about single actions.
-/

/-- A program: it returns, or it performs an action and goes on with the response. -/
inductive Prog (Act : Type) (Res : Act → Type) (A : Type) where
  | done (a : A)
  | act (a : Act) (k : Res a → Prog Act Res A)

namespace Prog

variable {Act : Type} {Res : Act → Type} {A B : Type}

def bind : Prog Act Res A → (A → Prog Act Res B) → Prog Act Res B
  | done a, f => f a
  | act a k, f => act a fun r => (k r).bind f

instance : Monad (Prog Act Res) where
  pure := done
  bind := bind

/-- The program that performs one action and returns its response. -/
def perform (a : Act) : Prog Act Res (Res a) := act a done

end Prog

/-! ## Pools -/

/-- What threads run, and what their actions do to the shared state. The environment
takes part in an action through its input; an action without a result is blocked. -/
structure System (σ ι : Type) (Act : Type) (Res : Act → Type) (L : Type) where
  perform : ι → σ → (a : Act) → Option (Res a × σ)
  start : L
  code : L → Prog Act Res (Option L)

/-- A shared state and the programs that the threads have left to run. -/
structure Pool (σ : Type) (Act : Type) (Res : Act → Type) (L : Type) where
  shared : σ
  threads : List (Prog Act Res (Option L))

/-- One entry of a schedule: a new thread, or one move of a thread with an input. -/
inductive Sched (ι : Type) where
  | spawn
  | move (tid : Nat) (input : ι)

namespace System

variable {σ ι Act L : Type} {Res : Act → Type} (S : System σ ι Act Res L)

/-- A move of the thread `tid` that has the program `p` left. -/
def move (tid : Nat) (input : ι) (pool : Pool σ Act Res L) :
    Prog Act Res (Option L) → Option (Σ a, Res a) × Pool σ Act Res L
  | .act a k =>
    match S.perform input pool.shared a with
    | some (r, s) => (some ⟨a, r⟩, ⟨s, pool.threads.set tid (k r)⟩)
    | none => (none, pool)
  | .done (some l) => (none, { pool with threads := pool.threads.set tid (S.code l) })
  | .done none => (none, pool)

/-- One entry of a schedule; the result is the action that was performed, if any. -/
def turn : Sched ι → Pool σ Act Res L → Option (Σ a, Res a) × Pool σ Act Res L
  | .spawn, pool => (none, { pool with threads := pool.threads ++ [S.code S.start] })
  | .move tid input, pool =>
    match pool.threads[tid]? with
    | some p => S.move tid input pool p
    | none => (none, pool)

/-- The pool as a machine over schedules. -/
def machine : Machine (Pool σ Act Res L) (Sched ι) (Option (Σ a, Res a)) := ⟨S.turn⟩

/-- The pool before any thread runs. -/
def initial (s : σ) : Pool σ Act Res L := ⟨s, []⟩

/-- The action that the next move of a thread performs. -/
def pending (pool : Pool σ Act Res L) : Sched ι → Option Act
  | .spawn => none
  | .move tid _ =>
    match pool.threads[tid]? with
    | some (.act a _) => some a
    | _ => none

/-! ## What a turn does -/

variable {S} {pool : Pool σ Act Res L} {sc : Sched ι}

/-- What a turn does: nothing to the shared state, or one action of one thread. -/
inductive Turned (S : System σ ι Act Res L) (pool : Pool σ Act Res L) :
    Sched ι → Option (Σ a, Res a) → Pool σ Act Res L → Prop
  | silent {sc : Sched ι} {ts : List (Prog Act Res (Option L))} :
    Turned S pool sc none ⟨pool.shared, ts⟩
  | acted {tid : Nat} {input : ι} {a : Act} {k : Res a → Prog Act Res (Option L)} {r : Res a}
    {s : σ} (hthread : pool.threads[tid]? = some (.act a k))
    (hperform : S.perform input pool.shared a = some (r, s)) :
    Turned S pool (.move tid input) (some ⟨a, r⟩) ⟨s, pool.threads.set tid (k r)⟩

theorem turned (pool : Pool σ Act Res L) (sc : Sched ι) :
    Turned S pool sc (S.machine.result pool sc) (S.machine.next pool sc) := by
  cases sc with
  | spawn => exact .silent
  | move tid input =>
    simp only [machine, Machine.result, Machine.next, turn]
    cases hthread : pool.threads[tid]? with
    | none => exact .silent
    | some p =>
      cases p with
      | done l =>
        cases l with
        | none => exact .silent
        | some l => exact .silent
      | act a k =>
        simp only [move]
        split
        · rename_i r s hperform
          exact .acted hthread hperform
        · exact .silent

/-- What every action keeps, every run keeps. -/
theorem exec_shared {C : Pool σ Act Res L → Sched ι → Prop} {I : σ → Prop} {scs : List (Sched ι)}
    (hinit : I pool.shared) (hrun : S.machine.Along C pool scs)
    (hact : ∀ pool tid input a r s, C pool (.move tid input) →
      pending pool (.move tid input) = some a →
      S.perform input pool.shared a = some (r, s) → I pool.shared → I s) :
    I (S.machine.exec pool scs).shared := by
  refine Machine.exec_invariant (I := fun pool => I pool.shared) hinit hrun ?_
  intro pool sc hs hC
  have hturn := turned (S := S) pool sc
  generalize S.machine.next pool sc = pool', S.machine.result pool sc = e at hturn
  cases hturn with
  | silent => exact hs
  | @acted tid input a k r s hthread hperform =>
    exact hact pool tid input a r s hC (by simp [pending, hthread]) hperform hs

/-- An event is the pending action of the thread that moved. -/
theorem of_event {pool' : Pool σ Act Res L} {e : Σ a, Res a}
    (h : Turned S pool sc (some e) pool') :
    ∃ tid input, sc = .move tid input ∧ pending pool sc = some e.1 ∧
      S.perform input pool.shared e.1 = some (e.2, pool'.shared) := by
  cases h with
  | @acted tid input a k r s hthread hperform =>
    exact ⟨tid, input, rfl, by simp [pending, hthread], hperform⟩

/-! ## Threads that move alone -/

section Alone

variable {A : Type} {Q : List (Σ a, Res a) → A → σ → Prop} {p : Prog Act Res A}
  {es : List (Σ a, Res a)}

/-- Whenever the program runs to its end and no other thread moves, `Q` holds of its
steps, its result and the state it leaves behind. -/
def Alone (S : System σ ι Act Res L) (Q : List (Σ a, Res a) → A → σ → Prop) :
    Prog Act Res A → List (Σ a, Res a) → σ → Prop
  | .done b, es, s => Q es b s
  | .act a k, es, s =>
    ∀ input r s', S.perform input s a = some (r, s') → S.Alone Q (k r) (es ++ [⟨a, r⟩]) s'

theorem alone_bind {B : Type} {Q : List (Σ a, Res a) → B → σ → Prop} {k : A → Prog Act Res B}
    {s : σ} :
    S.Alone Q (p >>= k) es s ↔ S.Alone (fun es a s => S.Alone Q (k a) es s) p es s := by
  induction p generalizing es s with
  | done a => exact Iff.rfl
  | act a f ih =>
    exact forall_congr' fun input => forall_congr' fun r => forall_congr' fun s' =>
      forall_congr' fun _ => ih r

/-- A thread of a pool that moves alone is at a place of its program, until the program
has ended. -/
theorem Alone.exec {Q : List (Σ a, Res a) → Option L → σ → Prop}
    {p : Prog Act Res (Option L)} {tid : Nat} (h : S.Alone Q p es pool.shared)
    (hthread : pool.threads[tid]? = some p) (inputs : List ι) :
    ∃ ins₁ ins₂ p' es', inputs = ins₁ ++ ins₂ ∧
      (S.machine.exec pool (ins₁.map (.move tid))).threads[tid]? = some p' ∧
      S.Alone Q p' es' (S.machine.exec pool (ins₁.map (.move tid))).shared ∧
      (ins₂ = [] ∨ ∃ b, p' = .done b) := by
  induction inputs generalizing pool p es with
  | nil => exact ⟨[], [], p, es, rfl, hthread, h, .inl rfl⟩
  | cons input inputs ih =>
    cases p with
    | done b => exact ⟨[], input :: inputs, .done b, es, rfl, hthread, h, .inr ⟨b, rfl⟩⟩
    | act a k =>
      obtain ⟨hlt, -⟩ := List.getElem?_eq_some_iff.mp hthread
      have hnext : ∃ p' es', (S.machine.next pool (.move tid input)).threads[tid]? = some p' ∧
          S.Alone Q p' es' (S.machine.next pool (.move tid input)).shared := by
        simp only [machine, Machine.next, turn, hthread, System.move]
        cases hperform : S.perform input pool.shared a with
        | none => exact ⟨_, es, hthread, h⟩
        | some res =>
          exact ⟨_, _, List.getElem?_set_self hlt, h input res.1 res.2 hperform⟩
      obtain ⟨p', es', hthread', h'⟩ := hnext
      obtain ⟨ins₁, ins₂, p'', es'', rfl, hrest⟩ := ih h' hthread'
      exact ⟨input :: ins₁, ins₂, p'', es'', rfl, hrest⟩

end Alone

end System
