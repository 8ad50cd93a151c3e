-- SUMMARY: Proof outlines for the threads of a pool: what a thread knows before each of its actions from what it has done.
import EngineResidency.Base.Lists
import EngineResidency.Base.Pool

/-!
# Proof outlines

A thread cannot rely on the shared state between two of its actions, but it can rely on
what it has done itself. An outline of a program says what holds before each of its
actions and at its end, in terms of the steps the program has made so far. The rules
below prove outlines along the program; `Only` is the outline of a program that is
interesting for the kind of its actions alone.

A traced pool keeps the steps of the current round of each thread, and a log of the
steps of all threads. When the code of a system has an outline, every thread of every
traced run is at a place of that outline.
-/

namespace Prog

variable {Act : Type} {Res : Act → Type} {A B : Type}

/-- Before each action `G` holds of the steps made so far, and at the end `Q` does. -/
def Outline (G : List (Σ a, Res a) → Act → Prop) (Q : A → List (Σ a, Res a) → Prop) :
    Prog Act Res A → List (Σ a, Res a) → Prop
  | done a, h => Q a h
  | act a k, h => G h a ∧ ∀ r, Outline G Q (k r) (h ++ [⟨a, r⟩])

/-- Every action of the program is in `P`. -/
def Only (P : Act → Prop) : Prog Act Res A → Prop
  | done _ => True
  | act a k => P a ∧ ∀ r, Only P (k r)

section Outline

variable {G : List (Σ a, Res a) → Act → Prop} {Q : B → List (Σ a, Res a) → Prop}
  {h : List (Σ a, Res a)}

theorem outline_perform {a : Act} {k : Res a → Prog Act Res B} (ha : G h a)
    (hk : ∀ r, Outline G Q (k r) (h ++ [⟨a, r⟩])) : Outline G Q (perform a >>= k) h :=
  ⟨ha, hk⟩

theorem outline_bind {p : Prog Act Res A} {k : A → Prog Act Res B}
    (hp : Outline G (fun a h => Outline G Q (k a) h) p h) : Outline G Q (p >>= k) h := by
  induction p generalizing h with
  | done a => exact hp
  | act a f ih => exact ⟨hp.1, fun r => ih r (hp.2 r)⟩

theorem outline_mono {p : Prog Act Res B} {Q' : B → List (Σ a, Res a) → Prop}
    (hQ : ∀ b h, Q b h → Q' b h) (hp : Outline G Q p h) : Outline G Q' p h := by
  induction p generalizing h with
  | done b => exact hQ b h hp
  | act a k ih => exact ⟨hp.1, fun r => ih r (hp.2 r)⟩

/-- The actions of a program keep an invariant of the steps from which `G` and `Q` follow. -/
theorem Only.outline {P : Act → Prop} {I : List (Σ a, Res a) → Prop} {p : Prog Act Res B}
    (hp : p.Only P) (hG : ∀ h a, I h → P a → G h a)
    (hI : ∀ h a r, I h → P a → I (h ++ [⟨a, r⟩])) (hQ : ∀ b h, I h → Q b h) (hh : I h) :
    Outline G Q p h := by
  induction p generalizing h with
  | done b => exact hQ b h hh
  | act a k ih => exact ⟨hG h a hh hp.1, fun r => ih r (hp.2 r) (hI h a r hh hp.1)⟩

end Outline

/-! ## Kinds of actions -/

section Only

variable {P : Act → Prop}

theorem only_pure {a : A} : Only P (pure a : Prog Act Res A) := trivial

theorem only_perform {a : Act} (ha : P a) : Only P (perform a : Prog Act Res (Res a)) :=
  ⟨ha, fun _ => trivial⟩

theorem only_bind {p : Prog Act Res A} {k : A → Prog Act Res B} (hp : p.Only P)
    (hk : ∀ a, (k a).Only P) : Only P (p >>= k) := by
  induction p with
  | done a => exact hk a
  | act a f ih => exact ⟨hp.1, fun r => ih r (hp.2 r)⟩

theorem Only.mono {P' : Act → Prop} {p : Prog Act Res A} (hp : p.Only P)
    (h : ∀ a, P a → P' a) : p.Only P' := by
  induction p with
  | done a => trivial
  | act a f ih => exact ⟨h a hp.1, fun r => ih r (hp.2 r)⟩

/-! Programs that may throw. -/

variable {ε : Type}

theorem only_ok {a : A} : Only P (pure a : ExceptT ε (Prog Act Res) A).run := trivial

theorem only_lift {p : Prog Act Res A} (hp : p.Only P) :
    Only P (monadLift p : ExceptT ε (Prog Act Res) A).run :=
  only_bind hp fun _ => trivial

theorem only_andThen {m : ExceptT ε (Prog Act Res) A} {k : A → ExceptT ε (Prog Act Res) B}
    (hm : m.run.Only P) (hk : ∀ a, (k a).run.Only P) : Only P (m >>= k).run := by
  refine only_bind hm fun r => ?_
  cases r with
  | ok a => exact hk a
  | error e => trivial

end Only

end Prog

/-! ## Traced pools -/

/-- The round a thread is in: what it started from, and its steps so far. -/
structure Round (Act : Type) (Res : Act → Type) (L : Type) where
  start : L
  steps : List (Σ a, Res a) := []

/-- A step of a thread in one of its rounds. -/
structure Logged (Act : Type) (Res : Act → Type) (L : Type) where
  tid : Nat
  start : L
  step : Σ a, Res a

/-- A pool with the current round of each thread and a log of all steps. -/
structure Traced (σ : Type) (Act : Type) (Res : Act → Type) (L : Type) where
  pool : Pool σ Act Res L
  rounds : List (Round Act Res L) := []
  log : List (Logged Act Res L) := []

namespace System

variable {σ ι Act L : Type} {Res : Act → Type} (S : System σ ι Act Res L)

/-- What a turn does to a traced pool. -/
def record (st : Traced σ Act Res L) : Sched ι → Traced σ Act Res L
  | .spawn =>
    { st with pool := S.machine.next st.pool .spawn, rounds := st.rounds ++ [{ start := S.start }] }
  | .move tid input =>
    let pool := S.machine.next st.pool (.move tid input)
    match S.machine.result st.pool (.move tid input), st.rounds[tid]?, st.pool.threads[tid]? with
    | some e, some rd, _ =>
      { pool := pool
        rounds := st.rounds.set tid { rd with steps := rd.steps ++ [e] }
        log := st.log ++ [⟨tid, rd.start, e⟩] }
    | none, _, some (.done (some l)) =>
      { st with pool := pool, rounds := st.rounds.set tid { start := l } }
    | _, _, _ => { st with pool := pool }

/-- The traced pool as a machine over schedules. -/
def traced : Machine (Traced σ Act Res L) (Sched ι) (Option (Σ a, Res a)) where
  step sc st := (S.machine.result st.pool sc, S.record st sc)

theorem exec_traced_pool (st : Traced σ Act Res L) (scs : List (Sched ι)) :
    (S.traced.exec st scs).pool = S.machine.exec st.pool scs := by
  induction scs generalizing st with
  | nil => rfl
  | cons sc scs ih =>
    have hnext : (S.traced.next st sc).pool = S.machine.next st.pool sc := by
      cases sc with
      | spawn => rfl
      | move tid input =>
        simp only [traced, Machine.next, record]
        split <;> rfl
    rw [Machine.exec_cons, ih, hnext]
    rfl

/-! ## Outlined threads -/

/-- Every thread is at a place of the outline of the round it is in, and the log ends, as
far as the thread is concerned, with the steps of that round. -/
structure Outlined (G : L → List (Σ a, Res a) → Act → Prop)
    (Q : L → Option L → List (Σ a, Res a) → Prop) (st : Traced σ Act Res L) : Prop where
  length : st.rounds.length = st.pool.threads.length
  thread : ∀ (tid : Nat) p (rd : Round Act Res L),
    st.pool.threads[tid]? = some p → st.rounds[tid]? = some rd →
    Prog.Outline (G rd.start) (Q rd.start) p rd.steps
  log : ∀ (tid : Nat) (rd : Round Act Res L), st.rounds[tid]? = some rd → ∃ before,
    st.log.filter (fun e => e.tid = tid) = before ++ rd.steps.map fun e => ⟨tid, rd.start, e⟩

/-- What a turn does to a traced pool whose threads are at places of their outlines. -/
inductive Advances (S : System σ ι Act Res L) (G : L → List (Σ a, Res a) → Act → Prop)
    (Q : L → Option L → List (Σ a, Res a) → Prop) (st : Traced σ Act Res L) :
    Sched ι → Traced σ Act Res L → Prop
  | spawned : Advances S G Q st .spawn
      { st with
        pool := { st.pool with threads := st.pool.threads ++ [S.code S.start] }
        rounds := st.rounds ++ [{ start := S.start }] }
  | blocked {tid : Nat} {input : ι} : Advances S G Q st (.move tid input) st
  | looped {tid : Nat} {input : ι} {l : L} {rd : Round Act Res L}
    (hround : st.rounds[tid]? = some rd) (hend : Q rd.start (some l) rd.steps) :
    Advances S G Q st (.move tid input)
      { st with
        pool := { st.pool with threads := st.pool.threads.set tid (S.code l) }
        rounds := st.rounds.set tid { start := l } }
  | acted {tid : Nat} {input : ι} {a : Act} {k : Res a → Prog Act Res (Option L)} {r : Res a}
    {s : σ} {rd : Round Act Res L} (hthread : st.pool.threads[tid]? = some (.act a k))
    (hround : st.rounds[tid]? = some rd) (hguarantee : G rd.start rd.steps a)
    (hperform : S.perform input st.pool.shared a = some (r, s)) :
    Advances S G Q st (.move tid input)
      { pool := ⟨s, st.pool.threads.set tid (k r)⟩
        rounds := st.rounds.set tid { rd with steps := rd.steps ++ [⟨a, r⟩] }
        log := st.log ++ [⟨tid, rd.start, a, r⟩] }

variable {S} {G : L → List (Σ a, Res a) → Act → Prop}
  {Q : L → Option L → List (Σ a, Res a) → Prop}
  {st st' : Traced σ Act Res L} {sc : Sched ι}

theorem Outlined.round (h : Outlined G Q st) {tid : Nat} {p : Prog Act Res (Option L)}
    (hthread : st.pool.threads[tid]? = some p) : ∃ rd, st.rounds[tid]? = some rd := by
  obtain ⟨hlt, -⟩ := List.getElem?_eq_some_iff.mp hthread
  exact ⟨_, List.getElem?_eq_getElem (h.length ▸ hlt)⟩

theorem Outlined.advances (h : Outlined G Q st) (sc : Sched ι) :
    Advances S G Q st sc (S.traced.next st sc) := by
  cases sc with
  | spawn => exact .spawned
  | move tid input =>
    simp only [traced, Machine.next, record, machine, Machine.result, turn]
    cases hthread : st.pool.threads[tid]? with
    | none => exact .blocked
    | some p =>
      obtain ⟨rd, hround⟩ := h.round hthread
      have houtline := h.thread tid p rd hthread hround
      cases p with
      | done l =>
        cases l with
        | none => exact .blocked
        | some l => exact .looped hround houtline
      | act a k =>
        simp only [move]
        cases hperform : S.perform input st.pool.shared a with
        | none => exact .blocked
        | some p =>
          rw [hround]
          exact .acted hthread hround houtline.1 hperform

/-- Every turn leaves the threads at places of their outlines. -/
theorem Advances.outlined (hcode : ∀ l, (S.code l).Outline (G l) (Q l) [])
    (hst : Outlined G Q st) (h : Advances S G Q st sc st') : Outlined G Q st' := by
  cases h with
  | blocked => exact hst
  | spawned =>
    refine ⟨by simp [hst.length], fun tid p rd hp hrd => ?_, fun tid rd hrd => ?_⟩
    · rcases List.getElem?_concat_cases hp with ⟨hnew, rfl⟩ | hp
      · rcases List.getElem?_concat_cases hrd with ⟨-, rfl⟩ | hrd
        · exact hcode S.start
        · -- The new thread has no older round.
          obtain ⟨hlt, -⟩ := List.getElem?_eq_some_iff.mp hrd
          rw [hnew, ← hst.length] at hlt
          exact absurd hlt (Nat.lt_irrefl _)
      · obtain ⟨hlt, -⟩ := List.getElem?_eq_some_iff.mp hp
        rw [List.getElem?_append_left (hst.length ▸ hlt)] at hrd
        exact hst.thread tid p rd hp hrd
    · rcases List.getElem?_concat_cases hrd with ⟨-, rfl⟩ | hrd
      · exact ⟨_, (List.append_nil _).symm⟩
      · exact hst.log tid rd hrd
  | @looped tid _ l rd hround =>
    refine ⟨by simp [hst.length], fun tid' p rd' hp hrd => ?_, fun tid' rd' hrd => ?_⟩
    · rcases List.getElem?_set_cases hp with ⟨rfl, rfl⟩ | ⟨hne, hp⟩
      · rcases List.getElem?_set_cases hrd with ⟨-, rfl⟩ | ⟨hne, -⟩
        · exact hcode l
        · exact absurd rfl hne
      · rcases List.getElem?_set_cases hrd with ⟨heq, -⟩ | ⟨-, hrd⟩
        · exact absurd heq hne
        · exact hst.thread tid' p rd' hp hrd
    · rcases List.getElem?_set_cases hrd with ⟨-, rfl⟩ | ⟨-, hrd⟩
      · exact ⟨_, (List.append_nil _).symm⟩
      · exact hst.log tid' rd' hrd
  | @acted tid _ a k r s rd hthread hround _ _ =>
    refine ⟨by simp [hst.length], fun tid' p rd' hp hrd => ?_, fun tid' rd' hrd => ?_⟩
    · rcases List.getElem?_set_cases hp with ⟨rfl, rfl⟩ | ⟨hne, hp⟩
      · rcases List.getElem?_set_cases hrd with ⟨-, rfl⟩ | ⟨hne, -⟩
        · exact (hst.thread tid _ rd hthread hround).2 r
        · exact absurd rfl hne
      · rcases List.getElem?_set_cases hrd with ⟨heq, -⟩ | ⟨-, hrd⟩
        · exact absurd heq hne
        · exact hst.thread tid' p rd' hp hrd
    · rcases List.getElem?_set_cases hrd with ⟨rfl, rfl⟩ | ⟨hne, hrd⟩
      · obtain ⟨before, hlog⟩ := hst.log tid rd hround
        exact ⟨before, by simp [hlog]⟩
      · obtain ⟨before, hlog⟩ := hst.log tid' rd' hrd
        exact ⟨before, by simp [hlog, hne]⟩

/-! ## What a turn leaves behind -/

/-- A round after a turn: as it was, just begun, or one action longer. A round begins when
its thread does, or where the round before it has ended. -/
theorem Advances.round (h : Advances S G Q st sc st') {tid : Nat} {rd' : Round Act Res L}
    (hround' : st'.rounds[tid]? = some rd') :
    st.rounds[tid]? = some rd' ∨
      (rd'.steps = [] ∧ (rd'.start = S.start ∨
        ∃ rd, st.rounds[tid]? = some rd ∧ Q rd.start (some rd'.start) rd.steps)) ∨
      ∃ input a k r rd, sc = .move tid input ∧ st.pool.threads[tid]? = some (.act a k) ∧
        st.rounds[tid]? = some rd ∧ G rd.start rd.steps a ∧
        S.perform input st.pool.shared a = some (r, st'.pool.shared) ∧
        rd' = { rd with steps := rd.steps ++ [⟨a, r⟩] } ∧
        st'.log = st.log ++ [⟨tid, rd.start, a, r⟩] := by
  cases h with
  | blocked => exact .inl hround'
  | spawned =>
    rcases List.getElem?_concat_cases hround' with ⟨-, rfl⟩ | hold
    · exact .inr (.inl ⟨rfl, .inl rfl⟩)
    · exact .inl hold
  | looped hround hend =>
    rcases List.getElem?_set_cases hround' with ⟨rfl, rfl⟩ | ⟨-, hold⟩
    · exact .inr (.inl ⟨rfl, .inr ⟨_, hround, hend⟩⟩)
    · exact .inl hold
  | @acted _ input a k r s rd hthread hround hguarantee hperform =>
    rcases List.getElem?_set_cases hround' with ⟨rfl, rfl⟩ | ⟨-, hold⟩
    · exact .inr (.inr
        ⟨input, a, k, r, rd, rfl, hthread, hround, hguarantee, hperform, rfl, rfl⟩)
    · exact .inl hold

/-- The shared state after a turn: as it was, or as an action has left it. -/
theorem Advances.shared (h : Advances S G Q st sc st') :
    st'.pool.shared = st.pool.shared ∨
      ∃ tid input a r rd, sc = .move tid input ∧ st.rounds[tid]? = some rd ∧
        G rd.start rd.steps a ∧ S.perform input st.pool.shared a = some (r, st'.pool.shared) := by
  cases h with
  | spawned => exact .inl rfl
  | blocked => exact .inl rfl
  | looped => exact .inl rfl
  | acted _ hround hguarantee hperform =>
    exact .inr ⟨_, _, _, _, _, rfl, hround, hguarantee, hperform⟩

/-- The log only grows. -/
theorem Advances.log (h : Advances S G Q st sc st') : ∃ es, st'.log = st.log ++ es := by
  cases h with
  | spawned => exact ⟨[], (List.append_nil _).symm⟩
  | blocked => exact ⟨[], (List.append_nil _).symm⟩
  | looped => exact ⟨[], (List.append_nil _).symm⟩
  | acted => exact ⟨_, rfl⟩

/-! ## Traced runs -/

/-- The traced pool before any thread runs. -/
def tracedInitial (s : σ) : Traced σ Act Res L := { pool := initial s }

/-- What every turn keeps of a traced pool whose threads are at places of their outlines,
every run keeps. -/
theorem exec_outlined {C : Traced σ Act Res L → Sched ι → Prop} {I : Traced σ Act Res L → Prop}
    {s : σ} {scs : List (Sched ι)} (hcode : ∀ l, (S.code l).Outline (G l) (Q l) [])
    (hinit : I (tracedInitial s)) (hrun : S.traced.Along C (tracedInitial s) scs)
    (hstep : ∀ st sc st', Outlined G Q st → Advances S G Q st sc st' → C st sc → I st → I st') :
    Outlined G Q (S.traced.exec (tracedInitial s) scs) ∧
      I (S.traced.exec (tracedInitial s) scs) := by
  refine Machine.exec_invariant (I := fun st => Outlined G Q st ∧ I st) ⟨?_, hinit⟩ hrun ?_
  · exact ⟨rfl, nofun, nofun⟩
  · rintro st sc ⟨hst, hI⟩ hC
    have hadvance := hst.advances (S := S) sc
    exact ⟨hadvance.outlined hcode hst, hstep st sc _ hst hadvance hC hI⟩

end System
