-- SUMMARY: Disciplines of threads: what a thread may do after what it has done in all of its rounds.
import EngineResidency.Base.Outline

/-!
# Disciplines

An outline speaks about one round of a thread. A discipline speaks about all of them: every
action moves the thread to another phase, and the phase is carried over from one round to the
next. A program follows a discipline when each of its actions is allowed in the phase that
it is performed in, whatever responses the phase admits. The responses that a phase
admits are an obligation of the whole system: the rule at the end asks for them at each turn of a
run, where invariants of the shared state are at hand.
-/

/-- What a thread may do in each phase, which responses it has to expect there, and the phase
that follows. -/
structure Discipline (Act : Type) (Res : Act → Type) (φ : Type) where
  allows : φ → Act → Prop
  answers : φ → (a : Act) → Res a → Prop
  next : φ → (Σ a, Res a) → φ

/-- The phase after some steps. -/
def Discipline.after {Act φ : Type} {Res : Act → Type} (D : Discipline Act Res φ) (x : φ)
    (es : List (Σ a, Res a)) : φ :=
  es.foldl D.next x

/-- Each of the steps is allowed in its phase, and its response is one to expect there. -/
def Discipline.Lawful {Act φ : Type} {Res : Act → Type} (D : Discipline Act Res φ) (x : φ)
    (es : List (Σ a, Res a)) : Prop :=
  ∀ before e rest, es = before ++ e :: rest →
    D.allows (D.after x before) e.1 ∧ D.answers (D.after x before) e.1 e.2

namespace Discipline

variable {Act φ : Type} {Res : Act → Type} {D : Discipline Act Res φ} {x : φ}
  {es : List (Σ a, Res a)} {e : Σ a, Res a}

theorem after_concat : D.after x (es ++ [e]) = D.next (D.after x es) e := by simp [after]

theorem Lawful.concat (h : D.Lawful x es) (hallows : D.allows (D.after x es) e.1)
    (hanswers : D.answers (D.after x es) e.1 e.2) : D.Lawful x (es ++ [e]) := by
  intro before e' rest heq
  rcases List.concat_split heq with ⟨rfl, rfl, -⟩ | ⟨rest', -, heq'⟩
  · exact ⟨hallows, hanswers⟩
  · exact h before e' rest' heq'

theorem Lawful.tail (h : D.Lawful x (e :: es)) : D.Lawful (D.next x e) es :=
  fun before e' rest heq => h (e :: before) e' rest (by rw [heq, List.cons_append])

/-- Lawful steps are steps of every partial transition function that goes along with them. -/
theorem Lawful.foldlM {ψ : Type} {f : φ → ψ} {step : ψ → (Σ a, Res a) → Option ψ}
    (hstep : ∀ x e, D.allows x e.1 → D.answers x e.1 e.2 → step (f x) e = some (f (D.next x e)))
    (h : D.Lawful x es) : es.foldlM step (f x) = some (f (D.after x es)) := by
  induction es generalizing x with
  | nil => rfl
  | cons e es ih =>
    obtain ⟨hallows, hanswers⟩ := h [] e es rfl
    rw [List.foldlM_cons, hstep x e hallows hanswers]
    exact ih h.tail

end Discipline

namespace Prog

variable {Act φ A B : Type} {Res : Act → Type} {D : Discipline Act Res φ}

/-- Each action of the program is allowed in its phase, and `Q` holds at the end. -/
def Follows (D : Discipline Act Res φ) (Q : A → φ → Prop) : Prog Act Res A → φ → Prop
  | done a, x => Q a x
  | act a k, x => D.allows x a ∧ ∀ r, D.answers x a r → Follows D Q (k r) (D.next x ⟨a, r⟩)

section Follows

variable {Q : B → φ → Prop} {x : φ}

theorem follows_perform {a : Act} {k : Res a → Prog Act Res B} (ha : D.allows x a)
    (hk : ∀ r, D.answers x a r → (k r).Follows D Q (D.next x ⟨a, r⟩)) :
    (perform a >>= k).Follows D Q x :=
  ⟨ha, hk⟩

theorem follows_bind {p : Prog Act Res A} {k : A → Prog Act Res B}
    (hp : p.Follows D (fun a x => (k a).Follows D Q x) x) : (p >>= k).Follows D Q x := by
  induction p generalizing x with
  | done a => exact hp
  | act a f ih => exact ⟨hp.1, fun r hr => ih r (hp.2 r hr)⟩

theorem Follows.mono {p : Prog Act Res B} {Q' : B → φ → Prop} (hp : p.Follows D Q x)
    (hQ : ∀ b x, Q b x → Q' b x) : p.Follows D Q' x := by
  induction p generalizing x with
  | done b => exact hQ b x hp
  | act a k ih => exact ⟨hp.1, fun r hr => ih r (hp.2 r hr)⟩

/-- Every program has an outline that says nothing. -/
theorem outline_trivial (p : Prog Act Res B) (h : List (Σ a, Res a)) :
    Outline (fun _ _ => True) (fun _ _ => True) p h := by
  induction p generalizing h with
  | done b => trivial
  | act a k ih => exact ⟨trivial, fun r => ih r _⟩

/-- A program whose actions are all in `P` follows the discipline if `P` is allowed in the
phases that it leads to. -/
theorem Only.follows {P : Act → Prop} {J : φ → Prop} {p : Prog Act Res B} (hp : p.Only P)
    (hallows : ∀ x a, J x → P a → D.allows x a)
    (hnext : ∀ x a r, J x → P a → D.answers x a r → J (D.next x ⟨a, r⟩))
    (hQ : ∀ b x, J x → Q b x) (hx : J x) : p.Follows D Q x := by
  induction p generalizing x with
  | done b => exact hQ b x hx
  | act a k ih =>
    exact ⟨hallows x a hx hp.1, fun r hr => ih r (hp.2 r) (hnext x a r hx hp.1 hr)⟩

/-- A program whose actions leave the phase as it is. -/
theorem Only.follows_same {P : Act → Prop} {p : Prog Act Res B} (hp : p.Only P)
    (hsame : ∀ a, P a → D.allows x a ∧ ∀ r, D.next x ⟨a, r⟩ = x) (hQ : ∀ b, Q b x) :
    p.Follows D Q x := by
  refine hp.follows (J := fun y => y = x) ?_ ?_ ?_ rfl
  · rintro _ a rfl ha
    exact (hsame a ha).1
  · rintro _ a r rfl ha -
    exact (hsame a ha).2 r
  · rintro b _ rfl
    exact hQ b

end Follows

end Prog

/-! ## Threads under a discipline -/

namespace System

variable {σ ι Act L φ : Type} {Res : Act → Type} (S : System σ ι Act Res L)

/-- All steps that a thread has made. -/
def stepsOf (st : Traced σ Act Res L) (tid : Nat) : List (Σ a, Res a) :=
  (st.log.filter fun e => e.tid = tid).map (·.step)

/-- Every thread has followed the discipline, and follows it on from its phase. What is known
of the phase in which a round begins is `J`. -/
structure Disciplined (D : Discipline Act Res φ) (x₀ : φ) (J : L → φ → Prop)
    (st : Traced σ Act Res L) : Prop where
  lawful : ∀ tid, D.Lawful x₀ (stepsOf st tid)
  thread : ∀ (tid : Nat) p, st.pool.threads[tid]? = some p →
    p.Follows D (fun l x => ∀ l', l = some l' → J l' x) (D.after x₀ (stepsOf st tid))
  /-- A thread that has not begun has made no step. -/
  spawned : ∀ e ∈ st.log, e.tid < st.pool.threads.length

variable {S} {D : Discipline Act Res φ} {x₀ : φ} {J : L → φ → Prop}
  {G : L → List (Σ a, Res a) → Act → Prop} {Q : L → Option L → List (Σ a, Res a) → Prop}
  {st : Traced σ Act Res L}

theorem stepsOf_of_log {st' : Traced σ Act Res L} (h : st'.log = st.log) (tid : Nat) :
    stepsOf st' tid = stepsOf st tid := by
  rw [stepsOf, stepsOf, h]

theorem stepsOf_concat {st' : Traced σ Act Res L} {e : Logged Act Res L}
    (h : st'.log = st.log ++ [e]) (tid : Nat) :
    stepsOf st' tid = if e.tid = tid then stepsOf st tid ++ [e.step] else stepsOf st tid := by
  unfold stepsOf
  rw [h, List.filter_append, List.map_append]
  split
  · rename_i heq
    simp [heq]
  · rename_i hne
    simp [hne]

/-- The step that a thread has just made. -/
theorem stepsOf_acted (st : Traced σ Act Res L) (pool : Pool σ Act Res L)
    (rounds : List (Round Act Res L)) (tid : Nat) (l : L) (e : Σ a, Res a) :
    stepsOf ⟨pool, rounds, st.log ++ [⟨tid, l, e⟩]⟩ tid = stepsOf st tid ++ [e] := by
  rw [stepsOf_concat rfl, if_pos rfl]

/-! ### One turn -/

/-- A thread begins. -/
theorem Disciplined.begin (hst : Disciplined D x₀ J st) {p : Prog Act Res (Option L)}
    (hp : p.Follows D (fun l x => ∀ l', l = some l' → J l' x) x₀) {st' : Traced σ Act Res L}
    (hthreads : st'.pool.threads = st.pool.threads ++ [p]) (hlog : st'.log = st.log) :
    Disciplined D x₀ J st' := by
  refine ⟨fun tid => ?_, fun tid p' hp' => ?_, fun e he => ?_⟩
  · rw [stepsOf_of_log hlog]
    exact hst.lawful tid
  · rw [stepsOf_of_log hlog]
    rw [hthreads] at hp'
    rcases List.getElem?_concat_cases hp' with ⟨rfl, rfl⟩ | hp'
    · -- The new thread has made no step.
      have hnone : stepsOf st st.pool.threads.length = [] := by
        refine List.map_eq_nil_iff.mpr (List.filter_eq_nil_iff.mpr fun e he heq => ?_)
        exact absurd (hst.spawned e he) (by simp at heq; omega)
      rw [hnone]
      exact hp
    · exact hst.thread tid p' hp'
  · have hlt := hst.spawned e (hlog ▸ he)
    rw [hthreads, List.length_append]
    exact Nat.lt_add_right _ hlt

/-- A thread goes over to its next round. -/
theorem Disciplined.loop (hst : Disciplined D x₀ J st) {tid : Nat} {p : Prog Act Res (Option L)}
    (hp : p.Follows D (fun l x => ∀ l', l = some l' → J l' x) (D.after x₀ (stepsOf st tid)))
    {st' : Traced σ Act Res L} (hthreads : st'.pool.threads = st.pool.threads.set tid p)
    (hlog : st'.log = st.log) : Disciplined D x₀ J st' := by
  refine ⟨fun tid' => ?_, fun tid' p' hp' => ?_, fun e he => ?_⟩
  · rw [stepsOf_of_log hlog]
    exact hst.lawful tid'
  · rw [stepsOf_of_log hlog]
    rw [hthreads] at hp'
    rcases List.getElem?_set_cases hp' with ⟨rfl, rfl⟩ | ⟨-, hp'⟩
    · exact hp
    · exact hst.thread tid' p' hp'
  · rw [hthreads, List.length_set]
    exact hst.spawned e (hlog ▸ he)

/-- A thread performs an action. -/
theorem Disciplined.act (hst : Disciplined D x₀ J st) {tid : Nat} {a : Act} {r : Res a}
    {k : Res a → Prog Act Res (Option L)} (hthread : st.pool.threads[tid]? = some (.act a k))
    (hr : D.answers (D.after x₀ (stepsOf st tid)) a r) {st' : Traced σ Act Res L} {l : L}
    (hthreads : st'.pool.threads = st.pool.threads.set tid (k r))
    (hlog : st'.log = st.log ++ [⟨tid, l, a, r⟩]) : Disciplined D x₀ J st' := by
  have hp := hst.thread tid _ hthread
  obtain ⟨hlt, -⟩ := List.getElem?_eq_some_iff.mp hthread
  refine ⟨fun tid' => ?_, fun tid' p' hp' => ?_, fun e he => ?_⟩
  · rw [stepsOf_concat hlog]
    split
    · rename_i heq
      obtain rfl : tid = tid' := heq
      exact (hst.lawful tid).concat hp.1 hr
    · exact hst.lawful tid'
  · rw [stepsOf_concat hlog]
    rw [hthreads] at hp'
    rcases List.getElem?_set_cases hp' with ⟨rfl, rfl⟩ | ⟨hne, hp'⟩
    · rw [if_pos rfl, Discipline.after_concat]
      exact hp.2 r hr
    · rw [if_neg hne]
      exact hst.thread tid' p' hp'
  · rw [hthreads, List.length_set]
    rw [hlog] at he
    rcases List.mem_append.mp he with he | he
    · exact hst.spawned e he
    · rw [List.mem_singleton.mp he]
      exact hlt

/-- A turn keeps the discipline, if the response to the action that it performs is one to
expect. -/
theorem Disciplined.next (hst : Disciplined D x₀ J st) (houtlined : Outlined G Q st)
    (hcode : ∀ l x, J l x → (S.code l).Follows D (fun l' x => ∀ l, l' = some l → J l x) x)
    (hstart : J S.start x₀) {sc : Sched ι}
    (hanswers : ∀ (tid : Nat) input a k r s, sc = .move tid input →
      st.pool.threads[tid]? = some (.act a k) → S.perform input st.pool.shared a = some (r, s) →
      D.answers (D.after x₀ (stepsOf st tid)) a r) :
    Disciplined D x₀ J (S.traced.next st sc) := by
  cases sc with
  | spawn => exact hst.begin (hcode _ _ hstart) rfl rfl
  | move tid input =>
    simp only [traced, Machine.next, record, machine, Machine.result, turn]
    cases hthread : st.pool.threads[tid]? with
    | none => exact hst
    | some p =>
      obtain ⟨rd, hround⟩ := houtlined.round hthread
      cases p with
      | done l =>
        cases l with
        | none => exact hst
        | some l => exact hst.loop (hcode l _ (hst.thread tid _ hthread l rfl)) rfl rfl
      | act a k =>
        simp only [move]
        cases hperform : S.perform input st.pool.shared a with
        | none => exact hst
        | some res =>
          rw [hround]
          exact hst.act hthread (hanswers tid input a k _ _ rfl hthread hperform) rfl rfl

/-- A turn makes no step, or a step of the thread that moves, which is allowed in its phase. -/
theorem Disciplined.event (hst : Disciplined D x₀ J st) (houtlined : Outlined G Q st) (sc : Sched ι) :
    (S.machine.result st.pool sc = none ∧ (S.traced.next st sc).log = st.log) ∨
      ∃ tid input a r l, sc = .move tid input ∧ pending st.pool sc = some a ∧
        S.perform input st.pool.shared a = some (r, (S.traced.next st sc).pool.shared) ∧
        D.allows (D.after x₀ (stepsOf st tid)) a ∧ S.machine.result st.pool sc = some ⟨a, r⟩ ∧
        (S.traced.next st sc).log = st.log ++ [⟨tid, l, a, r⟩] := by
  cases sc with
  | spawn => exact .inl ⟨rfl, rfl⟩
  | move tid input =>
    simp only [traced, Machine.next, record, machine, Machine.result, turn]
    cases hthread : st.pool.threads[tid]? with
    | none => exact .inl ⟨rfl, rfl⟩
    | some p =>
      obtain ⟨rd, hround⟩ := houtlined.round hthread
      cases p with
      | done l => cases l <;> exact .inl ⟨rfl, rfl⟩
      | act a k =>
        simp only [move]
        cases hperform : S.perform input st.pool.shared a with
        | none => exact .inl ⟨rfl, rfl⟩
        | some res =>
          rw [hround]
          exact .inr ⟨tid, input, a, res.1, rd.start, rfl, by simp [pending, hthread], hperform,
            (hst.thread tid _ hthread).1, rfl, rfl⟩

/-! ### Whole runs -/

theorem disciplined_initial (s : σ) : Disciplined D x₀ J (tracedInitial (L := L) s) :=
  ⟨fun _ before e rest heq => by simp [stepsOf, tracedInitial] at heq,
    fun _ _ hp => by simp [tracedInitial, initial] at hp, nofun⟩

/-- The threads of every run follow the discipline, if the code does and the responses are to be
expected wherever the invariant `I` holds. -/
theorem exec_disciplined {C : Traced σ Act Res L → Sched ι → Prop} {I : Traced σ Act Res L → Prop}
    {s : σ} {scs : List (Sched ι)} (houtline : ∀ l, (S.code l).Outline (G l) (Q l) [])
    (hcode : ∀ l x, J l x → (S.code l).Follows D (fun l' x => ∀ l, l' = some l → J l x) x)
    (hstart : J S.start x₀) (hinit : I (tracedInitial s))
    (hrun : S.traced.Along C (tracedInitial s) scs)
    (hanswers : ∀ st tid input a k r s, Disciplined D x₀ J st → C st (.move tid input) → I st →
      st.pool.threads[tid]? = some (.act a k) → S.perform input st.pool.shared a = some (r, s) →
      D.answers (D.after x₀ (stepsOf st tid)) a r)
    (hstep : ∀ st sc st', Outlined G Q st → Disciplined D x₀ J st → Disciplined D x₀ J st' →
      Advances S G Q st sc st' → C st sc → I st → I st') :
    Disciplined D x₀ J (S.traced.exec (tracedInitial s) scs) ∧
      I (S.traced.exec (tracedInitial s) scs) := by
  have hall : Outlined G Q (S.traced.exec (tracedInitial s) scs) ∧
      Disciplined D x₀ J (S.traced.exec (tracedInitial s) scs) ∧
      I (S.traced.exec (tracedInitial s) scs) := by
    refine Machine.exec_invariant (I := fun st => Outlined G Q st ∧ Disciplined D x₀ J st ∧ I st)
      ⟨⟨rfl, nofun, nofun⟩, disciplined_initial s, hinit⟩ hrun ?_
    rintro st sc ⟨hst, hdisc, hI⟩ hC
    have hadvance := hst.advances (S := S) sc
    have hdisc' := hdisc.next hst hcode hstart fun tid input a k r s hsc hthread hperform =>
      hanswers st tid input a k r s hdisc (hsc ▸ hC) hI hthread hperform
    exact ⟨hadvance.outlined houtline hst, hdisc', hstep st sc _ hst hdisc hdisc' hadvance hC hI⟩
  exact hall.2

/-- The same where the responses are to be expected of every action. -/
theorem exec_follows {s : σ} (scs : List (Sched ι))
    (hcode : ∀ l x, J l x → (S.code l).Follows D (fun l' x => ∀ l, l' = some l → J l x) x)
    (hstart : J S.start x₀)
    (hanswers : ∀ x input s a r s', S.perform input s a = some (r, s') → D.answers x a r) :
    Disciplined D x₀ J (S.traced.exec (tracedInitial s) scs) :=
  (exec_disciplined (C := fun _ _ => True) (I := fun _ => True)
    (fun l => Prog.outline_trivial (S.code l) []) hcode hstart trivial
    (Machine.along_of_mem fun _ _ _ => trivial)
    (fun _ _ _ _ _ _ _ _ _ _ _ hperform => hanswers _ _ _ _ _ _ hperform)
    fun _ _ _ _ _ _ _ _ _ => trivial).1

end System
