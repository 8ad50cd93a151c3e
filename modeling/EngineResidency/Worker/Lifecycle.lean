-- SUMMARY: When a worker uses its backend: only while it is prepared, and a drain is reported after the release.
import EngineResidency.Worker.Conversation

/-!
# The backend of a worker

The backend is an object with a lifecycle that nothing but the program of the worker keeps to:
it is prepared once, used, and released once. The coordinator learns of the release through
the answer to DRAIN, so that answer has to come after it.
-/

namespace EngineResidency.Worker

open Prog
open Coordinator (ProtocolMessage MessageType parsePayload)

/-! ## Stages -/

/-- The stages of a backend. -/
inductive Stage where
  | fresh
  | prepared
  | released
  deriving DecidableEq

/-- The stage after a step, if the step is one that a stage allows. -/
def Stage.after : Stage → Deed → Option Stage
  | .fresh, ⟨.prepare _ _ _, _⟩ => some .prepared
  | .prepared, ⟨.release, _⟩ => some .released
  | .prepared, ⟨.bindKernel _, _⟩ | .prepared, ⟨.instantiateGraph _, _⟩
  | .prepared, ⟨.warmup _ _, _⟩ | .prepared, ⟨.execute _, _⟩
  | .prepared, ⟨.verifyParity _ _, _⟩ => some .prepared
  | .fresh, ⟨.discover _, _⟩ => some .fresh
  | .released, ⟨.send m, _⟩ => if m.type = .drainResult then some .released else none
  | x, ⟨.send m, _⟩ => if m.type = .drainResult then none else some x
  | .released, ⟨.recv, _⟩ => none
  | x, ⟨.recv, _⟩ | x, ⟨.writeFile _ _, _⟩ | x, ⟨.fileExists _, _⟩ | x, ⟨.removeFile _, _⟩
  | x, ⟨.sleep, _⟩ => some x
  | _, _ => none

/-- The discipline of a backend. -/
def stages : Discipline Action Action.Res Stage where
  allows x a := ∀ r, (x.after ⟨a, r⟩).isSome
  answers _ _ _ := True
  next x e := (x.after e).getD .released

/-- The program keeps to the stages. -/
abbrev Stays {A : Type} (p : Program A) (Q : A → Stage → Prop) (x : Stage) : Prop :=
  p.Follows stages Q x

/-! ## Programs -/

section Programs

variable {A : Type} {Q : A → Stage → Prop} {x : Stage}

theorem stays_perform {a : Action} {k : a.Res → Program A} {y : Stage}
    (hafter : ∀ r, x.after ⟨a, r⟩ = some y) (hk : ∀ r, Stays (k r) Q y) :
    Stays (Prog.perform a >>= k) Q x := by
  refine follows_perform (fun r => ?_) fun r _ => ?_
  · rw [hafter]
    rfl
  · change Stays (k r) Q ((x.after ⟨a, r⟩).getD .released)
    rw [hafter]
    exact hk r

/-- The stage is kept by all actions of a kind. -/
theorem stays_of_only {P : Action → Prop} {p : Program A} (hp : p.Only P)
    (hafter : ∀ a r, P a → x.after ⟨a, r⟩ = some x) (hQ : ∀ a, Q a x) : Stays p Q x := by
  refine hp.follows_same (fun a ha => ⟨fun r => ?_, fun r => ?_⟩) hQ
  · rw [hafter a r ha]
    rfl
  · exact congrArg (fun next => Option.getD next Stage.released) (hafter a r ha)

/-- The actions that do not touch the backend, and report no drain. -/
def Outside : Action → Prop
  | .send m => m.type ≠ .drainResult
  | .recv | .writeFile _ _ | .fileExists _ | .removeFile _ | .sleep => True
  | _ => False

/-- The actions that use a prepared backend, and those that do not touch it. -/
def Inside : Action → Prop
  | .bindKernel _ | .instantiateGraph _ | .warmup _ _ | .execute _ | .verifyParity _ _ => True
  | a => Outside a

theorem OnFiles.outside {a : Action} (ha : OnFiles a) : Outside a := by
  cases a with
  | writeFile | fileExists | removeFile | sleep => trivial
  | _ => exact ha.elim

theorem Outside.inside {a : Action} (ha : Outside a) : Inside a := by
  cases a with
  | send m => exact ha
  | _ => trivial

theorem after_outside {a : Action} (ha : Outside a) (hx : x ≠ .released) (r : a.Res) :
    x.after ⟨a, r⟩ = some x := by
  cases a with
  | send m => cases x <;> first | exact if_neg ha | exact absurd rfl hx
  | recv => cases x <;> first | rfl | exact absurd rfl hx
  | writeFile | fileExists | removeFile | sleep => cases x <;> rfl
  | _ => exact ha.elim

theorem after_inside {a : Action} (ha : Inside a) (r : a.Res) :
    Stage.after .prepared ⟨a, r⟩ = some .prepared := by
  cases a with
  | send m => exact if_neg ha
  | discover | prepare | release => exact ha.elim
  | _ => rfl

/-! Requests. -/

theorem outside_request {type : MessageType} (htype : type ≠ .drainResult) {h : Heard}
    {fields : List (String × Str)} : (request type h fields).Only Outside :=
  only_bind (only_perform htype) fun _ => only_bind (only_perform trivial) fun _ => only_pure

theorem outside_pub {incId : UInt64} {h : Heard} {category : ComponentCategory}
    {state : ComponentState} {subject detail : Str} {extra : List (String × Str)} :
    (pub incId h category state subject detail extra).Only Outside :=
  only_bind (outside_request (by decide)) fun _ => only_pure

theorem outside_publishComponents {incId : UInt64} {disc : BackendDiscovery} {h : Heard} :
    (publishComponents incId disc h).Only Outside := by
  unfold publishComponents
  repeat' first
    | exact outside_pub
    | refine only_bind outside_pub fun _ => ?_

theorem outside_tryActivate {o : Options} {outcome : Str} {rgen : UInt64} {h : Heard} :
    (tryActivate o outcome rgen h).Only Outside := by
  unfold tryActivate
  split
  · exact only_bind (outside_request (by decide)) fun _ => only_pure
  · exact only_pure

/-! Computations. -/

theorem inside_holdExecution {input : ComputeInput} {cpu : ComputeResult} (n : Nat) (parity : Bool) :
    (holdExecution input cpu n parity).Only Inside := by
  induction n generalizing parity with
  | zero => exact only_pure
  | succ n ih =>
    exact only_bind (only_perform trivial) fun _ => only_bind (only_perform trivial) fun _ => ih _

theorem inside_runExecute (incId : UInt64) (epoch : UInt32) (f : Coordinator.Fields) :
    (runExecute incId epoch f).Only Inside := by
  have hfiles : ∀ a, OnFiles a → Inside a := fun _ ha => ha.outside.inside
  refine only_bind (onFiles_mark.mono hfiles) fun _ => ?_
  refine only_bind (only_perform trivial) fun _ => only_bind (only_perform trivial) fun _ => ?_
  refine only_bind (inside_holdExecution _ _) fun _ => ?_
  refine only_bind ((onFiles_holdBarrier _).mono hfiles) fun _ => ?_
  exact only_bind (only_perform (by simp [Inside, Outside, workerMessage])) fun _ => only_pure

theorem inside_serveRequests (o : Options) (n i : Nat) (h : Heard) :
    (serveRequests o n i h).Only Inside := by
  induction n generalizing i h with
  | zero => exact only_pure
  | succ n ih =>
    refine only_bind ((outside_request (by decide)).mono fun _ => Outside.inside) fun _ => ?_
    refine only_bind (only_perform trivial) fun _ => only_bind (only_perform trivial) fun _ => ?_
    refine only_bind (only_perform (by simp [Inside, Outside, workerMessage])) fun _ => ?_
    exact only_bind ((outside_request (by decide)).mono fun _ => Outside.inside) fun _ => ih _ _

end Programs

/-! ## Rounds -/

/-- The stage when a round begins. -/
def Begins : Loop → Stage → Prop
  | .start, x => x = .fresh
  | .commands _, x | .alive, x => x = .prepared

/-- The stage when a round ends. -/
def Ends (l : Option Loop) (x : Stage) : Prop := ∀ l', l = some l' → Begins l' x

theorem stays_outside {A : Type} {Q : A → Stage → Prop} {x : Stage} {p : Program A}
    (hp : p.Only Outside) (hx : x ≠ .released) (hQ : ∀ a, Q a x) : Stays p Q x :=
  stays_of_only hp (fun _ r ha => after_outside ha hx r) hQ

theorem stays_inside {A : Type} {Q : A → Stage → Prop} {p : Program A} (hp : p.Only Inside)
    (hQ : ∀ a, Q a .prepared) : Stays p Q .prepared :=
  stays_of_only hp (fun _ r ha => after_inside ha r) hQ

/-- After the release, files alone are written. -/
theorem stays_mark {A : Type} {Q : A → Stage → Prop} {x : Stage} {asked path text : Str}
    {k : Unit → Program A} (hk : Stays (k ()) Q x) : Stays (mark asked path text >>= k) Q x := by
  refine follows_bind (stays_of_only onFiles_mark (fun a r ha => ?_) fun _ => hk)
  cases a with
  | writeFile | fileExists | removeFile | sleep => cases x <;> rfl
  | _ => exact ha.elim

theorem stays_finish (o : Options) (c : Commands) :
    Stays (finish o c false) Ends .prepared ∧ Stays (finish o c true) Ends .released := by
  constructor
  · exact stays_perform (a := .release) (fun _ => rfl) fun _ => stays_mark nofun
  · exact stays_mark nofun

theorem stays_runDrain (epoch : UInt32) (f : Coordinator.Fields) :
    Stays (runDrain epoch f) (fun _ x => x = .released) .prepared := by
  refine stays_perform (a := .release) (fun _ => rfl) fun _ => stays_mark ?_
  exact stays_perform (a := .send _) (y := .released) (fun _ => rfl) fun _ => rfl

theorem stays_takeCommand (o : Options) (c : Commands) :
    Stays (takeCommand o c) Ends .prepared := by
  refine stays_perform (a := .recv) (fun _ => rfl) fun r => ?_
  cases r with
  | none => exact (stays_finish o c).1
  | some m =>
    dsimp only
    split
    · refine follows_bind (stays_inside (inside_runExecute _ _ _) fun parity => ?_)
      rintro _ ⟨⟩
      rfl
    · exact follows_bind ((stays_runDrain _ _).mono fun _ x hx => hx ▸ (stays_finish o _).2)
    · exact (stays_finish o _).1
    · refine stays_perform (a := .send _) (y := .prepared) (fun _ => rfl) fun _ => ?_
      rintro _ ⟨⟩
      rfl

theorem stays_awaitCommands (o : Options) (c : Commands) (h : Heard) :
    Stays (awaitCommands o c h) Ends .prepared := by
  refine follows_bind (stays_outside (outside_request (by decide)) (by decide) fun h => ?_)
  split
  · exact nofun
  · refine stays_mark ?_
    rintro _ ⟨⟩
    rfl

theorem stays_serveAll (o : Options) (c : Commands) (query : Str) (h : Heard) :
    Stays (serveAll o c query h) Ends .prepared := by
  refine follows_bind (stays_inside (inside_serveRequests o _ _ h) fun h => ?_)
  refine stays_mark ?_
  split
  · rintro _ ⟨⟩
    rfl
  · exact stays_perform (a := .release) (fun _ => rfl) fun _ => nofun

theorem stays_prepareBackend (incId : UInt64) (h : Heard) :
    Stays (prepareBackend incId h) (fun _ x => x = .prepared) .fresh := by
  refine follows_bind (stays_outside (outside_request (by decide)) (by decide) fun h => ?_)
  refine stays_perform (a := .prepare _ _ _) (fun _ => rfl) fun _ => ?_
  refine stays_perform (a := .bindKernel _) (fun _ => rfl) fun _ => ?_
  refine stays_perform (a := .instantiateGraph _) (fun _ => rfl) fun _ => ?_
  refine stays_perform (a := .warmup _ _) (fun _ => rfl) fun _ => ?_
  exact stays_outside outside_pub (by decide) fun _ => rfl

theorem stays_runRegistered (o : Options) (h : Heard) : Stays (runRegistered o h) Ends .fresh := by
  refine stays_perform (a := .discover _) (fun _ => rfl) fun disc => ?_
  refine follows_bind (stays_outside outside_publishComponents (by decide) fun h => ?_)
  refine follows_bind ((stays_prepareBackend _ h).mono fun h x hx => ?_)
  subst hx
  refine follows_bind (stays_outside (outside_request (by decide)) (by decide) fun h => ?_)
  refine follows_bind (stays_outside outside_tryActivate (by decide) fun activated => ?_)
  dsimp only
  split
  · exact stays_awaitCommands o _ _
  · exact stays_serveAll o _ _ _

theorem stays_start (o : Options) : Stays (start o) Ends .fresh := by
  refine stays_perform (a := .send _) (y := .fresh) (fun _ => rfl) fun sent => ?_
  cases sent with
  | false => exact nofun
  | true =>
    refine stays_perform (a := .recv) (fun _ => rfl) fun r => ?_
    cases r with
    | none => exact nofun
    | some m =>
      refine stays_perform (a := .send _) (y := .fresh) (fun _ => rfl) fun sent => ?_
      cases sent with
      | false => exact nofun
      | true =>
        refine stays_perform (a := .recv) (fun _ => rfl) fun r => ?_
        cases r with
        | none => exact nofun
        | some reply =>
          dsimp only
          split
          · exact nofun
          · exact stays_runRegistered o _

theorem stays_code (o : Options) (l : Loop) {x : Stage} (hx : Begins l x) :
    Stays (code o l) Ends x := by
  cases l with
  | start =>
    obtain rfl : x = .fresh := hx
    exact stays_start o
  | commands c =>
    obtain rfl : x = .prepared := hx
    exact stays_takeCommand o c
  | alive =>
    obtain rfl : x = .prepared := hx
    refine stays_perform (a := .sleep) (fun _ => rfl) fun _ => ?_
    rintro _ ⟨⟩
    rfl

/-! ## Whole runs -/

section Runs

variable {B : ReferenceBackend} {o : Options} {input : Input} {s s' : B.State}

/-- A backend that has been released stays as the release has left it. -/
theorem released_after {x : Stage} {a : Action} {r : a.Res}
    (h : x.after ⟨a, r⟩ = some .released) (hperform : perform B input s a = some (r, s'))
    (hx : x = .released → ∃ b, s = B.release b) : ∃ b, s' = B.release b := by
  cases a with
  | release =>
    cases hperform
    exact ⟨s, rfl⟩
  | send | recv | writeFile | fileExists | removeFile | sleep =>
    cases hperform
    refine hx ?_
    cases x <;> simp_all [Stage.after]
  | discover | prepare | bindKernel | instantiateGraph | warmup | execute | verifyParity =>
    cases x <;> cases h

/-- The stage of the backend of a worker. -/
def stage (st : Traces B) : Stage := stages.after .fresh (deeds st)

theorem run_stays (B : ReferenceBackend) (o : Options) (inputs : List Input) :
    System.Disciplined stages .fresh Begins (run B o inputs) ∧
      (stage (run B o inputs) = .released → ∃ b, (run B o inputs).pool.shared = B.release b) := by
  let scs : List (Sched Input) := .spawn :: inputs.map (.move mainThread)
  change System.Disciplined stages .fresh Begins
    ((worker B o).traced.exec (System.tracedInitial B.init) scs) ∧ _
  refine System.exec_disciplined (S := worker B o) (s := B.init)
    (C := fun _ sc => ∀ tid input, sc = .move tid input → tid = mainThread)
    (I := fun st => stage st = .released → ∃ b, st.pool.shared = B.release b)
    (fun l => outline_trivial (code o l) []) (fun l _ hx => stays_code o l hx) rfl nofun ?_
    (fun _ _ _ _ _ _ _ _ _ _ _ _ => trivial) ?_
  · refine Machine.along_of_mem fun sc hsc _ tid input heq => ?_
    subst heq
    obtain ⟨_, -, heq⟩ := List.mem_map.mp ((List.mem_cons.mp hsc).resolve_left nofun)
    cases heq
    rfl
  · intro st sc st' _ hst _ h hC hI
    cases h with
    | spawned | blocked | looped => exact hI
    | @acted tid input a k r s rd hthread _ _ hperform =>
      obtain rfl := hC tid input rfl
      have hallows := (hst.thread mainThread _ hthread).1 r
      obtain ⟨y, hy⟩ := Option.isSome_iff_exists.mp hallows
      intro hreleased
      have hnext : y = .released := by
        have hstage : stages.after .fresh (System.stepsOf st mainThread ++ [⟨a, r⟩]) = .released :=
          (congrArg _ (System.stepsOf_acted st _ _ mainThread _ _).symm).trans hreleased
        rw [Discipline.after_concat] at hstage
        exact (congrArg (fun p => Option.getD p Stage.released) hy).symm.trans hstage
      exact released_after (hy.trans (congrArg some hnext)) hperform hI

/-- Lawful steps go through the stages. -/
theorem stages_of_lawful {es : List Deed} (h : stages.Lawful .fresh es) :
    es.foldlM Stage.after .fresh = some (stages.after .fresh es) :=
  h.foldlM (f := id) fun x e hallows _ => by
    obtain ⟨y, hy⟩ := Option.isSome_iff_exists.mp (hallows e.2)
    exact hy.trans (congrArg some (congrArg (fun p => Option.getD p Stage.released) hy).symm)

/-- Whatever its coordinator sends and wherever the connection fails: a worker prepares its backend
once, uses it only after that and before the release, and releases it at most once. It reports a
drain only when the backend is in the state that the release has left it in, and hears and
computes nothing after that. -/
theorem backend_lifecycle (B : ReferenceBackend) (o : Options) (inputs : List Input) :
    ∃ x, (deeds (run B o inputs)).foldlM Stage.after .fresh = some x ∧
      (x = .released → ∃ b, (run B o inputs).pool.shared = B.release b) := by
  obtain ⟨hstays, hreleased⟩ := run_stays B o inputs
  exact ⟨_, stages_of_lawful (hstays.lawful mainThread), hreleased⟩

end Runs

end EngineResidency.Worker
