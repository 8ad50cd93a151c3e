-- SUMMARY: Which actions the programs of the coordinator are made of.
import EngineResidency.Base.Outline
import EngineResidency.Coordinator.Section

/-!
# The actions of the coordinator's programs

What the threads of the coordinator may do to each other is decided by a few of their
actions: the frames that forward a command, the acknowledgement of a cleanup, and the critical
sections. Each part of a program is walked through once, for the narrowest kind of actions that it
is made of; the kinds that the arguments about whole programs speak of are wider.
-/

namespace EngineResidency.Coordinator

open EngineResidency.Runtime Prog

open Registry

/-! ## Kinds of actions -/

/-- The action of a handler that routes nothing: it sends no command and acknowledges no cleanup,
and its sections read, or create the entry of a session. -/
def Modest : Action → Prop
  | .call (.acknowledgeBackendCleanup _) => False
  | .send m => m.type ≠ .execute ∧ m.type ≠ .drain
  | .locked _ f => f = id ∨ ∃ sid, f = touchSession sid
  | _ => True

/-- The action of a session, which may queue a command. -/
def Plain : Action → Prop
  | .locked ready f => Modest (.locked ready f) ∨ ∃ rid cmd, f = enqueueCommand rid cmd
  | a => Modest a

theorem Modest.plain {a : Action} (h : Modest a) : Plain a := by
  cases a with
  | locked ready f => exact .inl h
  | _ => exact h

theorem plain_of_modest {A : Type} {p : Thread A} (hp : p.Only Modest) : p.Only Plain :=
  hp.mono fun _ => Modest.plain

/-- The action settles the commands of a router: it changes a router, or sets a promise. -/
def Settles : Action → Prop
  | .locked _ f => (∃ rid F, f = modifyRouter rid F) ∨ ∃ ticket rep, f = Registry.fulfil ticket rep
  | _ => False

/-- The action asks the runtime something. -/
def Asks (a : Action) : Prop := ∃ q, a = .query q

/-- A caught body does what it does, and ends the process on an exception that no one catches. -/
theorem only_caught {A : Type} {P : Action → Prop} {body : Body A} {fallback : A} (habort : P .abort)
    (h : body.run.Only P) : (caught body fallback).Only P := by
  refine only_bind h fun r => ?_
  split
  · exact only_pure
  · exact only_pure
  · exact only_bind (only_perform habort) fun _ => only_pure

/-! ## Handlers -/

/-- A message that is no command. -/
theorem modest_send {m : ProtocolMessage} (h : m.type ≠ .execute ∧ m.type ≠ .drain) :
    (send m).Only Modest :=
  only_perform h

/-- A domain error is answered with an error message. -/
theorem modest_attempt {A : Type} {fallback : A} {body : Body A} (h : body.run.Only Modest) :
    (attempt fallback body).Only Modest := by
  refine only_bind h fun r => ?_
  split
  · exact only_pure
  · exact only_bind (modest_send ⟨nofun, nofun⟩) fun _ => only_pure
  · exact only_bind (only_perform trivial) fun _ => only_pure

/-- An operation that is called for its effect. -/
theorem modest_call {c : Call} (h : Modest (.call c)) : (call c).run.Only Modest := only_perform h

theorem modest_reject (code : ErrorCode) (msg : String) : (reject code msg).run.Only Modest := trivial

/-- A refusal over the incarnation of a message. -/
theorem modest_requireOpen (target : EngineIncarnationId) : (requireOpen target).run.Only Modest := by
  unfold requireOpen
  repeat' first
    | exact only_ok
    | exact modest_reject _ _
    | exact only_lift (only_perform trivial)
    | refine only_andThen ?_ fun _ => ?_
    | split

theorem modest_handleHello (msg : ProtocolMessage) : (handleHello msg).Only Modest := by
  refine only_bind (only_perform trivial) fun epoch => ?_
  refine only_bind (only_perform trivial) fun authority => ?_
  exact only_bind (modest_send ⟨nofun, nofun⟩) fun _ => only_pure

/-- A publication reads the incarnation of its session, and creates the entry if there is none. -/
theorem modest_handlePublishComponent (l : SessionLocal) (f : Fields) :
    (handlePublishComponent l f).Only Modest := by
  refine modest_attempt ?_
  refine only_andThen ?_ fun g => only_andThen (modest_requireOpen _) fun _ => ?_
  · exact only_lift (only_perform (.inr ⟨_, rfl⟩))
  repeat' first
    | exact only_ok
    | exact modest_call trivial
    | exact only_lift (only_perform trivial)
    | exact only_lift (modest_send ⟨nofun, nofun⟩)
    | refine only_andThen ?_ fun _ => ?_
    | split

/-- An attempt is stepped to its end. -/
theorem modest_stepAttempt (n : Nat) (a : PreparationAttempt) : (stepAttempt n a).run.Only Modest := by
  induction n generalizing a with
  | zero => exact only_ok
  | succ n ih =>
    refine only_andThen (modest_call trivial) fun r => ?_
    split
    · exact ih _
    · exact only_ok

theorem modest_handlePrepare (l : SessionLocal) : (handlePrepare l).Only Modest := by
  refine modest_attempt ?_
  repeat' first
    | exact only_ok
    | exact modest_call trivial
    | exact modest_stepAttempt _ _
    | exact only_lift (modest_send ⟨nofun, nofun⟩)
    | refine only_andThen ?_ fun _ => ?_
    | split

theorem modest_handleQueryReadiness (l : SessionLocal) (f : Fields) :
    (handleQueryReadiness l f).Only Modest := by
  refine modest_attempt (only_andThen (modest_requireOpen _) fun _ => ?_)
  refine only_andThen (only_perform trivial) fun rr => ?_
  exact only_andThen (only_lift (modest_send ⟨nofun, nofun⟩)) fun _ => only_ok

theorem modest_handleActivate (l : SessionLocal) (f : Fields) : (handleActivate l f).Only Modest := by
  refine modest_attempt (only_andThen (modest_requireOpen _) fun _ => ?_)
  dsimp only
  repeat' first
    | exact only_ok
    | exact modest_call trivial
    | exact only_perform trivial
    | exact only_lift (only_perform trivial)
    | exact only_lift (modest_send ⟨nofun, nofun⟩)
    | refine only_andThen ?_ fun _ => ?_
    | split

theorem modest_handleAcquireUse (l : SessionLocal) (f : Fields) :
    (handleAcquireUse l f).Only Modest := by
  refine modest_attempt (only_andThen (modest_requireOpen _) fun _ => ?_)
  repeat' first
    | exact only_ok
    | exact modest_call trivial
    | exact only_lift (only_perform trivial)
    | exact only_lift (modest_send ⟨nofun, nofun⟩)
    | refine only_andThen ?_ fun _ => ?_
    | split

theorem modest_handleReleaseUse (l : SessionLocal) (f : Fields) :
    (handleReleaseUse l f).Only Modest := by
  refine modest_attempt (only_andThen (modest_requireOpen _) fun _ => ?_)
  refine only_andThen (modest_call trivial) fun _ => ?_
  exact only_andThen (only_lift (modest_send ⟨nofun, nofun⟩)) fun _ => only_ok

theorem modest_handleReplace (f : Fields) : (handleReplace f).Only Modest := by
  refine modest_attempt ?_
  dsimp only
  repeat' first
    | exact only_ok
    | exact modest_call trivial
    | exact modest_reject _ _
    | exact only_lift (only_perform trivial)
    | exact only_lift (modest_send ⟨nofun, nofun⟩)
    | refine only_andThen ?_ fun _ => ?_
    | split

theorem modest_handleFenceWorker (f : Fields) : (handleFenceWorker f).Only Modest := by
  refine modest_attempt (only_andThen (modest_call trivial) fun _ => ?_)
  exact only_andThen (only_lift (modest_send ⟨nofun, nofun⟩)) fun _ => only_ok

theorem modest_handleSave : handleSave.Only Modest := by
  refine modest_attempt (only_andThen (only_perform trivial) fun _ => ?_)
  exact only_andThen (only_lift (modest_send ⟨nofun, nofun⟩)) fun _ => only_ok

theorem modest_handleExecutionResult (l : SessionLocal) (f : Fields) :
    (handleExecutionResult l f).Only Modest := by
  refine modest_attempt (only_andThen (modest_requireOpen _) fun _ => ?_)
  exact only_andThen (only_lift (modest_send ⟨nofun, nofun⟩)) fun _ => only_ok

theorem modest_handleQueryDrain (l : SessionLocal) (f : Fields) :
    (handleQueryDrain l f).Only Modest := by
  refine only_bind (only_perform trivial) fun st => ?_
  refine only_bind (only_perform trivial) fun total => ?_
  exact only_bind (modest_send ⟨nofun, nofun⟩) fun _ => only_pure

/-! ## Routing -/

/-- The reply to a controller is no command, whatever it says. -/
theorem modest_replyToController (rep : CommandReply) (cmdId : UInt64) (epoch authority : UInt32) :
    (replyToController rep cmdId epoch authority).Only Modest := by
  refine only_bind (modest_send ?_) fun _ => only_pure
  dsimp only
  split <;> exact ⟨nofun, nofun⟩

/-- A router is looked up in two sections that read. -/
theorem modest_findRouter (target : EngineIncarnationId) (targetBoot : UInt64) :
    (findRouter target targetBoot).Only Modest := by
  refine only_bind (only_perform (.inl rfl)) fun g => ?_
  repeat' first
    | exact only_pure
    | refine only_bind (only_perform (.inl rfl)) fun _ => ?_
    | split

/-- A command is queued, and its reply is waited for. -/
theorem plain_awaitReply (rid : Nat) (cmd : WorkerCommand) (timeout : String) :
    (awaitReply rid cmd timeout).Only Plain := by
  refine only_bind (only_bind ?_ fun _ => only_pure) fun ticket => ?_
  · exact only_perform (.inr ⟨rid, cmd, rfl⟩)
  · refine only_bind (only_perform trivial) fun rep => ?_
    split
    · exact plain_of_modest (modest_replyToController _ _ _ _)
    · exact plain_of_modest (modest_replyToController _ _ _ _)

theorem plain_handleExecute (msg : ProtocolMessage) (f : Fields) :
    (handleExecute msg f).Only Plain := by
  unfold handleExecute
  split
  · refine only_bind (plain_of_modest (modest_findRouter _ _)) fun found => ?_
    split
    · exact plain_of_modest (modest_replyToController _ _ _ _)
    · exact plain_awaitReply _ _ _
  · exact plain_of_modest (only_bind (modest_send ⟨nofun, nofun⟩) fun _ => only_pure)

theorem modest_requestRoutedDrain (target : EngineIncarnationId) :
    (requestRoutedDrain target).run.Only Modest := by
  unfold requestRoutedDrain
  repeat' first
    | exact only_ok
    | exact modest_call trivial
    | exact modest_reject _ _
    | exact only_lift (only_perform trivial)
    | refine only_andThen ?_ fun _ => ?_
    | split

theorem plain_routeDrain (msg : ProtocolMessage) (f : Fields) (target : EngineIncarnationId)
    (targetBoot : UInt64) : (routeDrain msg f target targetBoot).Only Plain := by
  refine only_bind (plain_of_modest (modest_findRouter _ _)) fun found => ?_
  split
  · exact plain_of_modest (modest_replyToController _ _ _ _)
  · refine only_bind (plain_of_modest (only_caught trivial (modest_requestRoutedDrain target)))
      fun requested => ?_
    split
    · exact plain_of_modest (modest_replyToController _ _ _ _)
    · exact plain_awaitReply _ _ _

/-- A drain is routed to the worker that is named, or requested from the runtime. -/
theorem plain_handleDrain (l : SessionLocal) (msg : ProtocolMessage) (f : Fields) :
    (handleDrain l msg f).Only Plain := by
  unfold handleDrain
  split
  · exact plain_routeDrain _ _ _ _
  · refine plain_of_modest (modest_attempt (only_andThen (modest_call trivial) fun _ => ?_))
    exact only_andThen (only_lift (modest_send ⟨nofun, nofun⟩)) fun _ => only_ok

/-! ## Dispatchers -/

theorem settles_fulfil (ticket : Nat) (rep : CommandReply) : (fulfil ticket rep).Only Settles :=
  only_bind (only_perform (.inr ⟨ticket, rep, rfl⟩)) fun _ => only_pure

theorem settles_fulfilAll (rep : CommandReply) (cmds : List WorkerCommand) :
    (fulfilAll rep cmds).Only Settles := by
  induction cmds with
  | nil => exact only_pure
  | cons c cmds ih => exact only_bind (settles_fulfil _ _) fun _ => ih

/-- The router dies, its queue is emptied into refusals, and its socket is closed. -/
theorem settles_fail (rid : Nat) (reason : String) : (fail rid reason).Only Settles := by
  refine only_bind (only_perform (.inl ⟨rid, _, rfl⟩)) fun _ => ?_
  refine only_bind (only_perform (.inl ⟨rid, _, rfl⟩)) fun _ => ?_
  refine only_bind (settles_fulfilAll _ _) fun _ => ?_
  exact only_bind (only_perform (.inl ⟨rid, _, rfl⟩)) fun _ => only_pure

/-- Whether a command is of this epoch and this authority is asked before anything is done. -/
theorem asks_checkCycle (epoch authority : UInt32) : (checkCycle epoch authority).Only Asks := by
  unfold checkCycle
  repeat' first
    | exact only_pure
    | refine only_bind (only_perform ⟨_, rfl⟩) fun _ => ?_
    | split

/-- The fields of a command that its worker gets to execute it. -/
def executeFields (cmd : WorkerCommand) : List (String × Str) :=
  [("seed", get cmd.params "seed" "42"), ("batch", get cmd.params "batch" "1"),
    ("seq_len", get cmd.params "seq_len" "16"), ("hold_iters", get cmd.params "hold_iters" "0"),
    ("marker", get cmd.params "marker" ""), ("hold_barrier", get cmd.params "hold_barrier" "")]

/-- The fields of a command that its worker gets to drain. -/
def drainFields (cmd : WorkerCommand) : List (String × Str) :=
  [("marker", get cmd.params "marker" "")]

/-- The action of a dispatcher in the course of a command: it sends nothing but the two frames that
forward the command, and its sections settle commands. -/
def Forwards (cmd : WorkerCommand) : Action → Prop
  | .send m => m = forwarded cmd (executeFields cmd) ∨ m = forwarded cmd (drainFields cmd)
  | .locked ready f => Settles (.locked ready f)
  | _ => True

section Forwards

variable {cmd : WorkerCommand}

theorem Settles.forwards {a : Action} (h : Settles a) : Forwards cmd a := by
  cases a with
  | locked ready f => exact h
  | _ => exact h.elim

theorem Asks.forwards {a : Action} (h : Asks a) : Forwards cmd a := by
  obtain ⟨q, rfl⟩ := h
  trivial

theorem forwards_fulfil (ticket : Nat) (rep : CommandReply) :
    (fulfil ticket rep).Only (Forwards cmd) :=
  (settles_fulfil ticket rep).mono fun _ => Settles.forwards

theorem forwards_fail (rid : Nat) (reason : String) : (fail rid reason).Only (Forwards cmd) :=
  (settles_fail rid reason).mono fun _ => Settles.forwards

theorem forwards_acquireUseFor (r : WorkerRouter) (params : Fields) :
    (acquireUseFor r params).Only (Forwards cmd) := by
  refine only_caught trivial (only_andThen (only_perform trivial) fun reply => ?_)
  split <;> exact only_ok

/-- The one frame of an execution is sent between the acquisition and the release of its use. -/
theorem forwards_processExecute (rid : Nat) (r : WorkerRouter) :
    (processExecute rid r cmd).Only (Forwards cmd) := by
  unfold processExecute
  repeat' first
    | exact forwards_fulfil _ _
    | refine only_bind (only_perform trivial) fun _ => ?_
    | refine only_bind (only_perform (.inl rfl)) fun _ => ?_
    | refine only_bind (forwards_acquireUseFor _ _) fun _ => ?_
    | refine only_bind (forwards_fail _ _) fun _ => ?_
    | split
    | dsimp only

theorem forwards_processDrain (rid : Nat) (r : WorkerRouter) :
    (processDrain rid r cmd).Only (Forwards cmd) := by
  refine only_bind (only_perform (.inr rfl)) fun sent => ?_
  split
  · refine only_bind (forwards_fail _ _) fun _ => forwards_fulfil _ _
  · refine only_bind (only_perform trivial) fun resp => ?_
    split
    · exact only_bind (forwards_fail _ _) fun _ => forwards_fulfil _ _
    · refine only_bind (only_caught trivial (only_perform trivial)) fun _ => ?_
      exact only_bind (only_perform trivial) fun _ => forwards_fulfil _ _

/-- A dispatcher sends its worker nothing but the two frames that forward its command. -/
theorem forwards_process (rid : Nat) (r : WorkerRouter) :
    (process rid r cmd).Only (Forwards cmd) := by
  refine only_bind ((asks_checkCycle _ _).mono fun _ => Asks.forwards) fun cycle => ?_
  split
  · exact forwards_fulfil _ _
  · split
    · exact forwards_processExecute rid r
    · exact forwards_processDrain rid r
    · exact forwards_fulfil _ _

end Forwards

end EngineResidency.Coordinator
