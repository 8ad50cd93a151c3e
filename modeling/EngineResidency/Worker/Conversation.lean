-- SUMMARY: How a worker talks to its coordinator: it waits for the answer to each of its requests, and answers each command.
import EngineResidency.Base.Discipline
import EngineResidency.Coordinator.Payload
import EngineResidency.Worker.Program

/-!
# Conversations of a worker

Up to COMMAND_READY the worker asks, and waits after each request. From then on it is
asked: it answers each command with the result of this command, and falls silent once it is
drained or shut down. It looks at few of the failures of its connection; after one it may
say anything, and nobody hears it.
-/

namespace EngineResidency.Worker

open Prog
open Coordinator (ProtocolMessage MessageType Fields parsePayload fieldsOf get u decimal newline OnLine)

/-- A step of a worker. -/
abbrev Deed := Σ a : Action, a.Res

/-! ## Answers -/

/-- The number in the answer is the number that the command names, or its default. -/
def echoes (m ans : ProtocolMessage) (key : String) (default : UInt64) : Bool :=
  (parsePayload ans.payload).lookup (lit key) =
    some (decimal (u (parsePayload m.payload) key default).toNat)

/-- The computation that an EXECUTE command asks for. -/
def computes (m : ProtocolMessage) (input : ComputeInput) : Bool :=
  input.seed = u (parsePayload m.payload) "seed" 42 &&
    input.batch = (u (parsePayload m.payload) "batch" 1).toUInt32 &&
    input.seqLen = (u (parsePayload m.payload) "seq_len" 16).toUInt32

/-- The answer to a command. An execution is answered after the command has been computed. -/
def isAnswer (m : ProtocolMessage) (computed : Bool) (ans : ProtocolMessage) : Bool :=
  match m.type with
  | .execute =>
    computed && ans.type = .executionResult && echoes m ans "cmd_id" 0 && echoes m ans "seed" 42
  | .drain => ans.type = .drainResult && echoes m ans "cmd_id" 0
  | _ => ans.type = .error

/-! ## Phases -/

/-- Where the conversation of a worker stands. -/
inductive Phase where
  /-- The next request may be sent. -/
  | speaking
  | waiting (m : ProtocolMessage)
  /-- The next command may come. -/
  | listening
  | working (m : ProtocolMessage) (computed : Bool)
  /-- The worker serves requests of its own. -/
  | serving
  /-- The worker has been drained or shut down, or is not wanted. -/
  | silent
  /-- The connection has failed. -/
  | lost

/-- The answer to a request. -/
def Phase.replied (m reply : ProtocolMessage) : Phase :=
  if m.type = .commandReady then (if reply.type = .error then .silent else .listening)
  else .speaking

def Phase.answered (m : ProtocolMessage) (computed : Bool) (ans : ProtocolMessage) : Option Phase :=
  if isAnswer m computed ans then some (if m.type = .drain then .silent else .listening) else none

/-- The phase after a step, if the step is one that a phase allows. -/
def Phase.after : Phase → Deed → Option Phase
  | .lost, _ => some .lost
  | .speaking, ⟨.send m, _⟩ => some (if m.type = .acquireUse then .serving else .waiting m)
  | .waiting m, ⟨.recv, some reply⟩ => some (Phase.replied m reply)
  | .listening, ⟨.recv, some m⟩ =>
    some (if m.type = .shutdown then .silent else .working m false)
  | .serving, ⟨.recv, some _⟩ => some .serving
  | .waiting _, ⟨.recv, none⟩ | .listening, ⟨.recv, none⟩ | .serving, ⟨.recv, none⟩ => some .lost
  | .working m computed, ⟨.execute input, _⟩ => some (.working m (computed || computes m input))
  | .working m computed, ⟨.send ans, _⟩ => Phase.answered m computed ans
  | .serving, ⟨.send m, _⟩ => if m.type = .commandReady then none else some .serving
  | _, ⟨.send _, _⟩ | _, ⟨.recv, _⟩ => none
  | x, _ => some x

/-- The detail of a result is one line. -/
def Expected : (a : Action) → a.Res → Prop
  | .execute _, r => newline ∉ r.detail
  | _, _ => True

/-- The discipline of a worker. -/
def manners : Discipline Action Action.Res Phase where
  allows x a := ∀ r, (x.after ⟨a, r⟩).isSome
  answers _ a r := Expected a r
  next x e := (x.after e).getD .lost

/-- The program follows the discipline. -/
abbrev Minds {A : Type} (p : Program A) (Q : A → Phase → Prop) (x : Phase) : Prop :=
  p.Follows manners Q x

section Rules

variable {A : Type} {Q : A → Phase → Prop} {x : Phase}

/-- An action after which the conversation stands in a known phase. -/
theorem minds_perform {a : Action} {k : a.Res → Program A} {y : a.Res → Phase}
    (hafter : ∀ r, x.after ⟨a, r⟩ = some (y r))
    (hk : ∀ r, Expected a r → Minds (k r) Q (y r)) : Minds (Prog.perform a >>= k) Q x := by
  refine follows_perform (fun r => ?_) fun r hr => ?_
  · rw [hafter]
    rfl
  · change Minds (k r) Q ((x.after ⟨a, r⟩).getD .lost)
    rw [hafter]
    exact hk r hr

/-- Nothing is asked of a worker whose connection has failed. -/
theorem minds_lost {p : Program A} (hQ : ∀ a, Q a .lost) : Minds p Q .lost := by
  induction p with
  | done a => exact hQ a
  | act a k ih => exact ⟨fun _ => rfl, fun r _ => ih r⟩

/-- The actions that leave the conversation alone. -/
def Quiet : Action → Prop
  | .send _ | .recv | .execute _ => False
  | _ => True

theorem Phase.after_quiet {a : Action} (ha : Quiet a) (r : a.Res) : x.after ⟨a, r⟩ = some x := by
  cases a with
  | send | recv | execute => exact ha.elim
  | _ => cases x <;> rfl

theorem minds_quiet {a : Action} {k : a.Res → Program A} (ha : Quiet a)
    (hk : ∀ r, Minds (k r) Q x) : Minds (Prog.perform a >>= k) Q x :=
  minds_perform (y := fun _ => x) (Phase.after_quiet ha) fun r _ => hk r

end Rules

/-! ## Marker files -/

/-- The actions on marker files, and the waiting for one. -/
def OnFiles : Action → Prop
  | .writeFile _ _ | .fileExists _ | .removeFile _ | .sleep => True
  | _ => False

theorem onFiles_mark {asked path text : Str} : (mark asked path text).Only OnFiles := by
  unfold mark
  split
  · exact only_pure
  · exact only_perform trivial

theorem onFiles_awaitBarrier (path : Str) (n : Nat) : (awaitBarrier path n).Only OnFiles := by
  induction n with
  | zero => exact only_perform trivial
  | succ n ih =>
    refine only_bind (only_perform trivial) fun found => ?_
    cases found with
    | true => exact only_perform trivial
    | false => exact only_bind (only_perform trivial) fun _ => ih

theorem onFiles_holdBarrier (path : Str) : (holdBarrier path).Only OnFiles := by
  unfold holdBarrier
  split
  · exact only_pure
  · exact onFiles_awaitBarrier _ _

theorem OnFiles.quiet {a : Action} (ha : OnFiles a) : Quiet a := by
  cases a with
  | send | recv | execute => exact ha.elim
  | _ => trivial

theorem quiet_mark {asked path text : Str} : (mark asked path text).Only Quiet :=
  onFiles_mark.mono fun _ => OnFiles.quiet

theorem quiet_holdBarrier (path : Str) : (holdBarrier path).Only Quiet :=
  (onFiles_holdBarrier path).mono fun _ => OnFiles.quiet

/-! ## Requests -/

/-- The next request may be sent, or the connection has failed. -/
def Phase.Asks (x : Phase) : Prop := x = .speaking ∨ x = .lost

/-- No request but COMMAND_READY and ACQUIRE_USE changes how the worker goes on. -/
def Ordinary (type : MessageType) : Prop := type ≠ .commandReady ∧ type ≠ .acquireUse

instance (type : MessageType) : Decidable (Ordinary type) := instDecidableAnd

section Requests

variable {A : Type} {Q : A → Phase → Prop} {x : Phase} {h : Heard}

theorem minds_request {type : MessageType} (htype : Ordinary type)
    {fields : List (String × Str)} (hx : x.Asks) :
    Minds (request type h fields) (fun _ => Phase.Asks) x := by
  rcases hx with rfl | rfl
  · refine minds_perform (y := fun _ => .waiting (workerMessage type h.epoch fields))
      (fun _ => congrArg some (if_neg htype.2)) fun _ _ => ?_
    refine minds_perform (y := fun r => if r.isSome then .speaking else .lost) (fun r => ?_)
      fun r _ => ?_
    · cases r with
      | none => rfl
      | some reply => exact congrArg some (if_neg htype.1)
    · cases r with
      | none => exact .inr rfl
      | some reply => exact .inl rfl
  · exact minds_lost fun _ => .inr rfl

theorem minds_pub {incId : UInt64} {category : ComponentCategory} {state : ComponentState}
    {subject detail : Str} {extra : List (String × Str)} (hx : x.Asks) :
    Minds (pub incId h category state subject detail extra) (fun _ => Phase.Asks) x :=
  follows_bind ((minds_request (by decide) hx).mono fun _ _ hx => hx)

theorem minds_publishComponents {incId : UInt64} {disc : BackendDiscovery} (hx : x.Asks) :
    Minds (publishComponents incId disc h) (fun _ => Phase.Asks) x := by
  unfold publishComponents
  repeat' first
    | refine follows_bind ((minds_pub ?_).mono fun _ _ _ => ?_)
    | exact minds_pub ‹_›
    | assumption

theorem minds_prepareBackend {incId : UInt64} (hx : x.Asks) :
    Minds (prepareBackend incId h) (fun _ => Phase.Asks) x := by
  refine follows_bind ((minds_request (by decide) hx).mono fun _ x hx => ?_)
  refine minds_quiet (a := .prepare _ _ _) trivial fun _ => ?_
  refine minds_quiet (a := .bindKernel _) trivial fun _ => ?_
  refine minds_quiet (a := .instantiateGraph _) trivial fun _ => ?_
  exact minds_quiet (a := .warmup _ _) trivial fun _ => minds_pub hx

theorem minds_tryActivate {o : Options} {outcome : Str} {rgen : UInt64} (hx : x.Asks) :
    Minds (tryActivate o outcome rgen h) (fun _ => Phase.Asks) x := by
  unfold tryActivate
  split
  · exact follows_bind ((minds_request (by decide) hx).mono fun _ _ hx => hx)
  · exact hx

end Requests

/-! ## Commands -/

section Commands

variable {A : Type} {Q : A → Phase → Prop} {x : Phase} {m : ProtocolMessage}

/-- A program that neither talks nor computes. -/
theorem minds_of_quiet {p : Program A} (hp : p.Only Quiet) (hQ : ∀ a, Q a x) : Minds p Q x := by
  refine hp.follows_same (fun a ha => ⟨fun r => ?_, fun r => ?_⟩) hQ
  · rw [Phase.after_quiet ha]
    rfl
  · exact congrArg (Option.getD · .lost) (Phase.after_quiet ha r)

theorem quiet_releaseUnless (drained : Bool) : (releaseUnless drained).Only Quiet := by
  cases drained with
  | true => exact only_pure
  | false => exact only_perform trivial

theorem minds_execute {computed : Bool} {input : ComputeInput} {k : ComputeResult → Program A}
    (hk : ∀ r, newline ∉ r.detail →
      Minds (k r) Q (.working m (computed || computes m input))) :
    Minds (execute input >>= k) Q (.working m computed) :=
  minds_perform (fun _ => rfl) hk

/-- Holding an execution computes nothing else. -/
theorem minds_holdExecution {input : ComputeInput} {cpu : ComputeResult} (n : Nat) (parity : Bool) :
    Minds (holdExecution input cpu n parity) (fun _ x => x = .working m true) (.working m true) := by
  induction n generalizing parity with
  | zero => exact rfl
  | succ n ih =>
    refine minds_execute fun _ _ => ?_
    exact minds_quiet (a := .verifyParity _ _) trivial fun same => ih _

/-- A message whose fields are on their lines is read as it was sent. -/
theorem lookup_workerMessage {type : MessageType} {epoch : UInt32} {fields : List (String × Str)}
    (h : ∀ kv ∈ fields, OnLine (lit kv.1) kv.2) (key : Str) :
    (parsePayload (workerMessage type epoch fields).payload).lookup key =
      (fieldsOf fields).lookup key :=
  (Coordinator.onLines_fieldsOf h).sameFields key

theorem onLine_of_key {key : String} {value : Str} (hkey : OnLine (lit key) [])
    (hvalue : newline ∉ value) : OnLine (lit key) value :=
  ⟨hkey.1, hkey.2.1, hvalue⟩

theorem isAnswer_execute (hm : m.type = .execute) {epoch : UInt32} {parity : Bool} {detail : Str}
    (hdetail : newline ∉ detail) :
    isAnswer m true (workerMessage .executionResult epoch
      [("cmd_id", decimal (u (parsePayload m.payload) "cmd_id" 0).toNat), ("ok", flag parity),
       ("parity", parityText parity), ("detail", detail),
       ("seed", decimal (u (parsePayload m.payload) "seed" 42).toNat)]) = true := by
  have hlines : ∀ kv ∈ [("cmd_id", decimal (u (parsePayload m.payload) "cmd_id" 0).toNat),
      ("ok", flag parity), ("parity", parityText parity), ("detail", detail),
      ("seed", decimal (u (parsePayload m.payload) "seed" 42).toNat)], OnLine (lit kv.1) kv.2 := by
    simp only [List.forall_mem_cons, List.not_mem_nil, false_implies, implies_true, and_true]
    refine ⟨onLine_of_key (by decide) (Coordinator.newline_not_mem_decimal _), ?_, ?_,
      onLine_of_key (by decide) hdetail,
      onLine_of_key (by decide) (Coordinator.newline_not_mem_decimal _)⟩ <;>
      cases parity <;> decide
  have hid : lit "cmd_id" ≠ lit "ok" ∧ lit "cmd_id" ≠ lit "parity" ∧ lit "cmd_id" ≠ lit "detail" ∧
      lit "cmd_id" ≠ lit "seed" := by decide
  simp only [isAnswer, hm, echoes, lookup_workerMessage hlines]
  simp [workerMessage, fieldsOf, hid, -AList.insert_empty]

theorem isAnswer_drain (hm : m.type = .drain) {computed : Bool} {epoch : UInt32} :
    isAnswer m computed (workerMessage .drainResult epoch
      [("cmd_id", decimal (u (parsePayload m.payload) "cmd_id" 0).toNat), ("ok", lit "1"),
       ("detail", lit "backend cleanup complete")]) = true := by
  have hlines : ∀ kv ∈ [("cmd_id", decimal (u (parsePayload m.payload) "cmd_id" 0).toNat),
      ("ok", lit "1"), ("detail", lit "backend cleanup complete")], OnLine (lit kv.1) kv.2 := by
    simp only [List.forall_mem_cons, List.not_mem_nil, false_implies, implies_true, and_true]
    refine ⟨onLine_of_key (by decide) (Coordinator.newline_not_mem_decimal _), ?_, ?_⟩ <;> decide
  have hid : lit "cmd_id" ≠ lit "ok" ∧ lit "cmd_id" ≠ lit "detail" := by decide
  simp only [isAnswer, hm, echoes, lookup_workerMessage hlines]
  simp [workerMessage, fieldsOf, hid, -AList.insert_empty]

/-- A command is answered. -/
theorem minds_answer {computed : Bool} {ans : ProtocolMessage} {k : Bool → Program A}
    (hans : isAnswer m computed ans = true)
    (hk : ∀ sent, Minds (k sent) Q (if m.type = .drain then .silent else .listening)) :
    Minds (send ans >>= k) Q (.working m computed) :=
  minds_perform (fun _ => if_pos hans) fun sent _ => hk sent

theorem minds_runExecute (hm : m.type = .execute) (incId : UInt64) (epoch : UInt32) :
    Minds (runExecute incId epoch (parsePayload m.payload)) (fun _ x => x = .listening)
      (.working m false) := by
  unfold runExecute
  refine follows_bind (minds_of_quiet quiet_mark fun _ => ?_)
  refine minds_execute fun result hdetail => ?_
  have hcomputes : (false || computes m (commandInput (u (parsePayload m.payload) "seed" 42)
      (u (parsePayload m.payload) "batch" 1).toUInt32
      (u (parsePayload m.payload) "seq_len" 16).toUInt32)) = true := by
    simp [computes, commandInput]
  rw [hcomputes]
  refine minds_quiet (a := .verifyParity _ _) trivial fun first => ?_
  refine follows_bind ((minds_holdExecution _ _).mono fun parity x hx => ?_)
  subst hx
  refine follows_bind (minds_of_quiet (quiet_holdBarrier _) fun _ => ?_)
  refine minds_answer (isAnswer_execute hm hdetail) fun _ => ?_
  rw [if_neg (by simp [hm])]
  exact rfl

theorem minds_runDrain (hm : m.type = .drain) (epoch : UInt32) :
    Minds (runDrain epoch (parsePayload m.payload)) (fun _ x => x = .silent) (.working m false) := by
  unfold runDrain
  refine minds_quiet (a := .release) trivial fun _ => ?_
  refine follows_bind (minds_of_quiet quiet_mark fun _ => ?_)
  refine minds_answer (isAnswer_drain hm) fun _ => ?_
  rw [if_pos hm]
  exact rfl

/-! ### Rounds -/

/-- Where the conversation stands when a round begins. -/
def Poised : Loop → Phase → Prop
  | .start, x => x.Asks
  | .commands _, x => x = .listening ∨ x = .lost
  | .alive, _ => True

/-- Where the conversation stands when a round ends. -/
def PoisedAfter (l : Option Loop) (x : Phase) : Prop := ∀ l', l = some l' → Poised l' x

theorem poisedAfter_lost (l : Option Loop) : PoisedAfter l .lost := by
  rintro l rfl
  cases l with
  | start => exact .inr rfl
  | commands c => exact .inr rfl
  | alive => trivial

theorem minds_finish (o : Options) (c : Commands) (drained : Bool) :
    Minds (finish o c drained) PoisedAfter x := by
  unfold finish
  refine follows_bind (minds_of_quiet (quiet_releaseUnless _) fun _ => ?_)
  exact follows_bind (minds_of_quiet quiet_mark fun _ => nofun)

theorem minds_takeCommand (o : Options) (c : Commands) (hx : x = .listening ∨ x = .lost) :
    Minds (takeCommand o c) PoisedAfter x := by
  rcases hx with rfl | rfl
  · refine follows_perform (fun r => by cases r <;> rfl) fun r _ => ?_
    cases r with
    | none => exact minds_finish o c false
    | some m =>
      dsimp only
      split
      · rename_i hm
        have hworking : Phase.after .listening ⟨.recv, some m⟩ = some (.working m false) :=
          congrArg some (if_neg (by simp [hm]))
        change Minds _ _ ((Phase.after .listening ⟨.recv, some m⟩).getD .lost)
        rw [hworking]
        refine follows_bind ((minds_runExecute hm _ _).mono fun parity x hx => ?_)
        rintro _ ⟨⟩
        exact .inl hx
      · rename_i hm
        have hworking : Phase.after .listening ⟨.recv, some m⟩ = some (.working m false) :=
          congrArg some (if_neg (by simp [hm]))
        change Minds _ _ ((Phase.after .listening ⟨.recv, some m⟩).getD .lost)
        rw [hworking]
        exact follows_bind ((minds_runDrain hm _).mono fun _ _ _ => minds_finish o _ true)
      · exact minds_finish o _ false
      · rename_i hexecute hdrain hshutdown
        have hworking : Phase.after .listening ⟨.recv, some m⟩ = some (.working m false) :=
          congrArg some (if_neg hshutdown)
        change Minds _ _ ((Phase.after .listening ⟨.recv, some m⟩).getD .lost)
        rw [hworking]
        have hans : ∀ epoch, isAnswer m false
            (workerMessage .error epoch [("msg", lit "unhandled command")]) = true := fun epoch => by
          simp [isAnswer, workerMessage]
        refine minds_answer (hans _) fun _ => ?_
        rw [if_neg hdrain]
        rintro _ ⟨⟩
        exact .inl rfl
  · exact minds_lost poisedAfter_lost

end Commands

/-! ## Requests of its own -/

/-- The worker serves its own requests, or the connection has failed. -/
def Phase.Serves (x : Phase) : Prop := x = .serving ∨ x = .lost

section Serving

variable {A : Type} {Q : A → Phase → Prop} {x : Phase} {h : Heard}

theorem minds_send_serving {m : ProtocolMessage} {k : Bool → Program A} (hx : x.Serves)
    (hm : m.type ≠ .commandReady) (hk : ∀ sent, Minds (k sent) Q x) :
    Minds (send m >>= k) Q x := by
  rcases hx with rfl | rfl
  · exact minds_perform (y := fun _ => .serving) (fun _ => if_neg hm) fun sent _ => hk sent
  · exact minds_perform (y := fun _ => .lost) (fun _ => rfl) fun sent _ => hk sent

theorem minds_recv_serving {k : Option ProtocolMessage → Program A} (hx : x.Serves)
    (hk : ∀ r x, x.Serves → Minds (k r) Q x) : Minds (recv >>= k) Q x := by
  rcases hx with rfl | rfl
  · refine minds_perform (y := fun r => if r.isSome then .serving else .lost) (fun r => ?_)
      fun r _ => hk r _ ?_
    · cases r <;> rfl
    · cases r with
      | none => exact .inr rfl
      | some m => exact .inl rfl
  · exact minds_perform (y := fun _ => .lost) (fun _ => rfl) fun r _ => hk r _ (.inr rfl)

theorem minds_request_serving {type : MessageType} (htype : type ≠ .commandReady)
    {fields : List (String × Str)} (hx : x.Serves) :
    Minds (request type h fields) (fun _ => Phase.Serves) x :=
  minds_send_serving hx htype fun _ => minds_recv_serving hx fun _ _ hx => hx

/-- The first use that is acquired ends the handshake. -/
theorem minds_acquire {fields : List (String × Str)} (hx : x.Asks ∨ x.Serves) :
    Minds (request .acquireUse h fields) (fun _ => Phase.Serves) x := by
  have hserves : x.Serves → Minds (request .acquireUse h fields) (fun _ => Phase.Serves) x :=
    minds_request_serving (by decide)
  rcases hx with hasks | hserving
  · rcases hasks with rfl | hlost
    · refine minds_perform (y := fun _ => .serving) (fun _ => rfl) fun _ _ => ?_
      exact minds_recv_serving (.inl rfl) fun _ _ hx => hx
    · exact hserves (.inr hlost)
  · exact hserves hserving

theorem minds_execute_serving {input : ComputeInput} {k : ComputeResult → Program A}
    (hx : x.Serves) (hk : ∀ r, Minds (k r) Q x) : Minds (execute input >>= k) Q x := by
  rcases hx with rfl | rfl
  · exact minds_perform (y := fun _ => .serving) (fun _ => rfl) fun r _ => hk r
  · exact minds_perform (y := fun _ => .lost) (fun _ => rfl) fun r _ => hk r

theorem minds_serveRequests (o : Options) (n i : Nat) (hx : x.Asks ∨ x.Serves) :
    Minds (serveRequests o n i h) (fun _ x => x.Asks ∨ x.Serves) x := by
  induction n generalizing i h x with
  | zero => exact hx
  | succ n ih =>
    refine follows_bind ((minds_acquire hx).mono fun h x hx => ?_)
    refine minds_execute_serving hx fun result => ?_
    refine minds_quiet (a := .verifyParity _ _) trivial fun parity => ?_
    refine minds_send_serving hx (by simp [workerMessage]) fun _ => ?_
    refine follows_bind ((minds_request_serving (by decide) hx).mono fun h x hx => ?_)
    exact ih (i + 1) (.inr hx)

end Serving

/-! ## The process -/

section Process

variable {x : Phase} {h : Heard}

theorem minds_awaitCommands (o : Options) (c : Commands) (hx : x.Asks) :
    Minds (awaitCommands o c h) PoisedAfter x := by
  rcases hx with rfl | rfl
  · refine follows_bind ?_
    refine minds_perform (y := fun _ => .waiting (workerMessage .commandReady h.epoch []))
      (fun _ => rfl) fun _ _ => ?_
    refine minds_perform (y := fun r => match r with
      | some reply => Phase.replied (workerMessage .commandReady h.epoch []) reply
      | none => .lost) (fun r => by cases r <;> rfl) fun r _ => ?_
    cases r with
    | none =>
      change Minds (ite _ _ _) PoisedAfter .lost
      split
      · exact nofun
      · refine follows_bind (minds_of_quiet quiet_mark fun _ => ?_)
        exact poisedAfter_lost _
    | some reply =>
      change Minds (ite (reply.type = .error) _ _) PoisedAfter
        (if reply.type = .error then .silent else .listening)
      split
      · exact nofun
      · refine follows_bind (minds_of_quiet quiet_mark fun _ => ?_)
        rintro _ ⟨⟩
        exact .inl rfl
  · exact minds_lost poisedAfter_lost

theorem minds_serveAll (o : Options) (c : Commands) (query : Str) (hx : x.Asks) :
    Minds (serveAll o c query h) PoisedAfter x := by
  unfold serveAll
  refine follows_bind ((minds_serveRequests o _ _ (.inl hx)).mono fun _ x _ => ?_)
  refine follows_bind (minds_of_quiet quiet_mark fun _ => ?_)
  split
  · rintro _ ⟨⟩
    trivial
  · exact minds_quiet (a := .release) trivial fun _ => nofun

theorem minds_runRegistered (o : Options) (hx : x.Asks) :
    Minds (runRegistered o h) PoisedAfter x := by
  unfold runRegistered
  refine minds_quiet (a := .discover _) trivial fun disc => ?_
  refine follows_bind ((minds_publishComponents hx).mono fun h x hx => ?_)
  refine follows_bind ((minds_prepareBackend hx).mono fun h x hx => ?_)
  refine follows_bind ((minds_request (by decide) hx).mono fun h x hx => ?_)
  refine follows_bind ((minds_tryActivate hx).mono fun activated x hx => ?_)
  dsimp only
  split
  · exact minds_awaitCommands o _ hx
  · exact minds_serveAll o _ _ hx

/-- The answer to a request of the handshake that has been sent. -/
theorem minds_answered {A : Type} {Q : A → Phase → Prop} {m : ProtocolMessage}
    {k : Option ProtocolMessage → Program A} (hm : m.type ≠ .commandReady)
    (hnone : Minds (k none) Q .lost) (hsome : ∀ reply, Minds (k (some reply)) Q .speaking) :
    Minds (recv >>= k) Q (.waiting m) := by
  refine minds_perform (y := fun r => if r.isSome then .speaking else .lost) (fun r => ?_)
    fun r _ => ?_
  · cases r with
    | none => rfl
    | some reply => exact congrArg some (if_neg hm)
  · cases r with
    | none => exact hnone
    | some reply => exact hsome reply

theorem minds_start (o : Options) (hx : x.Asks) : Minds (start o) PoisedAfter x := by
  rcases hx with rfl | rfl
  · refine minds_perform (y := fun _ => .waiting (workerMessage .hello 0 [("label", o.label)]))
      (fun _ => rfl) fun sent _ => ?_
    cases sent with
    | false => exact nofun
    | true =>
      refine minds_answered (by simp [workerMessage]) nofun fun m => ?_
      refine minds_perform (y := fun _ => .waiting (workerMessage .register m.epoch
        [("worker_id", decimal o.workerId.toNat), ("worker_boot", decimal o.boot.toNat),
         ("source_id", lit "1"), ("source_boot", decimal o.boot.toNat),
         ("pid", decimal o.pid.toNat), ("label", o.label)])) (fun _ => rfl) fun sent _ => ?_
      cases sent with
      | false => exact nofun
      | true =>
        refine minds_answered (by simp [workerMessage]) nofun fun reply => ?_
        dsimp only
        split
        · exact nofun
        · exact minds_runRegistered o (.inl rfl)
  · exact minds_lost poisedAfter_lost

/-- Every round leaves the conversation where the next one begins. -/
theorem minds_code (o : Options) (l : Loop) (hx : Poised l x) : Minds (code o l) PoisedAfter x := by
  cases l with
  | start => exact minds_start o hx
  | commands c => exact minds_takeCommand o c hx
  | alive =>
    refine minds_quiet (a := .sleep) trivial fun _ => ?_
    rintro _ ⟨⟩
    trivial

end Process

/-! ## Whole runs -/

/-- A worker process with the log of its steps. -/
abbrev Traces (B : ReferenceBackend) := Traced B.State Action Action.Res Loop

/-- The process runs one thread. -/
def mainThread : Nat := 0

/-- A worker that is connected and has done nothing. -/
def connected (B : ReferenceBackend) (o : Options) : Traces B :=
  (worker B o).traced.next (System.tracedInitial B.init) .spawn

/-- A worker after a number of turns. -/
def run (B : ReferenceBackend) (o : Options) (inputs : List Input) : Traces B :=
  (worker B o).traced.exec (connected B o) (inputs.map (.move mainThread))

/-- All that a worker has done. -/
def deeds {B : ReferenceBackend} (st : Traces B) : List Deed := System.stepsOf st mainThread

theorem perform_expected {B : ReferenceBackend} {input : Input} {s s' : B.State} {a : Action}
    {r : a.Res} (h : perform B input s a = some (r, s')) : Expected a r := by
  cases a with
  | execute command =>
    have hr : B.execute command s = (r, s') := Option.some.inj h
    have hline := B.detail_line command s
    rw [hr] at hline
    exact hline
  | _ => trivial

theorem run_minds (B : ReferenceBackend) (o : Options) (inputs : List Input) :
    System.Disciplined manners .speaking Poised (run B o inputs) :=
  System.exec_follows (.spawn :: inputs.map (.move mainThread)) (fun l _ hx => minds_code o l hx)
    (.inl rfl) fun _ _ _ _ _ _ hperform => perform_expected hperform

/-- Lawful steps go through the phases. -/
theorem phases_of_lawful {es : List Deed} (h : manners.Lawful .speaking es) :
    es.foldlM Phase.after .speaking = some (manners.after .speaking es) :=
  h.foldlM (f := id) fun x e hallows _ => by
    obtain ⟨y, hy⟩ := Option.isSome_iff_exists.mp (hallows e.2)
    exact hy.trans (congrArg some (congrArg (fun p => Option.getD p Phase.lost) hy).symm)

/-- Whatever its coordinator sends: until its connection fails, a worker waits for the answer
to each request of its handshake. Once it has heard that its commands are awaited, it sends
nothing but one answer to each command, before it receives the next one: an EXECUTE command
is answered with the identity and the seed of this command, after its computation has been
made, and after the answer to a DRAIN command the worker is silent. -/
theorem commands_answered (B : ReferenceBackend) (o : Options) (inputs : List Input) :
    ((deeds (run B o inputs)).foldlM Phase.after .speaking).isSome := by
  rw [deeds, phases_of_lawful ((run_minds B o inputs).lawful mainThread)]
  rfl

end EngineResidency.Worker
