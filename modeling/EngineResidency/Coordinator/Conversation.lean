-- SUMMARY: How a connection talks to its peer: every request is answered once, and a worker has one command at a time.
import EngineResidency.Base.Discipline
import EngineResidency.Coordinator.Payload
import EngineResidency.Coordinator.Routers
import EngineResidency.Persistence.ReadBack
import EngineResidency.Runtime.References

/-!
# Conversations

The thread of a connection is alone with its peer: nobody else reads from the connection or
writes to it. What the peer sees of the coordinator is what this one thread does, in all of
its rounds: as a session it answers every request before it reads the next one, and
once it has acknowledged COMMAND_READY it sends commands and reads an answer to each, until
its peer is gone.
-/

namespace EngineResidency.Coordinator

open EngineResidency.Runtime Prog

/-! ## Requests and their answers -/

/-- The message asks for a command to be routed to another worker. -/
def routes (m : ProtocolMessage) : Bool :=
  (m.type = .execute || m.type = .drain) && u (parsePayload m.payload) "target_incarnation" 0 ≠ 0

theorem routes_iff {m : ProtocolMessage} : routes m = true ↔
    (m.type = .execute ∨ m.type = .drain) ∧ u (parsePayload m.payload) "target_incarnation" 0 ≠ 0 := by
  simp [routes]

/-- The type of the message that reports the success of a request. -/
def acknowledgement (m : ProtocolMessage) : Option MessageType :=
  match m.type with
  | .publishComponent | .prepare | .queryReadiness => some .prepareResult
  | .drain => some (if routes m then .registerAck else .drainResult)
  | .hello | .register | .activate | .acquireUse | .releaseUse | .execute | .replace
  | .fenceWorker | .save | .executionResult | .commandReady | .queryDrain | .shutdown =>
    some .registerAck
  | _ => none

/-- The answer to a message of another epoch. -/
def staleReply : ProtocolMessage := errorMessage ⟨.staleEpoch, "stale epoch traffic"⟩

/-- The reply carries the identity and the cycle of the command. -/
def correlates (m reply : ProtocolMessage) : Bool :=
  reply.epoch = m.epoch && reply.authority = m.authority &&
    (parsePayload reply.payload).lookup (lit "cmd_id") =
      some (decimal (u (parsePayload m.payload) "cmd_id" 0).toNat)

/-- A message that answers a request: the success of this request or an error; if the request
was to be routed, with the identity of its command, unless it was stale. -/
def isAnswerTo (m reply : ProtocolMessage) : Bool :=
  reply = staleReply ||
    (reply.type = .error || acknowledgement m = some reply.type) && (!routes m || correlates m reply)

/-! ## Phases of a connection -/

/-- Where a connection stands. -/
inductive Phase where
  /-- The next request may come. -/
  | idle
  | asked (m : ProtocolMessage)
  /-- The peer is a worker that takes commands. -/
  | commanding
  | awaiting (cmd : ProtocolMessage)
  /-- The peer is gone. -/
  | closed
  /-- The process has ended. -/
  | ended

/-- A request is answered; the peer that is told that its commands are awaited gets them. -/
def Phase.answered (m reply : ProtocolMessage) : Option Phase :=
  if isAnswerTo m reply then
    some (if m.type = .commandReady ∧ reply.type ≠ .error then .commanding else .idle)
  else none

/-- A worker is sent a command. -/
def Phase.commanded (cmd : ProtocolMessage) (sent : Bool) : Option Phase :=
  if cmd.type = .execute ∨ cmd.type = .drain then some (if sent then .awaiting cmd else .closed)
  else none

/-- The phase after a step, if the step is one that a phase allows. -/
def Phase.after : Phase → Deed → Option Phase
  | .ended, _ => none
  | _, ⟨.abort, _⟩ => some .ended
  | .idle, ⟨.recv, some m⟩ => some (.asked m)
  | .awaiting _, ⟨.recv, some _⟩ => some .commanding
  | .idle, ⟨.recv, none⟩ | .awaiting _, ⟨.recv, none⟩ => some .closed
  | .asked m, ⟨.send reply, _⟩ => Phase.answered m reply
  | .commanding, ⟨.send cmd, sent⟩ => Phase.commanded cmd sent
  | _, ⟨.recv, _⟩ | _, ⟨.send _, _⟩ => none
  | x, _ => some x

/-! ## The discipline of a connection -/

/-- The reply to a command can be written to a connection and read back. -/
def CommandReply.Clean (rep : CommandReply) : Prop := rep.fields.OnLines ∧ newline ∉ rep.detail

def Registry.Clean (g : Registry) : Prop := ∀ t rep, g.replies.lookup t = some rep → rep.Clean

/-- What a call of the runtime replies with. -/
def Call.Shapes : Call → Reply → Prop
  | .issueRegistrationPermit _ _, r => ∃ p, r = .permit p
  | .registerIncarnation _ _, r => ∃ i, r = .incarnation i
  | .publishComponent _, r => ∃ e, r = .evidence e
  | .createPreparationPlan _ _ _, r => ∃ p, r = .plan p
  | .beginPreparation _, r | .stepPreparation _, r | .completePreparation _, r =>
    ∃ a, r = .attempt a
  | .activate _, r => ∃ a, r = .activation a
  | .acquireServingUse _, r => ∃ t, r = .token t
  | .beginReplacement _, r | .commitCutover _, r | .retireOld _, r => ∃ p, r = .replacement p
  | .releaseServingUse _ _ _, _ | .requestDrain _, _ | .acknowledgeBackendCleanup _, _
  | .fenceWorker _ _, _ => True

/-- Where a thread stands: the phase of its connection, and the registry as its last critical
section has left it. -/
structure Standing where
  phase : Phase := .idle
  seen : Registry := {}

/-- What the threads of a connection may do besides talking to their peers: the process ends for a
reason, and the promises that are set are clean. -/
def Mannered (reason : Prop) : Action → Prop
  | .abort => reason
  | .locked _ f => ∀ g, g.Clean → (f g).Clean
  | _ => True

/-- The responses to expect. -/
def Expected (reason : Prop) (seen : Registry) : (a : Action) → a.Res → Prop
  | .call c, r => (∀ reply, r = .ok reply → c.Shapes reply) ∧ ∀ e, r = .error e → e.Proper reason
  | .query (.currentReadinessGeneration _), r => ∀ e, r = .error e → e.Proper reason
  | .query (.evaluateReadiness _ _), r => ∀ e, r = .error e → e.Proper reason
  | .query .serialize, r => ∀ e, r = .error e → e.Proper reason
  | .locked _ _, g => seen.Extends g
  | .await _, r => ∀ rep, r = some rep → rep.Clean
  | _, _ => True

def Standing.after (x : Standing) (e : Deed) : Standing where
  phase := (x.phase.after e).getD .ended
  seen := match e with
    | ⟨.locked _ f, g⟩ => f g
    | _ => x.seen

/-- The discipline of the connections. Nothing happens after the process has ended, and nothing is
asked of a program there. -/
def manners (reason : Prop) : Discipline Action Action.Res Standing where
  allows x a := x.phase = .ended ∨ (∀ r, (x.phase.after ⟨a, r⟩).isSome) ∧ Mannered reason a
  answers x a r := x.phase ≠ .ended ∧ Expected reason x.seen a r
  next := Standing.after

/-- The program follows the discipline. -/
abbrev Minds {A : Type} (reason : Prop) (p : Thread A) (Q : A → Standing → Prop) (x : Standing) :
    Prop :=
  p.Follows (manners reason) Q x

section Rules

variable {A : Type} {reason : Prop} {Q : A → Standing → Prop} {x : Standing}

/-- The actions that leave a connection alone. -/
def Silent : Action → Prop
  | .recv | .send _ | .abort => False
  | _ => True

theorem Phase.after_silent {a : Action} (ha : Silent a) {x : Phase} (hx : x ≠ .ended) (r : a.Res) :
    x.after ⟨a, r⟩ = some x := by
  cases a with
  | recv | send | abort => exact ha.elim
  | _ =>
    cases x with
    | ended => exact absurd rfl hx
    | _ => rfl

/-- Nothing is asked of an action after the process has ended. -/
theorem minds_perform {a : Action} {k : a.Res → Thread A}
    (hallows : x.phase ≠ .ended → (∀ r, (x.phase.after ⟨a, r⟩).isSome) ∧ Mannered reason a)
    (hk : ∀ r, x.phase ≠ .ended → Expected reason x.seen a r →
      Minds reason (k r) Q (x.after ⟨a, r⟩)) :
    Minds reason (Prog.perform a >>= k) Q x :=
  follows_perform (or_iff_not_imp_left.mpr hallows) fun r hr => hk r hr.1 hr.2

theorem minds_silent {a : Action} {k : a.Res → Thread A} (ha : Silent a) (hmannered : Mannered reason a)
    (hk : ∀ r, x.phase ≠ .ended → Expected reason x.seen a r →
      Minds reason (k r) Q (x.after ⟨a, r⟩)) :
    Minds reason (Prog.perform a >>= k) Q x := by
  refine minds_perform (fun hx => ⟨fun r => ?_, hmannered⟩) hk
  rw [Phase.after_silent ha hx]
  rfl

/-- A section of the registry. -/
theorem minds_locked {ready : Registry → Bool} {f : Registry → Registry} {k : Registry → Thread A}
    (hf : ∀ g, g.Clean → (f g).Clean)
    (hk : ∀ g, x.seen.Extends g → Minds reason (k g) Q ⟨x.phase, f g⟩) :
    Minds reason (Prog.perform (Action.locked ready f) >>= k) Q x := by
  refine minds_silent (a := .locked ready f) trivial hf fun g hx hg => ?_
  have hnext : x.after ⟨.locked ready f, g⟩ = ⟨x.phase, f g⟩ :=
    congrArg (fun p => Standing.mk (Option.getD p .ended) (f g))
      (Phase.after_silent (a := .locked ready f) trivial hx g)
  rw [hnext]
  exact hk g hg

/-- The actions that leave a connection and the registry alone. -/
def Reading : Action → Prop
  | .locked _ _ => False
  | a => Silent a

theorem Reading.silent {a : Action} (ha : Reading a) : Silent a := by
  cases a with
  | locked => exact ha.elim
  | _ => exact ha

theorem Standing.after_reading {a : Action} (ha : Reading a) {x : Standing} (hx : x.phase ≠ .ended)
    (r : a.Res) : x.after ⟨a, r⟩ = x := by
  have hafter := Phase.after_silent ha.silent hx r
  cases a with
  | locked | recv | send | abort => exact ha.elim
  | call | query | await =>
    exact congrArg (fun p => Standing.mk (Option.getD p .ended) x.seen) hafter

theorem minds_reading {a : Action} {k : a.Res → Thread A} (ha : Reading a)
    (hk : ∀ r, Expected reason x.seen a r → Minds reason (k r) Q x) :
    Minds reason (Prog.perform a >>= k) Q x := by
  have hmannered : Mannered reason a := by
    cases a with
    | locked | recv | send | abort => exact ha.elim
    | _ => trivial
  refine minds_silent ha.silent hmannered fun r hx hr => ?_
  rw [Standing.after_reading ha hx]
  exact hk r hr

/-- A request is received, or the peer is gone. -/
theorem minds_recv {k : Option ProtocolMessage → Thread A} (hx : x.phase = .idle)
    (hsome : ∀ m, Minds reason (k (some m)) Q ⟨.asked m, x.seen⟩)
    (hnone : Minds reason (k none) Q ⟨.closed, x.seen⟩) : Minds reason (recv >>= k) Q x := by
  obtain ⟨phase, seen⟩ := x
  obtain rfl : phase = .idle := hx
  refine follows_perform (.inr ⟨fun r => ?_, trivial⟩) fun r _ => ?_
  · cases r <;> rfl
  · cases r with
    | none => exact hnone
    | some m => exact hsome m

/-- The answer to a command is received, or the worker is gone. -/
theorem minds_recv_awaiting {k : Option ProtocolMessage → Thread A} {cmd : ProtocolMessage}
    (hx : x.phase = .awaiting cmd)
    (hsome : ∀ m, Minds reason (k (some m)) Q ⟨.commanding, x.seen⟩)
    (hnone : Minds reason (k none) Q ⟨.closed, x.seen⟩) : Minds reason (recv >>= k) Q x := by
  obtain ⟨phase, seen⟩ := x
  obtain rfl : phase = .awaiting cmd := hx
  refine follows_perform (.inr ⟨fun r => ?_, trivial⟩) fun r _ => ?_
  · cases r <;> rfl
  · cases r with
    | none => exact hnone
    | some m => exact hsome m

/-- A request is answered. -/
theorem minds_answer {m reply : ProtocolMessage} {k : Bool → Thread A} (hx : x.phase = .asked m)
    (hreply : isAnswerTo m reply = true)
    (hk : ∀ sent, Minds reason (k sent) Q
      ⟨if m.type = .commandReady ∧ reply.type ≠ .error then .commanding else .idle, x.seen⟩) :
    Minds reason (send reply >>= k) Q x := by
  obtain ⟨phase, seen⟩ := x
  obtain rfl : phase = .asked m := hx
  have hafter : Phase.answered m reply =
      some (if m.type = .commandReady ∧ reply.type ≠ .error then .commanding else .idle) :=
    if_pos hreply
  refine follows_perform (.inr ⟨fun r => ?_, trivial⟩) fun r _ => ?_
  · exact (congrArg Option.isSome hafter).trans rfl
  · have hnext : Standing.after ⟨.asked m, seen⟩ ⟨.send reply, r⟩ =
        ⟨if m.type = .commandReady ∧ reply.type ≠ .error then .commanding else .idle, seen⟩ :=
      congrArg (fun p => Standing.mk (Option.getD p .ended) seen) hafter
    change Minds reason (k r) Q (Standing.after ⟨.asked m, seen⟩ ⟨.send reply, r⟩)
    rw [hnext]
    exact hk r

/-- A command is sent. -/
theorem minds_command {cmd : ProtocolMessage} {k : Bool → Thread A} (hx : x.phase = .commanding)
    (hcmd : cmd.type = .execute ∨ cmd.type = .drain)
    (hsent : Minds reason (k true) Q ⟨.awaiting cmd, x.seen⟩)
    (hlost : Minds reason (k false) Q ⟨.closed, x.seen⟩) : Minds reason (send cmd >>= k) Q x := by
  obtain ⟨phase, seen⟩ := x
  obtain rfl : phase = .commanding := hx
  have hafter : ∀ sent, Phase.commanded cmd sent = some (if sent then .awaiting cmd else .closed) :=
    fun sent => if_pos hcmd
  refine follows_perform (.inr ⟨fun r => ?_, trivial⟩) fun r _ => ?_
  · exact (congrArg Option.isSome (hafter r)).trans rfl
  · have hnext : Standing.after ⟨.commanding, seen⟩ ⟨.send cmd, r⟩ =
        Standing.mk ((some (cond r (.awaiting cmd) .closed)).getD .ended) seen := by
      cases r <;> exact congrArg (fun p => Standing.mk (Option.getD p .ended) seen) (hafter _)
    change Minds reason (k r) Q (Standing.after ⟨.commanding, seen⟩ ⟨.send cmd, r⟩)
    rw [hnext]
    cases r with
    | true => exact hsent
    | false => exact hlost

/-- After the end of the process a program may be what it wants. -/
theorem minds_ended {p : Thread A} (hx : x.phase = .ended) (hQ : ∀ a x, x.phase = .ended → Q a x) :
    Minds reason p Q x := by
  cases p with
  | done a => exact hQ a x hx
  | act a k => exact ⟨.inl hx, fun r hr => absurd hx hr.1⟩

/-- The process ends for a reason. -/
theorem minds_abort {k : Unit → Thread A} (hreason : reason)
    (hQ : ∀ a x, x.phase = .ended → Q a x) : Minds reason (abort >>= k) Q x := by
  have hafter : ∀ phase : Phase, phase ≠ .ended → phase.after ⟨.abort, ()⟩ = some .ended := by
    intro phase hphase
    cases phase with
    | ended => exact absurd rfl hphase
    | _ => rfl
  refine minds_perform (fun hx => ⟨fun r => ?_, hreason⟩) fun r hx _ => minds_ended ?_ hQ
  · exact (congrArg Option.isSome (hafter _ hx)).trans rfl
  · exact congrArg (Option.getD · .ended) (hafter _ hx)

end Rules

/-! ## Answers -/

theorem isAnswerTo_success {m reply : ProtocolMessage} (hroutes : routes m = false)
    (hreply : acknowledgement m = some reply.type) : isAnswerTo m reply = true := by
  simp [isAnswerTo, hroutes, hreply]

theorem isAnswerTo_error {m reply : ProtocolMessage} (hroutes : routes m = false)
    (hreply : reply.type = .error) : isAnswerTo m reply = true := by
  simp [isAnswerTo, hroutes, hreply]

/-- The session answers the message itself, and its success with `ack`. -/
structure Direct (m : ProtocolMessage) (ack : MessageType) : Prop where
  unrouted : routes m = false
  stays : m.type ≠ .commandReady
  ack : acknowledgement m = some ack

/-- The next request may come, or nothing comes any more. -/
def Rested (x : Standing) : Prop := x.phase = .idle ∨ x.phase = .ended

/-- The body of a handler: what it throws, it throws before it has answered. -/
def Responds {A : Type} (reason : Prop) (m : ProtocolMessage) (Q : A → Standing → Prop) (body : Body A)
    (x : Standing) : Prop :=
  Minds reason body.run (fun r x => match r with
    | .ok a => Q a x
    | .error e => x.phase = .asked m ∧ e.Proper reason) x

section Responds

variable {A B : Type} {reason : Prop} {m : ProtocolMessage} {Q : A → Standing → Prop} {x : Standing}

theorem Responds.mono {Q' : A → Standing → Prop} {body : Body A} (h : Responds reason m Q body x)
    (hQ : ∀ a x, Q a x → Q' a x) : Responds reason m Q' body x := by
  refine Follows.mono h fun r x hr => ?_
  cases r with
  | ok a => exact hQ a x hr
  | error e => exact hr

theorem responds_andThen {p : Body B} {k : B → Body A}
    (hp : Responds reason m (fun b x => Responds reason m Q (k b) x) p x) :
    Responds reason m Q (p >>= k) x := by
  refine follows_bind (Follows.mono hp fun r x hr => ?_)
  cases r with
  | ok b => exact hr
  | error e => exact hr

theorem responds_lift {p : Thread B} {k : B → Body A}
    (hp : Minds reason p (fun b x => Responds reason m Q (k b) x) x) :
    Responds reason m Q (monadLift p >>= k) x := by
  refine responds_andThen (follows_bind (hp.mono fun b x hb => ?_))
  exact hb

theorem responds_query {q : Query} {k : q.Res → Body A} (hk : ∀ r, Responds reason m Q (k r) x) :
    Responds reason m Q (monadLift (Prog.perform (Action.query q) : Thread q.Res) >>= k) x :=
  responds_lift (minds_reading (k := pure) trivial fun r _ => hk r)

theorem responds_locked {ready : Registry → Bool} {f : Registry → Registry} {k : Registry → Body A}
    (hf : ∀ g, g.Clean → (f g).Clean) (hk : ∀ g, Responds reason m Q (k g) ⟨x.phase, f g⟩) :
    Responds reason m Q
      (monadLift (Prog.perform (Action.locked ready f) : Thread Registry) >>= k) x :=
  responds_lift (minds_locked (k := pure) hf fun g _ => hk g)

theorem responds_call (hx : x.phase = .asked m) {c : Call} {k : Reply → Body A}
    (hk : ∀ r, c.Shapes r → Responds reason m Q (k r) x) : Responds reason m Q (call c >>= k) x := by
  refine responds_andThen (minds_reading (k := pure) trivial fun r hr => ?_)
  cases r with
  | ok reply => exact hk reply (hr.1 reply rfl)
  | error e => exact ⟨hx, hr.2 e rfl⟩

/-! Queries that throw. -/

theorem responds_evaluateReadiness (hx : x.phase = .asked m) {id : EngineIncarnationId}
    {profile : ReadinessProfileId} {k : ReadinessResult → Body A}
    (hk : ∀ r, Responds reason m Q (k r) x) :
    Responds reason m Q (evaluateReadiness id profile >>= k) x := by
  refine responds_andThen (minds_reading (k := pure) trivial fun r hr => ?_)
  cases r with
  | ok r => exact hk r
  | error e => exact ⟨hx, hr e rfl⟩

theorem responds_currentReadinessGeneration (hx : x.phase = .asked m) {id : EngineIncarnationId}
    {k : ReadinessGeneration → Body A} (hk : ∀ r, Responds reason m Q (k r) x) :
    Responds reason m Q (currentReadinessGeneration id >>= k) x := by
  refine responds_andThen (minds_reading (k := pure) trivial fun r hr => ?_)
  cases r with
  | ok r => exact hk r
  | error e => exact ⟨hx, hr e rfl⟩

theorem responds_serialize (hx : x.phase = .asked m) {k : Str → Body A}
    (hk : ∀ blob, Responds reason m Q (k blob) x) : Responds reason m Q (serialize >>= k) x := by
  refine responds_andThen (minds_reading (k := pure) trivial fun r hr => ?_)
  cases r with
  | ok blob => exact hk blob
  | error e => exact ⟨hx, hr e rfl⟩

theorem responds_reject (hx : x.phase = .asked m) {code : ErrorCode} {msg : String}
    {k : Unit → Body A} (hmsg : 10 ∉ lit msg) : Responds reason m Q (reject code msg >>= k) x :=
  responds_andThen (B := Unit) ⟨hx, hmsg⟩

theorem responds_requireOpen (hx : x.phase = .asked m) {target : EngineIncarnationId}
    {k : Unit → Body A} (hk : Responds reason m Q (k ()) x) :
    Responds reason m Q (requireOpen target >>= k) x := by
  refine responds_andThen (responds_query fun fenced => ?_)
  split
  · exact responds_reject hx (by decide)
  · refine responds_query fun st => ?_
    split
    · exact ⟨hx, proper_domainError (by decide)⟩
    · exact hk

/-- The success of a request ends its handler. -/
theorem responds_success {ack : MessageType} (hm : Direct m ack) (hx : x.phase = .asked m) {a : A}
    {fields : List (String × Str)} :
    Responds reason m (fun _ => Rested) (monadLift (send (message ack fields)) >>= fun _ => pure a)
      x := by
  have hanswer : isAnswerTo m (message ack fields) = true := isAnswerTo_success hm.unrouted hm.ack
  refine responds_lift (minds_answer (k := pure) hx hanswer fun sent => ?_)
  rw [if_neg fun h => hm.stays h.1]
  exact .inl rfl

/-- A handler's `try` block. -/
theorem minds_attempt {ack : MessageType} (hm : Direct m ack) {fallback : A} {body : Body A}
    (h : Responds reason m (fun _ => Rested) body x) :
    Minds reason (attempt fallback body) (fun _ => Rested) x := by
  refine follows_bind (Follows.mono h fun r x hr => ?_)
  cases r with
  | ok a => exact hr
  | error e =>
    cases e with
    | domain e =>
      refine minds_answer hr.1 (isAnswerTo_error hm.unrouted rfl) fun sent => ?_
      rw [if_neg fun h => hm.stays h.1]
      exact .inl rfl
    | outOfRange => exact minds_abort hr.2 fun _ _ => .inr

end Responds

/-! ## Handlers -/

/-- The section leaves the promises alone. -/
theorem Neutral.clean {f : Registry → Registry} (hf : Neutral f) (g : Registry) (hg : g.Clean) :
    (f g).Clean := by
  intro t rep hrep
  rw [hf.replies] at hrep
  exact hg t rep hrep

section Handlers

variable {reason : Prop} {m : ProtocolMessage} {x : Standing}

/-- A message that is sent outside of a `try` block. -/
theorem minds_success {ack : MessageType} (hm : Direct m ack) (hx : x.phase = .asked m)
    {reply : ProtocolMessage} (hreply : reply.type = ack) :
    Minds reason (send reply >>= fun _ => pure ()) (fun _ => Rested) x := by
  refine minds_answer hx (isAnswerTo_success hm.unrouted (hreply ▸ hm.ack)) fun sent => ?_
  rw [if_neg fun h => hm.stays h.1]
  exact .inl rfl

theorem minds_handleHello (hm : Direct m .registerAck) (hx : x.phase = .asked m) :
    Minds reason (handleHello m) (fun _ => Rested) x :=
  minds_reading trivial fun _ _ => minds_reading trivial fun _ _ => minds_success hm hx rfl

theorem minds_handleRegister (hm : Direct m .registerAck) (hx : x.phase = .asked m)
    (l : SessionLocal) (f : Fields) :
    Minds reason (handleRegister l f) (fun _ => Rested) x := by
  refine minds_attempt hm (responds_call hx fun _ ⟨permit, hpermit⟩ => ?_)
  subst hpermit
  refine responds_call hx fun _ ⟨registered, hregistered⟩ => ?_
  subst hregistered
  refine responds_locked (fun g hg => hg) fun g => ?_
  refine responds_query fun epoch => responds_query fun authority => ?_
  refine responds_success hm ?_
  exact hx

theorem minds_handlePublishComponent (hm : Direct m .prepareResult) (hx : x.phase = .asked m)
    (l : SessionLocal) (f : Fields) :
    Minds reason (handlePublishComponent l f) (fun _ => Rested) x := by
  refine minds_attempt hm (responds_locked (neutral_touchSession _).clean fun g => ?_)
  have hg : (⟨x.phase, touchSession l.sid g⟩ : Standing).phase = .asked m := hx
  refine responds_requireOpen hg (responds_query fun epoch => ?_)
  refine responds_call hg fun _ ⟨pub, hpub⟩ => ?_
  subst hpub
  exact responds_success hm hg

theorem responds_stepAttempt (hx : x.phase = .asked m) (n : Nat) (a : PreparationAttempt) :
    Responds reason m (fun _ x' => x' = x) (stepAttempt n a) x := by
  induction n generalizing a with
  | zero => exact rfl
  | succ n ih =>
    refine responds_call hx fun _ ⟨stepped, hstepped⟩ => ?_
    subst hstepped
    exact ih stepped

theorem minds_handlePrepare (hm : Direct m .prepareResult) (hx : x.phase = .asked m)
    (l : SessionLocal) : Minds reason (handlePrepare l) (fun _ => Rested) x := by
  refine minds_attempt hm (responds_call hx fun _ ⟨plan, hplan⟩ => ?_)
  subst hplan
  refine responds_call hx fun _ ⟨a, ha⟩ => ?_
  subst ha
  refine responds_andThen ((responds_stepAttempt hx _ _).mono fun a x' hsame => ?_)
  subst hsame
  refine responds_call hx fun _ ⟨completed, hcompleted⟩ => ?_
  subst hcompleted
  exact responds_success hm hx

theorem minds_handleQueryReadiness (hm : Direct m .prepareResult) (hx : x.phase = .asked m)
    (l : SessionLocal) (f : Fields) :
    Minds reason (handleQueryReadiness l f) (fun _ => Rested) x := by
  refine minds_attempt hm (responds_requireOpen hx ?_)
  exact responds_evaluateReadiness hx fun rr => responds_success hm hx

theorem minds_handleActivate (hm : Direct m .registerAck) (hx : x.phase = .asked m)
    (l : SessionLocal) (f : Fields) : Minds reason (handleActivate l f) (fun _ => Rested) x := by
  refine minds_attempt hm (responds_requireOpen hx ?_)
  dsimp only
  split
  · refine responds_query fun authority => responds_call hx fun _ ⟨rec, hrec⟩ => ?_
    subst hrec
    exact responds_success hm hx
  · refine responds_currentReadinessGeneration hx fun gen => ?_
    refine responds_query fun authority => responds_call hx fun _ ⟨rec, hrec⟩ => ?_
    subst hrec
    exact responds_success hm hx

theorem minds_handleAcquireUse (hm : Direct m .registerAck) (hx : x.phase = .asked m)
    (l : SessionLocal) (f : Fields) : Minds reason (handleAcquireUse l f) (fun _ => Rested) x := by
  refine minds_attempt hm (responds_requireOpen hx (responds_call hx fun _ ⟨use, huse⟩ => ?_))
  subst huse
  exact responds_success hm hx

theorem minds_handleReleaseUse (hm : Direct m .registerAck) (hx : x.phase = .asked m)
    (l : SessionLocal) (f : Fields) : Minds reason (handleReleaseUse l f) (fun _ => Rested) x :=
  minds_attempt hm (responds_requireOpen hx (responds_call hx fun _ _ => responds_success hm hx))

theorem minds_handleReplace (hm : Direct m .registerAck) (hx : x.phase = .asked m) (f : Fields) :
    Minds reason (handleReplace f) (fun _ => Rested) x := by
  refine minds_attempt hm ?_
  dsimp only
  split
  · refine responds_query fun epoch => responds_query fun authority => ?_
    refine responds_call hx fun _ ⟨plan, hplan⟩ => ?_
    subst hplan
    exact responds_success hm hx
  · split
    · refine responds_call hx fun _ ⟨plan, hplan⟩ => ?_
      subst hplan
      exact responds_success hm hx
    · split
      · refine responds_call hx fun _ ⟨plan, hplan⟩ => ?_
        subst hplan
        exact responds_success hm hx
      · exact ⟨hx, proper_domainError (by decide)⟩

theorem minds_handleFenceWorker (hm : Direct m .registerAck) (hx : x.phase = .asked m) (f : Fields) :
    Minds reason (handleFenceWorker f) (fun _ => Rested) x :=
  minds_attempt hm (responds_call hx fun _ _ => responds_success hm hx)

theorem minds_handleSave (hm : Direct m .registerAck) (hx : x.phase = .asked m) :
    Minds reason handleSave (fun _ => Rested) x :=
  minds_attempt hm (responds_serialize hx fun _ => responds_success hm hx)

theorem minds_handleExecutionResult (hm : Direct m .registerAck) (hx : x.phase = .asked m)
    (l : SessionLocal) (f : Fields) :
    Minds reason (handleExecutionResult l f) (fun _ => Rested) x :=
  minds_attempt hm (responds_requireOpen hx (responds_success hm hx))

theorem minds_handleQueryDrain (hm : Direct m .registerAck) (hx : x.phase = .asked m)
    (l : SessionLocal) (f : Fields) : Minds reason (handleQueryDrain l f) (fun _ => Rested) x :=
  minds_reading trivial fun _ _ => minds_reading trivial fun _ _ => minds_success hm hx rfl

end Handlers

/-! ## Routed requests -/

theorem CommandReply.clean_failedReply {why : String} (h : 10 ∉ lit why) : (failedReply why).Clean := by
  refine ⟨onLines_fieldsOf fun kv hkv => ?_, h⟩
  rw [List.mem_singleton.mp hkv]
  have hkey : OnLine (lit "msg") [] := by decide
  exact ⟨hkey.1, hkey.2.1, h⟩

theorem CommandReply.clean_textReply {detail : Str} (h : 10 ∉ detail) : (textReply detail).Clean := by
  refine ⟨onLines_fieldsOf fun kv hkv => ?_, h⟩
  rw [List.mem_singleton.mp hkv]
  have hkey : OnLine (lit "msg") [] := by decide
  exact ⟨hkey.1, hkey.2.1, h⟩

namespace Registry

variable {g g' g'' : Registry}

theorem Clean.fulfil (hg : g.Clean) (t : Nat) {rep : CommandReply} (hrep : rep.Clean) :
    (g.fulfil t rep).Clean := by
  unfold Registry.fulfil
  split
  · exact hg
  · intro t' rep' hset
    rw [AList.lookup_insert'] at hset
    split at hset
    · cases hset
      exact hrep
    · exact hg t' rep' hset

theorem Clean.enqueueCommand (hg : g.Clean) (rid : Nat) (cmd : WorkerCommand) :
    (enqueueCommand rid cmd g).Clean := by
  unfold Coordinator.enqueueCommand
  dsimp only
  split
  · exact hg
  · exact Clean.fulfil (g := { g with nextTicket := g.nextTicket + 1 }) hg _
      (CommandReply.clean_failedReply (by decide))

theorem Extends.trans (h : g.Extends g') (h' : g'.Extends g'') : g.Extends g'' := by
  intro rid r hr
  obtain ⟨r', hr', hkept⟩ := h rid r hr
  obtain ⟨r'', hr'', hkept'⟩ := h' rid r' hr'
  exact ⟨r'', hr'', hkept'.incarnation.trans hkept.incarnation,
    fun hdead => hkept'.dead (hkept.dead hdead), fun hspent => hkept'.spent (hkept.spent hspent)⟩

end Registry

theorem lookup_replyFields_cmdId (rep : CommandReply) (cmdId : UInt64) :
    (replyFields rep cmdId).lookup (lit "cmd_id") = some (decimal cmdId.toNat) := by
  have hmsg : lit "cmd_id" ≠ lit "msg" := by decide
  have hdetail : lit "cmd_id" ≠ lit "detail" := by decide
  unfold replyFields
  dsimp only
  split <;> split <;> simp [hmsg, hdetail]

/-- The reply to a controller answers the message that its command was made of. -/
theorem isAnswerTo_routed {m : ProtocolMessage} (hroutes : routes m = true) {rep : CommandReply}
    (hrep : rep.Clean) :
    isAnswerTo m { type := if rep.ok then .registerAck else .error
                   epoch := m.epoch
                   authority := m.authority
                   payload := makePayload (replyFields rep (u (parsePayload m.payload) "cmd_id" 0)) } =
      true := by
  have hack : acknowledgement m = some .registerAck := by
    rcases (routes_iff.mp hroutes).1 with htype | htype
    · simp [acknowledgement, htype]
    · simp [acknowledgement, htype, hroutes]
  have hid := (onLines_replyFields hrep.1 hrep.2 (u (parsePayload m.payload) "cmd_id" 0)).sameFields
    (lit "cmd_id")
  rw [lookup_replyFields_cmdId] at hid
  cases hok : rep.ok <;> simp [isAnswerTo, correlates, hack, hid]

section Routing

variable {A B : Type} {reason : Prop} {m : ProtocolMessage} {Q : A → Standing → Prop} {x : Standing}

theorem minds_replyToController (hx : x.phase = .asked m) (hroutes : routes m = true)
    {rep : CommandReply} (hrep : rep.Clean) :
    Minds reason (replyToController rep (u (parsePayload m.payload) "cmd_id" 0) m.epoch m.authority)
      (fun _ => Rested) x := by
  refine minds_answer hx (isAnswerTo_routed hroutes hrep) fun sent => ?_
  have hready : m.type ≠ .commandReady := by
    rcases (routes_iff.mp hroutes).1 with htype | htype <;> simp [htype]
  rw [if_neg fun h => hready h.1]
  exact .inl rfl

theorem minds_findRouter {target : EngineIncarnationId} {targetBoot : UInt64}
    {k : Except String Nat → Thread A}
    (herror : ∀ why g, 10 ∉ lit why → Minds reason (k (.error why)) Q ⟨x.phase, g⟩)
    (hok : ∀ rid g, Minds reason (k (.ok rid)) Q ⟨x.phase, g⟩) :
    Minds reason (findRouter target targetBoot >>= k) Q x := by
  refine follows_bind (minds_locked (fun g hg => hg) fun g _ => ?_)
  split
  · exact herror _ g (by decide)
  · split
    · exact herror _ g (by decide)
    · refine minds_locked (fun g hg => hg) fun g' _ => ?_
      split
      · exact hok _ g'
      · exact herror _ g' (by decide)

theorem minds_awaitReply (hx : x.phase = .asked m) (hroutes : routes m = true) {rid : Nat}
    {type : MessageType} {timeout : String} (htimeout : 10 ∉ lit timeout) :
    Minds reason (awaitReply rid (routedCommand type m (parsePayload m.payload)) timeout)
      (fun _ => Rested) x := by
  refine follows_bind (minds_locked (fun g hg => hg.enqueueCommand _ _) fun g _ => ?_)
  refine minds_reading trivial fun r hr => ?_
  cases r with
  | none => exact minds_replyToController hx hroutes ⟨(fun _ _ hfound => by cases hfound), htimeout⟩
  | some rep => exact minds_replyToController hx hroutes (hr rep rfl)

/-- A `try` block inside of a handler. -/
theorem minds_caught {body : Body B} {fallback : B} {k : B × Option Str → Thread A}
    (hbody : Minds reason body.run (fun r x' => x' = x ∧ ∀ e, r = .error e → e.Proper reason) x)
    (hended : ∀ a x, x.phase = .ended → Q a x) (hok : ∀ b, Minds reason (k (b, none)) Q x)
    (herror : ∀ err, 10 ∉ err → Minds reason (k (fallback, some err)) Q x) :
    Minds reason (caught body fallback >>= k) Q x := by
  refine follows_bind (follows_bind (hbody.mono fun r x' hr => ?_))
  obtain ⟨hsame, hr⟩ := hr
  subst hsame
  cases r with
  | ok b => exact hok b
  | error e =>
    cases e with
    | domain e => exact herror _ (hr _ rfl)
    | outOfRange => exact minds_abort (hr _ rfl) fun _ _ hx => minds_ended hx hended

theorem minds_requestRoutedDrain (target : EngineIncarnationId) :
    Minds reason (requestRoutedDrain target).run
      (fun r x' => x' = x ∧ ∀ e, r = .error e → e.Proper reason) x := by
  refine minds_reading (k := fun fenced => _) trivial fun fenced _ => ?_
  cases fenced with
  | true => exact ⟨rfl, fun e he => by cases he; exact proper_domainError (by decide)⟩
  | false =>
    refine minds_reading (k := fun r => _) trivial fun r hr => ?_
    cases r with
    | ok reply => exact ⟨rfl, fun e he => by cases he⟩
    | error e => exact ⟨rfl, fun e' he => by cases he; exact hr.2 e rfl⟩

theorem minds_routeDrain (hx : x.phase = .asked m) (hroutes : routes m = true)
    (target : EngineIncarnationId) (targetBoot : UInt64) :
    Minds reason (routeDrain m (parsePayload m.payload) target targetBoot) (fun _ => Rested) x := by
  refine minds_findRouter (fun why g hwhy => ?_) fun rid g => ?_
  · exact minds_replyToController hx hroutes (CommandReply.clean_failedReply hwhy)
  · have hg : (⟨x.phase, g⟩ : Standing).phase = .asked m := hx
    refine minds_caught (minds_requestRoutedDrain target) (fun _ _ => .inr) (fun _ => ?_)
      fun err herr => ?_
    · refine minds_awaitReply hg hroutes ?_
      decide
    · exact minds_replyToController hx hroutes (CommandReply.clean_textReply herr)

theorem minds_handleDrain (hx : x.phase = .asked m) (htype : m.type = .drain) (l : SessionLocal) :
    Minds reason (handleDrain l m (parsePayload m.payload)) (fun _ => Rested) x := by
  unfold handleDrain
  split
  · rename_i htarget
    exact minds_routeDrain hx (routes_iff.mpr ⟨.inr htype, htarget⟩) _ _
  · rename_i htarget
    have hroutes : routes m = false :=
      Bool.eq_false_iff.mpr fun h => htarget (routes_iff.mp h).2
    have hm : Direct m .drainResult :=
      ⟨hroutes, by simp [htype], by simp [acknowledgement, htype, hroutes]⟩
    exact minds_attempt hm (responds_call hx fun _ _ => responds_success hm hx)

theorem minds_handleExecute (hx : x.phase = .asked m) (htype : m.type = .execute) :
    Minds reason (handleExecute m (parsePayload m.payload)) (fun _ => Rested) x := by
  unfold handleExecute
  split
  · rename_i htarget
    have hroutes := routes_iff.mpr ⟨.inl htype, htarget⟩
    refine minds_findRouter (fun why g hwhy => ?_) fun rid g => ?_
    · exact minds_replyToController hx hroutes (CommandReply.clean_failedReply hwhy)
    · have hg : (⟨x.phase, g⟩ : Standing).phase = .asked m := hx
      refine minds_awaitReply hg hroutes ?_
      decide
  · rename_i htarget
    have hroutes : routes m = false :=
      Bool.eq_false_iff.mpr fun h => htarget (routes_iff.mp h).2
    refine minds_answer hx (isAnswerTo_error hroutes rfl) fun sent => ?_
    rw [if_neg fun h => by simp [htype] at h]
    exact .inl rfl

end Routing

/-! ## Dispatchers -/

/-- The router is there. -/
def Registry.Has (g : Registry) (rid : Nat) : Prop := ∃ r, g.routers.lookup rid = some r

theorem Registry.Extends.has {g g' : Registry} (h : g.Extends g') {rid : Nat} (hhas : g.Has rid) :
    g'.Has rid := by
  obtain ⟨r, hr⟩ := hhas
  obtain ⟨r', hr', -⟩ := h rid r hr
  exact ⟨r', hr'⟩

/-- A dispatcher may send the next command, or its worker is gone and its router is dead. -/
def Steered (rid : Nat) (x : Standing) : Prop :=
  x.seen.Has rid ∧ (x.phase = .commanding ∨ x.phase = .closed ∧ x.seen.Dead rid)

/-- The connection is where it was, and the registry has been seen to grow. -/
def Standing.Keeps (x x' : Standing) : Prop := x'.phase = x.phase ∧ x.seen.Extends x'.seen

theorem Standing.Keeps.trans {x x' x'' : Standing} (h : x.Keeps x') (h' : x'.Keeps x'') :
    x.Keeps x'' :=
  ⟨h'.1.trans h.1, h.2.trans h'.2⟩

section Dispatch

variable {A : Type} {reason : Prop} {Q : A → Standing → Prop} {x : Standing} {rid : Nat}

/-- A section that keeps the routers. -/
theorem minds_steady {ready : Registry → Bool} {f : Registry → Registry} {k : Registry → Thread A}
    (hf : ∀ g, g.Clean → (f g).Clean) (hsteady : ∀ g, x.seen.Extends g → g.Steady (f g))
    (hk : ∀ g, x.seen.Extends g → x.Keeps ⟨x.phase, f g⟩ → Minds reason (k g) Q ⟨x.phase, f g⟩) :
    Minds reason (Prog.perform (Action.locked ready f) >>= k) Q x :=
  minds_locked hf fun g hg => hk g hg ⟨rfl, hg.trans (hsteady g hg).extends⟩

theorem minds_fulfil {t : Nat} {rep : CommandReply} (hrep : rep.Clean) :
    Minds reason (fulfil t rep) (fun _ x' => x.Keeps x') x :=
  minds_steady (fun _ hg => hg.fulfil t hrep) (fun _ _ => Registry.steady_fulfil t rep)
    fun _ _ hkeeps => hkeeps

theorem minds_fulfilAll {rep : CommandReply} (hrep : rep.Clean) (cmds : List WorkerCommand) :
    Minds reason (fulfilAll rep cmds) (fun _ x' => x.Keeps x') x := by
  induction cmds generalizing x with
  | nil => exact ⟨rfl, .refl _⟩
  | cons cmd cmds ih =>
    exact follows_bind ((minds_fulfil hrep).mono fun _ x' hx' =>
      ih.mono fun _ x'' hx'' => hx'.trans hx'')

theorem Registry.dead_killRouter {g : Registry} (h : g.Has rid) : (killRouter rid g).Dead rid := by
  obtain ⟨r, hr⟩ := h
  refine ⟨{ r with alive := false }, ?_, rfl⟩
  simp [killRouter, Registry.modifyRouter, hr]

/-- The router is dead after it has failed. -/
theorem minds_fail (hhas : x.seen.Has rid) {why : String}
    (hwhy : 10 ∉ lit ("worker failed: " ++ why)) :
    Minds reason (fail rid why) (fun _ x' => x.Keeps x' ∧ x'.seen.Dead rid) x := by
  refine minds_steady (fun g hg => hg) (fun g _ => ?_) fun g hg hkilled => ?_
  · exact Registry.steady_modifyRouter fun r _ => ⟨rfl, fun _ => rfl, fun _ => by simp [adoptable]⟩
  have hdead : (killRouter rid g).Dead rid := Registry.dead_killRouter (hg.has hhas)
  refine minds_steady (fun g hg => hg) (fun g _ => ?_) fun g' hg' hswapped => ?_
  · exact Registry.steady_modifyRouter fun r _ => ⟨rfl, id, id⟩
  refine follows_bind ((minds_fulfilAll (CommandReply.clean_failedReply hwhy) _).mono
    fun _ x' hx' => ?_)
  have hdead' : x'.seen.Dead rid := (hswapped.trans hx').2.dead hdead
  refine minds_steady (fun g hg => hg) (fun g hg => ?_) fun g hg hclosed => ?_
  · exact Registry.steady_close (hg.dead hdead')
  · exact ⟨hkilled.trans (hswapped.trans (hx'.trans hclosed)), hclosed.2.dead hdead'⟩

theorem minds_checkCycle {epoch authority : UInt32} :
    Minds reason (checkCycle epoch authority)
      (fun r x' => x' = x ∧ ∀ err, r = some err → 10 ∉ err) x := by
  have hnone : ∀ err, (none : Option Str) = some err → 10 ∉ err := nofun
  have hstale : ∀ (text : String) (n : Nat), 10 ∉ lit text →
      ∀ err, some (lit text ++ decimal n) = some err → 10 ∉ err := by
    intro text n htext err herr hmem
    cases herr
    exact (List.mem_append.mp hmem).elim htext (newline_not_mem_decimal n)
  have hepoch : 10 ∉ lit "stale epoch: " := by decide
  have hauthority : 10 ∉ lit "stale authority: " := by decide
  unfold checkCycle
  dsimp only
  repeat' first
    | exact ⟨rfl, hnone⟩
    | exact ⟨rfl, hstale _ _ hepoch⟩
    | exact ⟨rfl, hstale _ _ hauthority⟩
    | refine minds_reading (a := .query .currentEpoch) trivial fun _ _ => ?_
    | refine minds_reading (a := .query .currentAuthority) trivial fun _ _ => ?_
    | split

theorem minds_acquireUseFor {r : WorkerRouter} {params : Fields}
    {k : ServingUseId × Option Str → Thread A} (hended : ∀ a x, x.phase = .ended → Q a x)
    (hok : ∀ useId, Minds reason (k (useId, none)) Q x)
    (herror : ∀ useId err, 10 ∉ err → Minds reason (k (useId, some err)) Q x) :
    Minds reason (acquireUseFor r params >>= k) Q x := by
  refine minds_caught (minds_reading (k := fun r => _) trivial fun r hr => ?_) hended hok
    fun err herr => herror _ err herr
  cases r with
  | ok reply =>
    obtain ⟨token, rfl⟩ := hr.1 reply rfl
    exact ⟨rfl, fun e he => by cases he⟩
  | error e => exact ⟨rfl, fun e' he => by cases he; exact hr.2 e rfl⟩

theorem minds_releaseUseFor {r : WorkerRouter} {useId : ServingUseId} {outcome : WorkOutcome}
    {detail : String} {k : Unit → Thread A} (hk : Minds reason (k ()) Q x) :
    Minds reason (releaseUseFor r useId outcome detail >>= k) Q x :=
  follows_bind (minds_reading (k := fun _ => _) trivial fun _ _ => hk)

/-- After a command: the process has ended, or the dispatcher goes on. -/
def Carried (rid : Nat) (x : Standing) : Prop := x.phase = .ended ∨ Steered rid x

/-- The answer to a command whose worker is still there. -/
theorem minds_answered {seen : Registry} (hhas : seen.Has rid) {t : Nat} {rep : CommandReply}
    (hrep : rep.Clean) : Minds reason (fulfil t rep) (fun _ => Carried rid) ⟨.commanding, seen⟩ :=
  (minds_fulfil hrep).mono fun _ _ hkeeps => .inr ⟨hkeeps.2.has hhas, .inl hkeeps.1⟩

/-- The answer to a command whose worker is gone. -/
theorem minds_failed {seen : Registry} (hhas : seen.Has rid) {why : String} {t : Nat}
    {rep : CommandReply} (hwhy : 10 ∉ lit ("worker failed: " ++ why)) (hrep : rep.Clean) :
    Minds reason (fail rid why >>= fun _ => fulfil t rep) (fun _ => Carried rid) ⟨.closed, seen⟩ := by
  refine follows_bind ((minds_fail hhas hwhy).mono fun _ x ⟨hfailed, hdead⟩ => ?_)
  refine (minds_fulfil hrep).mono fun _ x' hkeeps => .inr ⟨(hfailed.trans hkeeps).2.has hhas, ?_⟩
  exact .inr ⟨(hfailed.trans hkeeps).1, hkeeps.2.dead hdead⟩

theorem minds_processExecute {seen : Registry} (hhas : seen.Has rid) (r : WorkerRouter)
    {cmd : WorkerCommand} (hcmd : cmd.type = .execute) :
    Minds reason (processExecute rid r cmd) (fun _ => Carried rid) ⟨.commanding, seen⟩ := by
  have hfenced : Minds reason (fulfil cmd.ticket (failedReply "incarnation fenced/drained"))
      (fun _ => Carried rid) ⟨.commanding, seen⟩ :=
    minds_answered hhas (CommandReply.clean_failedReply (by decide))
  unfold processExecute
  refine minds_reading (a := .query (.incarnationIsFenced r.incarnation)) trivial fun fenced _ => ?_
  cases fenced with
  | true => exact hfenced
  | false =>
    refine minds_reading (a := .query (.drainState r.incarnation)) trivial fun st _ => ?_
    dsimp only
    split
    · exact hfenced
    refine minds_acquireUseFor (fun _ _ => .inl) (fun useId => ?_) fun useId err herr => ?_
    · refine minds_command rfl (.inl hcmd) ?_ ?_
      · refine minds_recv_awaiting rfl (fun resp => ?_) ?_
        · have hfields := onLines_parsePayload resp.payload
          have hdetail : newline ∉ get (parsePayload resp.payload) "detail" "execute result" :=
            hfields.get (by decide)
          exact minds_releaseUseFor
            (minds_answered hhas ⟨onLines_answeredReply hfields hdetail, hdetail⟩)
        · refine minds_releaseUseFor (minds_failed hhas ?_ (CommandReply.clean_failedReply ?_)) <;>
            decide
      · refine minds_releaseUseFor (minds_failed hhas ?_ (CommandReply.clean_failedReply ?_)) <;>
          decide
    · exact minds_answered hhas (CommandReply.clean_textReply herr)

theorem newline_not_mem_drainPhase (p : DrainPhase) : 10 ∉ lit p.toString := by
  cases p with
  | undeclared v =>
    have hnone : 10 ∉ lit "NONE" := by decide
    exact hnone
  | _ => decide

theorem minds_processDrain {seen : Registry} (hhas : seen.Has rid) (r : WorkerRouter)
    {cmd : WorkerCommand} (hcmd : cmd.type = .drain) :
    Minds reason (processDrain rid r cmd) (fun _ => Carried rid) ⟨.commanding, seen⟩ := by
  unfold processDrain
  refine minds_command rfl (.inr hcmd) ?_ ?_
  · refine minds_recv_awaiting rfl (fun resp => ?_) ?_
    · -- The phase of the drain is added to the fields of the worker.
      have hreply : ∀ (ok : Bool) (err : Option Str) (st : DrainState),
          (∀ text, err = some text → 10 ∉ text) →
          (answeredReply ok ((parsePayload resp.payload).insert (lit "drain_phase")
              (lit st.phase.toString))
            (err.getD (get ((parsePayload resp.payload).insert (lit "drain_phase")
              (lit st.phase.toString)) "detail" "drain complete"))).Clean := by
        intro ok err st herr
        have hkey : OnLine (lit "drain_phase") [] := by decide
        have hfields := (onLines_parsePayload resp.payload).insert (k := lit "drain_phase")
          ⟨hkey.1, hkey.2.1, newline_not_mem_drainPhase st.phase⟩
        have hdetail : newline ∉ err.getD (get ((parsePayload resp.payload).insert
            (lit "drain_phase") (lit st.phase.toString)) "detail" "drain complete") := by
          cases err with
          | none => exact hfields.get (by decide)
          | some text => exact herr text rfl
        exact ⟨onLines_answeredReply hfields hdetail, hdetail⟩
      refine minds_caught (minds_reading (k := pure) trivial fun res hres => ?_) (fun _ _ => .inl)
        (fun _ => ?_) fun err herr => ?_
      · exact ⟨rfl, fun e he => hres.2 e he⟩
      · exact minds_reading (a := .query (.drainState r.incarnation)) trivial fun st _ =>
          minds_answered hhas (hreply _ _ st nofun)
      · refine minds_reading (a := .query (.drainState r.incarnation)) trivial fun st _ =>
          minds_answered hhas (hreply _ _ st fun text htext => ?_)
        cases htext
        exact herr
    · refine minds_failed hhas ?_ (CommandReply.clean_failedReply ?_) <;> decide
  · refine minds_failed hhas ?_ (CommandReply.clean_failedReply ?_) <;> decide

theorem minds_process {seen : Registry} (hhas : seen.Has rid) (r : WorkerRouter)
    (cmd : WorkerCommand) :
    Minds reason (process rid r cmd) (fun _ => Carried rid) ⟨.commanding, seen⟩ := by
  refine follows_bind (minds_checkCycle.mono fun stale x ⟨hsame, hstale⟩ => ?_)
  subst hsame
  cases stale with
  | some err => exact minds_answered hhas (CommandReply.clean_textReply (hstale err rfl))
  | none =>
    dsimp only
    split
    · rename_i hcmd
      exact minds_processExecute hhas r hcmd
    · rename_i hcmd
      exact minds_processDrain hhas r hcmd
    · exact minds_answered hhas (CommandReply.clean_failedReply (by decide))

/-! ### Rounds -/

/-- Where a thread stands when a round begins. -/
def Poised : Loop → Standing → Prop
  | .start, x => Rested x
  | .session l, x => Rested x ∨ x.phase = .commanding ∧ l.connected = false
  | .dispatch _ rid, x => Carried rid x

/-- Where a thread stands when a round ends. -/
def PoisedAfter (l : Option Loop) (x : Standing) : Prop := ∀ l', l = some l' → Poised l' x

theorem poisedAfter_none : PoisedAfter none x := nofun

theorem minds_endDispatch (hhas : x.seen.Has rid) (l : SessionLocal) :
    Minds reason (endDispatch l rid) PoisedAfter x := by
  refine follows_bind ((minds_fail hhas (by decide)).mono fun _ x' _ => ?_)
  exact minds_locked (neutral_forgetSession l).clean fun g _ => poisedAfter_none

theorem minds_dispatchNext (hx : Steered rid x) (l : SessionLocal) :
    Minds reason (dispatchNext l rid) PoisedAfter x := by
  obtain ⟨hhas, hphase⟩ := hx
  refine minds_steady (fun g hg => hg) (fun g _ => Registry.steady_of_routers rfl rfl)
    fun g hg hkeeps => ?_
  split
  · exact minds_endDispatch (hkeeps.2.has hhas) l
  rename_i halive
  rcases hphase with hphase | ⟨-, hdead⟩
  · refine minds_steady (fun g hg => hg) (fun g _ => ?_) fun g' hg' hkeeps' => ?_
    · exact Registry.steady_modifyRouter fun r _ => ⟨rfl, id, id⟩
    have hhas' := (hkeeps.trans hkeeps').2.has hhas
    dsimp only
    split
    · exact minds_endDispatch hhas' l
    · split
      · exact minds_endDispatch hhas' l
      · rw [hphase]
        refine follows_bind ((minds_process hhas' _ _).mono fun _ x' hx' => ?_)
        rintro _ ⟨⟩
        exact hx'
  · -- A router that has failed is not found alive.
    obtain ⟨r, hr, hrdead⟩ := hg.dead hdead
    simp [hr, hrdead] at halive

end Dispatch

/-! ## Sessions -/

section Sessions

variable {A : Type} {reason : Prop} {m : ProtocolMessage} {x : Standing}

/-- After a handler the session goes on. -/
theorem minds_onward {p : Thread A} {next : A → SessionLocal}
    (h : Minds reason p (fun _ => Rested) x) :
    Minds reason (p >>= fun a => pure (some (.session (next a)))) PoisedAfter x := by
  refine follows_bind (h.mono fun a x' hx' => ?_)
  rintro _ ⟨⟩
  exact .inl hx'

theorem Registry.steady_adoptSocket (rid : Nat) (g : Registry) : g.Steady (adoptSocket rid g) := by
  refine Registry.steady_modifyRouter fun r _ => ?_
  cases hadopt : adoptable r with
  | false => simpa [hadopt] using WorkerRouter.Kept.refl r
  | true => exact ⟨rfl, id, fun hspent => absurd hadopt (by simp [hspent])⟩

theorem Registry.steady_startRouter (rid : Nat) (g : Registry) : g.Steady (startRouter rid g) := by
  refine Registry.steady_modifyRouter fun r _ => ?_
  split <;> exact ⟨rfl, id, id⟩

theorem has_sessionRouter {g : Registry} {sid : UInt64} {rid : Nat} {r : WorkerRouter}
    (h : sessionRouter sid g = some (rid, r)) : g.Has rid := by
  simp only [sessionRouter, Option.bind_eq_bind, Option.bind_eq_some_iff] at h
  obtain ⟨inc, -, rid', -, r', hr', heq⟩ := h
  cases heq
  exact ⟨_, hr'⟩

theorem minds_handleCommandReady (hx : x.phase = .asked m) (htype : m.type = .commandReady)
    (l : SessionLocal) : Minds reason (handleCommandReady l) PoisedAfter x := by
  have hroutes : routes m = false := by simp [routes, htype]
  refine minds_locked (fun g hg => hg) fun g _ => ?_
  split
  · refine minds_answer hx (isAnswerTo_error hroutes rfl) fun sent => ?_
    rintro _ ⟨⟩
    exact .inl (.inl (if_neg fun h => h.2 rfl))
  · rename_i rid r hrouter
    refine minds_answer hx (isAnswerTo_success hroutes (by simp [acknowledgement, htype, message]))
      fun sent => ?_
    rw [if_pos ⟨htype, nofun⟩]
    refine minds_steady (fun g hg => hg) (fun g _ => Registry.steady_adoptSocket rid g)
      fun g' _ hadopted => ?_
    split
    · rintro _ ⟨⟩
      exact .inr ⟨rfl, rfl⟩
    · refine minds_steady (fun g hg => hg) (fun g _ => Registry.steady_startRouter rid g)
        fun g'' _ hstarted => ?_
      split
      · rintro _ ⟨⟩
        exact .inr ⟨(hadopted.trans hstarted).2.has (has_sessionRouter hrouter), .inl rfl⟩
      · exact minds_locked (neutral_forgetSession l).clean fun g _ => poisedAfter_none

theorem direct_of_type {t ack : MessageType} (htype : m.type = t)
    (ht : t ∉ [.execute, .drain, .commandReady]) (hack : acknowledgement { type := t } = some ack) :
    Direct m ack := by
  simp only [List.mem_cons, List.not_mem_nil, or_false, not_or] at ht
  refine ⟨by simp [routes, htype, ht], htype ▸ ht.2.2, ?_⟩
  rw [← hack]
  unfold acknowledgement
  rw [htype]
  split <;> simp_all

/-- One message: every type has its handler, and every other type is refused. -/
theorem minds_handle (l : SessionLocal) (m : ProtocolMessage) (seen : Registry) :
    Minds reason (handle l m) PoisedAfter ⟨.asked m, seen⟩ := by
  unfold handle
  dsimp only
  split
  case h_1 htype =>
    exact minds_onward (minds_handleHello (direct_of_type htype (by decide) rfl) rfl)
  case h_2 htype =>
    exact minds_onward (minds_handleRegister (direct_of_type htype (by decide) rfl) rfl l _)
  case h_3 htype =>
    exact minds_onward (minds_handlePublishComponent (direct_of_type htype (by decide) rfl) rfl l _)
  case h_4 htype =>
    exact minds_onward (minds_handlePrepare (direct_of_type htype (by decide) rfl) rfl l)
  case h_5 htype =>
    exact minds_onward (minds_handleQueryReadiness (direct_of_type htype (by decide) rfl) rfl l _)
  case h_6 htype =>
    exact minds_onward (minds_handleActivate (direct_of_type htype (by decide) rfl) rfl l _)
  case h_7 htype =>
    exact minds_onward (minds_handleAcquireUse (direct_of_type htype (by decide) rfl) rfl l _)
  case h_8 htype =>
    exact minds_onward (minds_handleReleaseUse (direct_of_type htype (by decide) rfl) rfl l _)
  case h_9 htype =>
    exact minds_onward (minds_handleDrain rfl htype l)
  case h_10 htype =>
    exact minds_onward (minds_handleExecute rfl htype)
  case h_11 htype =>
    exact minds_onward (minds_handleReplace (direct_of_type htype (by decide) rfl) rfl _)
  case h_12 htype =>
    exact minds_onward (minds_handleFenceWorker (direct_of_type htype (by decide) rfl) rfl _)
  case h_13 htype =>
    exact minds_onward (minds_handleSave (direct_of_type htype (by decide) rfl) rfl)
  case h_14 htype =>
    exact minds_onward (minds_handleExecutionResult (direct_of_type htype (by decide) rfl) rfl l _)
  case h_15 htype =>
    exact follows_bind ((minds_handleCommandReady rfl htype l).mono fun _ _ h => h)
  case h_16 htype =>
    exact minds_onward (minds_handleQueryDrain (direct_of_type htype (by decide) rfl) rfl l _)
  case h_17 htype =>
    have hm : Direct m .registerAck := direct_of_type htype (by decide) rfl
    refine minds_answer rfl (isAnswerTo_success hm.unrouted hm.ack) fun sent => ?_
    exact minds_locked (neutral_forgetSession l).clean fun g _ => poisedAfter_none
  case h_18 =>
    have hunrouted : routes m = false := Bool.eq_false_iff.mpr fun h =>
      (routes_iff.mp h).1.elim ‹m.type = .execute → False› ‹m.type = .drain → False›
    refine minds_answer rfl (isAnswerTo_error hunrouted rfl) fun sent => ?_
    rw [if_neg fun h => h.2 rfl]
    rintro _ ⟨⟩
    exact .inl (.inl rfl)

theorem isAnswerTo_stale (m : ProtocolMessage) : isAnswerTo m staleReply = true := by
  simp [isAnswerTo]

theorem poised_ended (hx : x.phase = .ended) (l : Loop) : Poised l x := by
  cases l with
  | start => exact .inr hx
  | session l => exact .inl (.inr hx)
  | dispatch l rid => exact .inl hx

theorem minds_endSession (l : SessionLocal) : Minds reason (endSession l) PoisedAfter x :=
  minds_locked (neutral_forgetSession l).clean fun _ _ => poisedAfter_none

theorem minds_received (l : SessionLocal) (m : ProtocolMessage) (seen : Registry) :
    Minds reason (if m.epoch ≠ 0 then do
        let epoch ← currentEpoch
        if m.epoch.toUInt64 ≠ epoch.raw then
          let _ ← send (errorMessage ⟨.staleEpoch, "stale epoch traffic"⟩)
          return some (.session l)
        handle l m
      else handle l m) PoisedAfter ⟨.asked m, seen⟩ := by
  split
  · refine minds_reading (a := .query .currentEpoch) trivial fun epoch _ => ?_
    split
    · refine minds_answer rfl (isAnswerTo_stale m) fun sent => ?_
      rw [if_neg fun h => h.2 rfl]
      rintro _ ⟨⟩
      exact .inl (.inl rfl)
    · exact minds_handle l m seen
  · exact minds_handle l m seen

theorem minds_receive {l : SessionLocal} (hx : Poised (.session l) x) :
    Minds reason (receive l) PoisedAfter x := by
  unfold receive
  split
  · rename_i hconnected
    rcases hx with (hidle | hended) | ⟨-, hlost⟩
    · exact minds_recv hidle (fun m => minds_received l m _) (minds_endSession l)
    · exact minds_ended hended fun _ _ hx l' _ => poised_ended hx l'
    · exact absurd hconnected (by simp [hlost])
  · exact minds_endSession l

/-- Every round leaves the connection where the next one begins. -/
theorem minds_runSession (loop : Loop) (hx : Poised loop x) :
    Minds reason (runSession loop) PoisedAfter x := by
  cases loop with
  | start =>
    refine minds_locked (fun g hg => hg) fun g _ => ?_
    rintro _ ⟨⟩
    exact .inl hx
  | session l => exact minds_receive hx
  | dispatch l rid =>
    rcases hx with hended | hsteered
    · exact minds_ended hended fun _ _ hx l' _ => poised_ended hx l'
    · exact minds_dispatchNext hsteered l

end Sessions

end EngineResidency.Coordinator
