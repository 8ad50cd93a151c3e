-- SUMMARY: Which connection the commands for an incarnation go to: the one that has registered it, and no other.
import EngineResidency.Coordinator.Cleanup
import Mathlib.Algebra.Ring.Nat

/-!
# Addressing

A command finds its way through three tables: from the incarnation that it names to a router, from a
session to the incarnation that it has registered, and from that back to the router whose commands
the session dispatches. None of the tables says which connection an incarnation belongs to. It
follows from what the threads put there: a session writes under its own identity alone, and only what
it has just registered.
-/

namespace EngineResidency.Coordinator

open EngineResidency.Runtime Prog

/-! ## Sections -/

/-- The incarnation that a command names. -/
def WorkerCommand.target (cmd : WorkerCommand) : EngineIncarnationId :=
  ⟨u cmd.params "target_incarnation" 0⟩

/-- The section adds nothing to the tables, takes no identity and queues no command. An entry that
is created on reading names no incarnation. -/
structure Homely (f : Registry → Registry) : Prop where
  nextSession : ∀ g, (f g).nextSession = g.nextSession
  sessionInc : ∀ g sid id, (f g).sessionInc.lookup sid = some id →
    g.sessionInc.lookup sid = some id ∨ id = {}
  workerRouter : ∀ g id rid, (f g).workerRouter.lookup id = some rid →
    g.workerRouter.lookup id = some rid
  nextTicket : ∀ g, (f g).nextTicket = g.nextTicket

theorem homely_of_routers {f : Registry → Registry}
    (h : ∀ g, (f g).nextSession = g.nextSession ∧ (f g).sessionInc = g.sessionInc ∧
      (f g).workerRouter = g.workerRouter ∧ (f g).nextTicket = g.nextTicket) : Homely f where
  nextSession g := (h g).1
  sessionInc g _ _ hlookup := .inl ((h g).2.1 ▸ hlookup)
  workerRouter g _ _ hlookup := (h g).2.2.1 ▸ hlookup
  nextTicket g := (h g).2.2.2

theorem homely_id : Homely id := homely_of_routers fun _ => ⟨rfl, rfl, rfl, rfl⟩

theorem homely_modifyRouter {rid : Nat} {f : WorkerRouter → WorkerRouter} :
    Homely (Registry.modifyRouter rid f) :=
  homely_of_routers fun _ => ⟨rfl, rfl, rfl, rfl⟩

theorem homely_fulfil {ticket : Nat} {rep : CommandReply} : Homely (Registry.fulfil ticket rep) := by
  refine homely_of_routers fun g => ?_
  unfold Registry.fulfil
  split <;> exact ⟨rfl, rfl, rfl, rfl⟩

theorem homely_forgetSession (s : SessionLocal) : Homely (forgetSession s) where
  nextSession _ := rfl
  sessionInc _ _ _ hlookup := .inl (AList.lookup_of_erase hlookup)
  workerRouter g id rid hlookup := by
    simp only [forgetSession] at hlookup
    split at hlookup
    · exact AList.lookup_of_erase hlookup
    · exact hlookup
  nextTicket _ := rfl

theorem homely_touchSession (sid : UInt64) : Homely (touchSession sid) := by
  refine ⟨fun g => ?_, fun g sid' id hlookup => ?_, fun g id rid hlookup => ?_, fun g => ?_⟩
  · unfold touchSession
    split <;> rfl
  · unfold touchSession at hlookup
    split at hlookup
    · exact .inl hlookup
    · rw [AList.lookup_insert'] at hlookup
      split at hlookup
      · cases hlookup
        exact .inr rfl
      · exact .inl hlookup
  · unfold touchSession at hlookup
    split at hlookup <;> exact hlookup
  · unfold touchSession
    split <;> rfl

/-- The thread has seen such a registry. -/
def Saw (h : List Deed) (P : Registry → Prop) : Prop :=
  ∃ (ready : Registry → Bool) (f : Registry → Registry) (g : Registry),
    (⟨.locked ready f, g⟩ : Deed) ∈ h ∧ P g

theorem Saw.concat {h : List Deed} {P : Registry → Prop} {ready : Registry → Bool}
    {f : Registry → Registry} {g : Registry} (hg : P g) : Saw (h ++ [⟨.locked ready f, g⟩]) P :=
  ⟨ready, f, g, List.mem_append_right _ (List.mem_singleton_self _), hg⟩

theorem Saw.append {h : List Deed} {P : Registry → Prop} (hsaw : Saw h P) (es : List Deed) :
    Saw (h ++ es) P := by
  obtain ⟨ready, f, g, hmem, hg⟩ := hsaw
  exact ⟨ready, f, g, List.mem_append_left es hmem, hg⟩

/-- The thread has found the router under the incarnation. -/
def FoundRoute (h : List Deed) (id : EngineIncarnationId) (rid : Nat) : Prop :=
  Saw h fun g => g.workerRouter.lookup id = some rid

/-- The round has begun with a message that asks for the command. -/
def Asked (h : List Deed) (cmd : WorkerCommand) : Prop :=
  ∃ msg rest, h = ⟨.recv, some msg⟩ :: rest ∧
    cmd = routedCommand msg.type msg (parsePayload msg.payload)

theorem Asked.append {h : List Deed} {cmd : WorkerCommand} (hasked : Asked h cmd)
    (es : List Deed) : Asked (h ++ es) cmd := by
  obtain ⟨msg, rest, rfl, hcmd⟩ := hasked
  exact ⟨msg, rest ++ es, rfl, hcmd⟩

/-- What a section does to the tables, in terms of the steps of the round. -/
inductive Files (l : Loop) (h : List Deed) (f : Registry → Registry) : Prop
  | homely (hl : l ≠ .start) (hf : Homely f)
  | take (hl : l = .start) (hh : h = []) (hf : f = takeSession)
  | bind {s : SessionLocal} {inc : EngineIncarnation} (hl : l = .session s)
    (hjust : JustRegistered h inc) (hf : f = bindSession s.sid inc)
  | enqueue {s : SessionLocal} {rid : Nat} {cmd : WorkerCommand} (hl : l = .session s)
    (hasked : Asked h cmd) (hroute : FoundRoute h cmd.target rid) (hf : f = enqueueCommand rid cmd)

/-- A message that is a command is sent by a dispatcher. -/
def Dispatches (l : Loop) (m : ProtocolMessage) : Prop :=
  m.type = .execute ∨ m.type = .drain → ∃ s rid, l = .dispatch s rid

/-- What holds before an action of a thread. -/
def Addresses (l : Loop) (h : List Deed) : Action → Prop
  | .locked _ f => Files l h f
  | .send m => Dispatches l m
  | _ => True

/-- The thread has found the router of its session. -/
def FoundOwn (h : List Deed) (sid : UInt64) (rid : Nat) : Prop :=
  Saw h fun g => ∃ r, sessionRouter sid g = some (rid, r)

/-- Where a thread goes on: with the identity that it has taken, and as the dispatcher of a router
that it has found to be its own. -/
inductive Leads (h : List Deed) : Loop → Loop → Prop
  | begins {s : SessionLocal} {ready : Registry → Bool} {g : Registry}
    (hh : h = [⟨.locked ready takeSession, g⟩]) (hsid : s.sid = g.nextSession) :
    Leads h .start (.session s)
  | stays {s s' : SessionLocal} (hsid : s'.sid = s.sid) : Leads h (.session s) (.session s')
  | dispatches {s s' : SessionLocal} {rid : Nat} (hsid : s'.sid = s.sid)
    (hown : FoundOwn h s.sid rid) : Leads h (.session s) (.dispatch s' rid)
  | goesOn {s : SessionLocal} {rid : Nat} : Leads h (.dispatch s rid) (.dispatch s rid)

/-- What holds at the end of a round. -/
def LeadsOn (l : Loop) (next : Option Loop) (h : List Deed) : Prop := ∀ l', next = some l' → Leads h l l'

/-! ## Programs -/

/-- The action is no section, or a homely one; a command is left to dispatchers. -/
def Local (l : Loop) : Action → Prop
  | .locked _ f => Homely f
  | .send m => Dispatches l m
  | _ => True

section Local

variable {A : Type} {l : Loop} {p : Thread A}

theorem local_of_modest (hp : p.Only Modest) : p.Only (Local l) := by
  refine hp.mono fun a ha => ?_
  cases a with
  | locked ready f =>
    rcases ha with rfl | ⟨sid, rfl⟩
    · exact homely_id
    · exact homely_touchSession sid
  | send m => exact fun htype => (htype.elim ha.1 ha.2).elim
  | _ => trivial

theorem homely_of_settles {ready : Registry → Bool} {f : Registry → Registry}
    (h : Settles (.locked ready f)) : Homely f := by
  rcases h with ⟨rid, F, rfl⟩ | ⟨ticket, rep, rfl⟩
  · exact homely_modifyRouter
  · exact homely_fulfil

theorem local_of_settles (hp : p.Only Settles) : p.Only (Local l) := by
  refine hp.mono fun a ha => ?_
  cases a with
  | locked ready f => exact homely_of_settles ha
  | _ => exact ha.elim

/-- In the course of a command a dispatcher sends what it likes. -/
theorem local_of_forwards {s : SessionLocal} {rid : Nat} {cmd : WorkerCommand}
    (hp : p.Only (Forwards cmd)) : p.Only (Local (.dispatch s rid)) := by
  refine hp.mono fun a ha => ?_
  cases a with
  | locked ready f =>
    have hsettles : Settles (.locked ready f) := ha
    exact homely_of_settles hsettles
  | send m => exact fun _ => ⟨s, rid, rfl⟩
  | _ => trivial

end Local

/-! ### Outlines -/

section Outlines

variable {A : Type} {l : Loop} {s : SessionLocal} {rid : Nat} {h : List Deed} {f : Fields}
  {msg : ProtocolMessage}

theorem Local.addresses {a : Action} (ha : Local l a) (hl : l ≠ .start) (h : List Deed) :
    Addresses l h a := by
  cases a with
  | locked ready f => exact .homely hl ha
  | send m => exact ha
  | _ => trivial

theorem addresses_local {Q : A → List Deed → Prop} {p : Thread A} (hl : l ≠ .start)
    (hp : p.Only (Local l)) (hQ : ∀ a h, Q a h) : Outline (Addresses l) Q p h :=
  hp.outline (I := fun _ => True) (fun h _ _ ha => ha.addresses hl h) (fun _ _ _ _ _ => trivial)
    (fun a h _ => hQ a h) trivial

theorem addresses_modest {Q : A → List Deed → Prop} {p : Thread A} (hl : l ≠ .start)
    (hp : p.Only Modest) (hQ : ∀ a h, Q a h) : Outline (Addresses l) Q p h :=
  addresses_local hl (local_of_modest hp) hQ

theorem leadsOn_none : LeadsOn l none h := nofun

theorem leadsOn_session {s' : SessionLocal} (hsid : s'.sid = s.sid) :
    LeadsOn (.session s) (some (.session s')) h := by
  rintro _ ⟨⟩
  exact .stays hsid

theorem addresses_send {m : ProtocolMessage} {k : Bool → Thread A}
    {Q : A → List Deed → Prop} (hm : m.type ≠ .execute ∧ m.type ≠ .drain)
    (hk : ∀ sent, Outline (Addresses l) Q (k sent) (h ++ [⟨.send m, sent⟩])) :
    Outline (Addresses l) Q (send m >>= k) h :=
  outline_perform (fun htype => (htype.elim hm.1 hm.2).elim) hk

/-- A session that goes on after a handler. -/
theorem addresses_onward {p : Thread A} (hp : p.Only Modest) {next : A → SessionLocal}
    (hsid : ∀ a, (next a).sid = s.sid) :
    Outline (Addresses (.session s)) (LeadsOn (.session s))
      (p >>= fun a => pure (some (.session (next a)))) h :=
  outline_bind (addresses_modest nofun hp fun a _ => leadsOn_session (hsid a))

theorem addresses_endSession (hl : l ≠ .start) :
    Outline (Addresses l) (LeadsOn l) (endSession s) h :=
  outline_perform (.homely hl (homely_forgetSession s)) fun _ => leadsOn_none

theorem addresses_attempt {Q : A → List Deed → Prop} {fallback : A} {body : Body A}
    (hbody : Outline (Addresses (.session s)) (fun _ _ => True) body.run h) (hQ : ∀ a h, Q a h) :
    Outline (Addresses (.session s)) Q (attempt fallback body) h := by
  refine outline_bind (outline_mono (fun r h _ => ?_) hbody)
  split
  · exact hQ _ _
  · exact addresses_modest nofun (only_bind (modest_send ⟨nofun, nofun⟩) fun _ => only_pure) hQ
  · exact addresses_modest nofun (only_bind (only_perform trivial) fun _ => only_pure) hQ

/-- The session writes what it has just registered under its own identity. -/
theorem addresses_handleRegister {Q : EngineIncarnationId → List Deed → Prop}
    (hQ : ∀ id h, Q id h) :
    Outline (Addresses (.session s)) Q (handleRegister s f) h := by
  refine addresses_attempt ⟨trivial, fun res => ?_⟩ hQ
  rcases res with e | reply
  · trivial
  cases reply with
  | permit permit =>
    refine ⟨trivial, fun res => ?_⟩
    rcases res with e | reply
    · trivial
    cases reply with
    | incarnation inc =>
      refine ⟨.bind rfl ⟨_, _, permit, rfl⟩ rfl, fun g => ?_⟩
      refine addresses_modest nofun ?_ fun _ _ => trivial
      repeat' first
        | exact only_ok
        | exact only_lift (only_perform trivial)
        | exact only_lift (modest_send ⟨nofun, nofun⟩)
        | refine only_andThen ?_ fun _ => ?_
    | _ => trivial
  | _ => trivial

/-! Routed commands. -/

theorem addresses_awaitReply {cmd : WorkerCommand} {timeout : String} (hasked : Asked h cmd)
    (hroute : FoundRoute h cmd.target rid) :
    Outline (Addresses (.session s)) (fun _ _ => True) (awaitReply rid cmd timeout) h := by
  refine outline_bind (outline_perform (.enqueue rfl hasked hroute rfl) fun g => ?_)
  refine outline_perform trivial fun received => ?_
  cases received with
  | none => exact addresses_modest nofun (modest_replyToController _ _ _ _) fun _ _ => trivial
  | some rep => exact addresses_modest nofun (modest_replyToController _ _ _ _) fun _ _ => trivial

/-- What is found is the router of the incarnation. -/
theorem addresses_findRouter {id : EngineIncarnationId} {boot : UInt64}
    {k : Except String Nat → Thread A} {Q : A → List Deed → Prop}
    (herror : ∀ why h, Outline (Addresses (.session s)) Q (k (.error why)) h)
    (hok : ∀ rid es, FoundRoute (h ++ es) id rid →
      Outline (Addresses (.session s)) Q (k (.ok rid)) (h ++ es)) :
    Outline (Addresses (.session s)) Q (findRouter id boot >>= k) h := by
  refine outline_bind (outline_perform (.homely nofun homely_id) fun g => ?_)
  split
  · exact herror _ _
  · rename_i rid r hfound
    obtain ⟨rid', hrid, hr⟩ := Option.bind_eq_some_iff.mp hfound
    obtain ⟨r', -, heq⟩ := Option.map_eq_some_iff.mp hr
    cases heq
    split
    · exact herror _ _
    · refine outline_perform (.homely nofun homely_id) fun g' => ?_
      split
      · rw [List.append_assoc]
        refine hok rid _ ?_
        rw [← List.append_assoc]
        exact (Saw.concat hrid).append _
      · exact herror _ _

theorem addresses_handleExecute (hasked : Asked h (routedCommand .execute msg f)) :
    Outline (Addresses (.session s)) (fun _ _ => True) (handleExecute msg f) h := by
  unfold handleExecute
  split
  · refine addresses_findRouter (fun why h => ?_) fun rid es hroute =>
      addresses_awaitReply (hasked.append es) hroute
    exact addresses_modest nofun (modest_replyToController _ _ _ _) fun _ _ => trivial
  · exact addresses_modest nofun (only_bind (modest_send ⟨nofun, nofun⟩) fun _ => only_pure) fun _ _ => trivial

theorem addresses_handleDrain (hasked : Asked h (routedCommand .drain msg f)) :
    Outline (Addresses (.session s)) (fun _ _ => True) (handleDrain s msg f) h := by
  have hreply : ∀ rep cmdId epoch authority h, Outline (Addresses (.session s)) (fun _ _ => True)
      (replyToController rep cmdId epoch authority) h := fun _ _ _ _ _ =>
    addresses_modest nofun (modest_replyToController _ _ _ _) fun _ _ => trivial
  have hsession : Loop.session s ≠ .start := nofun
  unfold handleDrain
  split
  · refine addresses_findRouter (fun why h => hreply _ _ _ _ _) fun rid es hroute => ?_
    -- What has been found is not forgotten while the drain is requested.
    refine outline_bind ((local_of_modest (only_caught trivial (modest_requestRoutedDrain _))).outline
      (I := fun h => Asked h (routedCommand .drain msg f) ∧ FoundRoute h _ rid)
      (fun h _ _ ha => ha.addresses hsession h)
      (fun _ _ _ hh _ => ⟨hh.1.append _, Saw.append hh.2 _⟩) (fun requested h hh => ?_)
      ⟨hasked.append es, hroute⟩)
    split
    · exact hreply _ _ _ _ _
    · exact addresses_awaitReply hh.1 hh.2
  · refine addresses_modest nofun (modest_attempt (only_andThen (modest_call trivial) fun _ => ?_))
      fun _ _ => trivial
    exact only_andThen (only_lift (modest_send ⟨nofun, nofun⟩)) fun _ => only_ok

/-- A session goes on as the dispatcher of the router that it has found to be its own. -/
theorem addresses_handleCommandReady :
    Outline (Addresses (.session s)) (LeadsOn (.session s)) (handleCommandReady s) h := by
  refine outline_perform (.homely nofun homely_id) fun g => ?_
  split
  · exact addresses_send ⟨nofun, nofun⟩ fun _ => leadsOn_session rfl
  · rename_i rid r hown
    have hfound : FoundOwn (h ++ [⟨.locked (fun _ => true) id, g⟩]) s.sid rid :=
      Saw.concat ⟨r, hown⟩
    refine addresses_send ⟨nofun, nofun⟩ fun _ => ?_
    refine outline_perform (.homely nofun homely_modifyRouter) fun g' => ?_
    split
    · exact leadsOn_session rfl
    · refine outline_perform (.homely nofun homely_modifyRouter) fun g'' => ?_
      split
      · rintro _ ⟨⟩
        exact .dispatches rfl (((Saw.append hfound _).append _).append _)
      · exact addresses_endSession nofun

theorem addresses_handle {rest : List Deed} (hh : h = ⟨.recv, some msg⟩ :: rest) :
    Outline (Addresses (.session s)) (LeadsOn (.session s)) (handle s msg) h := by
  have hasked : ∀ type, msg.type = type →
      Asked h (routedCommand type msg (parsePayload msg.payload)) := fun type htype =>
    ⟨msg, rest, hh, htype ▸ rfl⟩
  unfold handle
  dsimp only
  split
  · exact addresses_onward (modest_handleHello _) fun _ => rfl
  · exact outline_bind (addresses_handleRegister fun _ _ => leadsOn_session rfl)
  · exact addresses_onward (modest_handlePublishComponent _ _) fun _ => rfl
  · exact addresses_onward (modest_handlePrepare _) fun _ => rfl
  · exact addresses_onward (modest_handleQueryReadiness _ _) fun _ => rfl
  · exact addresses_onward (modest_handleActivate _ _) fun _ => rfl
  · exact addresses_onward (modest_handleAcquireUse _ _) fun _ => rfl
  · exact addresses_onward (modest_handleReleaseUse _ _) fun _ => rfl
  · exact outline_bind (outline_mono (fun _ _ _ => leadsOn_session rfl)
      (addresses_handleDrain (hasked _ ‹_›)))
  · exact outline_bind (outline_mono (fun _ _ _ => leadsOn_session rfl)
      (addresses_handleExecute (hasked _ ‹_›)))
  · exact addresses_onward (modest_handleReplace _) fun _ => rfl
  · exact addresses_onward (modest_handleFenceWorker _) fun _ => rfl
  · exact addresses_onward modest_handleSave fun _ => rfl
  · exact addresses_onward (modest_handleExecutionResult _ _) fun _ => rfl
  · exact addresses_handleCommandReady
  · exact addresses_onward (modest_handleQueryDrain _ _) fun _ => rfl
  · exact addresses_send ⟨nofun, nofun⟩ fun _ => addresses_endSession nofun
  · exact addresses_send ⟨nofun, nofun⟩ fun _ => leadsOn_session rfl

theorem addresses_receive :
    Outline (Addresses (.session s)) (LeadsOn (.session s)) (receive s) [] := by
  unfold receive
  dsimp only
  split
  · refine outline_perform trivial fun received => ?_
    cases received with
    | none => exact addresses_endSession nofun
    | some msg =>
      dsimp only
      split
      · refine outline_perform trivial fun epoch => ?_
        split
        · exact addresses_send ⟨nofun, nofun⟩ fun _ => leadsOn_session rfl
        · exact addresses_handle rfl
      · exact addresses_handle rfl
  · exact addresses_endSession nofun

theorem addresses_dispatchNext :
    Outline (Addresses (.dispatch s rid)) (LeadsOn (.dispatch s rid)) (dispatchNext s rid) h := by
  have hend : ∀ h, Outline (Addresses (.dispatch s rid)) (LeadsOn (.dispatch s rid))
      (endDispatch s rid) h := fun h =>
    outline_bind (addresses_local nofun (local_of_settles (settles_fail _ _)) fun _ _ => addresses_endSession nofun)
  refine outline_perform (.homely nofun homely_id) fun g => ?_
  split
  · exact hend _
  · refine outline_perform (.homely nofun homely_modifyRouter) fun g' => ?_
    split
    · exact hend _
    · split
      · exact hend _
      · refine outline_bind (addresses_local nofun (local_of_forwards (forwards_process _ _)) fun _ _ => ?_)
        rintro _ ⟨⟩
        exact .goesOn

theorem addresses_runSession (l : Loop) :
    (runSession l).Outline (Addresses l) (LeadsOn l) [] := by
  cases l with
  | start =>
    refine outline_perform (.take rfl rfl rfl) fun g => ?_
    rintro _ ⟨⟩
    exact .begins rfl rfl
  | session s => exact addresses_receive
  | dispatch s rid => exact addresses_dispatchNext

end Outlines

end EngineResidency.Coordinator
