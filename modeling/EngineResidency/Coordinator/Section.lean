-- SUMMARY: The critical sections of the coordinator, and what each of them does to the routers and their queues.
import EngineResidency.Coordinator.Session

/-!
# Critical sections

The threads of the coordinator meet in the registry, and touch it in a dozen critical
sections. This module names them, and says what each of them does to the routers: which
stay as they are, which commands join or leave a queue, and which promises are set.
-/

namespace EngineResidency.Coordinator

open EngineResidency.Runtime

/-- A step of a thread: an action with its response. -/
abbrev Deed := Σ a : Action, a.Res

/-! ## Routers stay -/

/-- What may happen to a router: it stays bound as it is, it does not come back to life,
and once it has taken a socket it never takes one again. -/
structure WorkerRouter.Kept (r r' : WorkerRouter) : Prop where
  incarnation : r'.incarnation = r.incarnation
  dead : r.alive = false → r'.alive = false
  spent : adoptable r = false → adoptable r' = false

theorem WorkerRouter.Kept.refl (r : WorkerRouter) : r.Kept r := ⟨rfl, id, id⟩

namespace Registry

/-- Every router has a number below the next one. -/
def Numbered (g : Registry) : Prop :=
  ∀ rid r, g.routers.lookup rid = some r → rid < g.nextRouter

/-- `g'` has the routers of `g` and no others. -/
structure Steady (g g' : Registry) : Prop where
  nextRouter : g'.nextRouter = g.nextRouter
  routers : g.routers.Rewrites (fun _ => WorkerRouter.Kept) g'.routers

variable {g g' g'' : Registry}

theorem Steady.trans (h : g.Steady g') (h' : g'.Steady g'') : g.Steady g'' where
  nextRouter := h'.nextRouter.trans h.nextRouter
  routers := h.routers.trans h'.routers fun _ _ _ _ h₁ h₂ =>
    ⟨h₂.incarnation.trans h₁.incarnation, fun hdead => h₂.dead (h₁.dead hdead),
      fun hspent => h₂.spent (h₁.spent hspent)⟩

theorem steady_of_routers (hrouters : g'.routers = g.routers)
    (hnext : g'.nextRouter = g.nextRouter) : g.Steady g' where
  nextRouter := hnext
  routers := hrouters ▸ .refl _ fun _ => .refl

theorem steady_modifyRouter {rid : Nat} {f : WorkerRouter → WorkerRouter}
    (hf : ∀ r, g.routers.lookup rid = some r → r.Kept (f r)) : g.Steady (g.modifyRouter rid f) where
  nextRouter := rfl
  routers := .modify (fun _ => .refl) hf

theorem steady_fulfil (ticket : Nat) (rep : CommandReply) : g.Steady (g.fulfil ticket rep) := by
  unfold fulfil
  split
  · exact steady_of_routers rfl rfl
  · exact steady_of_routers rfl rfl

theorem steady_enqueueCommand (rid : Nat) (cmd : WorkerCommand) :
    g.Steady (enqueueCommand rid cmd g) := by
  have hticket : g.Steady { g with nextTicket := g.nextTicket + 1 } := steady_of_routers rfl rfl
  refine hticket.trans ?_
  unfold enqueueCommand
  dsimp only
  split
  · exact steady_modifyRouter fun _ _ => ⟨rfl, id, id⟩
  · exact steady_fulfil _ _

/-! ### Dead and spent routers -/

/-- The router is there and dead. -/
def Dead (g : Registry) (rid : Nat) : Prop :=
  ∃ r, g.routers.lookup rid = some r ∧ r.alive = false

/-- The router is there and takes no socket any more. -/
def Spent (g : Registry) (rid : Nat) : Prop :=
  ∃ r, g.routers.lookup rid = some r ∧ adoptable r = false

/-- A router that is dead may close its socket. -/
theorem steady_close {rid : Nat} (hdead : g.Dead rid) :
    g.Steady (g.modifyRouter rid fun r => { r with open_ := false }) := by
  obtain ⟨r₀, hr₀, hdead⟩ := hdead
  refine steady_modifyRouter fun r hr => ⟨rfl, id, fun _ => ?_⟩
  cases hr₀.symm.trans hr
  simp [adoptable, hdead]

end Registry

open Registry

/-! ## The sections of a router -/

def adoptSocket (rid : Nat) : Registry → Registry :=
  Registry.modifyRouter rid fun r => if adoptable r then { r with open_ := true } else r

def startRouter (rid : Nat) : Registry → Registry :=
  Registry.modifyRouter rid fun r => if r.alive then { r with ready := true } else r

def popCommand (rid : Nat) : Registry → Registry :=
  Registry.modifyRouter rid fun r => { r with queue := r.queue.tail }

def killRouter (rid : Nat) : Registry → Registry :=
  Registry.modifyRouter rid fun r => { r with alive := false }

def swapQueue (rid : Nat) : Registry → Registry :=
  Registry.modifyRouter rid fun r => { r with queue := [] }

def closeSocket (rid : Nat) : Registry → Registry :=
  Registry.modifyRouter rid fun r => { r with open_ := false }

/-- The section leaves the routers, the promises and the tickets alone. -/
structure Neutral (f : Registry → Registry) : Prop where
  routers : ∀ g, (f g).routers = g.routers
  nextRouter : ∀ g, (f g).nextRouter = g.nextRouter
  replies : ∀ g, (f g).replies = g.replies
  nextTicket : ∀ g, (f g).nextTicket = g.nextTicket

theorem neutral_id : Neutral id := ⟨fun _ => rfl, fun _ => rfl, fun _ => rfl, fun _ => rfl⟩

theorem neutral_takeSession : Neutral takeSession :=
  ⟨fun _ => rfl, fun _ => rfl, fun _ => rfl, fun _ => rfl⟩

theorem neutral_forgetSession (l : SessionLocal) : Neutral (forgetSession l) :=
  ⟨fun _ => rfl, fun _ => rfl, fun _ => rfl, fun _ => rfl⟩

theorem neutral_touchSession (sid : UInt64) : Neutral (touchSession sid) := by
  refine ⟨fun g => ?_, fun g => ?_, fun g => ?_, fun g => ?_⟩ <;>
  · unfold touchSession
    split <;> rfl

/-! ## Queues and promises -/

/-- The router is there and alive. -/
def routerAlive (rid : Nat) (g : Registry) : Bool := (g.routers.lookup rid).any (·.alive)

/-- The commands at the front of a queue by which it has become shorter. -/
def leaving (rid : Nat) (g g' : Registry) : List WorkerCommand :=
  (queueOf rid g).take ((queueOf rid g).length - (queueOf rid g').length)

/-- The commands by which a queue has become longer. -/
def joining (rid : Nat) (g g' : Registry) : List WorkerCommand :=
  (queueOf rid g').drop (queueOf rid g).length

section Queues

variable {g g' : Registry} {rid rid' : Nat} {F : WorkerRouter → WorkerRouter}

theorem leaving_same (h : queueOf rid g' = queueOf rid g) : leaving rid g g' = [] := by
  simp [leaving, h]

theorem joining_same (h : queueOf rid g' = queueOf rid g) : joining rid g g' = [] := by
  simp [joining, h]

theorem queueOf_of_routers (h : g'.routers = g.routers) (rid : Nat) :
    queueOf rid g' = queueOf rid g := by
  unfold queueOf
  rw [h]

theorem queueOf_modifyRouter_self {rest : List WorkerCommand}
    (h : ∀ r, g.routers.lookup rid = some r → (F r).queue = rest)
    (hnone : g.routers.lookup rid = none → rest = []) :
    queueOf rid (g.modifyRouter rid F) = rest := by
  unfold queueOf Registry.modifyRouter
  rw [AList.lookup_modify_self]
  cases hr : g.routers.lookup rid with
  | none => exact (hnone hr).symm
  | some r => exact h r hr

theorem queueOf_modifyRouter_ne (hne : rid' ≠ rid) :
    queueOf rid' (g.modifyRouter rid F) = queueOf rid' g := by
  unfold queueOf Registry.modifyRouter
  rw [AList.lookup_modify, if_neg hne]

theorem queueOf_modifyRouter_keep (hF : ∀ r, (F r).queue = r.queue) (rid' : Nat) :
    queueOf rid' (g.modifyRouter rid F) = queueOf rid' g := by
  by_cases hne : rid' = rid
  · subst hne
    refine queueOf_modifyRouter_self (fun r hr => ?_) fun hnone => ?_
    · simp [queueOf, hr, hF]
    · simp [queueOf, hnone]
  · exact queueOf_modifyRouter_ne hne

theorem queueOf_adoptSocket (k : Nat) (g : Registry) (rid : Nat) :
    queueOf rid (adoptSocket k g) = queueOf rid g :=
  queueOf_modifyRouter_keep (fun r => by split <;> rfl) rid

theorem queueOf_startRouter (k : Nat) (g : Registry) (rid : Nat) :
    queueOf rid (startRouter k g) = queueOf rid g :=
  queueOf_modifyRouter_keep (fun r => by split <;> rfl) rid

theorem queueOf_killRouter (k : Nat) (g : Registry) (rid : Nat) :
    queueOf rid (killRouter k g) = queueOf rid g :=
  queueOf_modifyRouter_keep (fun r => by rfl) rid

theorem queueOf_closeSocket (k : Nat) (g : Registry) (rid : Nat) :
    queueOf rid (closeSocket k g) = queueOf rid g :=
  queueOf_modifyRouter_keep (fun r => by rfl) rid

theorem queueOf_popCommand_self (rid : Nat) (g : Registry) :
    queueOf rid (popCommand rid g) = (queueOf rid g).tail := by
  refine queueOf_modifyRouter_self (fun r hr => ?_) fun hnone => ?_
  · simp [queueOf, hr]
  · simp [queueOf, hnone]

theorem queueOf_swapQueue_self (rid : Nat) (g : Registry) : queueOf rid (swapQueue rid g) = [] :=
  queueOf_modifyRouter_self (fun _ _ => rfl) fun _ => rfl

/-- A command that is popped leaves the queue at its front. -/
theorem leaving_popCommand (rid : Nat) (g : Registry) :
    leaving rid g (popCommand rid g) = (queueOf rid g).head?.toList := by
  unfold leaving
  rw [queueOf_popCommand_self]
  cases queueOf rid g with
  | nil => rfl
  | cons cmd rest => simp

theorem leaving_swapQueue (rid : Nat) (g : Registry) :
    leaving rid g (swapQueue rid g) = queueOf rid g := by
  simp [leaving, queueOf_swapQueue_self]

/-- The command that an enqueue adds, with the next ticket. -/
def ticketed (cmd : WorkerCommand) (g : Registry) : WorkerCommand := { cmd with ticket := g.nextTicket }

/-- What an enqueue does when the router accepts the command. -/
theorem enqueueCommand_accepted (cmd : WorkerCommand)
    (h : (g.routers.lookup rid).any accepts = true) :
    queueOf rid (enqueueCommand rid cmd g) = queueOf rid g ++ [ticketed cmd g] ∧
      (∀ rid', rid' ≠ rid → queueOf rid' (enqueueCommand rid cmd g) = queueOf rid' g) ∧
      (enqueueCommand rid cmd g).replies = g.replies ∧
      (enqueueCommand rid cmd g).nextTicket = g.nextTicket + 1 := by
  unfold enqueueCommand
  simp only [h, if_true]
  refine ⟨queueOf_modifyRouter_self (fun r hr => ?_) fun hnone => ?_, fun rid' hne => ?_, rfl, rfl⟩
  · have hr : g.routers.lookup rid = some r := hr
    simp [queueOf, hr, ticketed]
  · have hnone : g.routers.lookup rid = none := hnone
    simp [hnone] at h
  · exact queueOf_modifyRouter_ne hne

/-- What an enqueue does when the router refuses the command: the promise is set at once. -/
theorem enqueueCommand_refused (cmd : WorkerCommand)
    (h : (g.routers.lookup rid).any accepts = false)
    (hfresh : g.replies.lookup g.nextTicket = none) :
    (enqueueCommand rid cmd g).routers = g.routers ∧
      (enqueueCommand rid cmd g).replies = g.replies.insert g.nextTicket
        (failedReply "router not ready or pending command queue full") ∧
      (enqueueCommand rid cmd g).nextTicket = g.nextTicket + 1 := by
  simp [enqueueCommand, h, Registry.fulfil, hfresh]

theorem routers_fulfil (t : Nat) (rep : CommandReply) (g : Registry) :
    (g.fulfil t rep).routers = g.routers := by
  unfold Registry.fulfil
  split <;> rfl

theorem nextTicket_fulfil (t : Nat) (rep : CommandReply) (g : Registry) :
    (g.fulfil t rep).nextTicket = g.nextTicket := by
  unfold Registry.fulfil
  split <;> rfl

/-- A promise that is not set is set. -/
theorem replies_fulfil {t : Nat} (rep : CommandReply) (h : g.replies.lookup t = none) :
    (g.fulfil t rep).replies = g.replies.insert t rep := by
  simp [Registry.fulfil, h]

/-- Every enqueue takes a ticket. -/
theorem nextTicket_enqueueCommand (rid : Nat) (cmd : WorkerCommand) (g : Registry) :
    (enqueueCommand rid cmd g).nextTicket = g.nextTicket + 1 := by
  unfold enqueueCommand
  dsimp only
  split
  · rfl
  · exact nextTicket_fulfil _ _ _

/-- The promises after one has been set in a registry without any. -/
theorem replies_fulfil_empty (t : Nat) (rep : CommandReply) :
    ((Registry.fulfil t rep {}).replies) = (∅ : UMap Nat CommandReply).insert t rep :=
  replies_fulfil rep (AList.lookup_empty t)

/-- A section that leaves the promises alone sets none. -/
theorem ne_fulfil {f : Registry → Registry} (hf : ∀ g, (f g).replies = g.replies) (t : Nat)
    (rep : CommandReply) : f ≠ Registry.fulfil t rep := by
  rintro rfl
  have h : (∅ : UMap Nat CommandReply).insert t rep = ∅ :=
    (replies_fulfil_empty t rep).symm.trans (hf {})
  have hlookup := congrArg (AList.lookup t) h
  rw [AList.lookup_insert, AList.lookup_empty] at hlookup
  cases hlookup

theorem fulfil_injective {t t' : Nat} {rep rep' : CommandReply}
    (h : Registry.fulfil t rep = Registry.fulfil t' rep') : t = t' ∧ rep = rep' := by
  have h : (Registry.fulfil t rep {}).replies.lookup t =
      (Registry.fulfil t' rep' {}).replies.lookup t := by rw [h]
  rw [replies_fulfil_empty, replies_fulfil_empty, AList.lookup_insert, AList.lookup_insert'] at h
  split at h
  · rename_i heq
    exact ⟨heq, Option.some.inj h⟩
  · rw [AList.lookup_empty] at h
    cases h

end Queues

end EngineResidency.Coordinator
