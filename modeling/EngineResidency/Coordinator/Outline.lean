-- SUMMARY: What the threads of the coordinator know before their actions, the dispatcher of a router in particular.
import EngineResidency.Coordinator.Programs

/-!
# The programs of the coordinator

A session forwards no drain and acknowledges no cleanup. A dispatcher does so in the course of
one command, as it acquires and releases a use, and knows at each of these actions what it has
done since it has taken the command off the queue.
-/

namespace EngineResidency.Coordinator

open EngineResidency.Runtime Prog

open Registry

/-! ## What a thread knows -/

/-- The uses that are still to be released after a step. -/
def owedAfter (uses : List (ServingUseId × EngineIncarnationId)) :
    Deed → List (ServingUseId × EngineIncarnationId)
  | ⟨.call (.acquireServingUse wanted), .ok (.token t)⟩ => uses ++ [(t.useId, wanted.incarnationId)]
  | ⟨.call (.releaseServingUse t _ _), _⟩ => uses.filter (· ≠ (t.useId, t.incarnationId))
  | _ => uses

/-- The uses that a thread has acquired and not released. -/
def owed (h : List Deed) : List (ServingUseId × EngineIncarnationId) := h.foldl owedAfter []

theorem owed_append (h : List Deed) (e : Deed) : owed (h ++ [e]) = owedAfter (owed h) e := by
  simp [owed]

/-- The action does not acquire a use. -/
def Frugal (a : Action) : Prop := ∀ wanted, a ≠ .call (.acquireServingUse wanted)

/-- What is owed after a step was owed before, or has just been acquired. -/
theorem mem_owedAfter {a : Action} {r : a.Res} {uses : List (ServingUseId × EngineIncarnationId)}
    {x : ServingUseId × EngineIncarnationId} (hx : x ∈ owedAfter uses ⟨a, r⟩) :
    x ∈ uses ∨ ∃ wanted, a = .call (.acquireServingUse wanted) ∧ x.2 = wanted.incarnationId := by
  unfold owedAfter at hx
  split at hx
  · rename_i wanted t heq
    cases heq
    rcases List.mem_append.mp hx with hold | hnew
    · exact .inl hold
    · rw [List.mem_singleton.mp hnew]
      exact .inr ⟨wanted, rfl, rfl⟩
  · exact .inl (List.mem_filter.mp hx).1
  · exact .inl hx

theorem mem_of_owedAfter {a : Action} (ha : Frugal a) {r : a.Res}
    {uses : List (ServingUseId × EngineIncarnationId)} {x : ServingUseId × EngineIncarnationId}
    (hx : x ∈ owedAfter uses ⟨a, r⟩) : x ∈ uses := by
  rcases mem_owedAfter hx with hold | ⟨wanted, heq, -⟩
  · exact hold
  · exact absurd heq (ha wanted)

theorem owed_step {h : List Deed} (howed : owed h = []) {a : Action} (ha : Frugal a) (r : a.Res) :
    owed (h ++ [⟨a, r⟩]) = [] := by
  refine List.eq_nil_iff_forall_not_mem.mpr fun x hx => ?_
  rw [owed_append] at hx
  have hmem := mem_of_owedAfter ha hx
  rw [howed] at hmem
  cases hmem

/-- The thread has seen that the router is bound to the incarnation. -/
def SeenBound (h : List Deed) (rid : Nat) (id : EngineIncarnationId) : Prop :=
  ∃ (ready : Registry → Bool) (f : Registry → Registry) (g : Registry) (r : WorkerRouter),
    (⟨.locked ready f, g⟩ : Deed) ∈ h ∧ g.routers.lookup rid = some r ∧ r.incarnation = id

theorem SeenBound.append {h : List Deed} {rid : Nat} {id : EngineIncarnationId}
    (hseen : SeenBound h rid id) (es : List Deed) : SeenBound (h ++ es) rid id := by
  obtain ⟨ready, f, g, r, hmem, hrest⟩ := hseen
  exact ⟨ready, f, g, r, List.mem_append_left es hmem, hrest⟩

/-- The last two steps: a drain was forwarded, and a frame was received. -/
def DrainAnswered (h : List Deed) : Prop :=
  ∃ (before : List Deed) (d m : ProtocolMessage), d.type = .drain ∧
    h = before ++ [⟨.send d, true⟩, ⟨.recv, some m⟩]

/-- The last step has registered an incarnation. -/
def JustRegistered (h : List Deed) (inc : EngineIncarnation) : Prop :=
  ∃ (before : List Deed) (worker : WorkerDescription) (permit : RegistrationPermit),
    h = before ++ [⟨.call (.registerIncarnation worker permit), .ok (.incarnation inc)⟩]

/-- A step has made the router take its socket. -/
def Adopted (h : List Deed) (rid : Nat) : Prop :=
  ∃ (ready : Registry → Bool) (f : Registry → Registry) (g : Registry),
    (⟨.locked ready f, g⟩ : Deed) ∈ h ∧ ¬ g.Spent rid ∧ (f g).Spent rid

/-- A step has left the router dead. -/
def Killed (h : List Deed) (rid : Nat) : Prop :=
  ∃ (ready : Registry → Bool) (f : Registry → Registry) (g : Registry),
    (⟨.locked ready f, g⟩ : Deed) ∈ h ∧
      ∀ r, (f g).routers.lookup rid = some r → r.alive = false

theorem Killed.append {h : List Deed} {rid : Nat} (hkilled : Killed h rid) (es : List Deed) :
    Killed (h ++ es) rid := by
  obtain ⟨ready, f, g, hmem, hdead⟩ := hkilled
  exact ⟨ready, f, g, List.mem_append_left es hmem, hdead⟩

/-- What a thread relies on in a critical section: a router that it has killed is dead. -/
def Relies (l : Loop) (h : List Deed) (g : Registry) : Prop :=
  ∀ s rid, l = .dispatch s rid → Killed h rid → g.Dead rid

/-- A step has emptied the queue of a router that was killed before. -/
def Emptied (h : List Deed) (rid : Nat) : Prop :=
  ∃ (before after : List Deed) (ready : Registry → Bool) (f : Registry → Registry) (g : Registry),
    h = before ++ ⟨.locked ready f, g⟩ :: after ∧ Killed before rid ∧ queueOf rid (f g) = []

/-- A step has found that a router does not live, after it was made to take its socket. -/
def FoundDead (h : List Deed) (rid : Nat) : Prop :=
  ∃ (before after : List Deed) (ready : Registry → Bool) (f : Registry → Registry) (g : Registry),
    h = before ++ ⟨.locked ready f, g⟩ :: after ∧ Adopted before rid ∧ routerAlive rid g = false

/-! ### Commands -/

/-- The commands that a step has taken off the queue of a router. -/
def removedBy (rid : Nat) : Deed → List WorkerCommand
  | ⟨.locked _ f, g⟩ => leaving rid g (f g)
  | _ => []

def removed (rid : Nat) (h : List Deed) : List WorkerCommand := h.flatMap (removedBy rid)

theorem removedBy_locked (rid : Nat) (ready : Registry → Bool) (f : Registry → Registry)
    (g : Registry) : removedBy rid ⟨.locked ready f, g⟩ = leaving rid g (f g) := rfl

theorem removed_append (rid : Nat) (h : List Deed) (e : Deed) :
    removed rid (h ++ [e]) = removed rid h ++ removedBy rid e := by
  simp [removed]

def tickets (cmds : List WorkerCommand) : List Nat := cmds.map (·.ticket)

/-- A step has set the promise, or tried to. -/
def Fulfilled (h : List Deed) (t : Nat) : Prop :=
  ∃ (ready : Registry → Bool) (rep : CommandReply) (g : Registry),
    (⟨.locked ready (Registry.fulfil t rep), g⟩ : Deed) ∈ h

theorem Fulfilled.append {h : List Deed} {t : Nat} (hfulfilled : Fulfilled h t) (es : List Deed) :
    Fulfilled (h ++ es) t := by
  obtain ⟨ready, rep, g, hmem⟩ := hfulfilled
  exact ⟨ready, rep, g, List.mem_append_left es hmem⟩

theorem not_fulfilled_nil {t : Nat} : ¬ Fulfilled [] t := by
  rintro ⟨_, _, _, hmem⟩
  cases hmem

/-- A promise that is set after a step was set before, or by the step. -/
theorem fulfilled_concat {h : List Deed} {e : Deed} {t : Nat} (hfulfilled : Fulfilled (h ++ [e]) t) :
    Fulfilled h t ∨ ∃ ready rep g, e = ⟨.locked ready (Registry.fulfil t rep), g⟩ := by
  obtain ⟨ready, rep, g, hmem⟩ := hfulfilled
  rcases List.mem_append.mp hmem with hold | hnew
  · exact .inl ⟨ready, rep, g, hold⟩
  · exact .inr ⟨ready, rep, g, (List.mem_singleton.mp hnew).symm⟩

/-- What a successful reply rests on: the command was taken off the queue, and the worker
has sent a frame that was no error. -/
def Backed (rid : Nat) (h : List Deed) (t : Nat) (rep : CommandReply) : Prop :=
  ∃ (before after : List Deed) (cmd : WorkerCommand) (resp : ProtocolMessage),
    h = before ++ ⟨.recv, some resp⟩ :: after ∧ removed rid before = [cmd] ∧ cmd.ticket = t ∧
      resp.type ≠ .error ∧
      (cmd.type = .execute → rep = answeredReply true (parsePayload resp.payload)
        (get (parsePayload resp.payload) "detail" "execute result"))

/-! ### Outlines -/

/-- The critical sections of a thread, with what it knows before each. -/
inductive Critical (l : Loop) (h : List Deed) (f : Registry → Registry) : Prop
  | neutral (hf : Neutral f)
  /-- A router is added for an incarnation that was just registered. -/
  | bind {sid : UInt64} {inc : EngineIncarnation} (hjust : JustRegistered h inc)
    (hf : f = bindSession sid inc)
  | enqueue {s : SessionLocal} {rid : Nat} {cmd : WorkerCommand} (hl : l = .session s)
    (hf : f = enqueueCommand rid cmd)
  | adopt {s : SessionLocal} {rid : Nat} (hl : l = .session s) (hf : f = adoptSocket rid)
  | start {s : SessionLocal} {rid : Nat} (hl : l = .session s) (hf : f = startRouter rid)
  /-- A dispatcher takes a command right after it has found its router alive. -/
  | pop {s : SessionLocal} {rid : Nat} (hl : l = .dispatch s rid)
    (halive : ∃ ready g, h = [⟨.locked ready id, g⟩] ∧ routerAlive rid g = true)
    (hf : f = popCommand rid)
  | kill {s : SessionLocal} {rid : Nat} (hl : l = .dispatch s rid) (hf : f = killRouter rid)
  | swap {s : SessionLocal} {rid : Nat} (hl : l = .dispatch s rid) (hkilled : Killed h rid)
    (hf : f = swapQueue rid)
  | close {s : SessionLocal} {rid : Nat} (hl : l = .dispatch s rid) (hkilled : Killed h rid)
    (hf : f = closeSocket rid)
  /-- A dispatcher answers a command that it has taken and not answered, and owes nothing. -/
  | fulfil {s : SessionLocal} {rid t : Nat} {rep : CommandReply} (hl : l = .dispatch s rid)
    (howed : owed h = []) (hmem : t ∈ tickets (removed rid h))
    (hfresh : (tickets (removed rid h)).Nodup → ¬ Fulfilled h t)
    (hbacked : rep.ok = true → Backed rid h t rep) (hf : f = Registry.fulfil t rep)

/-- What holds before an action of a thread, in terms of the steps of its round. -/
def Guarantee (l : Loop) (h : List Deed) : Action → Prop
  | .call (.acquireServingUse wanted) =>
    ∀ s rid, l = .dispatch s rid → SeenBound h rid wanted.incarnationId ∧ ∀ t, ¬ Fulfilled h t
  | .call (.acknowledgeBackendCleanup id) =>
    ∃ s rid, l = .dispatch s rid ∧ SeenBound h rid id ∧ DrainAnswered h
  | .send m =>
    m.type = .drain → ∃ s rid id, l = .dispatch s rid ∧ SeenBound h rid id ∧ owed h = []
  | .locked _ f => Critical l h f
  | _ => True

/-- What holds at the end of a round. A dispatcher owes nothing and has answered every
command that it has taken; it goes on as the dispatcher of its router, or leaves the router
dead and its queue empty. Whoever else goes on as a dispatcher has made the router take its
socket; where that ends in spite of it, it has found the router dead. -/
structure Settled (l : Loop) (next : Option Loop) (h : List Deed) : Prop where
  owed : ∀ s rid, l = .dispatch s rid → owed h = []
  answered : ∀ s rid, l = .dispatch s rid → ∀ cmd ∈ removed rid h, Fulfilled h cmd.ticket
  stays : ∀ s rid l', l = .dispatch s rid → next = some l' → ∃ s', l' = .dispatch s' rid
  emptied : ∀ s rid, l = .dispatch s rid → next = none → Emptied h rid
  adopted : ∀ s rid, next = some (.dispatch s rid) → (∃ s', l = .dispatch s' rid) ∨ Adopted h rid
  found : ∀ rid, (∀ s k, l ≠ .dispatch s k) → next = none → Adopted h rid → FoundDead h rid

/-- A critical section keeps the routers, or adds one. -/
theorem Critical.steady {l : Loop} {h : List Deed} {f : Registry → Registry} {g : Registry}
    (hcritical : Critical l h f) (hrelies : Relies l h g) :
    g.Steady (f g) ∨ ∃ sid inc, JustRegistered h inc ∧ f g = bindSession sid inc g := by
  cases hcritical with
  | neutral hf => exact .inl (steady_of_routers (hf.routers g) (hf.nextRouter g))
  | @bind sid inc hjust hf => exact .inr ⟨sid, inc, hjust, hf ▸ rfl⟩
  | enqueue _ hf => exact .inl (hf ▸ steady_enqueueCommand _ _)
  | adopt _ hf =>
    subst hf
    refine .inl (steady_modifyRouter fun r _ => ?_)
    cases hadopt : adoptable r with
    | false => simpa [hadopt] using WorkerRouter.Kept.refl r
    | true => exact ⟨rfl, id, fun hspent => absurd hadopt (by simp [hspent])⟩
  | start _ hf =>
    subst hf
    refine .inl (steady_modifyRouter fun r _ => ?_)
    split <;> exact ⟨rfl, id, id⟩
  | pop _ _ hf => exact .inl (hf ▸ steady_modifyRouter fun _ _ => ⟨rfl, id, id⟩)
  | kill _ hf =>
    subst hf
    exact .inl (steady_modifyRouter fun _ _ => ⟨rfl, fun _ => rfl, fun _ => by simp [adoptable]⟩)
  | swap _ _ hf => exact .inl (hf ▸ steady_modifyRouter fun _ _ => ⟨rfl, id, id⟩)
  | @close s rid hl hkilled hf => exact .inl (hf ▸ steady_close (hrelies s rid hl hkilled))
  | fulfil _ _ _ _ _ hf => exact .inl (hf ▸ steady_fulfil _ _)

/-! ## Sessions -/

section Adoption

variable {h : List Deed} {rid : Nat}

theorem adopted_concat {e : Deed} (hadopted : Adopted (h ++ [e]) rid) :
    Adopted h rid ∨ ∃ ready f g, e = ⟨.locked ready f, g⟩ ∧ ¬ g.Spent rid ∧ (f g).Spent rid := by
  obtain ⟨ready, f, g, hmem, hspends⟩ := hadopted
  rcases List.mem_append.mp hmem with hold | hnew
  · exact .inl ⟨ready, f, g, hold, hspends⟩
  · exact .inr ⟨ready, f, g, (List.mem_singleton.mp hnew).symm, hspends⟩

/-- A section that makes no router take its socket. -/
theorem Adopted.before {ready : Registry → Bool} {f : Registry → Registry} {g : Registry}
    (hspent : (f g).Spent rid → g.Spent rid) (hadopted : Adopted (h ++ [⟨.locked ready f, g⟩]) rid) :
    Adopted h rid := by
  rcases adopted_concat hadopted with hold | ⟨ready', f', g', heq, hfree, hspends⟩
  · exact hold
  · cases heq
    exact absurd (hspent hspends) hfree

theorem spent_of_routers {g g' : Registry} (heq : g'.routers = g.routers) (hspent : g'.Spent rid) :
    g.Spent rid := by
  obtain ⟨r, hr, hspent⟩ := hspent
  exact ⟨r, heq ▸ hr, hspent⟩

theorem spent_of_modifyRouter {g : Registry} {k : Nat} {F : WorkerRouter → WorkerRouter}
    (hF : rid = k → ∀ r, adoptable (F r) = false → adoptable r = false)
    (hspent : (g.modifyRouter k F).Spent rid) : g.Spent rid := by
  obtain ⟨r', hr', hspent⟩ := hspent
  rw [modifyRouter, AList.lookup_modify] at hr'
  split at hr'
  · rename_i heq
    obtain ⟨r, hr, rfl⟩ := Option.map_eq_some_iff.mp hr'
    exact ⟨r, heq ▸ hr, hF heq r hspent⟩
  · exact ⟨r', hr', hspent⟩

theorem Adopted.append (hadopted : Adopted h rid) (es : List Deed) : Adopted (h ++ es) rid := by
  obtain ⟨ready, f, g, hmem, hspends⟩ := hadopted
  exact ⟨ready, f, g, List.mem_append_left es hmem, hspends⟩

/-- A router that could take a socket has taken it. -/
theorem adopted_adoptSocket {ready : Registry → Bool} {g : Registry}
    (hadopts : (g.routers.lookup rid).any adoptable = true) :
    Adopted (h ++ [⟨.locked ready (adoptSocket rid), g⟩]) rid := by
  obtain ⟨r, hr, hadopt⟩ : ∃ r, g.routers.lookup rid = some r ∧ adoptable r = true := by
    simpa [Option.any_eq_true] using hadopts
  refine ⟨_, _, g, List.mem_append_right _ (List.mem_singleton_self _), ?_, ?_⟩
  · rintro ⟨r', hr', hspent⟩
    cases hr.symm.trans hr'
    rw [hadopt] at hspent
    cases hspent
  · refine ⟨_, (AList.lookup_modify_self ..).trans (congrArg _ hr), ?_⟩
    dsimp only
    rw [if_pos hadopt]
    rfl

/-- No step has made a router take its socket. -/
def Unadopted (h : List Deed) : Prop := ∀ rid, ¬ Adopted h rid

theorem unadopted_nil : Unadopted [] := by
  rintro rid ⟨_, _, _, hmem, -⟩
  cases hmem

theorem Unadopted.step (hnone : Unadopted h) {a : Action} (ha : ∀ ready f, a ≠ .locked ready f)
    (r : a.Res) : Unadopted (h ++ [⟨a, r⟩]) := by
  intro rid hadopted
  rcases adopted_concat hadopted with hold | ⟨ready, f, g, heq, -⟩
  · exact hnone rid hold
  · cases heq
    exact ha ready f rfl

end Adoption

section Session

variable {A : Type} {s : SessionLocal} {h : List Deed}

theorem Plain.guarantee {a : Action} (ha : Plain a) (s : SessionLocal) (h : List Deed) :
    Guarantee (.session s) h a := by
  unfold Guarantee
  split
  · exact nofun
  · exact ha.elim
  · exact fun hdrain => absurd hdrain ha.2
  · rcases ha with (rfl | ⟨sid, rfl⟩) | ⟨rid, cmd, heq⟩
    · exact .neutral neutral_id
    · exact .neutral (neutral_touchSession sid)
    · exact .enqueue rfl heq
  · trivial

/-- A part of a session that is made of plain actions. -/
theorem outline_plain {Q : A → List Deed → Prop} {p : Thread A} (hp : p.Only Plain)
    (hQ : ∀ a h, Q a h) : Outline (Guarantee (.session s)) Q p h :=
  hp.outline (I := fun _ => True) (fun h _ _ ha => ha.guarantee s h) (fun _ _ _ _ _ => trivial)
    (fun a h _ => hQ a h) trivial

theorem settled_session (next : SessionLocal) (h : List Deed) :
    Settled (.session s) (some (.session next)) h :=
  ⟨nofun, nofun, nofun, nofun, nofun, nofun⟩

/-- A session that goes on after plain actions. -/
theorem outline_goesOn {p : Thread A} (hp : p.Only Plain) (next : A → SessionLocal) :
    Outline (Guarantee (.session s)) (Settled (.session s))
      (p >>= fun a => pure (some (.session (next a)))) h :=
  outline_bind (outline_plain hp fun a h => settled_session (next a) h)

/-- A session that goes on after a handler that routes nothing. -/
theorem outline_serves {p : Thread A} (hp : p.Only Modest) (next : A → SessionLocal) :
    Outline (Guarantee (.session s)) (Settled (.session s))
      (p >>= fun a => pure (some (.session (next a)))) h :=
  outline_goesOn (plain_of_modest hp) next

theorem outline_endSession (hfound : ∀ rid, Adopted h rid → FoundDead h rid) :
    Outline (Guarantee (.session s)) (Settled (.session s)) (endSession s) h := by
  refine outline_perform (.neutral (neutral_forgetSession s)) fun g => ?_
  refine ⟨nofun, nofun, nofun, nofun, nofun, fun rid _ _ hadopted => ?_⟩
  obtain ⟨before, after, ready, f, g', rfl, hrest⟩ :=
    hfound rid (hadopted.before (spent_of_routers ((neutral_forgetSession s).routers g)))
  exact ⟨before, after ++ [_], ready, f, g', List.append_assoc _ _ _, hrest⟩

theorem outline_attempt {Q : A → List Deed → Prop} {fallback : A} {body : Body A}
    (hbody : Outline (Guarantee (.session s)) (fun _ _ => True) body.run h)
    (hQ : ∀ a h, Q a h) : Outline (Guarantee (.session s)) Q (attempt fallback body) h := by
  refine outline_bind (outline_mono (fun r h _ => ?_) hbody)
  split
  · exact hQ _ _
  · exact outline_plain (plain_of_modest (only_bind (modest_send ⟨nofun, nofun⟩) fun _ => only_pure)) hQ
  · exact outline_plain (only_bind (only_perform trivial) fun _ => only_pure) hQ

/-- The router that a session adds is bound to the incarnation it has just registered. -/
theorem outline_handleRegister {Q : EngineIncarnationId → List Deed → Prop} {f : Fields}
    (hQ : ∀ id h, Q id h) : Outline (Guarantee (.session s)) Q (handleRegister s f) h := by
  refine outline_attempt ⟨trivial, fun res => ?_⟩ hQ
  rcases res with e | reply
  · trivial
  cases reply with
  | permit permit =>
    refine ⟨trivial, fun res => ?_⟩
    rcases res with e | reply
    · trivial
    cases reply with
    | incarnation inc =>
      refine ⟨.bind ⟨_, _, permit, rfl⟩ rfl, fun g => ?_⟩
      refine outline_plain ?_ fun _ _ => trivial
      repeat' first
        | exact only_ok
        | exact only_lift (only_perform trivial)
        | exact only_lift (only_perform ⟨nofun, nofun⟩)
        | refine only_andThen ?_ fun _ => ?_
    | _ => trivial
  | _ => trivial

/-- A session goes on as the dispatcher of a router that it has made take its socket, or it
ends because it has found the router dead. -/
theorem outline_handleCommandReady (hnone : Unadopted h) :
    Outline (Guarantee (.session s)) (Settled (.session s)) (handleCommandReady s) h := by
  refine outline_perform (.neutral neutral_id) fun g => ?_
  split
  · exact outline_serves (modest_send ⟨by nofun, by nofun⟩) fun _ => s
  rename_i rid r hr
  have hread : Unadopted (h ++ [⟨.locked (fun _ => true) id, g⟩]) := fun rid hadopted =>
    hnone rid (hadopted.before (spent_of_routers rfl))
  refine outline_perform (by nofun) fun sent => ?_
  have hsent := hread.step (a := .send _) nofun sent
  refine outline_perform (.adopt rfl rfl) fun g => ?_
  split
  · exact settled_session _ _
  rename_i hadopts
  refine outline_perform (.start rfl rfl) fun g' => ?_
  rw [Bool.not_eq_true, Bool.not_eq_false'] at hadopts
  split
  · refine ⟨nofun, nofun, nofun, nofun, fun s' rid' heq => .inr ?_, nofun⟩
    cases heq
    exact (adopted_adoptSocket hadopts).append _
  · rename_i hdead
    refine outline_endSession fun rid' hadopted => ?_
    have hbefore := hadopted.before (spent_of_modifyRouter fun _ r hspent => by
      split at hspent <;> exact hspent)
    by_cases hne : rid' = rid
    · subst hne
      exact ⟨_, [], _, _, g', rfl, hbefore, by simpa [routerAlive] using hdead⟩
    · exact absurd (hbefore.before (spent_of_modifyRouter fun heq => absurd heq hne)) (hsent rid')

theorem outline_handle (msg : ProtocolMessage) (hnone : Unadopted h) :
    Outline (Guarantee (.session s)) (Settled (.session s)) (handle s msg) h := by
  unfold handle
  dsimp only
  split
  · exact outline_serves (modest_handleHello _) fun _ => s
  · exact outline_bind (outline_handleRegister fun _ h => settled_session _ h)
  · exact outline_serves (modest_handlePublishComponent _ _) fun _ => s
  · exact outline_serves (modest_handlePrepare _) fun _ => s
  · exact outline_serves (modest_handleQueryReadiness _ _) fun _ => s
  · exact outline_serves (modest_handleActivate _ _) fun _ => s
  · exact outline_serves (modest_handleAcquireUse _ _) fun _ => s
  · exact outline_serves (modest_handleReleaseUse _ _) fun _ => s
  · exact outline_goesOn (plain_handleDrain _ _ _) fun _ => s
  · exact outline_goesOn (plain_handleExecute _ _) fun _ => s
  · exact outline_serves (modest_handleReplace _) fun _ => s
  · exact outline_serves (modest_handleFenceWorker _) fun _ => s
  · exact outline_serves modest_handleSave fun _ => s
  · exact outline_serves (modest_handleExecutionResult _ _) fun _ => s
  · exact outline_handleCommandReady hnone
  · exact outline_serves (modest_handleQueryDrain _ _) fun _ => s
  · refine outline_perform (by nofun) fun sent => ?_
    exact outline_endSession fun rid hadopted =>
      absurd hadopted (hnone.step (a := .send _) nofun sent rid)
  · exact outline_serves (modest_send ⟨by nofun, by nofun⟩) fun _ => s

theorem outline_receive :
    Outline (Guarantee (.session s)) (Settled (.session s)) (receive s) [] := by
  unfold receive
  dsimp only
  split
  · refine outline_perform trivial fun received => ?_
    have hreceived := unadopted_nil.step (a := .recv) nofun received
    cases received with
    | none => exact outline_endSession fun rid hadopted => absurd hadopted (hreceived rid)
    | some msg =>
      dsimp only
      split
      · refine outline_perform trivial fun epoch => ?_
        split
        · exact outline_serves (modest_send ⟨by nofun, by nofun⟩) fun _ => s
        · exact outline_handle msg (hreceived.step (a := .query _) nofun epoch)
      · exact outline_handle msg hreceived
  · exact outline_endSession fun rid hadopted => absurd hadopted (unadopted_nil rid)

end Session

/-! ## Dispatchers -/

/-- The action acquires no use, and leaves queues and promises alone. -/
structure Harmless (a : Action) : Prop where
  frugal : Frugal a
  neutral : ∀ ready f, a = .locked ready f → Neutral f

/-- An action outside the registry that acquires no use. -/
theorem harmless_of {a : Action} (hfrugal : Frugal a) (ha : ∀ ready f, a ≠ .locked ready f) :
    Harmless a :=
  ⟨hfrugal, fun ready f heq => absurd heq (ha ready f)⟩

section Dispatch

variable {A : Type} {s : SessionLocal} {rid : Nat} {r : WorkerRouter} {h : List Deed}
  {cmd : WorkerCommand} {Q : A → List Deed → Prop}

theorem Harmless.removed {a : Action} (ha : Harmless a) (r : a.Res) :
    removed rid (h ++ [⟨a, r⟩]) = removed rid h := by
  rw [removed_append]
  cases a with
  | locked ready f =>
    have hf := ha.neutral ready f rfl
    rw [removedBy, leaving_same (queueOf_of_routers (hf.routers r) rid), List.append_nil]
  | _ => exact List.append_nil _

theorem Harmless.fulfilled {a : Action} (ha : Harmless a) {r : a.Res} {t : Nat}
    (hfulfilled : Fulfilled (h ++ [⟨a, r⟩]) t) : Fulfilled h t := by
  rcases fulfilled_concat hfulfilled with hold | ⟨ready, rep, g, heq⟩
  · exact hold
  · cases heq
    exact absurd rfl (ne_fulfil (ha.neutral ready _ rfl).replies t rep)

/-! ### Commands that are to be answered -/

/-- The tickets `ts` are those that the dispatcher has taken and still has to answer, and
it owes no use. -/
structure Due (rid : Nat) (h : List Deed) (ts : List Nat) : Prop where
  owed : owed h = []
  rest : ∀ t ∈ tickets (removed rid h), t ∈ ts ∨ Fulfilled h t
  mem : ∀ t ∈ ts, t ∈ tickets (removed rid h)
  closed : ∀ t, Fulfilled h t → t ∈ tickets (removed rid h)
  fresh : (tickets (removed rid h)).Nodup → ts.Nodup ∧ ∀ t ∈ ts, ¬ Fulfilled h t

theorem due_nil (rid : Nat) : Due rid [] [] :=
  ⟨rfl, nofun, nofun, fun _ hfulfilled => absurd hfulfilled not_fulfilled_nil,
    fun _ => ⟨List.nodup_nil, nofun⟩⟩

/-- A step that sets no promise, and may take commands off the queue. -/
theorem Due.take {ts : List Nat} (hdue : Due rid h ts) {ready : Registry → Bool}
    {f : Registry → Registry} {g : Registry} {cmds : List WorkerCommand}
    (hleaving : leaving rid g (f g) = cmds) (hf : ∀ g, (f g).replies = g.replies) :
    Due rid (h ++ [⟨.locked ready f, g⟩]) (tickets cmds ++ ts) := by
  have hfulfilled : ∀ t, Fulfilled (h ++ [⟨.locked ready f, g⟩]) t → Fulfilled h t := by
    intro t hfulfilled
    rcases fulfilled_concat hfulfilled with hold | ⟨ready', rep, g', heq⟩
    · exact hold
    · cases heq
      exact absurd rfl (ne_fulfil hf t rep)
  have hremoved : tickets (removed rid (h ++ [⟨.locked ready f, g⟩])) =
      tickets (removed rid h) ++ tickets cmds := by
    rw [removed_append, removedBy_locked, hleaving, tickets, List.map_append]
    rfl
  refine ⟨owed_step hdue.owed (a := .locked _ _) nofun g, ?_, ?_, ?_, ?_⟩
  · intro t ht
    rw [hremoved] at ht
    rcases List.mem_append.mp ht with hold | hnew
    · exact (hdue.rest t hold).imp (List.mem_append_right _) fun hfulfilled => hfulfilled.append _
    · exact .inl (List.mem_append_left _ hnew)
  · intro t ht
    rw [hremoved]
    rcases List.mem_append.mp ht with hnew | hold
    · exact List.mem_append_right _ hnew
    · exact List.mem_append_left _ (hdue.mem t hold)
  · intro t ht
    rw [hremoved]
    exact List.mem_append_left _ (hdue.closed t (hfulfilled t ht))
  · intro hnodup
    rw [hremoved] at hnodup
    obtain ⟨hold, hnew, hdisjoint⟩ := List.nodup_append'.mp hnodup
    obtain ⟨hts, hfresh⟩ := hdue.fresh hold
    refine ⟨List.nodup_append'.mpr ⟨hnew, hts, fun t ht hts => ?_⟩, fun t ht hset => ?_⟩
    · exact hdisjoint (hdue.mem t hts) ht
    · rcases List.mem_append.mp ht with hleft | hts
      · exact hdisjoint (hdue.closed t (hfulfilled t hset)) hleft
      · exact hfresh t hts (hfulfilled t hset)

/-- The first of the commands is answered. -/
theorem Due.fulfil {t : Nat} {ts : List Nat} (hdue : Due rid h (t :: ts))
    {ready : Registry → Bool} (rep : CommandReply) (g : Registry) :
    Due rid (h ++ [⟨.locked ready (Registry.fulfil t rep), g⟩]) ts := by
  have hremoved : removed rid (h ++ [⟨.locked ready (Registry.fulfil t rep), g⟩]) =
      removed rid h := by
    rw [removed_append, removedBy_locked,
      leaving_same (queueOf_of_routers (routers_fulfil t rep g) rid), List.append_nil]
  have hset : ∀ t', Fulfilled (h ++ [⟨.locked ready (Registry.fulfil t rep), g⟩]) t' →
      Fulfilled h t' ∨ t' = t := by
    intro t' hfulfilled
    rcases fulfilled_concat hfulfilled with hold | ⟨ready', rep', g', heq⟩
    · exact .inl hold
    · have hsection := (Action.locked.inj (congrArg Sigma.fst heq)).2
      exact .inr (fulfil_injective hsection).1.symm
  refine ⟨owed_step hdue.owed (a := .locked _ _) nofun g, ?_, ?_, ?_, ?_⟩
  · intro t' ht'
    rw [hremoved] at ht'
    rcases hdue.rest t' ht' with hmem | hfulfilled
    · rcases List.mem_cons.mp hmem with rfl | hts
      · exact .inr ⟨ready, rep, g, List.mem_append_right _ (List.mem_singleton_self _)⟩
      · exact .inl hts
    · exact .inr (hfulfilled.append _)
  · rw [hremoved]
    exact fun t' ht' => hdue.mem t' (List.mem_cons_of_mem t ht')
  · intro t' ht'
    rw [hremoved]
    rcases hset t' ht' with hold | rfl
    · exact hdue.closed t' hold
    · exact hdue.mem t' List.mem_cons_self
  · rw [hremoved]
    intro hnodup
    obtain ⟨hts, hfresh⟩ := hdue.fresh hnodup
    obtain ⟨hmem, hts⟩ := List.nodup_cons.mp hts
    refine ⟨hts, fun t' ht' hfulfilled => ?_⟩
    rcases hset t' hfulfilled with hold | rfl
    · exact hfresh t' (List.mem_cons_of_mem t ht') hold
    · exact hmem ht'

/-- A section that leaves the queue and the promises alone. -/
theorem Due.keep {ts : List Nat} (hdue : Due rid h ts) {ready : Registry → Bool}
    {f : Registry → Registry} {g : Registry} (hqueue : queueOf rid (f g) = queueOf rid g)
    (hf : ∀ g, (f g).replies = g.replies) : Due rid (h ++ [⟨.locked ready f, g⟩]) ts :=
  hdue.take (leaving_same hqueue) hf

theorem outline_fulfil {Q : Unit → List Deed → Prop} {t : Nat} {ts : List Nat} {rep : CommandReply}
    (hdue : Due rid h (t :: ts)) (hbacked : rep.ok = true → Backed rid h t rep)
    (hQ : ∀ e, Due rid (h ++ [e]) ts → Q () (h ++ [e])) :
    Outline (Guarantee (.dispatch s rid)) Q (fulfil t rep) h := by
  refine outline_perform ?_ fun g => hQ _ (hdue.fulfil rep g)
  exact .fulfil rfl hdue.owed (hdue.mem t List.mem_cons_self)
    (fun hnodup => (hdue.fresh hnodup).2 t List.mem_cons_self) hbacked rfl

/-- The last command is answered. -/
theorem outline_answer {t : Nat} {rep : CommandReply} (hdue : Due rid h [t])
    (hbacked : rep.ok = true → Backed rid h t rep) :
    Outline (Guarantee (.dispatch s rid)) (fun _ h => Due rid h []) (fulfil t rep) h :=
  outline_fulfil hdue hbacked fun _ hdue => hdue

/-! ### The end of a router -/

theorem Emptied.append (hemptied : Emptied h rid) (es : List Deed) : Emptied (h ++ es) rid := by
  obtain ⟨before, after, ready, f, g, rfl, hrest⟩ := hemptied
  exact ⟨before, after ++ es, ready, f, g, List.append_assoc _ _ _, hrest⟩

theorem outline_fulfilAll {Q : Unit → List Deed → Prop} {rep : CommandReply} (hrep : rep.ok = false)
    {ts : List Nat} {cmds : List WorkerCommand} (hdue : Due rid h (tickets cmds ++ ts))
    (hemptied : Emptied h rid) (hQ : ∀ h, Due rid h ts → Emptied h rid → Q () h) :
    Outline (Guarantee (.dispatch s rid)) Q (fulfilAll rep cmds) h := by
  induction cmds generalizing h with
  | nil => exact hQ h hdue hemptied
  | cons cmd cmds ih =>
    refine outline_bind (outline_fulfil hdue ?_ fun e hdue => ih hdue (hemptied.append _))
    rw [hrep]
    nofun

/-- A dispatcher kills its router, answers the commands that are left in the queue, and
closes the socket. -/
theorem outline_fail {Q : Unit → List Deed → Prop} {reason : String} {ts : List Nat}
    (hdue : Due rid h ts) (hQ : ∀ h, Due rid h ts → Emptied h rid → Q () h) :
    Outline (Guarantee (.dispatch s rid)) Q (fail rid reason) h := by
  refine outline_perform (.kill rfl rfl) fun g => ?_
  have hdue : Due rid (h ++ [⟨.locked (fun _ => true) (killRouter rid), g⟩]) ts :=
    hdue.keep (queueOf_killRouter rid g rid) fun _ => rfl
  have hkilled : Killed (h ++ [⟨.locked (fun _ => true) (killRouter rid), g⟩]) rid := by
    refine ⟨_, _, g, List.mem_append_right _ (List.mem_singleton_self _), fun r hr => ?_⟩
    obtain ⟨r₀, -, rfl⟩ := Option.map_eq_some_iff.mp ((AList.lookup_modify_self ..).symm.trans hr)
    rfl
  refine outline_perform (.swap rfl hkilled rfl) fun g' => ?_
  have hswapped : Due rid (h ++ [⟨.locked (fun _ => true) (killRouter rid), g⟩] ++
      [⟨.locked (fun _ => true) (swapQueue rid), g'⟩]) (tickets (queueOf rid g') ++ ts) :=
    hdue.take (leaving_swapQueue rid g') fun _ => rfl
  refine outline_bind (outline_fulfilAll rfl hswapped
    ⟨_, [], _, _, g', rfl, hkilled, queueOf_swapQueue_self rid g'⟩ fun h hdue hemptied => ?_)
  have hkilled : Killed h rid := by
    obtain ⟨before, after, ready, f, g, rfl, hkilled, -⟩ := hemptied
    exact hkilled.append _
  refine outline_perform (.close rfl hkilled rfl) fun g'' => hQ _ ?_ (hemptied.append _)
  exact hdue.keep (f := closeSocket rid) (queueOf_closeSocket rid g'' rid) fun _ => rfl

/-- The reply to a command that has found the worker gone. -/
theorem outline_failed {reason : String} {t : Nat} {rep : CommandReply} (hdue : Due rid h [t])
    (hrep : rep.ok = false) :
    Outline (Guarantee (.dispatch s rid)) (fun _ h => Due rid h [])
      (fail rid reason >>= fun _ => fulfil t rep) h := by
  refine outline_bind (outline_fail hdue fun h hdue _ => outline_answer hdue ?_)
  rw [hrep]
  nofun

/-- A dispatcher that has nothing to answer has answered what it has taken. -/
theorem Due.answered (hdue : Due rid h []) : ∀ cmd ∈ removed rid h, Fulfilled h cmd.ticket := by
  intro cmd hcmd
  exact (hdue.rest cmd.ticket (List.mem_map_of_mem hcmd)).resolve_left List.not_mem_nil

/-- The end of a dispatcher. -/
theorem outline_endDispatch (hdue : Due rid h []) :
    Outline (Guarantee (.dispatch s rid)) (Settled (.dispatch s rid)) (endDispatch s rid) h := by
  refine outline_bind (outline_fail hdue fun h hdue hemptied => ?_)
  refine outline_perform (.neutral (neutral_forgetSession s)) fun g => ?_
  have hdue : Due rid (h ++ [⟨.locked (fun _ => true) (forgetSession s), g⟩]) [] :=
    hdue.keep (queueOf_of_routers rfl rid) fun _ => rfl
  refine ⟨fun _ _ _ => hdue.owed, ?_, nofun, ?_, nofun, fun _ hother => absurd rfl (hother s rid)⟩
  · intro s' rid' heq
    cases heq
    exact hdue.answered
  · intro s' rid' heq _
    cases heq
    exact hemptied.append _

/-! ### In the course of a command -/

/-- The dispatcher has taken one command, and has answered none. -/
structure Carrying (rid : Nat) (id : EngineIncarnationId) (cmd : WorkerCommand) (h : List Deed) :
    Prop where
  bound : SeenBound h rid id
  command : removed rid h = [cmd]
  fresh : ∀ t, ¬ Fulfilled h t

theorem Carrying.step {id : EngineIncarnationId} (hcarrying : Carrying rid id cmd h) {a : Action}
    (ha : Harmless a) (r : a.Res) : Carrying rid id cmd (h ++ [⟨a, r⟩]) :=
  ⟨hcarrying.bound.append _, (ha.removed r).trans hcarrying.command,
    fun t hfulfilled => hcarrying.fresh t (ha.fulfilled hfulfilled)⟩

theorem Carrying.due {id : EngineIncarnationId} (hcarrying : Carrying rid id cmd h)
    (howed : owed h = []) : Due rid h [cmd.ticket] := by
  refine ⟨howed, fun t ht => .inl ?_, fun t ht => ?_, fun t hfulfilled => ?_, fun _ => ?_⟩
  · rwa [hcarrying.command] at ht
  · rwa [hcarrying.command]
  · exact absurd hfulfilled (hcarrying.fresh t)
  · exact ⟨List.nodup_singleton _, fun t _ => hcarrying.fresh t⟩

/-- Nothing is owed besides. -/
def AtRest (rid : Nat) (id : EngineIncarnationId) (cmd : WorkerCommand) (h : List Deed) : Prop :=
  Carrying rid id cmd h ∧ owed h = []

theorem AtRest.step {id : EngineIncarnationId} (hrest : AtRest rid id cmd h) {a : Action}
    (ha : Harmless a) (r : a.Res) : AtRest rid id cmd (h ++ [⟨a, r⟩]) :=
  ⟨hrest.1.step ha r, owed_step hrest.2 ha.frugal r⟩

theorem AtRest.due {id : EngineIncarnationId} (hrest : AtRest rid id cmd h) :
    Due rid h [cmd.ticket] :=
  hrest.1.due hrest.2

/-- A dispatcher that has just taken a command. -/
theorem Due.atRest {id : EngineIncarnationId} (hdue : Due rid h [cmd.ticket])
    (hremoved : removed rid h = [cmd]) (hbound : SeenBound h rid id) : AtRest rid id cmd h := by
  refine ⟨⟨hbound, hremoved, fun t hfulfilled => ?_⟩, hdue.owed⟩
  have hmem := hdue.closed t hfulfilled
  have hfresh := hdue.fresh
  rw [hremoved] at hmem hfresh
  obtain ⟨-, hopen⟩ := hfresh (List.nodup_singleton _)
  exact hopen t hmem hfulfilled

/-- The question whether a command has been overtaken leaves a dispatcher at rest. -/
theorem outline_checkCycle {id : EngineIncarnationId} {epoch authority : UInt32}
    {Q : Option Str → List Deed → Prop} (hrest : AtRest rid id cmd h)
    (hQ : ∀ a h, AtRest rid id cmd h → Q a h) :
    Outline (Guarantee (.dispatch s rid)) Q (checkCycle epoch authority) h := by
  refine (asks_checkCycle epoch authority).outline (I := AtRest rid id cmd) ?_ ?_ hQ hrest
  · rintro _ _ _ ⟨q, rfl⟩
    trivial
  · rintro _ _ r hrest ⟨q, rfl⟩
    exact hrest.step (a := .query q) (harmless_of nofun nofun) r

/-- A command that is answered with a refusal. -/
theorem outline_refused {id : EngineIncarnationId} {rep : CommandReply}
    (hrest : AtRest rid id cmd h) (hrep : rep.ok = false) :
    Outline (Guarantee (.dispatch s rid)) (fun _ h => Due rid h []) (fulfil cmd.ticket rep) h := by
  refine outline_answer hrest.due ?_
  rw [hrep]
  nofun

/-- In the course of a routed execution: no use but one is owed. -/
def OwesOnly (useId : ServingUseId) (rid : Nat) (id : EngineIncarnationId) (cmd : WorkerCommand)
    (h : List Deed) : Prop :=
  Carrying rid id cmd h ∧ ∀ x ∈ owed h, x = (useId, id)

theorem AtRest.owesOnly {id : EngineIncarnationId} (hrest : AtRest rid id cmd h)
    (useId : ServingUseId) : OwesOnly useId rid id cmd h := by
  refine ⟨hrest.1, ?_⟩
  rw [hrest.2]
  nofun

theorem OwesOnly.step {useId : ServingUseId} {id : EngineIncarnationId}
    (howes : OwesOnly useId rid id cmd h) {a : Action} (ha : Harmless a) (r : a.Res) :
    OwesOnly useId rid id cmd (h ++ [⟨a, r⟩]) := by
  refine ⟨howes.1.step ha r, fun x hx => ?_⟩
  rw [owed_append] at hx
  exact howes.2 x (mem_of_owedAfter ha.frugal hx)

theorem outline_acquireUseFor {params : Fields} {k : ServingUseId × Option Str → Thread A}
    (hrest : AtRest rid r.incarnation cmd h)
    (hrefused : ∀ useId err h, AtRest rid r.incarnation cmd h →
      Outline (Guarantee (.dispatch s rid)) Q (k (useId, some err)) h)
    (hadmitted : ∀ useId h, OwesOnly useId rid r.incarnation cmd h →
      Outline (Guarantee (.dispatch s rid)) Q (k (useId, none)) h) :
    Outline (Guarantee (.dispatch s rid)) Q (acquireUseFor r params >>= k) h := by
  refine ⟨fun s' rid' heq => ?_, fun res => ?_⟩
  · cases heq
    exact ⟨hrest.1.bound, hrest.1.fresh⟩
  have hcarrying : Carrying rid r.incarnation cmd
      (h ++ [⟨.call (.acquireServingUse (routedToken r params)), res⟩]) :=
    ⟨hrest.1.bound.append _, by rw [removed_append, hrest.1.command]; rfl, fun t hfulfilled => by
      rcases fulfilled_concat hfulfilled with hold | ⟨ready, rep, g, heq⟩
      · exact hrest.1.fresh t hold
      · cases heq⟩
  have howed := owed_append h ⟨.call (.acquireServingUse (routedToken r params)), res⟩
  rw [hrest.2] at howed
  cases res with
  | error e =>
    have hrest' : AtRest rid r.incarnation cmd _ := ⟨hcarrying, howed⟩
    cases e with
    | domain e => exact hrefused _ _ _ hrest'
    | outOfRange =>
      have hrest'' := hrest'.step (a := .abort) (harmless_of nofun nofun) ()
      exact ⟨trivial, fun _ => hadmitted _ _ (hrest''.owesOnly _)⟩
  | ok reply =>
    cases reply with
    | token t =>
      refine hadmitted _ _ ⟨hcarrying, ?_⟩
      rw [howed]
      intro x hx
      exact List.mem_singleton.mp hx
    | _ => exact hadmitted _ _ (AtRest.owesOnly ⟨hcarrying, howed⟩ _)

theorem outline_releaseUseFor {useId : ServingUseId} {outcome : WorkOutcome} {detail : String}
    {k : Unit → Thread A} (howes : OwesOnly useId rid r.incarnation cmd h)
    (hk : ∀ e, AtRest rid r.incarnation cmd (h ++ [e]) →
      Outline (Guarantee (.dispatch s rid)) Q (k ()) (h ++ [e])) :
    Outline (Guarantee (.dispatch s rid)) Q (releaseUseFor r useId outcome detail >>= k) h := by
  refine ⟨trivial, fun res => hk _ ⟨howes.1.step (by exact harmless_of nofun nofun) res, ?_⟩⟩
  rw [owed_append]
  refine List.filter_eq_nil_iff.mpr fun x hx => ?_
  simp [howes.2 x hx]

theorem outline_processExecute (hrest : AtRest rid r.incarnation cmd h)
    (htype : cmd.type = .execute) :
    Outline (Guarantee (.dispatch s rid)) (fun _ h => Due rid h []) (processExecute rid r cmd) h := by
  unfold processExecute
  refine outline_perform trivial fun fenced => ?_
  have hrest := hrest.step (a := .query (.incarnationIsFenced r.incarnation))
    (harmless_of nofun nofun) fenced
  cases fenced with
  | true => exact outline_refused hrest rfl
  | false =>
    refine outline_perform trivial fun st => ?_
    have hrest := hrest.step (a := .query (.drainState r.incarnation)) (harmless_of nofun nofun) st
    dsimp only
    split
    · exact outline_refused hrest rfl
    refine outline_acquireUseFor hrest (fun useId err h hrest => ?_) fun useId h howes => ?_
    · exact outline_refused hrest rfl
    -- From here on every path releases the use before the command is answered.
    refine outline_perform (fun hdrain => absurd (htype.symm.trans hdrain) nofun) fun sent => ?_
    have howes := howes.step (a := .send _) (harmless_of nofun nofun) sent
    split
    · refine outline_releaseUseFor howes fun e hrest => ?_
      exact outline_failed hrest.due rfl
    refine outline_perform trivial fun received => ?_
    have hreceived := howes.step (a := .recv) (harmless_of nofun nofun) received
    cases received with
    | none =>
      refine outline_releaseUseFor hreceived fun e hrest => ?_
      exact outline_failed hrest.due rfl
    | some resp =>
      refine outline_releaseUseFor hreceived fun e hrest => ?_
      refine outline_answer hrest.due fun hok => ?_
      have hframe : resp.type ≠ .error := by simpa [answeredReply] using hok
      refine ⟨_, [e], cmd, resp, List.append_assoc _ _ _, howes.1.command, rfl, hframe, fun _ => ?_⟩
      simp [hframe]

theorem outline_caughtCall {c : Call} {k : Reply × Option Str → Thread A} {fallback : Reply}
    (hcall : Guarantee (.dispatch s rid) h (.call c)) (hrest : AtRest rid r.incarnation cmd h)
    (hfrugal : Frugal (.call c))
    (hk : ∀ res es, AtRest rid r.incarnation cmd (h ++ es) →
      Outline (Guarantee (.dispatch s rid)) Q (k res) (h ++ es)) :
    Outline (Guarantee (.dispatch s rid)) Q (caught (call c) fallback >>= k) h := by
  refine ⟨hcall, fun res => ?_⟩
  have hrest' := hrest.step (harmless_of hfrugal nofun) res
  cases res with
  | ok reply => exact hk _ _ hrest'
  | error e =>
    cases e with
    | domain e => exact hk _ _ hrest'
    | outOfRange =>
      refine ⟨trivial, fun res => ?_⟩
      have hrest'' := hrest'.step (a := .abort) (harmless_of nofun nofun) res
      rw [List.append_assoc] at hrest'' ⊢
      exact hk _ _ hrest''

theorem outline_processDrain (hrest : AtRest rid r.incarnation cmd h) (htype : cmd.type = .drain) :
    Outline (Guarantee (.dispatch s rid)) (fun _ h => Due rid h []) (processDrain rid r cmd) h := by
  unfold processDrain
  refine outline_perform (fun _ => ⟨s, rid, r.incarnation, rfl, hrest.1.bound, hrest.2⟩)
    fun sent => ?_
  have hsent := hrest.step (a := .send _) (harmless_of nofun nofun) sent
  cases sent with
  | false => exact outline_failed hsent.due rfl
  | true =>
    refine outline_perform trivial fun received => ?_
    have hreceived := hsent.step (a := .recv) (harmless_of nofun nofun) received
    cases received with
    | none => exact outline_failed hreceived.due rfl
    | some resp =>
      -- Any frame leads to the acknowledgement.
      refine outline_caughtCall ?_ hreceived nofun fun err es hrest => ?_
      · exact ⟨s, rid, rfl, hreceived.1.bound, h, _, resp, htype, List.append_assoc _ _ _⟩
      refine outline_perform trivial fun st => ?_
      have hrest := hrest.step (a := .query _) (harmless_of nofun nofun) st
      refine outline_answer hrest.due fun hok => ?_
      have hframe : resp.type ≠ .error := (by simpa [answeredReply] using hok : _ ∧ _).1
      exact ⟨_, es ++ [⟨.query (.drainState _), st⟩], cmd, resp, by simp, hsent.1.command, rfl, hframe,
        fun hexecute => absurd (htype.symm.trans hexecute) nofun⟩

/-- Carrying out a command answers it, and leaves nothing owed. -/
theorem outline_process (hrest : AtRest rid r.incarnation cmd h) :
    Outline (Guarantee (.dispatch s rid)) (fun _ h => Due rid h []) (process rid r cmd) h := by
  refine outline_bind (outline_checkCycle hrest fun stale h hrest => ?_)
  split
  · exact outline_refused hrest rfl
  · split
    · rename_i htype
      exact outline_processExecute hrest htype
    · rename_i htype
      exact outline_processDrain hrest htype
    · exact outline_refused hrest rfl

theorem outline_dispatchNext :
    Outline (Guarantee (.dispatch s rid)) (Settled (.dispatch s rid)) (dispatchNext s rid) [] := by
  refine outline_perform (.neutral neutral_id) fun g => ?_
  have hread : Due rid [⟨.locked (fun _ => true) id, g⟩] [] :=
    (due_nil rid).keep rfl fun _ => rfl
  split
  · exact outline_endDispatch hread
  rename_i halive
  refine outline_perform (.pop rfl ⟨_, g, rfl, by simpa [routerAlive] using halive⟩ rfl)
    fun (g' : Registry) => ?_
  -- What has been taken is the head of the queue.
  have htaken : Due rid ([⟨.locked (fun _ => true) id, g⟩] ++
      [⟨.locked (mayPop rid) (popCommand rid), g'⟩])
      (tickets (queueOf rid g').head?.toList ++ []) :=
    hread.take (leaving_popCommand rid g') fun _ => rfl
  split
  · rename_i hnone
    have hempty : queueOf rid g' = [] := by simp [queueOf, hnone]
    rw [hempty] at htaken
    exact outline_endDispatch htaken
  · rename_i r hr
    have hqueue : queueOf rid g' = r.queue := by simp [queueOf, hr]
    split
    · rename_i hnil
      rw [hqueue, hnil] at htaken
      exact outline_endDispatch htaken
    · rename_i cmd rest hcons
      rw [hqueue, hcons] at htaken
      have hnone : removed rid [⟨.locked (fun _ => true) id, g⟩] = [] :=
        (List.append_nil _).trans (leaving_same rfl)
      have hpop : leaving rid g' (popCommand rid g') = [cmd] := by
        rw [leaving_popCommand, hqueue, hcons]
        rfl
      have hrest : AtRest rid r.incarnation cmd ([⟨.locked (fun _ => true) id, g⟩] ++
          [⟨.locked (mayPop rid) (popCommand rid), g'⟩]) := by
        refine htaken.atRest ((removed_append ..).trans (congrArg₂ (· ++ ·) hnone hpop))
          ⟨_, _, g', r, List.mem_append_right _ (List.mem_singleton_self _), hr, rfl⟩
      refine outline_bind (outline_mono (fun _ h hdue => ?_) (outline_process hrest))
      refine ⟨fun _ _ _ => hdue.owed, fun s' rid' heq => ?_, fun s' rid' l' heq hnext => ?_,
        by simp, fun s' rid' heq => .inl ⟨s, ?_⟩, by simp⟩
      · cases heq
        exact hdue.answered
      · cases heq
        cases hnext
        exact ⟨s, rfl⟩
      · cases heq
        rfl

end Dispatch

/-- Every program of the coordinator has its outline. -/
theorem outline_runSession (l : Loop) :
    (runSession l).Outline (Guarantee l) (Settled l) [] := by
  cases l with
  | start =>
    exact outline_perform (.neutral neutral_takeSession) fun _ =>
      ⟨nofun, nofun, nofun, nofun, nofun, nofun⟩
  | session s => exact outline_receive
  | dispatch s rid => exact outline_dispatchNext

end EngineResidency.Coordinator
