-- SUMMARY: No routed command is lost or answered twice, in every interleaving.
import EngineResidency.Coordinator.Ledger
import Mathlib.Data.List.Flatten

/-!
# Routed commands

A command that has been taken off a queue is in the hands of one thread: the dispatcher of
the router, in its current round. `Serving` says what holds of such a round, and `Kept` what
every turn keeps of the whole coordinator. So every command that a router has accepted is
queued, in the hands of its dispatcher, or answered, and it is answered once.
-/

namespace EngineResidency.Coordinator

open EngineResidency.Runtime

/-! ## Sections and the life of a router -/

section Alive

variable {l : Loop} {h : List Deed} {g : Registry} {f : Registry → Registry} {rid : Nat}

theorem routerAlive_of_routers {g g' : Registry} (h : g'.routers = g.routers) (rid : Nat) :
    routerAlive rid g' = routerAlive rid g := by
  unfold routerAlive
  rw [h]

theorem routerAlive_modifyRouter {F : WorkerRouter → WorkerRouter} {k : Nat}
    (hF : k = rid → ∀ r, (F r).alive = r.alive) :
    routerAlive rid (g.modifyRouter k F) = routerAlive rid g := by
  unfold routerAlive Registry.modifyRouter
  rw [AList.lookup_modify]
  split
  · rename_i heq
    subst heq
    cases hr : g.routers.lookup rid with
    | none => rfl
    | some r => exact hF rfl r
  · rfl

theorem routerAlive_enqueueCommand (k : Nat) (cmd : WorkerCommand) (g : Registry) :
    routerAlive rid (enqueueCommand k cmd g) = routerAlive rid g := by
  unfold enqueueCommand
  dsimp only
  split
  · exact routerAlive_modifyRouter fun _ _ => rfl
  · exact routerAlive_of_routers (routers_fulfil _ _ _) rid

theorem routerAlive_bindSession {sid : UInt64} {inc : EngineIncarnation}
    (hnumbered : g.Numbered) (halive : routerAlive rid g = true) :
    routerAlive rid (bindSession sid inc g) = true := by
  unfold routerAlive at halive ⊢
  cases hr : g.routers.lookup rid with
  | none => simp [hr] at halive
  | some r =>
    have hne : rid ≠ g.nextRouter := Nat.ne_of_lt (hnumbered rid r hr)
    rw [Registry.lookup_bindSession, if_neg hne]
    exact halive

/-- Only the dispatcher of a router ends its life. -/
theorem Critical.alive (hcritical : Critical l h f) (hnumbered : g.Numbered)
    (hother : ∀ s, l ≠ .dispatch s rid) (halive : routerAlive rid g = true) :
    routerAlive rid (f g) = true := by
  cases hcritical with
  | neutral hf => exact (routerAlive_of_routers (hf.routers g) rid).trans halive
  | bind _ hf => exact hf ▸ routerAlive_bindSession hnumbered halive
  | enqueue _ hf => exact hf ▸ (routerAlive_enqueueCommand _ _ g).trans halive
  | adopt _ hf | start _ hf =>
    subst hf
    exact (routerAlive_modifyRouter fun _ r => by split <;> rfl).trans halive
  | pop _ _ hf | swap _ _ hf | close _ _ hf =>
    subst hf
    exact (routerAlive_modifyRouter fun _ r => by rfl).trans halive
  | @kill s k hl hf =>
    subst hf
    exact (routerAlive_modifyRouter fun heq => absurd (heq ▸ hl) (hother s)).trans halive
  | fulfil _ _ _ _ _ hf =>
    subst hf
    exact (routerAlive_of_routers (routers_fulfil _ _ g) rid).trans halive

theorem spent_of_enqueueCommand {k : Nat} {cmd : WorkerCommand}
    (hspent : (enqueueCommand k cmd g).Spent rid) : g.Spent rid := by
  unfold enqueueCommand at hspent
  dsimp only at hspent
  split at hspent
  · exact spent_of_routers rfl (spent_of_modifyRouter (fun _ _ hr => by exact hr) hspent)
  · refine spent_of_routers (Eq.trans ?_ rfl) hspent
    exact routers_fulfil _ _ _

/-- A router that is made to take its socket is alive. -/
theorem Critical.adopts_alive (hcritical : Critical l h f) (hsession : ∀ s k, l ≠ .dispatch s k)
    (hfree : ¬ g.Spent rid) (hspent : (f g).Spent rid) : routerAlive rid (f g) = true := by
  cases hcritical with
  | neutral hf => exact absurd (spent_of_routers (hf.routers g) hspent) hfree
  | bind _ hf =>
    subst hf
    obtain ⟨r, hr, hspent⟩ := hspent
    rw [Registry.lookup_bindSession] at hr
    split at hr
    · cases hr
      cases hspent
    · exact absurd ⟨r, hr, hspent⟩ hfree
  | @enqueue _ k cmd _ hf =>
    subst hf
    exact absurd (spent_of_enqueueCommand hspent) hfree
  | @adopt _ k _ hf =>
    subst hf
    by_cases hne : rid = k
    · subst hne
      obtain ⟨r', hr', -⟩ := hspent
      rw [adoptSocket, Registry.modifyRouter, AList.lookup_modify_self] at hr'
      obtain ⟨r, hr, rfl⟩ := Option.map_eq_some_iff.mp hr'
      have hadopt : adoptable r = true := by
        by_contra hnot
        exact hfree ⟨r, hr, by simpa using hnot⟩
      refine (routerAlive_modifyRouter fun _ r => by split <;> rfl).trans ?_
      have hboth : r.open_ = false ∧ r.alive = true := by simpa [adoptable] using hadopt
      simp [routerAlive, hr, hboth.2]
    · exact absurd (spent_of_modifyRouter (fun heq => absurd heq hne) hspent) hfree
  | start _ hf =>
    subst hf
    refine absurd (spent_of_modifyRouter (fun _ r hr => ?_) hspent) hfree
    split at hr <;> exact hr
  | pop hl | swap hl | kill hl | close hl | fulfil hl => exact absurd hl (hsession _ _)

end Alive

/-- A promise is set by a dispatcher that owes nothing; a successful reply is backed. -/
theorem Critical.answers {l : Loop} {h : List Deed} {t : Nat} {rep : CommandReply}
    (hcritical : Critical l h (Registry.fulfil t rep)) :
    owed h = [] ∧ ∃ s rid, l = .dispatch s rid ∧ (rep.ok = true → Backed rid h t rep) := by
  generalize hF : Registry.fulfil t rep = F at hcritical
  cases hcritical with
  | neutral hf => exact absurd hF.symm (ne_fulfil hf.replies t rep)
  | enqueue _ hf =>
    have hnext := congrArg Registry.nextTicket (congrFun (hF.trans hf) {})
    rw [nextTicket_fulfil, nextTicket_enqueueCommand] at hnext
    cases hnext
  | bind _ hf | adopt _ hf | start _ hf | pop _ _ hf | kill _ hf | swap _ _ hf | close _ _ hf =>
    exact absurd (hf.symm.trans hF.symm) (ne_fulfil (fun g => by rfl) t rep)
  | @fulfil s rid _ _ hl howed _ _ hbacked hf =>
    obtain ⟨rfl, rfl⟩ := fulfil_injective (hF.trans hf)
    exact ⟨howed, s, rid, hl, hbacked⟩

/-! ## The round of a dispatcher -/

/-- What holds of the current round of the dispatcher of a router, whose steps are `h`. -/
structure Serving (g : Registry) (rid : Nat) (h : List Deed) : Prop where
  /-- What the round has taken, nobody else answers. -/
  answers : ∀ t ∈ tickets (removed rid h), (g.replies.lookup t).isSome = true → Fulfilled h t
  single : (processed rid h).length ≤ 1
  emptied : Emptied h rid → queueOf rid g = []
  /-- A router that was just found alive is alive. -/
  alive : ∀ ready g₀, h = [⟨.locked ready id, g₀⟩] → routerAlive rid g₀ = true →
    routerAlive rid g = true

theorem emptied_concat {h : List Deed} {e : Deed} {rid : Nat} (hemptied : Emptied (h ++ [e]) rid) :
    Emptied h rid ∨
      ∃ ready f g, e = ⟨.locked ready f, g⟩ ∧ Killed h rid ∧ queueOf rid (f g) = [] := by
  obtain ⟨before, after, ready, f, g, heq, hrest⟩ := hemptied
  rcases List.concat_split heq with ⟨rfl, rfl, -⟩ | ⟨after, -, rfl⟩
  · exact .inr ⟨ready, f, g, rfl, hrest⟩
  · exact .inl ⟨before, after, ready, f, g, rfl, hrest⟩

theorem not_emptied_nil {rid : Nat} : ¬ Emptied [] rid := by
  rintro ⟨before, after, ready, f, g, heq, -⟩
  cases before <;> cases heq

theorem Emptied.killed {h : List Deed} {rid : Nat} (hemptied : Emptied h rid) : Killed h rid := by
  obtain ⟨before, after, ready, f, g, rfl, hkilled, -⟩ := hemptied
  exact hkilled.append _

theorem serving_nil (g : Registry) (rid : Nat) : Serving g rid [] :=
  ⟨nofun, Nat.zero_le _, fun hemptied => absurd hemptied not_emptied_nil, nofun⟩

theorem foundDead_concat {h : List Deed} {e : Deed} {rid : Nat}
    (hfound : FoundDead (h ++ [e]) rid) : FoundDead h rid ∨
      ∃ ready f g, e = ⟨.locked ready f, g⟩ ∧ Adopted h rid ∧ routerAlive rid g = false := by
  obtain ⟨before, after, ready, f, g, heq, hrest⟩ := hfound
  rcases List.concat_split heq with ⟨rfl, rfl, -⟩ | ⟨after, -, rfl⟩
  · exact .inr ⟨ready, f, g, rfl, hrest⟩
  · exact .inl ⟨before, after, ready, f, g, rfl, hrest⟩

/-! ### What a round has taken -/

section Removed

variable {rid : Nat} {h : List Deed}

theorem removedBy_eq (rid : Nat) (e : Deed) : removedBy rid e = startedBy rid e ++ sweptBy rid e := by
  obtain ⟨a, r⟩ := e
  cases a with
  | locked ready f =>
    show leaving rid r (f r) = (if _ then _ else _) ++ (if _ then _ else _)
    split
    · exact (List.append_nil _).symm
    · rfl
  | _ => rfl

/-- What was taken off a queue was taken to be processed or to be failed. -/
theorem perm_removed (rid : Nat) (h : List Deed) :
    (processed rid h ++ taken rid h).Perm (tickets (removed rid h)) := by
  have hsplit : removed rid h = h.flatMap fun e => startedBy rid e ++ sweptBy rid e := by
    simp only [removed, ← removedBy_eq]
  rw [hsplit, processed, taken, tickets, tickets, ← List.map_append]
  exact (List.flatMap_append_perm h (startedBy rid) (sweptBy rid)).map _

theorem mem_removed {t : Nat} :
    t ∈ tickets (removed rid h) ↔ t ∈ processed rid h ∨ t ∈ taken rid h :=
  ((perm_removed rid h).mem_iff.symm).trans List.mem_append

theorem sublist_tickets {F : Deed → List WorkerCommand} {h D : List Deed} (hsub : h.Sublist D) :
    (tickets (h.flatMap F)).Sublist (tickets (D.flatMap F)) :=
  (hsub.flatMap F).map _

variable {D : List Deed} {g : Registry}

theorem Booked.nodup_taken (hbooked : Booked D g) (rid : Nat) :
    (processed rid D ++ taken rid D).Nodup := by
  have hnodup : (accepted rid D).Nodup := (hbooked.increasing rid).imp Nat.ne_of_lt
  rw [hbooked.inOrder rid] at hnodup
  exact (List.nodup_append'.mp hnodup).1

/-- What a round has taken is in the ledger. -/
theorem mem_removed_of_sublist (hsub : h.Sublist D) {t : Nat} (ht : t ∈ tickets (removed rid h)) :
    t ∈ processed rid D ++ taken rid D := by
  rcases mem_removed.mp ht with hstarted | hswept
  · exact List.mem_append_left _ ((sublist_tickets hsub).mem hstarted)
  · exact List.mem_append_right _ ((sublist_tickets hsub).mem hswept)

theorem Booked.nodup_removed (hbooked : Booked D g) (hsub : h.Sublist D) (rid : Nat) :
    (tickets (removed rid h)).Nodup := by
  refine (perm_removed rid h).nodup_iff.mp ?_
  exact (hbooked.nodup_taken rid).sublist ((sublist_tickets hsub).append (sublist_tickets hsub))

theorem mem_leaving {t : Nat} {g' : Registry} (ht : t ∈ tickets (leaving rid g g')) :
    t ∈ tickets (queueOf rid g) :=
  ((List.take_sublist _ _).map _).mem ht

end Removed

/-! ### Its steps -/

section Serving

variable {l : Loop} {D h steps : List Deed} {g : Registry} {f : Registry → Registry} {rid : Nat}
  {s : SessionLocal}

theorem queueOf_bindSession {sid : UInt64} {inc : EngineIncarnation} (hnumbered : g.Numbered)
    (rid : Nat) : queueOf rid (bindSession sid inc g) = queueOf rid g := by
  unfold queueOf
  rw [Registry.lookup_bindSession]
  by_cases hne : rid = g.nextRouter
  · subst hne
    have hnone : g.routers.lookup g.nextRouter = none := by
      cases hr : g.routers.lookup g.nextRouter with
      | none => rfl
      | some r => exact absurd (hnumbered _ r hr) (Nat.lt_irrefl _)
    rw [if_pos rfl, hnone]
  · rw [if_neg hne]

/-- Every critical section is one of those that the ledger knows. -/
theorem Critical.deal (hcritical : Critical l h f) (hnumbered : g.Numbered)
    (hrelies : Relies l h g) (hnodup : ∀ rid, (tickets (removed rid h)).Nodup)
    (hserving : ∀ s rid, l = .dispatch s rid → Serving g rid h) : Deal l h g f := by
  cases hcritical with
  | neutral hf =>
    exact .idle (queueOf_of_routers (hf.routers g)) hf.replies (hf.nextTicket g)
  | bind _ hf => exact .idle (hf ▸ queueOf_bindSession hnumbered) (hf ▸ fun _ => rfl) (hf ▸ rfl)
  | @enqueue _ k _ _ hf =>
    cases haccepts : (g.routers.lookup k).any accepts with
    | true => exact .accept haccepts hf
    | false => exact .refuse haccepts hf
  | adopt _ hf => exact .idle (hf ▸ queueOf_adoptSocket _ g) (hf ▸ fun _ => rfl) (hf ▸ rfl)
  | start _ hf => exact .idle (hf ▸ queueOf_startRouter _ g) (hf ▸ fun _ => rfl) (hf ▸ rfl)
  | kill _ hf => exact .idle (hf ▸ queueOf_killRouter _ g) (hf ▸ fun _ => rfl) (hf ▸ rfl)
  | close _ _ hf => exact .idle (hf ▸ queueOf_closeSocket _ g) (hf ▸ fun _ => rfl) (hf ▸ rfl)
  | @pop s k hl halive hf =>
    obtain ⟨ready, g₀, heq, halive⟩ := halive
    refine .pop hl ?_ ((hserving s k hl).alive ready g₀ heq halive) hf
    rw [heq]
    exact (List.append_nil _).trans (leaving_same rfl)
  | @swap s k hl hkilled hf => exact .swap hl (hrelies s k hl hkilled) hf
  | @fulfil s k t rep hl _ hmem hfresh _ hf =>
    refine .fulfil hl hmem ?_ hf
    by_contra hset
    have hset := Option.isSome_iff_ne_none.mpr hset
    exact hfresh (hnodup k) ((hserving s k hl).answers t hmem hset)

/-- A command that is taken to be processed is the first that a round takes. -/
theorem Deal.starts_first (hdeal : Deal l h g f) (hbooked : Booked D g) {ready : Registry → Bool}
    (hstarts : processed rid [⟨.locked ready f, g⟩] ≠ []) : processed rid h = [] := by
  rw [processed_section] at hstarts
  split at hstarts
  · rename_i halive
    have hleaves : leaving rid g (f g) ≠ [] := fun hnil => hstarts (by rw [hnil]; rfl)
    have hfirst := ((hdeal.change hbooked.unnamed rid).leaves hleaves).2 halive
    refine List.eq_nil_iff_forall_not_mem.mpr fun t ht => ?_
    have hmem := mem_removed.mpr (.inl ht)
    rw [hfirst] at hmem
    cases hmem
  · exact absurd rfl hstarts

/-- The dispatcher makes a critical section. -/
theorem Serving.own (hserving : Serving g rid h) (hbooked : Booked D g) (hsub : h.Sublist D)
    (hdeal : Deal (.dispatch s rid) h g f) (hkilled : Killed h rid → g.Dead rid)
    (ready : Registry → Bool) : Serving (f g) rid (h ++ [⟨.locked ready f, g⟩]) := by
  have hchange := hdeal.change hbooked.unnamed rid
  refine ⟨fun t ht hset => ?_, ?_, fun hemptied => ?_, fun ready' g₀ heq halive => ?_⟩
  · rw [removed_append, tickets, List.map_append] at ht
    have haccepted : t ∈ accepted rid D := by
      rcases List.mem_append.mp ht with hold | hnew
      · exact hbooked.accepted_of_taken (mem_removed_of_sublist hsub hold)
      · exact hbooked.accepted_of_queued (mem_leaving hnew)
    have hremoved : ∀ s' k, (Loop.dispatch s rid) = .dispatch s' k →
        ∀ t ∈ tickets (removed k h), t ∈ processed k D ++ taken k D := fun _ k _ _ ht =>
      mem_removed_of_sublist hsub ht
    rcases hdeal.answers hbooked hremoved haccepted hset with hbefore | ⟨s', rep, -, -, rfl⟩
    · rcases List.mem_append.mp ht with hold | hnew
      · exact (hserving.answers t hold hbefore).append _
      · rw [hbooked.waiting rid t (mem_leaving hnew)] at hbefore
        cases hbefore
    · exact ⟨ready, rep, g, List.mem_append_right _ (List.mem_singleton_self _)⟩
  · rw [processed_append]
    by_cases hstarts : processed rid [⟨.locked ready f, g⟩] = []
    · rw [hstarts, List.append_nil]
      exact hserving.single
    · rw [hdeal.starts_first hbooked hstarts, List.nil_append]
      cases hdeal.entered hbooked ready rid with
      | nothing _ hstarted | joined _ hstarted | swept _ hstarted => exact absurd hstarted hstarts
      | started _ _ _ hsingle => exact hsingle
  · rcases emptied_concat hemptied with hold | ⟨ready', f', g', heq, -, hempty⟩
    · exact hchange.stays_empty (hkilled hold.killed) (hserving.emptied hold)
    · cases heq
      exact hempty
  · cases h with
    | nil =>
      cases heq
      exact halive
    | cons e h => cases h <;> cases heq

/-- Another thread makes one. -/
theorem Serving.other (hserving : Serving g rid h) (hbooked : Booked D g) (hsub : h.Sublist D)
    (hdeal : Deal l steps g f) (hsteps : steps.Sublist D) (hother : ∀ s, l ≠ .dispatch s rid)
    (hkilled : Killed h rid → g.Dead rid)
    (halive : routerAlive rid g = true → routerAlive rid (f g) = true) : Serving (f g) rid h := by
  refine ⟨fun t ht hset => ?_, hserving.single, fun hemptied => ?_, fun ready g₀ heq hfound => ?_⟩
  · have haccepted := hbooked.accepted_of_taken (mem_removed_of_sublist hsub ht)
    rcases hdeal.answers hbooked (fun _ k _ _ ht => mem_removed_of_sublist hsteps ht) haccepted hset
      with hbefore | ⟨s, rep, hl, -⟩
    · exact hserving.answers t ht hbefore
    · exact absurd hl (hother s)
  · exact (hdeal.change hbooked.unnamed rid).stays_empty (hkilled hemptied.killed)
      (hserving.emptied hemptied)
  · exact halive (hserving.alive ready g₀ heq hfound)

end Serving

/-! ## The coordinator -/

/-- The steps that a run has made. -/
def deeds (st : Traces) : List Deed := st.log.map (·.step)

theorem steps_sublist {st : Traces} (hst : System.Outlined Guarantee Settled st) {tid : Nat}
    {rd : Round Action Action.Res Loop} (hround : st.rounds[tid]? = some rd) :
    rd.steps.Sublist (deeds st) := by
  obtain ⟨before, hlog⟩ := hst.log tid rd hround
  have hsub : ((st.log.filter fun e => e.tid = tid).map (·.step)).Sublist (deeds st) :=
    List.filter_sublist.map _
  rw [hlog, List.map_append, List.map_map] at hsub
  have hsteps : rd.steps.map ((·.step) ∘ fun e => (⟨tid, rd.start, e⟩ : Entry)) = rd.steps :=
    List.map_id _
  exact (List.sublist_append_right _ _).trans (hsteps ▸ hsub)

/-- The step sets the promise, or tries to: it answers the command, or refuses it. -/
def Answers (e : Deed) (t : Nat) : Prop :=
  (∃ ready rep g, e = ⟨.locked ready (Registry.fulfil t rep), g⟩) ∨
    ∃ ready rid cmd g, e = ⟨.locked ready (enqueueCommand rid cmd), g⟩ ∧
      (g.routers.lookup rid).any accepts = false ∧ t = g.nextTicket

theorem Fulfilled.answers {h : List Deed} {t : Nat} (hfulfilled : Fulfilled h t) :
    ∃ e ∈ h, Answers e t := by
  obtain ⟨ready, rep, g, hmem⟩ := hfulfilled
  exact ⟨_, hmem, .inl ⟨ready, rep, g, rfl⟩⟩

/-- An enqueue is decided at once: the command joins the queue, or its promise is set. -/
def DecidedAtOnce (e : Deed) : Prop :=
  ∀ ready rid cmd g, e = ⟨.locked ready (enqueueCommand rid cmd), g⟩ →
    if (g.routers.lookup rid).any accepts then accepted rid [e] = [g.nextTicket]
    else (enqueueCommand rid cmd g).replies.lookup g.nextTicket =
      some (failedReply "router not ready or pending command queue full")

/-- The round is one of the dispatcher of the router, and has taken the command. -/
def Carries (rid t : Nat) (rd : Round Action Action.Res Loop) : Prop :=
  (∃ s, rd.start = .dispatch s rid) ∧ t ∈ tickets (removed rid rd.steps)

/-- What every turn keeps of the steps `D` of a run, the registry and the rounds. -/
structure Conserved (D : List Deed) (g : Registry) (rounds : List (Round Action Action.Res Loop)) :
    Prop where
  booked : Booked D g
  serving : ∀ (tid : Nat) rd s rid, rounds[tid]? = some rd → rd.start = .dispatch s rid →
    Serving g rid rd.steps
  /-- What was taken and is not answered is in the hands of a dispatcher. -/
  carried : ∀ rid, ∀ t ∈ processed rid D ++ taken rid D, g.replies.lookup t = none →
    ∃ (tid : Nat) (rd : _), rounds[tid]? = some rd ∧ Carries rid t rd
  /-- A router that a session has made take its socket lives until it is dispatched. -/
  lives : ∀ (tid : Nat) rd rid, rounds[tid]? = some rd → (∀ s k, rd.start ≠ .dispatch s k) →
    Adopted rd.steps rid → routerAlive rid g = true ∧ ¬ FoundDead rd.steps rid
  answered : ∀ e ∈ D, ∀ t, Answers e t → (g.replies.lookup t).isSome = true
  once : D.Pairwise fun e e' => ∀ t, Answers e t → ¬ Answers e' t
  decided : ∀ e ∈ D, DecidedAtOnce e

section Conserved

variable {D : List Deed} {g : Registry} {rounds : List (Round Action Action.Res Loop)}
  {rd rd' : Round Action Action.Res Loop} {tid rid : Nat}

theorem conserved_initial {g : Registry} (hrouters : g.routers = ∅) (hreplies : g.replies = ∅) :
    Conserved [] g [] :=
  ⟨booked_nil hrouters hreplies, nofun, nofun, nofun, fun _ he => absurd he List.not_mem_nil,
    .nil, fun _ he => absurd he List.not_mem_nil⟩

theorem exists_round_set {P : Round Action Action.Res Loop → Prop}
    (hround : rounds[tid]? = some rd) (hP : P rd → P rd')
    (h : ∃ (i : Nat) (rd : _), rounds[i]? = some rd ∧ P rd) :
    ∃ (i : Nat) (rd : _), (rounds.set tid rd')[i]? = some rd ∧ P rd := by
  obtain ⟨i, rd₀, hi, hrd₀⟩ := h
  by_cases hne : tid = i
  · subst hne
    cases hround.symm.trans hi
    obtain ⟨hlt, -⟩ := List.getElem?_eq_some_iff.mp hround
    exact ⟨tid, rd', List.getElem?_set_self hlt, hP hrd₀⟩
  · exact ⟨i, rd₀, (List.getElem?_set_ne hne).trans hi, hrd₀⟩

/-! ### Rounds that begin -/

/-- A round begins where another has ended. -/
theorem Conserved.loop (hst : Conserved D g rounds) (hround : rounds[tid]? = some rd) {l : Loop}
    (hend : Settled rd.start (some l) rd.steps) (hsub : rd.steps.Sublist D) :
    Conserved D g (rounds.set tid { start := l }) where
  booked := hst.booked
  serving := by
    intro tid' rd' s k hround' hstart
    rcases List.getElem?_set_cases hround' with ⟨-, rfl⟩ | ⟨-, hold⟩
    · exact serving_nil g k
    · exact hst.serving tid' rd' s k hold hstart
  carried := by
    intro k t ht hunset
    obtain ⟨i, rd₀, hi, hcarries⟩ := hst.carried k t ht hunset
    by_cases hne : tid = i
    · -- A round that ends has answered what it has taken.
      subst hne
      cases hround.symm.trans hi
      obtain ⟨⟨s, hstart⟩, hmem⟩ := hcarries
      obtain ⟨cmd, hcmd, rfl⟩ := List.mem_map.mp hmem
      obtain ⟨e, he, hanswers⟩ := (hend.answered s k hstart cmd hcmd).answers
      have hset := hst.answered e (hsub.mem he) cmd.ticket hanswers
      rw [hunset] at hset
      cases hset
    · exact ⟨i, rd₀, (List.getElem?_set_ne hne).trans hi, hcarries⟩
  lives := by
    intro tid' rd' k hround' hsession hadopted
    rcases List.getElem?_set_cases hround' with ⟨-, rfl⟩ | ⟨-, hold⟩
    · exact absurd hadopted not_adopted_nil
    · exact hst.lives tid' rd' k hold hsession hadopted
  answered := hst.answered
  once := hst.once
  decided := hst.decided

/-- A thread begins. -/
theorem Conserved.spawn (hst : Conserved D g rounds) :
    Conserved D g (rounds ++ [{ start := .start }]) where
  booked := hst.booked
  serving := by
    intro tid' rd' s k hround' hstart
    rcases List.getElem?_concat_cases hround' with ⟨-, rfl⟩ | hold
    · cases hstart
    · exact hst.serving tid' rd' s k hold hstart
  carried := by
    intro k t ht hunset
    obtain ⟨i, rd₀, hi, hcarries⟩ := hst.carried k t ht hunset
    obtain ⟨hlt, -⟩ := List.getElem?_eq_some_iff.mp hi
    refine ⟨i, rd₀, ?_, hcarries⟩
    rw [List.getElem?_append_left hlt]
    exact hi
  lives := by
    intro tid' rd' k hround' hsession hadopted
    rcases List.getElem?_concat_cases hround' with ⟨-, rfl⟩ | hold
    · exact absurd hadopted not_adopted_nil
    · exact hst.lives tid' rd' k hold hsession hadopted
  answered := hst.answered
  once := hst.once
  decided := hst.decided

/-! ### Actions that are no critical sections -/

theorem ledger_of_unlocked {a : Action} (ha : ∀ ready f, a ≠ .locked ready f) (r : a.Res)
    (rid : Nat) (h : List Deed) :
    accepted rid (h ++ [⟨a, r⟩]) = accepted rid h ∧ processed rid (h ++ [⟨a, r⟩]) = processed rid h ∧
      taken rid (h ++ [⟨a, r⟩]) = taken rid h ∧ removed rid (h ++ [⟨a, r⟩]) = removed rid h := by
  rw [accepted_append, processed_append, taken_append, removed_append]
  cases a with
  | locked ready f => exact absurd rfl (ha ready f)
  | _ => exact ⟨List.append_nil _, List.append_nil _, List.append_nil _, List.append_nil _⟩

theorem Booked.act (hbooked : Booked D g) {a : Action} (ha : ∀ ready f, a ≠ .locked ready f)
    (r : a.Res) : Booked (D ++ [⟨a, r⟩]) g := by
  have hledger := fun rid => ledger_of_unlocked ha r rid D
  refine ⟨fun rid => ?_, fun rid => ?_, fun rid => ?_, fun rid rid' t => ?_, hbooked.bounded,
    hbooked.named, hbooked.waiting, fun rid => ?_⟩
  · rw [(hledger rid).1, (hledger rid).2.1, (hledger rid).2.2.1]
    exact hbooked.inOrder rid
  · rw [(hledger rid).1]
    exact hbooked.increasing rid
  · rw [(hledger rid).1]
    exact hbooked.below rid
  · rw [(hledger rid).1, (hledger rid').1]
    exact hbooked.apart rid rid' t
  · rw [(hledger rid).2.2.1]
    exact hbooked.ended rid

theorem Serving.act {h : List Deed} (hserving : Serving g rid h) {a : Action}
    (ha : ∀ ready f, a ≠ .locked ready f) (r : a.Res) : Serving g rid (h ++ [⟨a, r⟩]) := by
  obtain ⟨-, hprocessed, -, hremoved⟩ := ledger_of_unlocked ha r rid h
  refine ⟨fun t ht hset => ?_, ?_, fun hemptied => ?_, fun ready g₀ heq _ => ?_⟩
  · rw [hremoved] at ht
    exact (hserving.answers t ht hset).append _
  · rw [hprocessed]
    exact hserving.single
  · rcases emptied_concat hemptied with hold | ⟨ready, f, g', heq, -⟩
    · exact hserving.emptied hold
    · cases heq
      exact absurd rfl (ha ready f)
  · obtain ⟨-, hlast⟩ := List.append_inj' (heq.trans (List.nil_append _).symm) rfl
    cases hlast
    exact absurd rfl (ha ready id)

theorem not_answers_of_unlocked {a : Action} (ha : ∀ ready f, a ≠ .locked ready f) {r : a.Res}
    {t : Nat} : ¬ Answers ⟨a, r⟩ t := by
  rintro (⟨ready, rep, g, heq⟩ | ⟨ready, k, cmd, g, heq, -⟩) <;> cases heq
  · exact ha ready _ rfl
  · exact ha ready _ rfl

/-- A thread performs an action that is no critical section. -/
theorem Conserved.act (hst : Conserved D g rounds) (hround : rounds[tid]? = some rd) {a : Action}
    (ha : ∀ ready f, a ≠ .locked ready f) (r : a.Res) :
    Conserved (D ++ [⟨a, r⟩]) g (rounds.set tid { rd with steps := rd.steps ++ [⟨a, r⟩] }) where
  booked := hst.booked.act ha r
  serving := by
    intro tid' rd' s k hround' hstart
    rcases List.getElem?_set_cases hround' with ⟨-, rfl⟩ | ⟨-, hold⟩
    · exact (hst.serving tid rd s k hround hstart).act ha r
    · exact hst.serving tid' rd' s k hold hstart
  carried := by
    intro k t ht hunset
    rw [(ledger_of_unlocked ha r k D).2.1, (ledger_of_unlocked ha r k D).2.2.1] at ht
    refine exists_round_set hround (fun hcarries => ⟨hcarries.1, ?_⟩) (hst.carried k t ht hunset)
    rw [(ledger_of_unlocked ha r k rd.steps).2.2.2]
    exact hcarries.2
  lives := by
    intro tid' rd' k hround' hsession hadopted
    rcases List.getElem?_set_cases hround' with ⟨-, rfl⟩ | ⟨-, hold⟩
    · rcases adopted_concat hadopted with hbefore | ⟨ready, f, g', heq, -⟩
      · obtain ⟨halive, hfound⟩ := hst.lives tid rd k hround hsession hbefore
        refine ⟨halive, fun hdead => ?_⟩
        rcases foundDead_concat hdead with hold | ⟨ready, f, g', heq, -⟩
        · exact hfound hold
        · cases heq
          exact ha ready f rfl
      · cases heq
        exact absurd rfl (ha ready f)
    · exact hst.lives tid' rd' k hold hsession hadopted
  answered := by
    intro e he t hanswers
    rcases List.mem_append.mp he with hold | hnew
    · exact hst.answered e hold t hanswers
    · rw [List.mem_singleton.mp hnew] at hanswers
      exact absurd hanswers (not_answers_of_unlocked ha)
  once := by
    refine List.pairwise_append.mpr ⟨hst.once, List.pairwise_singleton _ _, fun e _ e' he' t _ => ?_⟩
    rw [List.mem_singleton.mp he']
    exact not_answers_of_unlocked ha
  decided := by
    intro e he ready k cmd g' heq
    rcases List.mem_append.mp he with hold | hnew
    · exact hst.decided e hold ready k cmd g' heq
    · rw [List.mem_singleton.mp hnew] at heq
      cases heq
      exact absurd rfl (ha ready _)

/-! ### Critical sections -/

section Enter

variable {l : Loop} {h : List Deed} {f : Registry → Registry} {ready : Registry → Bool}

/-- A promise that is set stays set. -/
theorem Deal.keeps_set (hdeal : Deal l h g f) (hbooked : Booked D g) {t : Nat}
    (hset : (g.replies.lookup t).isSome = true) : ((f g).replies.lookup t).isSome = true := by
  cases hdeal.answer hbooked.unnamed t with
  | same hreplies => exact hreplies ▸ hset
  | refused _ _ hset => exact hset
  | answered _ _ _ hset => exact hset

/-- A section that answers a command sets a promise that was not set. -/
theorem Deal.sets (hdeal : Deal l h g f) (hbooked : Booked D g) {t : Nat}
    (hanswers : Answers ⟨.locked ready f, g⟩ t) :
    g.replies.lookup t = none ∧ ((f g).replies.lookup t).isSome = true := by
  rcases hanswers with ⟨ready', rep, g', heq⟩ | ⟨ready', k, cmd, g', heq, hrefuses, rfl⟩
  · cases heq
    refine ⟨hdeal.unset, ?_⟩
    rw [replies_fulfil rep hdeal.unset, AList.lookup_insert]
    rfl
  · cases heq
    refine ⟨hbooked.unnamed, ?_⟩
    rw [(enqueueCommand_refused _ hrefuses hbooked.unnamed).2.1, AList.lookup_insert]
    rfl

theorem Booked.decidedAtOnce (hbooked : Booked D g) : DecidedAtOnce ⟨.locked ready f, g⟩ := by
  intro ready' k cmd g' heq
  cases heq
  cases haccepts : (g.routers.lookup k).any accepts with
  | true =>
    rw [if_pos rfl, accepted_section]
    simp [joining, (enqueueCommand_accepted _ haccepts).1, tickets, ticketed]
  | false =>
    rw [if_neg Bool.false_ne_true, (enqueueCommand_refused _ haccepts hbooked.unnamed).2.1,
      AList.lookup_insert]

end Enter

end Conserved

/-! ### Turns -/

section Turn

variable {st st' : Traces} {sc : Sched Input} {g : Registry} {f : Registry → Registry}
  {rd : Round Action Action.Res Loop} {tid : Nat}

/-- The round of another thread is none of the dispatcher of the router that this one holds. -/
theorem Routed.other (hrouted : Routed st) {tid' : Nat} {rd' : Round Action Action.Res Loop}
    {rid : Nat} (hround : st.rounds[tid]? = some rd) (hround' : st.rounds[tid']? = some rd')
    (hne : tid ≠ tid') (hholds : Holds rd' rid) (s : SessionLocal) : rd.start ≠ .dispatch s rid :=
  fun hstart => hne (hrouted.unique tid tid' rd rd' rid hround hround' (.inl ⟨s, hstart⟩) hholds)

/-- A section on what was carried before it. -/
theorem Conserved.enter_carried (hst : Conserved (deeds st) g st.rounds)
    (hround : st.rounds[tid]? = some rd) (hdeal : Deal rd.start rd.steps g f)
    (ready : Registry → Bool) {rid t : Nat}
    (ht : t ∈ processed rid (deeds st ++ [⟨.locked ready f, g⟩]) ++
      taken rid (deeds st ++ [⟨.locked ready f, g⟩]))
    (hunset : (f g).replies.lookup t = none) :
    ∃ (i : Nat) (rd' : _), (st.rounds.set tid { rd with
      steps := rd.steps ++ [⟨.locked ready f, g⟩] })[i]? = some rd' ∧ Carries rid t rd' := by
  have hnew : t ∈ tickets (removed rid [⟨.locked ready f, g⟩]) ∨
      t ∈ processed rid (deeds st) ++ taken rid (deeds st) := by
    rw [processed_append, taken_append] at ht
    simp only [List.mem_append] at ht ⊢
    rw [mem_removed]
    tauto
  rcases hnew with hnew | hold
  · -- The dispatcher has just taken it.
    have hleaving : removed rid [⟨.locked ready f, g⟩] = leaving rid g (f g) := List.append_nil _
    rw [hleaving] at hnew
    have hleaves : leaving rid g (f g) ≠ [] := fun hnil => by
      rw [hnil] at hnew
      cases hnew
    obtain ⟨hdispatch, -⟩ := (hdeal.change hst.booked.unnamed rid).leaves hleaves
    obtain ⟨hlt, -⟩ := List.getElem?_eq_some_iff.mp hround
    refine ⟨tid, _, List.getElem?_set_self hlt, hdispatch, ?_⟩
    dsimp only
    rw [removed_append, tickets, List.map_append]
    exact List.mem_append_right _ hnew
  · have hbefore : g.replies.lookup t = none := by
      by_contra hset
      have hset := hdeal.keeps_set hst.booked (Option.isSome_iff_ne_none.mpr hset)
      rw [hunset] at hset
      cases hset
    refine exists_round_set hround (fun hcarries => ⟨hcarries.1, ?_⟩)
      (hst.carried rid t hold hbefore)
    dsimp only
    rw [removed_append, tickets, List.map_append]
    exact List.mem_append_left _ hcarries.2

/-- A section on the routers that sessions have made take their sockets. -/
theorem Conserved.enter_lives (hst : Conserved (deeds st) g st.rounds) (hrouted : Routed st)
    (hnumbered : g.Numbered) (hround : st.rounds[tid]? = some rd)
    (hcritical : Critical rd.start rd.steps f) (ready : Registry → Bool) {tid' rid : Nat}
    {rd' : Round Action Action.Res Loop}
    (hround' : (st.rounds.set tid { rd with
      steps := rd.steps ++ [⟨.locked ready f, g⟩] })[tid']? = some rd')
    (hsession : ∀ s k, rd'.start ≠ .dispatch s k) (hadopted : Adopted rd'.steps rid) :
    routerAlive rid (f g) = true ∧ ¬ FoundDead rd'.steps rid := by
  rcases List.getElem?_set_cases hround' with ⟨-, rfl⟩ | ⟨hne, hold⟩
  · have hknown := hst.lives tid rd rid hround hsession
    refine ⟨?_, fun hfound => ?_⟩
    · rcases adopted_concat hadopted with hbefore | ⟨ready', f', g', heq, hfree, hspent⟩
      · exact hcritical.alive hnumbered (fun s => hsession s rid) (hknown hbefore).1
      · cases heq
        exact hcritical.adopts_alive hsession hfree hspent
    · rcases foundDead_concat hfound with hbefore | ⟨ready', f', g', heq, hbefore, hdead⟩
      · obtain ⟨before, after, ready', f', g', heq, hadopted, -⟩ := id hbefore
        exact (hknown (heq ▸ hadopted.append _)).2 hbefore
      · cases heq
        rw [(hknown hbefore).1] at hdead
        cases hdead
  · obtain ⟨halive, hfound⟩ := hst.lives tid' rd' rid hold hsession hadopted
    exact ⟨hcritical.alive hnumbered (hrouted.other hround hold hne (.inr hadopted)) halive, hfound⟩

/-- A critical section of a thread is one of those that the ledger knows. -/
theorem Conserved.deal (hst : Conserved (deeds st) st.pool.shared.registry st.rounds)
    (houtlined : System.Outlined Guarantee Settled st) (hrouted : Routed st)
    (hround : st.rounds[tid]? = some rd) (hcritical : Critical rd.start rd.steps f) :
    Deal rd.start rd.steps st.pool.shared.registry f :=
  hcritical.deal hrouted.numbered (hrouted.killed tid rd hround)
    (hst.booked.nodup_removed (steps_sublist houtlined hround))
    fun s rid => hst.serving tid rd s rid hround

/-- A thread makes a critical section. -/
theorem Conserved.enter (hst : Conserved (deeds st) g st.rounds)
    (houtlined : System.Outlined Guarantee Settled st) (hrouted : Routed st)
    (hg : st.pool.shared.registry = g) (hround : st.rounds[tid]? = some rd)
    (hcritical : Critical rd.start rd.steps f) (hdead : ∀ rid, g.Dead rid → (f g).Dead rid)
    (ready : Registry → Bool) :
    Conserved (deeds st ++ [⟨.locked ready f, g⟩]) (f g)
      (st.rounds.set tid { rd with steps := rd.steps ++ [⟨.locked ready f, g⟩] }) := by
  subst hg
  have hsub : ∀ {tid : Nat} {rd : Round Action Action.Res Loop}, st.rounds[tid]? = some rd →
      rd.steps.Sublist (deeds st) := steps_sublist houtlined
  have hdeal := hst.deal houtlined hrouted hround hcritical
  refine ⟨hst.booked.step hdeal (fun _ _ _ _ => mem_removed_of_sublist (hsub hround)) hdead ready,
    ?_, fun rid t ht => hst.enter_carried hround hdeal ready ht,
    fun tid' rd' rid hround' =>
      hst.enter_lives hrouted hrouted.numbered hround hcritical ready hround', ?_, ?_, ?_⟩
  · intro tid' rd' s rid hround' hstart
    rcases List.getElem?_set_cases hround' with ⟨-, rfl⟩ | ⟨hne, hold⟩
    · exact (hst.serving tid rd s rid hround hstart).own hst.booked (hsub hround)
        (hstart ▸ hdeal) (hrouted.killed tid rd hround s rid hstart) ready
    · have hother := hrouted.other hround hold hne (.inl ⟨s, hstart⟩)
      exact (hst.serving tid' rd' s rid hold hstart).other hst.booked (hsub hold) hdeal (hsub hround)
        hother (hrouted.killed tid' rd' hold s rid hstart)
        (hcritical.alive hrouted.numbered hother)
  · intro e he t hanswers
    rcases List.mem_append.mp he with hold | hnew
    · exact hdeal.keeps_set hst.booked (hst.answered e hold t hanswers)
    · rw [List.mem_singleton.mp hnew] at hanswers
      exact (hdeal.sets hst.booked hanswers).2
  · refine List.pairwise_append.mpr ⟨hst.once, List.pairwise_singleton _ _, ?_⟩
    intro e he e' he' t hbefore hanswers
    have hset := hst.answered e he t hbefore
    rw [List.mem_singleton.mp he'] at hanswers
    rw [(hdeal.sets hst.booked hanswers).1] at hset
    cases hset
  · intro e he
    rcases List.mem_append.mp he with hold | hnew
    · exact hst.decided e hold
    · rw [List.mem_singleton.mp hnew]
      exact hst.booked.decidedAtOnce

/-- What every turn of the coordinator keeps. -/
theorem Conserved.advance (hst : Conserved (deeds st) st.pool.shared.registry st.rounds)
    (houtlined : System.Outlined Guarantee Settled st) (hrouted : Routed st)
    (h : Turns st sc st') : Conserved (deeds st') st'.pool.shared.registry st'.rounds := by
  obtain ⟨-, hext⟩ := hrouted.extends h
  cases h with
  | blocked => exact hst
  | spawned => exact hst.spawn
  | looped hround hend => exact hst.loop hround hend (steps_sublist houtlined hround)
  | @acted tid input a k r s rd hthread hround hguarantee hperform =>
    have hdeeds : deeds st ++ [⟨a, r⟩] = deeds (⟨⟨s, st.pool.threads.set tid (k r)⟩,
        st.rounds.set tid { rd with steps := rd.steps ++ [⟨a, r⟩] },
        st.log ++ [⟨tid, rd.start, a, r⟩]⟩ : Traces) := by
      simp [deeds]
    rw [← hdeeds]
    rcases performAlive_registry hperform with ⟨hsame, hother⟩ | ⟨ready, f, hdeed, hnext⟩
    · have hkept := hst.act hround hother r
      rw [← hsame] at hkept
      exact hkept
    · cases hdeed
      have hkept := hst.enter houtlined hrouted rfl hround hguarantee
        (fun rid hdead => hnext ▸ hext.dead hdead) ready
      rw [← hnext] at hkept
      exact hkept

end Turn

/-! ## Where a command is -/

/-- The dispatcher of the router has the command in hand: it is among those that its current
round has taken, and the round has not set its promise. -/
def InHand (takenBy : Nat → List Deed → List Nat) (st : Traces) (rid t : Nat) : Prop :=
  ∃ (tid : Nat) (rd : _), st.rounds[tid]? = some rd ∧ (∃ s, rd.start = .dispatch s rid) ∧
    t ∈ takenBy rid rd.steps ∧ ¬ Fulfilled rd.steps t

/-- The places of an accepted command; `failing` are those that `fail` has taken off the queue. -/
inductive Place where
  | queued | inFlight | failing | answered

def At (st : Traces) (rid t : Nat) : Place → Prop
  | .queued => t ∈ tickets (queueOf rid st.pool.shared.registry)
  | .inFlight => InHand processed st rid t
  | .failing => InHand taken st rid t
  | .answered => (st.pool.shared.registry.replies.lookup t).isSome = true

/-- The thread has called `run` of the router: it dispatches, or is a session that has made
the router take its socket. -/
def HasCalledRun (rd : Round Action Action.Res Loop) (rid : Nat) : Prop :=
  (∃ s, rd.start = .dispatch s rid) ∨ ((∃ s, rd.start = .session s) ∧ Adopted rd.steps rid)

/-- A thread that has called `run` of the router has come back from it. -/
def RunReturned (st : Traces) (rid : Nat) : Prop :=
  ∃ (tid : Nat) (rd : _) (p : _), st.rounds[tid]? = some rd ∧ st.pool.threads[tid]? = some p ∧
    HasCalledRun rd rid ∧ (p = .done none ∨ ∃ s, p = endSession s)

section Place

variable {st st' : Traces} {sc : Sched Input} {rid t : Nat}

/-- What a thread has in hand is not answered. -/
theorem InHand.unset {takenBy : Nat → List Deed → List Nat} (hhand : InHand takenBy st rid t)
    (hst : Conserved (deeds st) st.pool.shared.registry st.rounds)
    (hremoved : ∀ h, ∀ t ∈ takenBy rid h, t ∈ tickets (removed rid h)) :
    st.pool.shared.registry.replies.lookup t = none := by
  obtain ⟨tid, rd, hround, ⟨s, hstart⟩, hmem, hopen⟩ := hhand
  by_contra hset
  exact hopen ((hst.serving tid rd s rid hround hstart).answers t (hremoved _ t hmem)
    (Option.isSome_iff_ne_none.mpr hset))

/-- The place that the ledger and the promises tell. -/
def placeOf (st : Traces) (rid t : Nat) : Place :=
  if (st.pool.shared.registry.replies.lookup t).isSome then .answered
  else if t ∈ processed rid (deeds st) then .inFlight
  else if t ∈ taken rid (deeds st) then .failing
  else .queued

/-- A command is nowhere else. -/
theorem At.eq_placeOf (hst : Conserved (deeds st) st.pool.shared.registry st.rounds)
    (houtlined : System.Outlined Guarantee Settled st) {place : Place} (hat : At st rid t place) :
    place = placeOf st rid t := by
  unfold placeOf
  cases place with
  | queued =>
    have hnot := List.mem_append.not.mp (hst.booked.not_taken hat)
    rw [not_or] at hnot
    rw [hst.booked.waiting rid t hat, if_neg nofun, if_neg hnot.1, if_neg hnot.2]
  | inFlight =>
    have hunset := hat.unset hst fun h t ht => mem_removed.mpr (.inl ht)
    obtain ⟨tid, rd, hround, -, hmem, -⟩ := hat
    have hstarted : t ∈ processed rid (deeds st) :=
      (sublist_tickets (steps_sublist houtlined hround)).mem hmem
    rw [hunset, if_neg nofun, if_pos hstarted]
  | failing =>
    have hunset := hat.unset hst fun h t ht => mem_removed.mpr (.inr ht)
    obtain ⟨tid, rd, hround, -, hmem, -⟩ := hat
    have hswept : t ∈ taken rid (deeds st) :=
      (sublist_tickets (steps_sublist houtlined hround)).mem hmem
    have hnot : t ∉ processed rid (deeds st) := fun hstarted =>
      (List.nodup_append'.mp (hst.booked.nodup_taken rid)).2.2 hstarted hswept
    rw [hunset, if_neg nofun, if_neg hnot, if_pos hswept]
  | answered => exact (if_pos hat).symm

/-- What was taken and is not answered is in hand. -/
theorem Conserved.inHand (hst : Conserved (deeds st) st.pool.shared.registry st.rounds)
    (houtlined : System.Outlined Guarantee Settled st)
    (ht : t ∈ processed rid (deeds st) ++ taken rid (deeds st))
    (hunset : st.pool.shared.registry.replies.lookup t = none) :
    At st rid t .inFlight ∨ At st rid t .failing := by
  obtain ⟨tid, rd, hround, hdispatch, hmem⟩ := hst.carried rid t ht hunset
  have hopen : ¬ Fulfilled rd.steps t := fun hfulfilled => by
    obtain ⟨e, he, hanswers⟩ := hfulfilled.answers
    have hset := hst.answered e ((steps_sublist houtlined hround).mem he) t hanswers
    rw [hunset] at hset
    cases hset
  rcases mem_removed.mp hmem with hstarted | hswept
  · exact .inl ⟨tid, rd, hround, hdispatch, hstarted, hopen⟩
  · exact .inr ⟨tid, rd, hround, hdispatch, hswept, hopen⟩

/-- An accepted command is somewhere. -/
theorem Conserved.placed (hst : Conserved (deeds st) st.pool.shared.registry st.rounds)
    (houtlined : System.Outlined Guarantee Settled st) (ht : t ∈ accepted rid (deeds st)) :
    ∃! place, At st rid t place := by
  have hsome : ∃ place, At st rid t place := by
    rw [hst.booked.inOrder rid] at ht
    rcases List.mem_append.mp ht with htaken | hqueued
    · by_cases hset : (st.pool.shared.registry.replies.lookup t).isSome = true
      · exact ⟨.answered, hset⟩
      · rcases hst.inHand houtlined htaken (by simpa using hset) with hat | hat
        · exact ⟨.inFlight, hat⟩
        · exact ⟨.failing, hat⟩
    · exact ⟨.queued, hqueued⟩
  obtain ⟨place, hat⟩ := hsome
  refine ⟨place, hat, fun place' hat' => ?_⟩
  rw [At.eq_placeOf hst houtlined hat, At.eq_placeOf hst houtlined hat']

theorem Conserved.single (hst : Conserved (deeds st) st.pool.shared.registry st.rounds)
    (hrouted : Routed st) {t' : Nat} (hat : At st rid t .inFlight) (hat' : At st rid t' .inFlight) :
    t = t' := by
  obtain ⟨tid, rd, hround, ⟨s, hstart⟩, hmem, -⟩ := hat
  obtain ⟨tid', rd', hround', ⟨s', hstart'⟩, hmem', -⟩ := hat'
  obtain rfl := hrouted.unique tid tid' rd rd' rid hround hround' (.inl ⟨s, hstart⟩)
    (.inl ⟨s', hstart'⟩)
  cases hround.symm.trans hround'
  have hsingle := (hst.serving tid rd s rid hround hstart).single
  rcases hsteps : processed rid rd.steps with _ | ⟨x, _ | ⟨y, rest⟩⟩
  · rw [hsteps] at hmem
    cases hmem
  · rw [hsteps] at hmem hmem'
    rw [List.mem_singleton.mp hmem, List.mem_singleton.mp hmem']
  · rw [hsteps] at hsingle
    exact absurd hsingle (by simp)

/-! ### After a return of `run` -/

/-- A thread that is past `run` is at the end of its round, but perhaps for one section
that forgets its session. -/
theorem RunReturned.ends (houtlined : System.Outlined Guarantee Settled st)
    (hreturned : RunReturned st rid) :
    ∃ (tid : Nat) (rd : _) (es : List Deed), st.rounds[tid]? = some rd ∧ HasCalledRun rd rid ∧
      Settled rd.start none (rd.steps ++ es) ∧
      (es = [] ∨ ∃ ready f, Neutral f ∧ es = [⟨.locked ready f, st.pool.shared.registry⟩]) := by
  obtain ⟨tid, rd, p, hround, hthread, hcalled, hp⟩ := hreturned
  have houtline := houtlined.thread tid p rd hthread hround
  rcases hp with rfl | ⟨s, rfl⟩
  · exact ⟨tid, rd, [], hround, hcalled, (List.append_nil rd.steps).symm ▸ houtline, .inl rfl⟩
  · exact ⟨tid, rd, _, hround, hcalled, houtline.2 st.pool.shared.registry,
      .inr ⟨_, _, neutral_forgetSession s, rfl⟩⟩

/-- It has dispatched the router, left it dead and its queue empty, and answered what it
has taken. -/
theorem RunReturned.settled (hreturned : RunReturned st rid)
    (hst : Conserved (deeds st) st.pool.shared.registry st.rounds)
    (houtlined : System.Outlined Guarantee Settled st) (hrouted : Routed st) :
    st.pool.shared.registry.Dead rid ∧ queueOf rid st.pool.shared.registry = [] ∧
      ∃ (tid : Nat) (rd : _), st.rounds[tid]? = some rd ∧ (∃ s, rd.start = .dispatch s rid) ∧
        ∀ cmd ∈ removed rid rd.steps, Fulfilled rd.steps cmd.ticket := by
  obtain ⟨tid, rd, es, hround, hcalled, hsettled, hes⟩ := hreturned.ends houtlined
  rcases hcalled with ⟨s, hstart⟩ | ⟨⟨s, hstart⟩, hadopted⟩
  · have hserving := hst.serving tid rd s rid hround hstart
    have hemptied : Killed rd.steps rid ∧ queueOf rid st.pool.shared.registry = [] := by
      have hend := hsettled.emptied s rid hstart rfl
      rcases hes with rfl | ⟨ready, f, hf, rfl⟩
      · rw [List.append_nil] at hend
        exact ⟨hend.killed, hserving.emptied hend⟩
      · rcases emptied_concat hend with hold | ⟨_, _, _, heq, hkilled, hempty⟩
        · exact ⟨hold.killed, hserving.emptied hold⟩
        · cases heq
          exact ⟨hkilled, (queueOf_of_routers (hf.routers _) rid).symm.trans hempty⟩
    refine ⟨hrouted.killed tid rd hround s rid hstart hemptied.1, hemptied.2, tid, rd, hround,
      ⟨s, hstart⟩, fun cmd hcmd => ?_⟩
    have hanswered := hsettled.answered s rid hstart cmd (by
      rw [removed, List.flatMap_append]
      exact List.mem_append_left _ hcmd)
    rcases hes with rfl | ⟨ready, f, hf, rfl⟩
    · exact (List.append_nil rd.steps) ▸ hanswered
    · rcases fulfilled_concat hanswered with hold | ⟨_, rep, _, heq⟩
      · exact hold
      · cases heq
        exact absurd rfl (ne_fulfil hf.replies cmd.ticket rep)
  · -- A session that comes back from `run` at once has found the router dead, which it is not.
    have hsession : ∀ s k, rd.start ≠ .dispatch s k := fun _ _ heq => by
      cases hstart.symm.trans heq
    obtain ⟨halive, hfound⟩ := hst.lives tid rd rid hround hsession hadopted
    have hdead := hsettled.found rid hsession rfl (hadopted.append es)
    rcases hes with rfl | ⟨ready, f, -, rfl⟩
    · exact absurd ((List.append_nil rd.steps) ▸ hdead) hfound
    · rcases foundDead_concat hdead with hold | ⟨_, _, _, heq, -, hnot⟩
      · exact absurd hold hfound
      · cases heq
        rw [halive] at hnot
        cases hnot

/-- Then every command is answered. -/
theorem RunReturned.answered (hreturned : RunReturned st rid)
    (hst : Conserved (deeds st) st.pool.shared.registry st.rounds)
    (houtlined : System.Outlined Guarantee Settled st) (hrouted : Routed st)
    (ht : t ∈ accepted rid (deeds st)) : At st rid t .answered := by
  obtain ⟨-, hempty, tid, rd, hround, ⟨s, hstart⟩, hfulfilled⟩ :=
    hreturned.settled hst houtlined hrouted
  rw [hst.booked.inOrder rid, hempty] at ht
  have htaken := (List.mem_append.mp ht).resolve_right List.not_mem_nil
  by_contra hset
  have hunset : st.pool.shared.registry.replies.lookup t = none := by simpa [At] using hset
  obtain ⟨tid', rd', hround', ⟨s', hstart'⟩, hmem⟩ := hst.carried rid t htaken hunset
  -- The one dispatcher of the router is the one that has come back.
  obtain rfl := hrouted.unique tid tid' rd rd' rid hround hround' (.inl ⟨s, hstart⟩)
    (.inl ⟨s', hstart'⟩)
  cases hround.symm.trans hround'
  obtain ⟨cmd, hcmd, rfl⟩ := List.mem_map.mp hmem
  obtain ⟨e, he, hanswers⟩ := (hfulfilled cmd hcmd).answers
  exact hset (hst.answered e ((steps_sublist houtlined hround).mem he) cmd.ticket hanswers)

/-- A router that is dead accepts nothing. -/
theorem Conserved.accepted_of_dead (hst : Conserved (deeds st) st.pool.shared.registry st.rounds)
    (houtlined : System.Outlined Guarantee Settled st) (hrouted : Routed st)
    (hdead : st.pool.shared.registry.Dead rid) (h : Turns st sc st') :
    accepted rid (deeds st') = accepted rid (deeds st) := by
  cases h with
  | blocked => rfl
  | spawned => rfl
  | looped => rfl
  | @acted tid input a k r s rd hthread hround hguarantee hperform =>
    have hdeeds : deeds (⟨⟨s, st.pool.threads.set tid (k r)⟩,
        st.rounds.set tid { rd with steps := rd.steps ++ [⟨a, r⟩] },
        st.log ++ [⟨tid, rd.start, a, r⟩]⟩ : Traces) = deeds st ++ [⟨a, r⟩] := by
      simp [deeds]
    rw [hdeeds]
    rcases performAlive_registry hperform with ⟨-, hother⟩ | ⟨ready, f, hdeed, -⟩
    · exact (ledger_of_unlocked hother r rid _).1
    · cases hdeed
      have hchange := (hst.deal houtlined hrouted hround hguarantee).change hst.booked.unnamed rid
      rw [accepted_append, accepted_section]
      by_cases hjoins : joining rid st.pool.shared.registry (f st.pool.shared.registry) = []
      · rw [hjoins]
        exact List.append_nil _
      · have halive := hchange.joins hjoins
        rw [not_alive_of_dead hdead] at halive
        cases halive

end Place

/-! ## Whole runs -/

/-- What is promised of the commands of a router in a state of a run. -/
structure CommandsKept (st : Traces) (rid : Nat) : Prop where
  bounded : (queueOf rid st.pool.shared.registry).length ≤ kMaxQueue
  /-- The tickets of the accepted commands are in the order in which they were enqueued, and
  they are taken in this order. -/
  enqueued : (accepted rid (deeds st)).Pairwise (· < ·)
  inOrder : accepted rid (deeds st) = processed rid (deeds st) ++ taken rid (deeds st) ++
    tickets (queueOf rid st.pool.shared.registry)
  single : ∀ t t', At st rid t .inFlight → At st rid t' .inFlight → t = t'
  placed : ∀ t ∈ accepted rid (deeds st), ∃! place, At st rid t place
  decided : ∀ e ∈ deeds st, DecidedAtOnce e
  once : (deeds st).Pairwise fun e e' => ∀ t, Answers e t → ¬ Answers e' t
  answered : RunReturned st rid → ∀ t ∈ accepted rid (deeds st), At st rid t .answered
  closed : RunReturned st rid → ∀ scs,
    accepted rid (deeds (coordinator.traced.exec st scs)) = accepted rid (deeds st)

/-- What every turn of the coordinator keeps. -/
structure Sound (st : Traces) : Prop where
  outlined : System.Outlined Guarantee Settled st
  routed : Routed st
  conserved : Conserved (deeds st) st.pool.shared.registry st.rounds

theorem Sound.next {st : Traces} (hst : Sound st) (sc : Sched Input) :
    Turns st sc (coordinator.traced.next st sc) ∧ Sound (coordinator.traced.next st sc) := by
  have hturn := hst.outlined.advances (S := coordinator) sc
  exact ⟨hturn, hturn.outlined outline_runSession hst.outlined, hst.routed.advance hturn,
    hst.conserved.advance hst.outlined hst.routed hturn⟩

theorem sound_tracing (state : Option Str) : Sound (tracing state) :=
  ⟨⟨rfl, nofun, nofun⟩, routed_tracing state, conserved_initial rfl rfl⟩

/-- No routed command is lost or answered twice: in every state of every run the commands
of every router are kept. -/
theorem commands_kept (state : Option Str) (scs : List (Sched Input)) (rid : Nat) :
    CommandsKept (coordinator.traced.exec (tracing state) scs) rid := by
  have hsound : Sound (coordinator.traced.exec (tracing state) scs) :=
    Machine.exec_always (sound_tracing state) (fun st sc hst => (hst.next sc).2) scs
  generalize coordinator.traced.exec (tracing state) scs = st at hsound
  obtain ⟨houtlined, hrouted, hst⟩ := id hsound
  refine ⟨hst.booked.bounded rid, hst.booked.increasing rid, hst.booked.inOrder rid,
    fun t t' => hst.single hrouted, fun t ht => hst.placed houtlined ht, hst.decided, hst.once,
    fun hreturned t ht => hreturned.answered hst houtlined hrouted ht, fun hreturned scs => ?_⟩
  obtain ⟨hdead, -⟩ := hreturned.settled hst houtlined hrouted
  have hrun := Machine.exec_always (M := coordinator.traced)
    (I := fun st' => Sound st' ∧ st'.pool.shared.registry.Dead rid ∧
      accepted rid (deeds st') = accepted rid (deeds st)) ⟨hsound, hdead, rfl⟩ ?_ scs
  · exact hrun.2.2
  · rintro st' sc ⟨hst', hdead', hsame⟩
    obtain ⟨hturn, hnext⟩ := hst'.next sc
    exact ⟨hnext, (hst'.routed.extends hturn).2.dead hdead',
      (hst'.conserved.accepted_of_dead hst'.outlined hst'.routed hdead' hturn).trans hsame⟩

end EngineResidency.Coordinator
