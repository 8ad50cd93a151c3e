-- SUMMARY: A ledger of the commands of a router, kept from what the critical sections do to its queue.
import EngineResidency.Coordinator.Routers

/-!
# The ledger of a router

The log of a run tells of every critical section which registry it found, and so which
commands have joined a queue and which have left it. Those that left while the router was
alive were taken to be processed; those that left once it was dead were taken to be failed.
`Booked` relates the ledger to the registry, and holds after every section that is one of
those of `Deal`.
-/

namespace EngineResidency.Coordinator

open EngineResidency.Runtime

/-! ## The ledger -/

/-- The commands that a step has added to a queue. -/
def joinedBy (rid : Nat) : Deed → List WorkerCommand
  | ⟨.locked _ f, g⟩ => joining rid g (f g)
  | _ => []

/-- The commands that a step has taken off the queue of a router that was alive. -/
def startedBy (rid : Nat) : Deed → List WorkerCommand
  | ⟨.locked _ f, g⟩ => if routerAlive rid g then leaving rid g (f g) else []
  | _ => []

/-- The commands that a step has taken off the queue of a router that was not. -/
def sweptBy (rid : Nat) : Deed → List WorkerCommand
  | ⟨.locked _ f, g⟩ => if routerAlive rid g then [] else leaving rid g (f g)
  | _ => []

/-- The tickets of the commands that a router has accepted, in order. -/
def accepted (rid : Nat) (h : List Deed) : List Nat := tickets (h.flatMap (joinedBy rid))

/-- Those that were taken to be processed. -/
def processed (rid : Nat) (h : List Deed) : List Nat := tickets (h.flatMap (startedBy rid))

/-- Those that were taken to be failed. -/
def taken (rid : Nat) (h : List Deed) : List Nat := tickets (h.flatMap (sweptBy rid))

section Append

variable (rid : Nat) (h h' : List Deed) (ready : Registry → Bool) (f : Registry → Registry)
  (g : Registry)

theorem accepted_append : accepted rid (h ++ h') = accepted rid h ++ accepted rid h' := by
  simp [accepted, tickets]

theorem processed_append : processed rid (h ++ h') = processed rid h ++ processed rid h' := by
  simp [processed, tickets]

theorem taken_append : taken rid (h ++ h') = taken rid h ++ taken rid h' := by
  simp [taken, tickets]

theorem accepted_section : accepted rid [⟨.locked ready f, g⟩] = tickets (joining rid g (f g)) :=
  congrArg tickets (List.append_nil _)

theorem processed_section : processed rid [⟨.locked ready f, g⟩] =
    if routerAlive rid g then tickets (leaving rid g (f g)) else [] := by
  simp only [processed, List.flatMap_cons, List.flatMap_nil, List.append_nil, startedBy]
  split <;> rfl

theorem taken_section : taken rid [⟨.locked ready f, g⟩] =
    if routerAlive rid g then [] else tickets (leaving rid g (f g)) := by
  simp only [taken, List.flatMap_cons, List.flatMap_nil, List.append_nil, sweptBy]
  split <;> rfl

end Append

/-! ## Sections that touch it -/

/-- What a critical section does to the queues, the promises and the tickets, given what its
thread has done before it. -/
inductive Deal (l : Loop) (h : List Deed) (g : Registry) (f : Registry → Registry) : Prop
  | idle (hqueue : ∀ rid, queueOf rid (f g) = queueOf rid g)
    (hreplies : ∀ g, (f g).replies = g.replies) (hticket : (f g).nextTicket = g.nextTicket)
  | accept {rid : Nat} {cmd : WorkerCommand}
    (haccepts : (g.routers.lookup rid).any accepts = true) (hf : f = enqueueCommand rid cmd)
  | refuse {rid : Nat} {cmd : WorkerCommand}
    (hrefuses : (g.routers.lookup rid).any accepts = false) (hf : f = enqueueCommand rid cmd)
  | pop {s : SessionLocal} {rid : Nat} (hl : l = .dispatch s rid) (hfirst : removed rid h = [])
    (halive : routerAlive rid g = true) (hf : f = popCommand rid)
  | swap {s : SessionLocal} {rid : Nat} (hl : l = .dispatch s rid) (hdead : g.Dead rid)
    (hf : f = swapQueue rid)
  | fulfil {s : SessionLocal} {rid t : Nat} {rep : CommandReply} (hl : l = .dispatch s rid)
    (hmem : t ∈ tickets (removed rid h)) (hunset : g.replies.lookup t = none)
    (hf : f = Registry.fulfil t rep)

/-- What it does to one queue. -/
inductive Change (l : Loop) (h : List Deed) (rid : Nat) (g g' : Registry) : Prop
  | same (hqueue : queueOf rid g' = queueOf rid g)
  | joined {cmd : WorkerCommand} (halive : routerAlive rid g = true)
    (hroom : (queueOf rid g).length < kMaxQueue) (hticket : cmd.ticket = g.nextTicket)
    (hqueue : queueOf rid g' = queueOf rid g ++ [cmd]) (hnext : g'.nextTicket = g.nextTicket + 1)
    (hreplies : g'.replies = g.replies)
  | started {s : SessionLocal} (hl : l = .dispatch s rid) (hfirst : removed rid h = [])
    (halive : routerAlive rid g = true) (hqueue : queueOf rid g' = (queueOf rid g).tail)
  | swept {s : SessionLocal} (hl : l = .dispatch s rid) (hdead : g.Dead rid)
    (hqueue : queueOf rid g' = [])

/-- What it does to one promise. -/
inductive Answer (l : Loop) (h : List Deed) (t : Nat) (g : Registry) (f : Registry → Registry) : Prop
  | same (hreplies : (f g).replies.lookup t = g.replies.lookup t)
  | refused (hticket : t = g.nextTicket) (hnext : (f g).nextTicket = g.nextTicket + 1)
    (hset : ((f g).replies.lookup t).isSome = true)
  | answered {s : SessionLocal} {rid : Nat} {rep : CommandReply} (hl : l = .dispatch s rid)
    (hmem : t ∈ tickets (removed rid h)) (hf : f = Registry.fulfil t rep)
    (hset : ((f g).replies.lookup t).isSome = true)

section Deal

variable {l : Loop} {h : List Deed} {g : Registry} {f : Registry → Registry} {rid : Nat}

theorem queueOf_popCommand_ne {rid' : Nat} (hne : rid' ≠ rid) :
    queueOf rid' (popCommand rid g) = queueOf rid' g :=
  queueOf_modifyRouter_ne hne

theorem queueOf_swapQueue_ne {rid' : Nat} (hne : rid' ≠ rid) :
    queueOf rid' (swapQueue rid g) = queueOf rid' g :=
  queueOf_modifyRouter_ne hne

theorem not_alive_of_dead {g : Registry} {rid : Nat} (hdead : g.Dead rid) :
    routerAlive rid g = false := by
  obtain ⟨r, hr, hdead⟩ := hdead
  simp [routerAlive, hr, hdead]

/-- A router that accepts a command is alive and has room. -/
theorem alive_of_accepts (haccepts : (g.routers.lookup rid).any accepts = true) :
    routerAlive rid g = true ∧ (queueOf rid g).length < kMaxQueue := by
  cases hr : g.routers.lookup rid with
  | none => simp [hr] at haccepts
  | some r =>
    simp only [hr, Option.any_some, accepts, Bool.and_eq_true, decide_eq_true_eq] at haccepts
    simp [routerAlive, queueOf, hr, haccepts]

theorem Deal.change (hdeal : Deal l h g f) (hunnamed : g.replies.lookup g.nextTicket = none)
    (rid : Nat) : Change l h rid g (f g) := by
  cases hdeal with
  | idle hqueue => exact .same (hqueue rid)
  | @accept k cmd haccepts hf =>
    subst hf
    obtain ⟨hself, hother, hreplies, hnext⟩ := enqueueCommand_accepted cmd haccepts
    by_cases hne : rid = k
    · subst hne
      obtain ⟨halive, hroom⟩ := alive_of_accepts haccepts
      exact .joined halive hroom rfl hself hnext hreplies
    · exact .same (hother rid hne)
  | @refuse k cmd hrefuses hf =>
    subst hf
    obtain ⟨hrouters, -⟩ := enqueueCommand_refused cmd hrefuses hunnamed
    exact .same (queueOf_of_routers hrouters rid)
  | @pop s k hl hfirst halive hf =>
    subst hf
    by_cases hne : rid = k
    · subst hne
      exact .started hl hfirst halive (queueOf_popCommand_self rid g)
    · exact .same (queueOf_popCommand_ne hne)
  | @swap s k hl hdead hf =>
    subst hf
    by_cases hne : rid = k
    · subst hne
      exact .swept hl hdead (queueOf_swapQueue_self rid g)
    · exact .same (queueOf_swapQueue_ne hne)
  | fulfil _ _ _ hf =>
    subst hf
    exact .same (queueOf_of_routers (routers_fulfil _ _ g) rid)

/-- Only the dispatcher of a router takes commands off its queue, and one command while the
router is alive, as the first of a round. -/
theorem Change.leaves (hchange : Change l h rid g (f g)) (hleaves : leaving rid g (f g) ≠ []) :
    (∃ s, l = .dispatch s rid) ∧ (routerAlive rid g = true → removed rid h = []) := by
  cases hchange with
  | same hqueue => exact absurd (leaving_same hqueue) hleaves
  | joined _ _ _ hqueue => exact absurd (by simp [leaving, hqueue]) hleaves
  | @started s hl hfirst => exact ⟨⟨s, hl⟩, fun _ => hfirst⟩
  | @swept s hl hdead =>
    refine ⟨⟨s, hl⟩, fun halive => ?_⟩
    rw [not_alive_of_dead hdead] at halive
    cases halive

/-- Only a router that is alive accepts a command. -/
theorem Change.joins (hchange : Change l h rid g (f g)) (hjoins : joining rid g (f g) ≠ []) :
    routerAlive rid g = true := by
  cases hchange with
  | same hqueue => exact absurd (joining_same hqueue) hjoins
  | joined halive => exact halive
  | started _ _ _ hqueue | swept _ _ hqueue =>
    exact absurd (by simp [joining, hqueue]) hjoins

/-- What is queued was queued, or has just joined. -/
theorem Change.queued (hchange : Change l h rid g (f g)) {cmd : WorkerCommand}
    (hmem : cmd ∈ queueOf rid (f g)) : cmd ∈ queueOf rid g ∨ cmd ∈ joining rid g (f g) := by
  cases hchange with
  | same hqueue => exact .inl (hqueue ▸ hmem)
  | joined _ _ _ hqueue =>
    rw [hqueue] at hmem
    refine (List.mem_append.mp hmem).imp_right fun hnew => ?_
    simpa [joining, hqueue] using hnew
  | started _ _ _ hqueue => exact .inl (List.mem_of_mem_tail (hqueue ▸ hmem))
  | swept _ _ hqueue =>
    rw [hqueue] at hmem
    cases hmem

/-- The queue of a router that is dead does not become longer. -/
theorem Change.stays_empty (hchange : Change l h rid g (f g)) (hdead : g.Dead rid)
    (hempty : queueOf rid g = []) : queueOf rid (f g) = [] := by
  cases hchange with
  | same hqueue => exact hqueue.trans hempty
  | joined halive =>
    rw [not_alive_of_dead hdead] at halive
    cases halive
  | started _ _ _ hqueue => rw [hqueue, hempty, List.tail_nil]
  | swept _ _ hqueue => exact hqueue

theorem Deal.answer (hdeal : Deal l h g f) (hunnamed : g.replies.lookup g.nextTicket = none)
    (t : Nat) : Answer l h t g f := by
  cases hdeal with
  | idle _ hreplies => exact .same (by rw [hreplies g])
  | @accept k cmd haccepts hf =>
    subst hf
    obtain ⟨-, -, hreplies, -⟩ := enqueueCommand_accepted cmd haccepts
    exact .same (by rw [hreplies])
  | @refuse k cmd hrefuses hf =>
    subst hf
    obtain ⟨-, hreplies, hnext⟩ := enqueueCommand_refused cmd hrefuses hunnamed
    by_cases hne : t = g.nextTicket
    · subst hne
      exact .refused rfl hnext (by rw [hreplies, AList.lookup_insert]; rfl)
    · exact .same (by rw [hreplies, AList.lookup_insert_ne hne])
  | pop _ _ _ hf => exact .same (hf ▸ rfl)
  | swap _ _ hf => exact .same (hf ▸ rfl)
  | @fulfil s k t' rep hl hmem hunset hf =>
    subst hf
    by_cases hne : t = t'
    · subst hne
      exact .answered hl hmem rfl (by rw [replies_fulfil rep hunset, AList.lookup_insert]; rfl)
    · exact .same (by rw [replies_fulfil rep hunset, AList.lookup_insert_ne hne])

theorem Deal.nextTicket_le (hdeal : Deal l h g f) : g.nextTicket ≤ (f g).nextTicket := by
  cases hdeal with
  | idle _ _ hticket => exact Nat.le_of_eq hticket.symm
  | accept _ hf => exact hf ▸ nextTicket_enqueueCommand _ _ g ▸ Nat.le_succ _
  | refuse _ hf => exact hf ▸ nextTicket_enqueueCommand _ _ g ▸ Nat.le_succ _
  | pop _ _ _ hf => exact hf ▸ Nat.le_refl _
  | swap _ _ hf => exact hf ▸ Nat.le_refl _
  | fulfil _ _ _ hf => exact hf ▸ Nat.le_of_eq (nextTicket_fulfil _ _ g).symm

/-- A promise that is set once more by an answer is not set. -/
theorem Deal.unset {t : Nat} {rep : CommandReply} (hdeal : Deal l h g (Registry.fulfil t rep)) :
    g.replies.lookup t = none := by
  generalize hF : Registry.fulfil t rep = F at hdeal
  have htickets : ∀ rid cmd, F ≠ enqueueCommand rid cmd := by
    rintro rid cmd rfl
    have hnext := congrArg Registry.nextTicket (congrFun hF g)
    rw [nextTicket_fulfil, nextTicket_enqueueCommand] at hnext
    exact absurd hnext (Nat.ne_of_lt (Nat.lt_succ_self _))
  cases hdeal with
  | idle _ hreplies => exact absurd hF.symm (ne_fulfil hreplies t rep)
  | accept _ hf | refuse _ hf => exact absurd hf (htickets _ _)
  | pop _ _ _ hf | swap _ _ hf =>
    exact absurd (hf.symm.trans hF.symm) (ne_fulfil (fun g => by rfl) t rep)
  | fulfil _ _ hunset hf =>
    obtain ⟨rfl, -⟩ := fulfil_injective (hF.trans hf)
    exact hunset

/-- No two queues become longer at once. -/
theorem Deal.joins_once (hdeal : Deal l h g f) (hunnamed : g.replies.lookup g.nextTicket = none)
    {rid' : Nat} (hjoins : joining rid g (f g) ≠ []) (hjoins' : joining rid' g (f g) ≠ []) :
    rid = rid' := by
  cases hdeal with
  | @accept k cmd haccepts hf =>
    subst hf
    obtain ⟨-, hother, -, -⟩ := enqueueCommand_accepted cmd haccepts
    have hself : ∀ i, joining i g (enqueueCommand k cmd g) ≠ [] → i = k := fun i hjoins => by
      by_contra hne
      exact hjoins (joining_same (hother i hne))
    exact (hself rid hjoins).trans (hself rid' hjoins').symm
  | idle hqueue => exact absurd (joining_same (hqueue rid)) hjoins
  | @refuse k cmd hrefuses hf =>
    subst hf
    obtain ⟨hrouters, -⟩ := enqueueCommand_refused cmd hrefuses hunnamed
    exact absurd (joining_same (queueOf_of_routers hrouters rid)) hjoins
  | @pop s k _ _ _ hf | @swap s k _ _ hf =>
    subst hf
    refine absurd ?_ hjoins
    by_cases hne : rid = k
    · subst hne
      simp [joining, queueOf_popCommand_self, queueOf_swapQueue_self]
    · first
        | exact joining_same (queueOf_popCommand_ne hne)
        | exact joining_same (queueOf_swapQueue_ne hne)
  | fulfil _ _ _ hf =>
    subst hf
    exact absurd (joining_same (queueOf_of_routers (routers_fulfil _ _ g) rid)) hjoins

end Deal

/-! ## The ledger and the registry -/

/-- What the section of a change adds to the ledger. -/
inductive Entered (rid : Nat) (e : Deed) (g g' : Registry) : Prop
  | nothing (hjoined : accepted rid [e] = []) (hstarted : processed rid [e] = [])
    (hswept : taken rid [e] = []) (hqueue : queueOf rid g' = queueOf rid g)
  | joined (hjoined : accepted rid [e] = [g.nextTicket]) (hstarted : processed rid [e] = [])
    (hswept : taken rid [e] = []) (hnext : g'.nextTicket = g.nextTicket + 1)
    (hreplies : g'.replies = g.replies)
    (hqueue : tickets (queueOf rid g') = tickets (queueOf rid g) ++ [g.nextTicket])
    (hroom : (queueOf rid g').length ≤ kMaxQueue)
  | started (hjoined : accepted rid [e] = []) (hswept : taken rid [e] = [])
    (halive : routerAlive rid g = true) (hsingle : (processed rid [e]).length ≤ 1)
    (hqueue : tickets (queueOf rid g) = processed rid [e] ++ tickets (queueOf rid g'))
  | swept (hjoined : accepted rid [e] = []) (hstarted : processed rid [e] = [])
    (hdead : g.Dead rid) (hswept : taken rid [e] = tickets (queueOf rid g))
    (hqueue : queueOf rid g' = [])

theorem Change.entered {l : Loop} {h : List Deed} {g : Registry} {f : Registry → Registry}
    {rid : Nat} (hchange : Change l h rid g (f g)) (ready : Registry → Bool) :
    Entered rid ⟨.locked ready f, g⟩ g (f g) := by
  have hjoined := accepted_section rid ready f g
  have hstarted := processed_section rid ready f g
  have hswept := taken_section rid ready f g
  cases hchange with
  | same hqueue =>
    rw [joining_same hqueue] at hjoined
    rw [leaving_same hqueue] at hstarted hswept
    exact .nothing hjoined (hstarted.trans (ite_self _)) (hswept.trans (ite_self _)) hqueue
  | joined halive hroom hticket hqueue hnext hreplies =>
    rw [halive] at hstarted hswept
    refine .joined (hjoined.trans ?_) (hstarted.trans ?_) hswept hnext hreplies ?_ ?_
    · simp [joining, hqueue, tickets, hticket]
    · simp [leaving, hqueue, tickets]
    · simp [hqueue, tickets, hticket]
    · rw [hqueue, List.length_append]
      exact hroom
  | started _ _ halive hqueue =>
    have hleaving : leaving rid g (f g) = (queueOf rid g).head?.toList := by
      unfold leaving
      rw [hqueue]
      cases queueOf rid g <;> simp
    rw [halive, if_pos rfl, hleaving] at hstarted
    rw [halive] at hswept
    refine .started (hjoined.trans ?_) hswept halive ?_ ?_
    · simp [joining, hqueue, tickets]
    · rw [hstarted]
      cases queueOf rid g <;> simp [tickets]
    · rw [hstarted, hqueue]
      cases queueOf rid g <;> simp [tickets]
  | swept _ hdead hqueue =>
    rw [not_alive_of_dead hdead] at hstarted hswept
    refine .swept (hjoined.trans ?_) hstarted hdead (hswept.trans ?_) hqueue
    · simp [joining, hqueue, tickets]
    · simp [leaving, hqueue]

/-- What holds of the ledger and the registry after every section. -/
structure Booked (h : List Deed) (g : Registry) : Prop where
  /-- Every accepted command was taken, in order, or is still queued. -/
  inOrder : ∀ rid, accepted rid h = processed rid h ++ taken rid h ++ tickets (queueOf rid g)
  increasing : ∀ rid, (accepted rid h).Pairwise (· < ·)
  below : ∀ rid, ∀ t ∈ accepted rid h, t < g.nextTicket
  apart : ∀ rid rid' t, t ∈ accepted rid h → t ∈ accepted rid' h → rid = rid'
  bounded : ∀ rid, (queueOf rid g).length ≤ kMaxQueue
  named : ∀ t, (g.replies.lookup t).isSome = true → t < g.nextTicket
  waiting : ∀ rid, ∀ t ∈ tickets (queueOf rid g), g.replies.lookup t = none
  ended : ∀ rid, taken rid h ≠ [] → g.Dead rid

section Booked

variable {l : Loop} {h steps : List Deed} {g : Registry} {f : Registry → Registry}
  {rid : Nat}

theorem booked_nil {g : Registry} (hrouters : g.routers = ∅) (hreplies : g.replies = ∅) :
    Booked [] g := by
  have hqueue : ∀ rid, queueOf rid g = [] := fun rid => by simp [queueOf, hrouters]
  refine ⟨fun rid => ?_, fun rid => List.Pairwise.nil, fun rid t ht => absurd ht List.not_mem_nil,
    fun rid rid' t ht => absurd ht List.not_mem_nil, fun rid => ?_, fun t ht => ?_,
    fun rid t ht => ?_, fun rid hne => absurd rfl hne⟩
  · rw [hqueue]
    rfl
  · rw [hqueue]
    exact Nat.zero_le _
  · simp [hreplies] at ht
  · rw [hqueue] at ht
    cases ht

/-- The next ticket is not answered yet. -/
theorem Booked.unnamed (hbooked : Booked h g) : g.replies.lookup g.nextTicket = none := by
  cases hreply : g.replies.lookup g.nextTicket with
  | none => rfl
  | some rep => exact absurd (hbooked.named g.nextTicket (by rw [hreply]; rfl)) (Nat.lt_irrefl _)

/-- A queued command was not taken. -/
theorem Booked.not_taken (hbooked : Booked h g) {t : Nat} (hqueued : t ∈ tickets (queueOf rid g)) :
    t ∉ processed rid h ++ taken rid h := by
  have hnodup : (accepted rid h).Nodup := (hbooked.increasing rid).imp Nat.ne_of_lt
  rw [hbooked.inOrder rid] at hnodup
  exact fun hmem => (List.nodup_append'.mp hnodup).2.2 hmem hqueued

theorem Booked.accepted_of_taken (hbooked : Booked h g) {t : Nat}
    (hmem : t ∈ processed rid h ++ taken rid h) : t ∈ accepted rid h := by
  rw [hbooked.inOrder rid]
  exact List.mem_append_left _ hmem

theorem Booked.accepted_of_queued (hbooked : Booked h g) {t : Nat}
    (hmem : t ∈ tickets (queueOf rid g)) : t ∈ accepted rid h := by
  rw [hbooked.inOrder rid]
  exact List.mem_append_right _ hmem

theorem Deal.entered (hdeal : Deal l steps g f) (hbooked : Booked h g)
    (ready : Registry → Bool) (rid : Nat) : Entered rid ⟨.locked ready f, g⟩ g (f g) :=
  (hdeal.change hbooked.unnamed rid).entered ready

/-- What a router has accepted after a section, it had accepted before, or the command has
the ticket that was next. -/
theorem Entered.accepted {e : Deed} {g' : Registry} (hentered : Entered rid e g g') {t : Nat}
    (ht : t ∈ accepted rid (h ++ [e])) :
    t ∈ accepted rid h ∨ (t = g.nextTicket ∧ accepted rid [e] ≠ [] ∧
      g'.nextTicket = g.nextTicket + 1) := by
  rw [accepted_append] at ht
  rcases List.mem_append.mp ht with hold | hnew
  · exact .inl hold
  · cases hentered with
    | nothing hjoined | started hjoined | swept hjoined =>
      rw [hjoined] at hnew
      cases hnew
    | joined hjoined _ _ hnext =>
      rw [hjoined] at hnew
      exact .inr ⟨List.mem_singleton.mp hnew, by rw [hjoined]; nofun, hnext⟩

theorem Booked.step_inOrder (hbooked : Booked h g) {e : Deed} {g' : Registry}
    (hentered : Entered rid e g g') : accepted rid (h ++ [e]) =
      processed rid (h ++ [e]) ++ taken rid (h ++ [e]) ++ tickets (queueOf rid g') := by
  rw [accepted_append, processed_append, taken_append, hbooked.inOrder rid]
  cases hentered with
  | nothing hjoined hstarted hswept hqueue =>
    rw [hjoined, hstarted, hswept, hqueue]
    simp
  | joined hjoined hstarted hswept _ _ hqueue =>
    rw [hjoined, hstarted, hswept, hqueue]
    simp
  | started hjoined hswept halive _ hqueue =>
    -- While the router is alive, nothing was taken to be failed.
    have hnone : taken rid h = [] := by
      by_contra hne
      have hdead := not_alive_of_dead (hbooked.ended rid hne)
      rw [halive] at hdead
      cases hdead
    rw [hjoined, hswept, hqueue, hnone]
    simp
  | swept hjoined hstarted _ hswept hqueue =>
    rw [hjoined, hstarted, hswept, hqueue]
    simp [tickets]

theorem Booked.step_increasing (hbooked : Booked h g) {e : Deed} {g' : Registry}
    (hentered : Entered rid e g g') : (accepted rid (h ++ [e])).Pairwise (· < ·) := by
  rw [accepted_append]
  cases hentered with
  | nothing hjoined | started hjoined | swept hjoined =>
    rw [hjoined, List.append_nil]
    exact hbooked.increasing rid
  | joined hjoined =>
    rw [hjoined]
    refine List.pairwise_append.mpr ⟨hbooked.increasing rid, List.pairwise_singleton _ _, ?_⟩
    intro t ht t' ht'
    rw [List.mem_singleton.mp ht']
    exact hbooked.below rid t ht

/-- A promise that a section sets has a ticket. -/
theorem Booked.step_named (hbooked : Booked h g) (hdeal : Deal l steps g f)
    (hremoved : ∀ s rid, l = .dispatch s rid → ∀ t ∈ tickets (removed rid steps),
      t ∈ processed rid h ++ taken rid h)
    {t : Nat} (hset : ((f g).replies.lookup t).isSome = true) : t < (f g).nextTicket := by
  have hle := hdeal.nextTicket_le
  cases hdeal.answer hbooked.unnamed t with
  | same hreplies =>
    rw [hreplies] at hset
    exact Nat.lt_of_lt_of_le (hbooked.named t hset) hle
  | refused hticket hnext =>
    rw [hticket, hnext]
    exact Nat.lt_succ_self _
  | @answered s k _ hl hmem =>
    have haccepted := hbooked.accepted_of_taken (hremoved s k hl t hmem)
    exact Nat.lt_of_lt_of_le (hbooked.below k t haccepted) hle

/-- The promise of an accepted command is set by the dispatcher that has taken it. -/
theorem Deal.answers (hdeal : Deal l steps g f) (hbooked : Booked h g)
    (hremoved : ∀ s rid, l = .dispatch s rid → ∀ t ∈ tickets (removed rid steps),
      t ∈ processed rid h ++ taken rid h)
    {t : Nat} (haccepted : t ∈ accepted rid h) (hset : ((f g).replies.lookup t).isSome = true) :
    (g.replies.lookup t).isSome = true ∨
      ∃ s rep, l = .dispatch s rid ∧ t ∈ tickets (removed rid steps) ∧ f = Registry.fulfil t rep := by
  cases hdeal.answer hbooked.unnamed t with
  | same hreplies => exact .inl (hreplies ▸ hset)
  | refused hticket => exact absurd (hbooked.below rid t haccepted) (hticket ▸ Nat.lt_irrefl _)
  | @answered s k rep hl hmem hf =>
    have haccepted' := hbooked.accepted_of_taken (hremoved s k hl t hmem)
    obtain rfl := hbooked.apart rid k t haccepted haccepted'
    exact .inr ⟨s, rep, hl, hmem, hf⟩

/-- A queued command is not answered. -/
theorem Booked.step_waiting (hbooked : Booked h g) (hdeal : Deal l steps g f)
    (hremoved : ∀ s rid, l = .dispatch s rid → ∀ t ∈ tickets (removed rid steps),
      t ∈ processed rid h ++ taken rid h)
    {t : Nat} (hqueued : t ∈ tickets (queueOf rid (f g))) : (f g).replies.lookup t = none := by
  have hkeeps : t ∈ tickets (queueOf rid g) → (f g).replies.lookup t = none := by
    intro hold
    by_contra hset
    have hset := Option.isSome_iff_ne_none.mpr hset
    rcases hdeal.answers hbooked hremoved (hbooked.accepted_of_queued hold) hset with
      hbefore | ⟨s, rep, hl, hmem, -⟩
    · rw [hbooked.waiting rid t hold] at hbefore
      cases hbefore
    · exact hbooked.not_taken hold (hremoved s rid hl t hmem)
  cases hdeal.entered hbooked (fun _ => true) rid with
  | nothing _ _ _ hqueue => exact hkeeps (hqueue ▸ hqueued)
  | joined _ _ _ _ hreplies hqueue =>
    rw [hqueue] at hqueued
    rcases List.mem_append.mp hqueued with hold | hnew
    · exact hkeeps hold
    · rw [hreplies, List.mem_singleton.mp hnew]
      exact hbooked.unnamed
  | started _ _ _ _ hqueue => exact hkeeps (hqueue ▸ List.mem_append_right _ hqueued)
  | swept _ _ _ _ hqueue =>
    rw [hqueue] at hqueued
    cases hqueued

/-- Every section keeps the ledger and the registry in step. -/
theorem Booked.step (hbooked : Booked h g) (hdeal : Deal l steps g f)
    (hremoved : ∀ s rid, l = .dispatch s rid → ∀ t ∈ tickets (removed rid steps),
      t ∈ processed rid h ++ taken rid h)
    (hdead : ∀ rid, g.Dead rid → (f g).Dead rid) (ready : Registry → Bool) :
    Booked (h ++ [⟨.locked ready f, g⟩]) (f g) := by
  have hentered := hdeal.entered hbooked ready
  have hle := hdeal.nextTicket_le
  refine ⟨fun rid => hbooked.step_inOrder (hentered rid),
    fun rid => hbooked.step_increasing (hentered rid), fun rid t ht => ?_,
    fun rid rid' t ht ht' => ?_, fun rid => ?_, fun t ht => hbooked.step_named hdeal hremoved ht,
    fun rid t ht => hbooked.step_waiting hdeal hremoved ht, fun rid hne => ?_⟩
  · rcases (hentered rid).accepted ht with hold | ⟨rfl, -, hnext⟩
    · exact Nat.lt_of_lt_of_le (hbooked.below rid t hold) hle
    · rw [hnext]
      exact Nat.lt_succ_self _
  · rcases (hentered rid).accepted ht with hold | ⟨rfl, hjoins, -⟩
    · rcases (hentered rid').accepted ht' with hold' | ⟨rfl, -⟩
      · exact hbooked.apart rid rid' t hold hold'
      · exact absurd (hbooked.below rid _ hold) (Nat.lt_irrefl _)
    · rcases (hentered rid').accepted ht' with hold' | ⟨-, hjoins', -⟩
      · exact absurd (hbooked.below rid' _ hold') (Nat.lt_irrefl _)
      · have hjoining : ∀ i, accepted i [⟨.locked ready f, g⟩] ≠ [] → joining i g (f g) ≠ [] := by
          intro i hjoins hnil
          rw [accepted_section, hnil] at hjoins
          exact hjoins rfl
        exact hdeal.joins_once hbooked.unnamed (hjoining rid hjoins) (hjoining rid' hjoins')
  · have hbound := hbooked.bounded rid
    cases hentered rid with
    | nothing _ _ _ hqueue => rw [hqueue]; exact hbound
    | joined _ _ _ _ _ _ hroom => exact hroom
    | started _ _ _ _ hqueue =>
      have hlength := congrArg List.length hqueue
      simp only [tickets, List.length_append, List.length_map] at hlength
      omega
    | swept _ _ _ _ hqueue => rw [hqueue]; exact Nat.zero_le _
  · rw [taken_append] at hne
    cases hentered rid with
    | nothing _ _ hswept | joined _ _ hswept | started _ hswept =>
      rw [hswept, List.append_nil] at hne
      exact hdead rid (hbooked.ended rid hne)
    | swept _ _ hdying => exact hdead rid hdying

end Booked

end EngineResidency.Coordinator
