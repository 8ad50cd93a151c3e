-- SUMMARY: Which frame of a worker a controller's success report comes from.
import EngineResidency.Coordinator.RoutedUse

/-!
# Commands and responses

A dispatcher forwards an EXECUTE command, reads one frame and answers the command with it,
unless the frame reports an error. It compares neither the type of the frame nor the command
identity in it, and the session that reports to the controller fills in the identity itself.
So a success report comes from the frame that was read while its own command was in flight;
whether that frame is the result of the command, the worker decides.
-/

namespace EngineResidency.Coordinator

open EngineResidency.Runtime Prog

/-! ## Reports -/

/-- The message that reports the reply of a command to its controller. -/
def IsReport (rep : CommandReply) (cmd : WorkerCommand) (m : ProtocolMessage) : Prop :=
  ∃ k, replyToController rep cmd.commandId cmd.epoch cmd.authority = .act (.send m) k

/-- A session has queued the command of the message, and a reply to it has arrived that is
reported by `m`. -/
def Awaited (msg m : ProtocolMessage) (h : List Deed) : Prop :=
  ∃ ready rid g rep,
    (⟨.locked ready (enqueueCommand rid
      (routedCommand .execute msg (parsePayload msg.payload))), g⟩ : Deed) ∈ h ∧
    (⟨.await g.nextTicket, some rep⟩ : Deed) ∈ h ∧ rep.ok = true ∧
    IsReport rep (routedCommand .execute msg (parsePayload msg.payload)) m

theorem Awaited.append {msg m : ProtocolMessage} {h : List Deed} (hawaited : Awaited msg m h)
    (es : List Deed) : Awaited msg m (h ++ es) := by
  obtain ⟨ready, rid, g, rep, henqueued, hreplied, hrest⟩ := hawaited
  exact ⟨ready, rid, g, rep, List.mem_append_left es henqueued, List.mem_append_left es hreplied,
    hrest⟩

/-- A session that has received an EXECUTE message reports a success that it has awaited. -/
def Reports (l : Loop) (h : List Deed) : Action → Prop
  | .send m => ∀ s msg rest, l = .session s → h = ⟨.recv, some msg⟩ :: rest →
    msg.type = .execute → m.type = .registerAck → Awaited msg m h
  | _ => True

section Outlines

variable {A : Type} {l : Loop} {s : SessionLocal} {h : List Deed} {msg : ProtocolMessage}

/-- A round that has not begun with an EXECUTE message has nothing to report. -/
theorem reports_other {p : Thread A} {e : Deed} {rest : List Deed}
    (he : ∀ msg, e = ⟨.recv, some msg⟩ → msg.type ≠ .execute) :
    Outline (Reports l) (fun _ _ => True) p (e :: rest) := by
  induction p generalizing rest with
  | done a => trivial
  | act a k ih =>
    refine ⟨?_, fun r => ih r⟩
    cases a with
    | send m =>
      intro s msg rest' _ hh hexecute
      exact absurd hexecute (he msg (List.cons.inj hh).1)
    | _ => trivial

theorem reports_dispatch {p : Thread A} {rid : Nat} :
    Outline (Reports (.dispatch s rid)) (fun _ _ => True) p h := by
  induction p generalizing h with
  | done a => trivial
  | act a k ih =>
    refine ⟨?_, fun r => ih r⟩
    cases a with
    | send m => nofun
    | _ => trivial

/-- A reply that reports no success. -/
theorem reports_failure {rep : CommandReply} {cmdId : UInt64} {epoch authority : UInt32}
    (hrep : rep.ok = false) :
    Outline (Reports (.session s)) (fun _ _ => True) (replyToController rep cmdId epoch authority)
      h := by
  refine outline_perform (fun _ _ _ _ _ _ hack => ?_) fun _ => trivial
  rw [hrep] at hack
  cases hack

theorem reports_awaitReply {rid : Nat} {timeout : String} :
    Outline (Reports (.session s)) (fun _ _ => True)
      (awaitReply rid (routedCommand .execute msg (parsePayload msg.payload)) timeout)
      (⟨.recv, some msg⟩ :: h) := by
  refine outline_bind (outline_perform trivial fun g => ?_)
  refine outline_perform trivial fun received => ?_
  cases received with
  | none => exact reports_failure rfl
  | some rep =>
    cases hok : rep.ok with
    | false => exact reports_failure hok
    | true =>
      refine outline_perform (fun s' msg' rest _ hh _ _ => ?_) fun _ => trivial
      obtain ⟨hfirst, -⟩ := List.cons.inj hh
      cases hfirst
      refine ⟨_, rid, g, rep, ?_, ?_, hok, _, rfl⟩
      · exact List.mem_append_left _ (List.mem_append_right _ (List.mem_singleton_self _))
      · exact List.mem_append_right _ (List.mem_singleton_self _)

theorem reports_handleExecute :
    Outline (Reports (.session s)) (fun _ _ => True) (handleExecute msg (parsePayload msg.payload))
      (⟨.recv, some msg⟩ :: h) := by
  unfold handleExecute
  split
  · refine outline_bind (outline_perform trivial fun g => ?_)
    split
    · exact reports_failure rfl
    · split
      · exact reports_failure rfl
      · refine outline_perform trivial fun g' => ?_
        split
        · exact reports_awaitReply
        · exact reports_failure rfl
  · exact outline_perform (fun _ _ _ _ _ _ hack => nomatch hack) fun _ => trivial

theorem reports_receive :
    Outline (Reports (.session s)) (fun _ _ => True) (receive s) [] := by
  unfold receive
  dsimp only
  split
  · refine outline_perform trivial fun received => ?_
    cases received with
    | none => exact reports_other nofun
    | some msg =>
      by_cases hexecute : msg.type = .execute
      · have hhandle : ∀ rest, Outline (Reports (.session s)) (fun _ _ => True) (handle s msg)
            (⟨.recv, some msg⟩ :: rest) := fun rest => by
          unfold handle
          rw [hexecute]
          exact outline_bind (outline_mono (fun _ _ _ => trivial) reports_handleExecute)
        dsimp only
        split
        · refine outline_perform trivial fun epoch => ?_
          split
          · exact outline_perform (fun _ _ _ _ _ _ hack => nomatch hack) fun _ => trivial
          · exact hhandle _
        · exact hhandle _
      · exact reports_other fun msg' heq => by cases heq; exact hexecute
  · exact outline_perform trivial fun _ => trivial

theorem reports_runSession (l : Loop) :
    (runSession l).Outline (Reports l) (fun _ _ => True) [] := by
  cases l with
  | start => exact outline_perform trivial fun _ => trivial
  | session s => exact reports_receive
  | dispatch s rid => exact reports_dispatch

end Outlines

/-! ## Replies -/

section Replies

variable {l : Loop} {D h : List Deed} {g : Registry} {f : Registry → Registry} {t : Nat}
  {rep : CommandReply}

/-- A promise is set once and for all. -/
theorem Deal.keeps_reply (hdeal : Deal l h g f) (hbooked : Booked D g)
    (hset : g.replies.lookup t = some rep) : (f g).replies.lookup t = some rep := by
  cases hdeal.answer hbooked.unnamed t with
  | same hreplies => exact hreplies.trans hset
  | refused hticket =>
    rw [hticket, hbooked.unnamed] at hset
    cases hset
  | answered _ _ hf =>
    subst hf
    rw [hdeal.unset] at hset
    cases hset

/-- A success is the answer of a dispatcher. -/
theorem Deal.new_reply (hdeal : Deal l h g f) (hbooked : Booked D g)
    (hunset : g.replies.lookup t = none) (hset : (f g).replies.lookup t = some rep)
    (hok : rep.ok = true) : f = Registry.fulfil t rep := by
  cases hdeal with
  | idle _ hreplies =>
    rw [hreplies, hunset] at hset
    cases hset
  | @accept k cmd haccepts hf =>
    subst hf
    rw [(enqueueCommand_accepted _ haccepts).2.2.1, hunset] at hset
    cases hset
  | @refuse k cmd hrefuses hf =>
    subst hf
    rw [(enqueueCommand_refused _ hrefuses hbooked.unnamed).2.1, AList.lookup_insert'] at hset
    split at hset
    · cases hset
      cases hok
    · rw [hunset] at hset
      cases hset
  | pop _ _ _ hf | swap _ _ hf =>
    subst hf
    cases hunset.symm.trans hset
  | @fulfil s rid t' rep' _ _ hfresh hf =>
    subst hf
    rw [replies_fulfil rep' hfresh, AList.lookup_insert'] at hset
    split at hset
    · rename_i heq
      cases hset
      rw [heq]
    · rw [hunset] at hset
      cases hset

end Replies

section Sound

variable {st st' : Traces} {sc : Sched Input}

/-- The promises that are set before a turn are set after it. -/
theorem Sound.keeps_reply (hst : Sound st) (h : Turns st sc st') {t : Nat} {rep : CommandReply}
    (hset : st.pool.shared.registry.replies.lookup t = some rep) :
    st'.pool.shared.registry.replies.lookup t = some rep := by
  rcases h.shared with hsame | ⟨tid, input, a, r, rd, -, hround, hguarantee, hperform⟩
  · rw [hsame]
    exact hset
  · rcases performAlive_registry hperform with ⟨hsame, -⟩ | ⟨ready, f, hdeed, hnext⟩
    · rw [hsame]
      exact hset
    · cases hdeed
      rw [hnext]
      exact (hst.conserved.deal hst.outlined hst.routed hround hguarantee).keeps_reply
        hst.conserved.booked hset

end Sound

/-! ## Correlation -/

theorem performAlive_await {input : Input} {s s' : SessionShared} {t : Nat} {rep : CommandReply}
    (h : performAlive input s (.await t) = some (some rep, s')) :
    s.registry.replies.lookup t = some rep := by
  simp only [performAlive, perform] at h
  split at h
  · cases h
  · split at h
    · cases h
    · obtain ⟨rep', hset, heq⟩ := Option.map_eq_some_iff.mp h
      cases heq
      exact hset

/-- The frame is the result of the command and carries its identity. -/
def isResultOf (cmd : WorkerCommand) (m : ProtocolMessage) : Bool :=
  m.type = .executionResult && ((parsePayload m.payload).lookup (lit "cmd_id")).isSome &&
    u (parsePayload m.payload) "cmd_id" 0 = cmd.commandId

/-- A dispatcher that has an EXECUTE command in flight receives an error or the result of
this command, or it receives nothing. -/
def receivesResult (st : Traces) : Sched Input → Bool
  | .spawn => true
  | .move tid input =>
    match System.pending st.pool (.move tid input), st.rounds[tid]?, input.message with
    | some .recv, some ⟨.dispatch _ rid, steps⟩, some m =>
      (removed rid steps).all fun cmd =>
        cmd.type ≠ .execute || m.type = .error || isResultOf cmd m
    | _, _, _ => true

/-- The dispatcher of the router has received the result of the command, and the reply is
made of it. -/
def ComesFromResult (st : Traces) (rid : Nat) (cmd : WorkerCommand) (rep : CommandReply) : Prop :=
  ∃ tid s resp, (⟨tid, .dispatch s rid, .recv, some resp⟩ : Entry) ∈ st.log ∧
    isResultOf cmd resp = true ∧
    rep = answeredReply true (parsePayload resp.payload)
      (get (parsePayload resp.payload) "detail" "execute result")

/-- What the ledger and the promises tell of the commands that sessions have queued. -/
structure Matched (D : List Deed) (g : Registry) : Prop where
  known : ∀ rid cmd, cmd ∈ queueOf rid g ∨ cmd ∈ removed rid D → cmd ∈ D.flatMap (joinedBy rid)
  /-- What was queued has joined a queue under its ticket, or was refused. -/
  asked : ∀ ready k cmd g₀, (⟨.locked ready (enqueueCommand k cmd), g₀⟩ : Deed) ∈ D →
    ticketed cmd g₀ ∈ D.flatMap (joinedBy k) ∨
      ∃ rep, g.replies.lookup g₀.nextTicket = some rep ∧ rep.ok = false
  awaited : ∀ t rep, (⟨.await t, some rep⟩ : Deed) ∈ D → g.replies.lookup t = some rep

/-- A success is made of the result of the command that has its ticket. -/
def AnswersResult (st : Traces) (t : Nat) (rep : CommandReply) : Prop :=
  ∃ rid, ∃ cmd ∈ (deeds st).flatMap (joinedBy rid), cmd.ticket = t ∧
    (cmd.type = .execute → ComesFromResult st rid cmd rep)

/-- What a run keeps whose dispatchers receive results. -/
structure Correlated (st : Traces) : Prop where
  matched : Matched (deeds st) st.pool.shared.registry
  backed : ∀ t rep, st.pool.shared.registry.replies.lookup t = some rep → rep.ok = true →
    AnswersResult st t rep
  received : ∀ (tid : Nat) rd s rid, st.rounds[tid]? = some rd → rd.start = .dispatch s rid →
    ∀ before resp after cmd, rd.steps = before ++ ⟨.recv, some resp⟩ :: after →
      removed rid before = [cmd] → cmd.type = .execute → resp.type ≠ .error →
      isResultOf cmd resp = true

/-- The rounds of a run report what they have awaited. -/
def Reported (st : Traces) : Prop :=
  ∀ (tid : Nat) rd s msg rest m d, st.rounds[tid]? = some rd → rd.start = .session s →
    rd.steps = ⟨.recv, some msg⟩ :: rest → msg.type = .execute →
    (⟨.send m, d⟩ : Deed) ∈ rest → m.type = .registerAck → Awaited msg m rd.steps

section Matched

variable {D : List Deed} {g : Registry} {l : Loop} {h : List Deed} {f : Registry → Registry}

theorem matched_nil {g : Registry} (hrouters : g.routers = ∅) : Matched [] g := by
  refine ⟨fun rid cmd hmem => ?_, fun _ _ _ _ hmem => absurd hmem List.not_mem_nil,
    fun _ _ hmem => absurd hmem List.not_mem_nil⟩
  rcases hmem with hqueued | hremoved
  · simp [queueOf, hrouters] at hqueued
  · exact absurd hremoved List.not_mem_nil

/-- An action that is no critical section. -/
theorem Matched.act (hst : Matched D g) {input : Input} {s s' : SessionShared} {a : Action}
    {r : a.Res} (ha : ∀ ready f, a ≠ .locked ready f) (hg : s.registry = g)
    (hperform : performAlive input s a = some (r, s')) : Matched (D ++ [⟨a, r⟩]) g := by
  have hjoined : ∀ rid, (D ++ [(⟨a, r⟩ : Deed)]).flatMap (joinedBy rid) =
      D.flatMap (joinedBy rid) := fun rid => by
    cases a with
    | locked ready f => exact absurd rfl (ha ready f)
    | _ => simp [joinedBy]
  refine ⟨fun rid cmd hmem => ?_, fun ready k cmd g₀ hmem => ?_, fun t rep hmem => ?_⟩
  · rw [(ledger_of_unlocked ha r rid D).2.2.2] at hmem
    rw [hjoined]
    exact hst.known rid cmd hmem
  · rw [hjoined]
    rcases List.mem_append.mp hmem with hold | hnew
    · exact hst.asked ready k cmd g₀ hold
    · cases List.mem_singleton.mp hnew
      exact absurd rfl (ha ready _)
  · rcases List.mem_append.mp hmem with hold | hnew
    · exact hst.awaited t rep hold
    · cases List.mem_singleton.mp hnew
      exact hg ▸ performAlive_await hperform

/-- A critical section. -/
theorem Matched.enter (hst : Matched D g) (hbooked : Booked D g) (hdeal : Deal l h g f)
    (ready : Registry → Bool) : Matched (D ++ [⟨.locked ready f, g⟩]) (f g) := by
  have hjoined : ∀ rid, (D ++ [(⟨.locked ready f, g⟩ : Deed)]).flatMap (joinedBy rid) =
      D.flatMap (joinedBy rid) ++ joining rid g (f g) := fun rid => by simp [joinedBy]
  refine ⟨fun rid cmd hmem => ?_, fun ready' k cmd g₀ hmem => ?_, fun t rep hmem => ?_⟩
  · rw [hjoined]
    rcases hmem with hqueued | hremoved
    · rcases (hdeal.change hbooked.unnamed rid).queued hqueued with hold | hnew
      · exact List.mem_append_left _ (hst.known rid cmd (.inl hold))
      · exact List.mem_append_right _ hnew
    · rw [removed_append] at hremoved
      refine List.mem_append_left _ (hst.known rid cmd ?_)
      exact (List.mem_append.mp hremoved).symm.imp_left List.mem_of_mem_take
  · rw [hjoined]
    rcases List.mem_append.mp hmem with hold | hnew
    · refine (hst.asked ready' k cmd g₀ hold).imp (List.mem_append_left _) ?_
      rintro ⟨rep, hset, hrep⟩
      exact ⟨rep, hdeal.keeps_reply hbooked hset, hrep⟩
    · cases List.mem_singleton.mp hnew
      cases haccepts : (g.routers.lookup k).any accepts with
      | true =>
        refine .inl (List.mem_append_right _ ?_)
        simp [joining, (enqueueCommand_accepted _ haccepts).1]
      | false =>
        refine .inr ⟨failedReply "router not ready or pending command queue full", ?_, rfl⟩
        rw [(enqueueCommand_refused _ haccepts hbooked.unnamed).2.1, AList.lookup_insert]
  · rcases List.mem_append.mp hmem with hold | hnew
    · exact hdeal.keeps_reply hbooked (hst.awaited t rep hold)
    · cases List.mem_singleton.mp hnew

end Matched

section Correlated

variable {st st' : Traces} {sc : Sched Input}

theorem ComesFromResult.advance {rid : Nat} {cmd : WorkerCommand} {rep : CommandReply}
    (hcomes : ComesFromResult st rid cmd rep) (h : Turns st sc st') :
    ComesFromResult st' rid cmd rep := by
  obtain ⟨tid, s, resp, hmem, hrest⟩ := hcomes
  obtain ⟨es, hlog⟩ := h.log
  exact ⟨tid, s, resp, hlog ▸ List.mem_append_left es hmem, hrest⟩

theorem AnswersResult.advance {t : Nat} {rep : CommandReply} (hanswers : AnswersResult st t rep)
    (h : Turns st sc st') : AnswersResult st' t rep := by
  obtain ⟨rid, cmd, hcmd, hticket, hresult⟩ := hanswers
  obtain ⟨es, hlog⟩ := h.log
  refine ⟨rid, cmd, ?_, hticket, fun hexecute => (hresult hexecute).advance h⟩
  rw [deeds, hlog, List.map_append, List.flatMap_append]
  exact List.mem_append_left _ hcmd

/-- A step of a round is in the log. -/
theorem Sound.mem_log (hst : Sound st) {tid : Nat} {rd : Round Action Action.Res Loop}
    (hround : st.rounds[tid]? = some rd) {e : Deed} (he : e ∈ rd.steps) :
    (⟨tid, rd.start, e⟩ : Entry) ∈ st.log := by
  obtain ⟨before, hlog⟩ := hst.outlined.log tid rd hround
  have hmem : (⟨tid, rd.start, e⟩ : Entry) ∈ st.log.filter fun e => e.tid = tid :=
    hlog ▸ List.mem_append_right _ (List.mem_map_of_mem he)
  exact (List.mem_filter.mp hmem).1

/-- The answer of a dispatcher that has received the result. -/
theorem Correlated.answer (hst : Correlated st) (hsound : Sound st) {tid : Nat}
    {rd : Round Action Action.Res Loop} (hround : st.rounds[tid]? = some rd) {t : Nat}
    {rep : CommandReply} (hcritical : Critical rd.start rd.steps (Registry.fulfil t rep))
    (hok : rep.ok = true) : AnswersResult st t rep := by
  obtain ⟨-, s, rid, hstart, hbacked⟩ := hcritical.answers
  obtain ⟨before, after, cmd, resp, hsteps, hremoved, hticket, hresp, hrep⟩ := hbacked hok
  have htaken : cmd ∈ removed rid (deeds st) := by
    refine ((steps_sublist hsound.outlined hround).flatMap _).mem ?_
    have hmem : cmd ∈ removed rid before := hremoved ▸ List.mem_singleton_self cmd
    rw [hsteps, List.flatMap_append]
    exact List.mem_append_left _ hmem
  refine ⟨rid, cmd, hst.matched.known rid cmd (.inr htaken), hticket, fun hexecute => ?_⟩
  have hresult := hst.received tid rd s rid hround hstart before resp after cmd hsteps hremoved
    hexecute hresp
  refine ⟨tid, s, resp, hstart ▸ hsound.mem_log hround ?_, hresult, hrep hexecute⟩
  rw [hsteps]
  exact List.mem_append_right _ List.mem_cons_self

/-- What the dispatchers have received after a turn in which they receive results. -/
theorem Correlated.advance_received (hst : Correlated st) (h : Turns st sc st')
    (hresult : receivesResult st sc = true) {tid : Nat} {rd' : Round Action Action.Res Loop}
    {s : SessionLocal} {rid : Nat} (hround' : st'.rounds[tid]? = some rd')
    (hstart : rd'.start = .dispatch s rid) {before after : List Deed} {resp : ProtocolMessage}
    {cmd : WorkerCommand} (hsteps : rd'.steps = before ++ ⟨.recv, some resp⟩ :: after)
    (hremoved : removed rid before = [cmd]) (hexecute : cmd.type = .execute)
    (hresp : resp.type ≠ .error) : isResultOf cmd resp = true := by
  rcases h.round hround' with
    hold | ⟨hnil, -⟩ | ⟨input, a, k, r, rd, rfl, hthread, hround, -, hperform, rfl, -⟩
  · exact hst.received tid rd' s rid hold hstart before resp after cmd hsteps hremoved hexecute
      hresp
  · rw [hnil] at hsteps
    cases before <;> cases hsteps
  · rcases List.concat_split hsteps with ⟨rfl, heq, -⟩ | ⟨after, -, hold⟩
    · -- The frame was received by this turn.
      cases heq
      obtain ⟨hmessage, -⟩ := performAlive_recv hperform
      obtain ⟨l, steps⟩ := rd
      dsimp only at hstart
      subst hstart
      simp only [receivesResult, System.pending, hthread, hround, hmessage] at hresult
      have hcmd := List.all_eq_true.mp hresult cmd (hremoved ▸ List.mem_singleton_self cmd)
      simpa [hexecute, hresp] using hcmd
    · exact hst.received tid rd s rid hround hstart before resp after cmd hold hremoved hexecute
        hresp

/-- Every turn in which the dispatchers receive results. -/
theorem Correlated.advance (hst : Correlated st) (hsound : Sound st) (h : Turns st sc st')
    (hresult : receivesResult st sc = true) : Correlated st' := by
  refine ⟨?_, fun t rep hset hok => ?_, fun tid rd s rid hround hstart before resp after cmd =>
    hst.advance_received h hresult hround hstart⟩
  · cases h with
    | blocked | spawned | looped => exact hst.matched
    | @acted tid input a k r s rd _ hround hguarantee hperform =>
      rw [deeds_acted]
      rcases performAlive_registry hperform with ⟨hsame, hother⟩ | ⟨ready, f, hdeed, hnext⟩
      · exact hsame ▸ hst.matched.act hother rfl hperform
      · cases hdeed
        have hdeal := hsound.conserved.deal hsound.outlined hsound.routed hround hguarantee
        exact hnext ▸ hst.matched.enter hsound.conserved.booked hdeal ready
  · cases hbefore : st.pool.shared.registry.replies.lookup t with
    | some rep' =>
      have hkept := hsound.keeps_reply h hbefore
      obtain rfl := Option.some.inj (hset.symm.trans hkept)
      exact (hst.backed t rep hbefore hok).advance h
    | none =>
      refine AnswersResult.advance ?_ h
      rcases h.shared with hsame | ⟨tid, input, a, r, rd, -, hround, hguarantee, hperform⟩
      · rw [hsame, hbefore] at hset
        cases hset
      · rcases performAlive_registry hperform with ⟨hsame, -⟩ | ⟨ready, f, hdeed, hnext⟩
        · rw [hsame, hbefore] at hset
          cases hset
        · cases hdeed
          have hdeal := hsound.conserved.deal hsound.outlined hsound.routed hround hguarantee
          obtain rfl := hdeal.new_reply hsound.conserved.booked hbefore (hnext ▸ hset) hok
          exact hst.answer hsound hround hguarantee hok

theorem correlated_tracing (state : Option Str) : Correlated (tracing state) := by
  refine ⟨matched_nil rfl, fun t rep hset => ?_, fun tid rd s rid hround => ?_⟩
  · cases hset
  · cases hround

end Correlated

/-! ## Whole runs -/

section Reported

variable {st st' : Traces} {sc : Sched Input}

theorem reported_tracing (state : Option Str) : Reported (tracing state) := by
  intro tid rd s msg rest m d hround
  cases hround

/-- Every turn of threads at places of the outline of the reports. -/
theorem Reported.advance (hst : Reported st)
    (h : System.Advances coordinator Reports (fun _ _ _ => True) st sc st') : Reported st' := by
  intro tid rd' s msg rest m d hround' hstart hsteps hexecute hmem hack
  rcases h.round hround' with
    hold | ⟨hnil, -⟩ | ⟨input, a, k, r, rd, -, -, hround, hreports, -, rfl, -⟩
  · exact hst tid rd' s msg rest m d hold hstart hsteps hexecute hmem hack
  · rw [hnil] at hsteps
    cases hsteps
  · dsimp only at hstart hsteps ⊢
    cases hbefore : rd.steps with
    | nil =>
      rw [hbefore] at hsteps
      cases hsteps
      cases hmem
    | cons e steps =>
      rw [hbefore, List.cons_append] at hsteps
      obtain ⟨rfl, rfl⟩ := List.cons.inj hsteps
      rw [← hbefore]
      refine Awaited.append ?_ _
      rcases List.mem_append.mp hmem with hold | hnew
      · exact hst tid rd s msg steps m d hround hstart hbefore hexecute hold hack
      · cases List.mem_singleton.mp hnew
        exact hreports s msg steps hstart hbefore hexecute hack

/-- In a run whose dispatchers receive results, what a session has awaited comes from the
result of its command. -/
theorem Awaited.result (hst : Correlated st) (hsound : Sound st) {tid : Nat}
    {rd : Round Action Action.Res Loop} (hround : st.rounds[tid]? = some rd)
    {msg m : ProtocolMessage} (hawaited : Awaited msg m rd.steps) :
    ∃ rid rep, ComesFromResult st rid (routedCommand .execute msg (parsePayload msg.payload)) rep ∧
      IsReport rep (routedCommand .execute msg (parsePayload msg.payload)) m := by
  obtain ⟨ready, k, g, rep, hqueued, hreplied, hok, hreport⟩ := hawaited
  have hsub : rd.steps.Sublist (deeds st) := steps_sublist hsound.outlined hround
  have hset := hst.matched.awaited _ _ (hsub.mem hreplied)
  obtain ⟨rid, cmd, hcmd, hticket, hresult⟩ := hst.backed _ rep hset hok
  rcases hst.matched.asked ready k _ g (hsub.mem hqueued) with hjoined | ⟨rep', hset', hfailed⟩
  · -- A ticket stands for one command of one router.
    have hbooked := hsound.conserved.booked
    have haccepted : g.nextTicket ∈ accepted rid (deeds st) := hticket ▸ List.mem_map_of_mem hcmd
    have haccepted' : g.nextTicket ∈ accepted k (deeds st) :=
      List.mem_map_of_mem hjoined
    obtain rfl := hbooked.apart rid k _ haccepted haccepted'
    have hnodup : (accepted rid (deeds st)).Nodup := (hbooked.increasing rid).imp Nat.ne_of_lt
    obtain rfl := List.inj_on_of_nodup_map hnodup hcmd hjoined hticket
    obtain ⟨i, s, resp, hmem, hrest⟩ := hresult rfl
    exact ⟨rid, rep, ⟨i, s, resp, hmem, hrest⟩, hreport⟩
  · obtain rfl := Option.some.inj (hset.symm.trans hset')
    rw [hfailed] at hok
    cases hok

end Reported

/-- A success that a session reports for an EXECUTE message comes from a frame of a worker
that is the result of its command. -/
def ReportsResult (st : Traces) (tid : Nat) : Prop :=
  ∀ rd s msg rest m d, st.rounds[tid]? = some rd → rd.start = .session s →
    rd.steps = ⟨.recv, some msg⟩ :: rest → msg.type = .execute →
    (⟨.send m, d⟩ : Deed) ∈ rest → m.type = .registerAck →
    ∃ rid rep, ComesFromResult st rid (routedCommand .execute msg (parsePayload msg.payload)) rep ∧
      IsReport rep (routedCommand .execute msg (parsePayload msg.payload)) m

/-- In every run whose dispatchers, with an EXECUTE command in flight, receive errors and
results of this command alone, every reported success comes from the result of its command. -/
theorem execute_correlated (state : Option Str) (scs : List (Sched Input)) (tid : Nat)
    (hrun : coordinator.traced.Along (fun st sc => receivesResult st sc = true) (tracing state)
      scs) : ReportsResult (coordinator.traced.exec (tracing state) scs) tid := by
  have hall := Machine.exec_invariant (M := coordinator.traced)
    (I := fun st => Sound st ∧ Correlated st ∧ Reported st ∧
      System.Outlined Reports (fun _ _ _ => True) st)
    ⟨sound_tracing state, correlated_tracing state, reported_tracing state, rfl, nofun, nofun⟩ hrun
    (fun st sc hst hresult => ?_)
  · obtain ⟨hsound, hst, hreported, -⟩ := hall
    intro rd s msg rest m d hround hstart hsteps hexecute hmem hack
    exact (hreported tid rd s msg rest m d hround hstart hsteps hexecute hmem hack).result hst hsound
      hround
  · obtain ⟨hsound, hst, hreported, houtlined⟩ := hst
    obtain ⟨hturn, hnext⟩ := hsound.next sc
    have hreports := houtlined.advances (S := coordinator) sc
    exact ⟨hnext, hst.advance hsound hturn hresult, hreported.advance hreports,
      hreports.outlined reports_runSession houtlined⟩

/-- The step reports a success, as a check. -/
def acknowledges : Deed → Bool
  | ⟨.send m, _⟩ => m.type = .registerAck
  | _ => false

/-- The step receives the result of the command, as a check. -/
def takesResultOf (cmd : WorkerCommand) : Deed → Bool
  | ⟨.recv, some m⟩ => isResultOf cmd m
  | _ => false

/-- The session has received an EXECUTE message and has reported a success, as a check. -/
def reportsSuccess (st : Traces) (tid : Nat) (msg : ProtocolMessage) : Bool :=
  match st.rounds[tid]? with
  | some ⟨.session _, ⟨.recv, some msg'⟩ :: rest⟩ =>
    decide (msg' = msg) && decide (msg.type = .execute) && rest.any acknowledges
  | _ => false

/-- A success without a result is a stray one. -/
theorem not_reportsResult {st : Traces} {tid : Nat} {msg : ProtocolMessage}
    (hreports : reportsSuccess st tid msg = true)
    (hnone : (deeds st).all (fun e =>
      !takesResultOf (routedCommand .execute msg (parsePayload msg.payload)) e) = true) :
    ¬ ReportsResult st tid := by
  intro hresult
  unfold reportsSuccess at hreports
  split at hreports
  · rename_i s msg' rest hround
    simp only [Bool.and_eq_true, decide_eq_true_eq, List.any_eq_true] at hreports
    obtain ⟨⟨rfl, hexecute⟩, ⟨a, r⟩, he, hack⟩ := hreports
    cases a with
    | send m =>
      obtain ⟨rid, rep, ⟨i, l, resp, hmem, hof, -⟩, -⟩ :=
        hresult _ s msg' rest m r hround rfl rfl hexecute he (of_decide_eq_true hack)
      have hdeed : (⟨.recv, some resp⟩ : Deed) ∈ deeds st := List.mem_map.mpr ⟨_, hmem, rfl⟩
      have hnot := List.all_eq_true.mp hnone _ hdeed
      simp [takesResultOf, hof] at hnot
    | _ => cases hack
  · cases hreports

/-- An EXECUTE message of a controller. -/
def sampleCommand : ProtocolMessage :=
  { type := .execute, payload := lit "target_incarnation=2\ncmd_id=1\n" }

/-- The command is in flight, and the worker sends a frame. -/
def sampleAnswered (payload : String) : List (Sched Input) :=
  sampleServing ++ [.spawn] ++ moves 1 2 ++
    [receives 1 .execute "target_incarnation=2\ncmd_id=1\n"] ++ moves 1 3 ++ moves 0 5 ++
    [receives 0 .executionResult payload] ++ moves 0 2 ++ moves 1 2

theorem execute_correlated_sample :
    let st := coordinator.traced.exec (tracing none) (sampleAnswered "cmd_id=1\n")
    reportsSuccess st 1 sampleCommand = true ∧ ReportsResult st 1 := by
  obtain ⟨hrun, hreports⟩ :
      coordinator.traced.Along (fun st sc => receivesResult st sc = true) (tracing none)
        (sampleAnswered "cmd_id=1\n") ∧
      reportsSuccess (coordinator.traced.exec (tracing none) (sampleAnswered "cmd_id=1\n")) 1
        sampleCommand = true := by
    decide +kernel
  exact ⟨hreports, execute_correlated none (sampleAnswered "cmd_id=1\n") 1 hrun⟩

/-- The result of another command is reported as the success of this one. -/
theorem stray_result_reported :
    ¬ ReportsResult (coordinator.traced.exec (tracing none) (sampleAnswered "cmd_id=7\n")) 1 := by
  obtain ⟨hreports, hnone⟩ :
      reportsSuccess (coordinator.traced.exec (tracing none) (sampleAnswered "cmd_id=7\n")) 1
        sampleCommand = true ∧
      (deeds (coordinator.traced.exec (tracing none) (sampleAnswered "cmd_id=7\n"))).all
        (fun e => !takesResultOf (routedCommand .execute sampleCommand
          (parsePayload sampleCommand.payload)) e) = true := by
    decide +kernel
  exact not_reportsResult hreports hnone

end EngineResidency.Coordinator
