-- SUMMARY: Where a reported success comes from: the message that was received right after its own command was forwarded.
import EngineResidency.Base.Discipline
import EngineResidency.Coordinator.Addressing
import EngineResidency.Coordinator.Correlation
import Mathlib.Data.List.TakeWhile

/-!
# Sources of successes

A dispatcher forwards a command and takes the next message of its peer for the answer. Whatever the
peers send, a success that a session reports for an EXECUTE message goes back to one such message,
received by one dispatcher right after the frame of this very command. Whether it is the answer to
this frame is a question to the worker at the other end.
-/

namespace EngineResidency.Coordinator

open EngineResidency.Runtime Prog

/-! ## Numbers on the wire -/

theorem toNat_of_isDigit {c : Char} (hc : c.isDigit = true) :
    (UInt8.ofNat c.toNat).toNat = c.toNat ∧ 48 ≤ c.toNat ∧ c.toNat ≤ 57 := by
  have hrange : 48 ≤ c.toNat ∧ c.toNat ≤ 57 := by
    simpa [Char.isDigit, UInt32.le_iff_toNat_le] using hc
  refine ⟨?_, hrange⟩
  rw [UInt8.toNat_ofNat']
  omega

theorem isDigit_of_mem_decimal {n : Nat} {b : UInt8} (hb : b ∈ decimal n) : isDigit b = true := by
  obtain ⟨c, hc, rfl⟩ := List.mem_map.mp hb
  have hdigit := Nat.isDigit_of_mem_toDigits (by decide) (by decide) hc
  obtain ⟨heq, hlow, hhigh⟩ := toNat_of_isDigit hdigit
  simp only [isDigit, UInt8.le_iff_toNat_le, heq, Bool.and_eq_true, decide_eq_true_eq]
  exact ⟨hlow, hhigh⟩

theorem readDigits_decimal (n : Nat) : readDigits (decimal n) = n := by
  rw [readDigits, decimal, List.foldl_map]
  refine Eq.trans ?_ Nat.ofDigitChars_ten_toDigits
  refine List.foldl_ext _ _ _ fun total c hc => ?_
  have hdigit := Nat.isDigit_of_mem_toDigits (by decide) (by decide) hc
  rw [(toNat_of_isDigit hdigit).1]
  rfl

theorem decimal_ne_nil (n : Nat) : decimal n ≠ [] :=
  fun h => Nat.toDigits_ne_nil (List.map_eq_nil_iff.mp h)

/-- A text of digits begins with neither a space nor a sign. -/
theorem readSign_of_isDigit {s : Str} (hs : ∀ b ∈ s, isDigit b = true) :
    readSign (s.dropWhile isSpace) = (false, s) := by
  cases s with
  | nil => rfl
  | cons b s =>
    have hb : isDigit b = true := hs b List.mem_cons_self
    have hspace : isSpace b = false := by
      simp only [isDigit, isSpace, Bool.and_eq_true, decide_eq_true_eq, Bool.or_eq_false_iff,
        Bool.and_eq_false_iff, decide_eq_false_iff_not, beq_eq_false_iff_ne,
        UInt8.le_iff_toNat_le, ne_eq, ← UInt8.toNat_inj] at hb ⊢
      simp at hb ⊢
      omega
    rw [List.dropWhile_cons_of_neg (by simp [hspace])]
    unfold readSign
    split
    · rename_i heq
      cases heq
      cases hb
    · rename_i heq
      cases heq
      cases hb
    · rfl

/-- A number that is written is read back. -/
theorem stoull_decimal (n : UInt64) : stoull (decimal n.toNat) = some n := by
  have hdigits : ∀ b ∈ decimal n.toNat, isDigit b = true := fun b => isDigit_of_mem_decimal
  have htake : (decimal n.toNat).takeWhile isDigit = decimal n.toNat :=
    List.takeWhile_eq_self_iff.mpr hdigits
  have hnonempty : (decimal n.toNat).isEmpty = false := by
    simpa [List.isEmpty_iff] using decimal_ne_nil n.toNat
  simp only [stoull, readSign_of_isDigit hdigits, htake, hnonempty, readDigits_decimal,
    UInt64.toNat_lt, if_true]
  simp

/-! ## Frames -/

/-- The frame that forwards a command. -/
def commandFrame (cmd : WorkerCommand) : ProtocolMessage :=
  match cmd.type with
  | .execute => forwarded cmd (executeFields cmd)
  | _ => forwarded cmd (drainFields cmd)

/-- The last step has sent the frame of the command that the dispatcher has taken. -/
def Forwarded (rid : Nat) (h : List Deed) : Prop :=
  ∃ earlier cmd, h = earlier ++ [⟨.send (commandFrame cmd), true⟩] ∧
    (cmd.type = .execute ∨ cmd.type = .drain) ∧ removed rid h = [cmd]

/-- A dispatcher forwards the command that it has taken, and receives after that. -/
def Expects (l : Loop) (h : List Deed) : Action → Prop
  | .recv => ∀ s rid, l = .dispatch s rid → Forwarded rid h
  | .send frame => ∀ s rid, l = .dispatch s rid →
    ∃ cmd, frame = commandFrame cmd ∧ removed rid h = [cmd]
  | _ => True

section Outlines

variable {A : Type} {l : Loop} {s : SessionLocal} {rid : Nat} {h : List Deed} {r : WorkerRouter}
  {cmd : WorkerCommand}

theorem expects_other {p : Thread A} (hl : ∀ s rid, l ≠ .dispatch s rid) :
    Outline (Expects l) (fun _ _ => True) p h := by
  induction p generalizing h with
  | done a => trivial
  | act a k ih =>
    refine ⟨?_, fun r => ih r⟩
    cases a with
    | recv | send m => exact fun s rid heq => absurd heq (hl s rid)
    | _ => trivial

/-- The action leaves the connection alone. -/
def Deaf : Action → Prop
  | .recv | .send _ => False
  | _ => True

theorem Deaf.expects {a : Action} (ha : Deaf a) (h : List Deed) : Expects l h a := by
  cases a with
  | recv | send m => exact ha.elim
  | _ => trivial

theorem expects_deaf {p : Thread A} (hp : p.Only Deaf) :
    Outline (Expects l) (fun _ _ => True) p h :=
  hp.outline (I := fun _ => True) (fun h _ _ ha => ha.expects h)
    (fun _ _ _ _ _ => trivial) (fun _ _ _ => trivial) trivial

theorem Settles.deaf {a : Action} (ha : Settles a) : Deaf a := by
  cases a with
  | locked ready f => trivial
  | _ => exact ha.elim

theorem deaf_fulfil (ticket : Nat) (rep : CommandReply) : (fulfil ticket rep).Only Deaf :=
  (settles_fulfil ticket rep).mono fun _ => Settles.deaf

theorem deaf_fail (rid : Nat) (reason : String) : (fail rid reason).Only Deaf :=
  (settles_fail rid reason).mono fun _ => Settles.deaf

theorem deaf_endDispatch (s : SessionLocal) (rid : Nat) : (endDispatch s rid).Only Deaf :=
  only_bind (deaf_fail _ _) fun _ => only_bind (only_perform trivial) fun _ => only_pure

/-- The actions between the take of a command and its frame: they leave the queues alone as well. -/
def Apart (a : Action) : Prop := Deaf a ∧ ∀ ready f, a ≠ .locked ready f

theorem removed_outside {a : Action} (ha : ∀ ready f, a ≠ .locked ready f) (r : a.Res) :
    removed rid (h ++ [⟨a, r⟩]) = removed rid h := by
  rw [removed_append]
  cases a with
  | locked ready f => exact absurd rfl (ha ready f)
  | _ => exact List.append_nil _

/-- A part of a dispatcher that stands before the frame of its command. -/
theorem expects_apart {B : Type} {p : Thread B} {k : B → Thread A} (hp : p.Only Apart)
    (hremoved : removed rid h = [cmd])
    (hk : ∀ b h, removed rid h = [cmd] → Outline (Expects l) (fun _ _ => True) (k b) h) :
    Outline (Expects l) (fun _ _ => True) (p >>= k) h := by
  refine outline_bind (hp.outline (I := fun h => removed rid h = [cmd]) ?_ ?_ hk hremoved)
  · intro h a _ ha
    exact ha.1.expects h
  · intro h a r hh ha
    exact (removed_outside ha.2 r).trans hh

theorem Asks.apart {a : Action} (ha : Asks a) : Apart a := by
  obtain ⟨q, rfl⟩ := ha
  exact ⟨trivial, nofun⟩

theorem apart_acquireUseFor (r : WorkerRouter) (params : Fields) :
    (acquireUseFor r params).Only Apart := by
  refine only_bind (only_andThen (only_perform ⟨trivial, nofun⟩) fun reply => ?_) fun res => ?_
  · split <;> exact only_ok
  · split
    · exact only_pure
    · exact only_pure
    · exact only_bind (only_perform ⟨trivial, nofun⟩) fun _ => only_pure

/-- The frame of a command, and the answer. -/
theorem expects_exchange {frame : ProtocolMessage} {k : Bool → Thread A}
    {k' : Option ProtocolMessage → Thread A} (hremoved : removed rid h = [cmd])
    (htype : cmd.type = .execute ∨ cmd.type = .drain) (hframe : frame = commandFrame cmd)
    (htrue : k true = recv >>= k') (hfalse : (k false).Only Deaf) (hk : ∀ m, (k' m).Only Deaf) :
    Outline (Expects (.dispatch s rid)) (fun _ _ => True) (send frame >>= k) h := by
  subst hframe
  have hsend : ∀ ready f, Action.send (commandFrame cmd) ≠ .locked ready f := nofun
  refine outline_perform ?_ fun sent => ?_
  · rintro _ _ ⟨⟩
    exact ⟨cmd, rfl, hremoved⟩
  cases sent with
  | false => exact expects_deaf hfalse
  | true =>
    rw [htrue]
    refine outline_perform ?_ fun m => expects_deaf (hk m)
    rintro _ _ ⟨⟩
    exact ⟨h, cmd, rfl, htype, (removed_outside hsend _).trans hremoved⟩

theorem deaf_releaseUseFor (r : WorkerRouter) (useId : ServingUseId) (outcome : WorkOutcome)
    (detail : String) : (releaseUseFor r useId outcome detail).Only Deaf :=
  only_bind (only_perform trivial) fun _ => only_pure

theorem expects_processExecute (hremoved : removed rid h = [cmd]) (htype : cmd.type = .execute) :
    Outline (Expects (.dispatch s rid)) (fun _ _ => True) (processExecute rid r cmd) h := by
  have hquery : ∀ q, (Prog.perform (Action.query q) : Thread q.Res).Only Apart := fun q =>
    only_perform (Asks.apart ⟨q, rfl⟩)
  unfold processExecute
  refine expects_apart (hquery _) hremoved fun fenced h hremoved => ?_
  cases fenced with
  | true => exact expects_deaf (deaf_fulfil _ _)
  | false =>
    refine expects_apart (hquery _) hremoved fun st h hremoved => ?_
    dsimp only
    split
    · exact expects_deaf (deaf_fulfil _ _)
    refine expects_apart (apart_acquireUseFor _ _) hremoved fun res h hremoved => ?_
    split
    · exact expects_deaf (deaf_fulfil _ _)
    · refine expects_exchange hremoved (.inl htype) (by simp [commandFrame, htype, executeFields])
        rfl ?_ fun m => ?_
      · refine only_bind (deaf_releaseUseFor _ _ _ _) fun _ => ?_
        exact only_bind (deaf_fail _ _) fun _ => deaf_fulfil _ _
      · cases m with
        | none =>
          refine only_bind (deaf_releaseUseFor _ _ _ _) fun _ => ?_
          exact only_bind (deaf_fail _ _) fun _ => deaf_fulfil _ _
        | some resp => exact only_bind (deaf_releaseUseFor _ _ _ _) fun _ => deaf_fulfil _ _

theorem expects_processDrain (hremoved : removed rid h = [cmd]) (htype : cmd.type = .drain) :
    Outline (Expects (.dispatch s rid)) (fun _ _ => True) (processDrain rid r cmd) h := by
  have hfailed : ∀ why rep, (do fail rid why; fulfil cmd.ticket rep : Thread Unit).Only Deaf :=
    fun _ _ => only_bind (deaf_fail _ _) fun _ => deaf_fulfil _ _
  unfold processDrain
  refine expects_exchange hremoved (.inr htype) (by simp [commandFrame, htype, drainFields]) rfl
    (hfailed _ _) fun m => ?_
  cases m with
  | none => exact hfailed _ _
  | some resp =>
    refine only_bind (only_caught trivial (only_perform trivial)) fun _ => ?_
    exact only_bind (only_perform trivial) fun _ => deaf_fulfil _ _

theorem expects_process (hremoved : removed rid h = [cmd]) :
    Outline (Expects (.dispatch s rid)) (fun _ _ => True) (process rid r cmd) h := by
  refine expects_apart ((asks_checkCycle _ _).mono fun _ => Asks.apart) hremoved fun stale h hremoved => ?_
  split
  · exact expects_deaf (deaf_fulfil _ _)
  · split
    · rename_i htype
      exact expects_processExecute hremoved htype
    · rename_i htype
      exact expects_processDrain hremoved htype
    · exact expects_deaf (deaf_fulfil _ _)

theorem expects_dispatchNext :
    Outline (Expects (.dispatch s rid)) (fun _ _ => True) (dispatchNext s rid) [] := by
  refine outline_perform trivial fun g => ?_
  split
  · exact expects_deaf (deaf_endDispatch _ _)
  refine outline_perform trivial fun (g' : Registry) => ?_
  split
  · exact expects_deaf (deaf_endDispatch _ _)
  · rename_i r hr
    have hqueue : queueOf rid g' = r.queue := by simp [queueOf, hr]
    split
    · exact expects_deaf (deaf_endDispatch _ _)
    · rename_i cmd rest hcons
      have hremoved : removed rid ([⟨.locked (fun _ => true) id, g⟩] ++
          [⟨.locked (mayPop rid) (popCommand rid), g'⟩]) = [cmd] := by
        rw [removed_append, removedBy_locked, leaving_popCommand, hqueue, hcons]
        exact congrArg (· ++ [cmd]) ((List.append_nil _).trans (leaving_same rfl))
      exact outline_bind (outline_mono (fun _ _ _ => trivial) (expects_process hremoved))

theorem expects_runSession (l : Loop) :
    (runSession l).Outline (Expects l) (fun _ _ => True) [] := by
  cases l with
  | start => exact expects_other nofun
  | session s => exact expects_other nofun
  | dispatch s rid => exact expects_dispatchNext

end Outlines

/-! ## Answers -/

/-- A thread has received a message right after it has sent a command. -/
def Exchanged (st : Traces) (tid : Nat) (frame resp : ProtocolMessage) : Prop :=
  (frame.type = .execute ∨ frame.type = .drain) ∧
    ∃ before after, System.stepsOf st tid =
      before ++ ⟨.send frame, true⟩ :: ⟨.recv, some resp⟩ :: after

/-- The thread has dispatched the commands of the router. -/
def Dispatched (st : Traces) (tid rid : Nat) : Prop :=
  ∃ e ∈ st.log, e.tid = tid ∧ ∃ s, e.start = .dispatch s rid

/-- The reply is made of a message that a dispatcher of the router has received right after the
frame of the command. -/
def FromAnswer (st : Traces) (rid : Nat) (cmd : WorkerCommand) (rep : CommandReply) : Prop :=
  ∃ i resp, Dispatched st i rid ∧ Exchanged st i (commandFrame cmd) resp ∧
    (cmd.type = .execute → rep = answeredReply true (parsePayload resp.payload)
      (get (parsePayload resp.payload) "detail" "execute result"))

/-- The success is made of the answer to the command that has its ticket. -/
def AnswersCommand (st : Traces) (t : Nat) (rep : CommandReply) : Prop :=
  ∃ rid, ∃ cmd ∈ (deeds st).flatMap (joinedBy rid), cmd.ticket = t ∧
    FromAnswer st rid cmd rep

/-- What a run keeps of the successes, whatever the peers send. -/
structure Sourced (st : Traces) : Prop where
  matched : Matched (deeds st) st.pool.shared.registry
  backed : ∀ t rep, st.pool.shared.registry.replies.lookup t = some rep → rep.ok = true →
    AnswersCommand st t rep
  forwarded : ∀ (tid : Nat) rd s rid, st.rounds[tid]? = some rd → rd.start = .dispatch s rid →
    ∀ before resp after, rd.steps = before ++ ⟨.recv, resp⟩ :: after → Forwarded rid before

section Sourced

variable {st st' : Traces} {sc : Sched Input}

theorem stepsOf_grows {es : List Entry} (hlog : st'.log = st.log ++ es) (tid : Nat) :
    ∃ ds, System.stepsOf st' tid = System.stepsOf st tid ++ ds := by
  unfold System.stepsOf
  rw [hlog, List.filter_append, List.map_append]
  exact ⟨_, rfl⟩

theorem Exchanged.advance {tid : Nat} {frame resp : ProtocolMessage}
    (h : Exchanged st tid frame resp) {es : List Entry} (hlog : st'.log = st.log ++ es) :
    Exchanged st' tid frame resp := by
  obtain ⟨htype, before, after, hsteps⟩ := h
  obtain ⟨ds, hgrows⟩ := stepsOf_grows hlog tid
  refine ⟨htype, before, after ++ ds, ?_⟩
  rw [hgrows, hsteps]
  simp

theorem Dispatched.advance {tid rid : Nat} (h : Dispatched st tid rid) {es : List Entry}
    (hlog : st'.log = st.log ++ es) : Dispatched st' tid rid := by
  obtain ⟨e, hmem, hrest⟩ := h
  exact ⟨e, hlog ▸ List.mem_append_left es hmem, hrest⟩

theorem AnswersCommand.advance {t : Nat} {rep : CommandReply} (h : AnswersCommand st t rep)
    (hturn : Turns st sc st') : AnswersCommand st' t rep := by
  obtain ⟨rid, cmd, hcmd, hticket, i, resp, hdispatched, hexchanged, hrep⟩ := h
  obtain ⟨es, hlog⟩ := hturn.log
  refine ⟨rid, cmd, ?_, hticket, i, resp, hdispatched.advance hlog, hexchanged.advance hlog, hrep⟩
  rw [deeds, hlog, List.map_append, List.flatMap_append]
  exact List.mem_append_left _ hcmd

/-- The steps of a round are the last ones of its thread. -/
theorem Sound.stepsOf_round (hst : Sound st) {tid : Nat} {rd : Round Action Action.Res Loop}
    (hround : st.rounds[tid]? = some rd) : ∃ before, System.stepsOf st tid = before ++ rd.steps := by
  obtain ⟨before, hlog⟩ := hst.outlined.log tid rd hround
  refine ⟨before.map (·.step), ?_⟩
  unfold System.stepsOf
  rw [hlog, List.map_append, List.map_map]
  exact congrArg _ (List.map_id _)

/-- The steps of a round are in the log. -/
theorem Sound.logged (hst : Sound st) {tid : Nat} {rd : Round Action Action.Res Loop}
    (hround : st.rounds[tid]? = some rd) {e : Deed} (he : e ∈ rd.steps) :
    (⟨tid, rd.start, e⟩ : Entry) ∈ st.log := by
  obtain ⟨before, hlog⟩ := hst.outlined.log tid rd hround
  have hmem : (⟨tid, rd.start, e⟩ : Entry) ∈ st.log.filter fun e => e.tid = tid :=
    hlog ▸ List.mem_append_right _ (List.mem_map_of_mem he)
  exact (List.mem_filter.mp hmem).1

theorem type_commandFrame (cmd : WorkerCommand) : (commandFrame cmd).type = cmd.type := by
  unfold commandFrame
  split <;> rfl

/-- The answer of a dispatcher is made of the message it has received. -/
theorem Sourced.answer (hst : Sourced st) (hsound : Sound st) {tid : Nat}
    {rd : Round Action Action.Res Loop} (hround : st.rounds[tid]? = some rd) {t : Nat}
    {rep : CommandReply} (hcritical : Critical rd.start rd.steps (Registry.fulfil t rep))
    (hok : rep.ok = true) : AnswersCommand st t rep := by
  obtain ⟨-, s, rid, hstart, hbacked⟩ := hcritical.answers
  obtain ⟨before, after, cmd, resp, hsteps, hremoved, hticket, -, hrep⟩ := hbacked hok
  have htaken : cmd ∈ removed rid (deeds st) := by
    refine ((steps_sublist hsound.outlined hround).flatMap _).mem ?_
    have hmem : cmd ∈ removed rid before := hremoved ▸ List.mem_singleton_self cmd
    rw [hsteps, List.flatMap_append]
    exact List.mem_append_left _ hmem
  have hlogged : (⟨tid, rd.start, .recv, some resp⟩ : Entry) ∈ st.log :=
    hsound.logged hround (hsteps ▸ List.mem_append_right _ List.mem_cons_self)
  refine ⟨rid, cmd, hst.matched.known rid cmd (.inr htaken), hticket, tid, resp,
    ⟨_, hlogged, rfl, s, hstart⟩, ?_, hrep⟩
  obtain ⟨earlier, cmd', hbefore, htype, hremoved'⟩ :=
    hst.forwarded tid rd s rid hround hstart before _ after hsteps
  obtain rfl : cmd = cmd' := List.singleton_inj.mp (hremoved.symm.trans hremoved')
  obtain ⟨rounds, hall⟩ := hsound.stepsOf_round hround
  refine ⟨by rwa [type_commandFrame], rounds ++ earlier, after, ?_⟩
  rw [hall, hsteps, hbefore]
  simp

/-- What the ledger tells of the commands that sessions have queued, after a turn. -/
theorem Matched.advance (hst : Matched (deeds st) st.pool.shared.registry) (hsound : Sound st)
    (h : Turns st sc st') : Matched (deeds st') st'.pool.shared.registry := by
  cases h with
  | blocked | spawned | looped => exact hst
  | @acted tid input a k r s rd _ hround hguarantee hperform =>
    rw [deeds_acted]
    rcases performAlive_registry hperform with ⟨hsame, hother⟩ | ⟨ready, f, hdeed, hnext⟩
    · exact hsame ▸ hst.act hother rfl hperform
    · cases hdeed
      have hdeal := hsound.conserved.deal hsound.outlined hsound.routed hround hguarantee
      exact hnext ▸ hst.enter hsound.conserved.booked hdeal ready

/-- Every turn. -/
theorem Sourced.advance (hst : Sourced st) (hsound : Sound st) (h : Turns st sc st')
    (hexpects : System.Advances coordinator Expects (fun _ _ _ => True) st sc st') :
    Sourced st' := by
  refine ⟨hst.matched.advance hsound h, fun t rep hset hok => .advance ?_ h, ?_⟩
  · cases hbefore : st.pool.shared.registry.replies.lookup t with
    | some rep' =>
      obtain rfl := Option.some.inj (hset.symm.trans (hsound.keeps_reply h hbefore))
      exact hst.backed t rep hbefore hok
    | none =>
      -- The promise is set by this turn.
      rcases h.shared with hsame | ⟨tid, input, a, r, rd, -, hround, hguarantee, hperform⟩
      · rw [hsame, hbefore] at hset
        cases hset
      · rcases performAlive_registry hperform with ⟨hsame, -⟩ | ⟨ready, f, hdeed, hnext⟩
        · rw [hsame, hbefore] at hset
          cases hset
        · cases hdeed
          have hdeal := hsound.conserved.deal hsound.outlined hsound.routed hround hguarantee
          obtain rfl := hdeal.new_reply hsound.conserved.booked hbefore (hnext ▸ hset) hok
          exact hst.answer hsound hround hguarantee hok
  · intro tid rd' s rid hround' hstart before resp after hsteps
    rcases hexpects.round hround' with
      hold | ⟨hnil, -⟩ | ⟨input, a, k, r, rd, -, -, hround, hexpected, -, rfl, -⟩
    · exact hst.forwarded tid rd' s rid hold hstart before resp after hsteps
    · rw [hnil] at hsteps
      cases before <;> cases hsteps
    · rcases List.concat_split hsteps with ⟨rfl, heq, -⟩ | ⟨after, -, hold⟩
      · cases heq
        exact hexpected s rid hstart
      · exact hst.forwarded tid rd s rid hround hstart before resp after hold

theorem sourced_tracing (state : Option Str) : Sourced (tracing state) := by
  refine ⟨matched_nil rfl, fun t rep hset => ?_, fun tid rd s rid hround => ?_⟩
  · cases hset
  · cases hround

/-- What a session has awaited comes from a message that followed its own command. -/
theorem Awaited.source (hst : Sourced st) (hsound : Sound st) {tid : Nat}
    {rd : Round Action Action.Res Loop} (hround : st.rounds[tid]? = some rd)
    {msg m : ProtocolMessage} (hawaited : Awaited msg m rd.steps) :
    ∃ rid t rep, { routedCommand .execute msg (parsePayload msg.payload) with ticket := t } ∈
        (deeds st).flatMap (joinedBy rid) ∧
      FromAnswer st rid (routedCommand .execute msg (parsePayload msg.payload)) rep ∧
      IsReport rep (routedCommand .execute msg (parsePayload msg.payload)) m := by
  obtain ⟨ready, k, g, rep, hqueued, hreplied, hok, hreport⟩ := hawaited
  have hsub : rd.steps.Sublist (deeds st) := steps_sublist hsound.outlined hround
  have hset := hst.matched.awaited _ _ (hsub.mem hreplied)
  obtain ⟨rid, cmd, hcmd, hticket, hanswer⟩ := hst.backed _ rep hset hok
  rcases hst.matched.asked ready k _ g (hsub.mem hqueued) with hjoined | ⟨rep', hset', hfailed⟩
  · -- A ticket stands for one command of one router.
    have hbooked := hsound.conserved.booked
    have haccepted : g.nextTicket ∈ accepted rid (deeds st) := hticket ▸ List.mem_map_of_mem hcmd
    have haccepted' : g.nextTicket ∈ accepted k (deeds st) := List.mem_map_of_mem hjoined
    obtain rfl := hbooked.apart rid k _ haccepted haccepted'
    have hnodup : (accepted rid (deeds st)).Nodup := (hbooked.increasing rid).imp Nat.ne_of_lt
    obtain rfl := List.inj_on_of_nodup_map hnodup hcmd hjoined hticket
    exact ⟨rid, _, rep, hcmd, hanswer, hreport⟩
  · obtain rfl := Option.some.inj (hset.symm.trans hset')
    rw [hfailed] at hok
    cases hok

/-- What a run keeps of the reports of its sessions. -/
structure Accounted (st : Traces) : Prop where
  sourced : Sourced st
  reported : Reported st
  reports : System.Outlined Reports (fun _ _ _ => True) st
  expects : System.Outlined Expects (fun _ _ _ => True) st

theorem accounted_tracing (state : Option Str) : Accounted (tracing state) :=
  ⟨sourced_tracing state, reported_tracing state, ⟨rfl, nofun, nofun⟩, ⟨rfl, nofun, nofun⟩⟩

theorem Accounted.next (h : Accounted st) (hsound : Sound st) (sc : Sched Input) :
    Accounted (coordinator.traced.next st sc) := by
  have hreports := h.reports.advances (S := coordinator) sc
  have hexpects := h.expects.advances (S := coordinator) sc
  exact ⟨h.sourced.advance hsound (hsound.next sc).1 hexpects, h.reported.advance hreports,
    hreports.outlined reports_runSession h.reports, hexpects.outlined expects_runSession h.expects⟩

end Sourced

end EngineResidency.Coordinator
