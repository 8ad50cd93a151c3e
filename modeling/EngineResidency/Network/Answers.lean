-- SUMMARY: What a worker has done when its connection receives the answer to a command, in every run of the network.
import EngineResidency.Coordinator.Sources
import EngineResidency.Network.Lockstep

/-!
# Answers to commands

A connection and its worker are in step in every run of the network. What a connection receives
after it has sent a command is the answer to this command, and by then the worker has done what it
was told: it has made the computation, or it has released its backend.
-/

namespace EngineResidency.Network

open Coordinator (ProtocolMessage Sound Minded Responsive Exchanged Accounted)

variable {B : Worker.ReferenceBackend}

/-! ## Workers -/

/-- Where the conversation of a worker stands. -/
def workerPhase (w : Worker.Traces B) : Worker.Phase := Worker.manners.after .speaking (Worker.deeds w)

/-- The worker has made the computation that an EXECUTE command asks for. -/
def Executed (w : Worker.Traces B) (cmd : ProtocolMessage) : Prop :=
  ∃ input r, (⟨.execute input, r⟩ : Worker.Deed) ∈ Worker.deeds w ∧
    Worker.computes cmd input = true

/-- The worker has done what the command tells it. -/
structure Done (w : Worker.Traces B) (cmd : ProtocolMessage) : Prop where
  executed : cmd.type = .execute → Executed w cmd
  released : cmd.type = .drain → Worker.stage w = .released

section Workers

variable {o : Worker.Options} {w w' : Worker.Traces B} {es : List Worker.Deed} {e : Worker.Deed}
  {cmd ans : ProtocolMessage}

/-- A command counts as computed after its computation alone. -/
theorem computed_of_after {y : Worker.Phase} (h : y.after e = some (.working cmd true)) :
    y = .working cmd true ∨
      ∃ input r, e = ⟨.execute input, r⟩ ∧ Worker.computes cmd input = true := by
  obtain ⟨a, r⟩ := e
  cases a with
  | execute input =>
    cases y with
    | working cmd' computed =>
      obtain ⟨rfl, hcomputed⟩ := Worker.Phase.working.inj (Option.some.inj h)
      cases computed with
      | true => exact .inl rfl
      | false => exact .inr ⟨input, r, rfl, hcomputed⟩
    | _ => cases h
  | recv =>
    cases r with
    | none => cases y <;> cases h
    | some m =>
      cases y with
      | waiting q =>
        have heq := Option.some.inj h
        unfold Worker.Phase.replied at heq
        split at heq
        · split at heq <;> cases heq
        · cases heq
      | listening =>
        have heq := Option.some.inj h
        split at heq <;> cases heq
      | _ => cases h
  | send m =>
    cases y with
    | speaking =>
      have heq := Option.some.inj h
      split at heq <;> cases heq
    | working =>
      simp only [Worker.Phase.after, Worker.Phase.answered, Option.ite_none_right_eq_some,
        Option.some.injEq] at h
      have heq := h.2
      split at heq <;> cases heq
    | serving =>
      simp only [Worker.Phase.after, Option.ite_none_left_eq_some] at h
      cases h.2
    | _ => cases h
  | _ =>
    cases y with
    | working => exact .inl (Option.some.inj h)
    | _ => cases h

theorem computed_of_phase (h : Worker.manners.after .speaking es = .working cmd true) :
    ∃ input r, (⟨.execute input, r⟩ : Worker.Deed) ∈ es ∧ Worker.computes cmd input = true := by
  induction es using List.reverseRecOn with
  | nil => cases h
  | append_singleton es e ih =>
    rw [Discipline.after_concat] at h
    have hafter : (Worker.manners.after .speaking es).after e = some (.working cmd true) := by
      change ((Worker.manners.after .speaking es).after e).getD .lost = _ at h
      cases hnext : (Worker.manners.after .speaking es).after e with
      | none =>
        rw [hnext] at h
        cases h
      | some y =>
        rw [hnext] at h
        exact congrArg some h
    rcases computed_of_after hafter with hbefore | ⟨input, r, rfl, hcomputes⟩
    · obtain ⟨input, r, hmem, hcomputes⟩ := ih hbefore
      exact ⟨input, r, List.mem_append_left _ hmem, hcomputes⟩
    · exact ⟨input, r, List.mem_append_right _ (List.mem_singleton_self _), hcomputes⟩

theorem released_of_next : Worker.stages.next .released e = .released := by
  change (Worker.Stage.after .released e).getD .released = .released
  cases hafter : Worker.Stage.after .released e with
  | none => rfl
  | some x =>
    obtain ⟨a, r⟩ := e
    cases a with
    | send m =>
      simp only [Worker.Stage.after, Option.ite_none_right_eq_some] at hafter
      exact (Option.some.inj hafter.2).symm
    | writeFile | fileExists | removeFile | sleep => exact (Option.some.inj hafter).symm
    | _ => cases hafter

/-- What a worker has done stays done. -/
theorem Done.advance (h : Done w cmd) (hdeeds : Worker.deeds w' = Worker.deeds w ++ es) :
    Done w' cmd := by
  refine ⟨fun htype => ?_, fun htype => ?_⟩
  · obtain ⟨input, r, hmem, hcomputes⟩ := h.executed htype
    exact ⟨input, r, hdeeds ▸ List.mem_append_left _ hmem, hcomputes⟩
  · have hreleased : Worker.stages.after .fresh (Worker.deeds w) = .released := h.released htype
    have hstays : ∀ es, Worker.stages.after .released es = .released := fun es => by
      induction es with
      | nil => rfl
      | cons e es ih => exact (congrArg (Worker.stages.after · es) released_of_next).trans ih
    unfold Worker.stage
    rw [hdeeds, Discipline.after, List.foldl_append]
    change Worker.stages.after (Worker.stages.after .fresh (Worker.deeds w)) es = _
    rw [hreleased]
    exact hstays es

/-- A worker that has sent its answer has done what it was told. -/
theorem done_of_answer {computed : Bool} (hphase : workerPhase w = .working cmd computed)
    (hans : Worker.isAnswer cmd computed ans = true)
    (hstage : Worker.stages.allows (Worker.stage w) (.send ans)) : Done w cmd := by
  refine ⟨fun htype => ?_, fun htype => ?_⟩
  · have hcomputed : computed = true := by
      simp only [Worker.isAnswer, htype, Bool.and_eq_true] at hans
      exact hans.1.1.1
    subst hcomputed
    exact computed_of_phase hphase
  · have hresult : ans.type = .drainResult := by
      simp only [Worker.isAnswer, htype, Bool.and_eq_true, decide_eq_true_eq] at hans
      exact hans.1
    -- Before the release no answer reports a drain.
    have hallows := hstage true
    cases hx : Worker.stage w with
    | released => rfl
    | fresh | prepared =>
      rw [hx] at hallows
      simp [Worker.Stage.after, hresult] at hallows

/-! ### Turns of a worker -/

theorem run_concat (B : Worker.ReferenceBackend) (o : Worker.Options) (inputs : List Worker.Input)
    (input : Worker.Input) :
    Worker.run B o (inputs ++ [input]) =
      (Worker.worker B o).traced.next (Worker.run B o inputs) (.move Worker.mainThread input) := by
  unfold Worker.run
  rw [List.map_append, List.map_singleton, Machine.exec_concat]

theorem run_outlined (B : Worker.ReferenceBackend) (o : Worker.Options)
    (inputs : List Worker.Input) :
    System.Outlined (fun _ _ _ => True) (fun _ _ _ => True) (Worker.run B o inputs) := by
  let scs : List (Sched Worker.Input) := .spawn :: inputs.map (.move Worker.mainThread)
  change System.Outlined _ _
    ((Worker.worker B o).traced.exec (System.tracedInitial B.init) scs)
  exact (System.exec_outlined (C := fun _ _ => True) (I := fun _ => True)
    (fun l => Prog.outline_trivial (Worker.code o l) []) trivial
    (Machine.along_of_mem fun _ _ _ => trivial) fun _ _ _ _ _ _ _ => trivial).1

/-- A turn of a worker makes no step, or one that its conversation and its backend allow. -/
theorem worker_event (B : Worker.ReferenceBackend) (o : Worker.Options) (inputs : List Worker.Input)
    (input : Worker.Input) :
    (Worker.worker B o).machine.result (Worker.run B o inputs).pool (.move Worker.mainThread input) =
          none ∧
        Worker.deeds (Worker.run B o (inputs ++ [input])) = Worker.deeds (Worker.run B o inputs) ∨
      ∃ a r, (Worker.worker B o).machine.result (Worker.run B o inputs).pool
            (.move Worker.mainThread input) = some ⟨a, r⟩ ∧
        Worker.deeds (Worker.run B o (inputs ++ [input])) =
          Worker.deeds (Worker.run B o inputs) ++ [⟨a, r⟩] ∧
        Worker.manners.allows (workerPhase (Worker.run B o inputs)) a ∧
        Worker.stages.allows (Worker.stage (Worker.run B o inputs)) a := by
  have houtlined := run_outlined B o inputs
  rw [run_concat]
  rcases (Worker.run_minds B o inputs).event houtlined (.move Worker.mainThread input) with
    ⟨hnone, hlog⟩ | ⟨tid, _, a, r, l, hsc, -, -, hminds, hresult, hlog⟩
  · exact .inl ⟨hnone, System.stepsOf_of_log hlog _⟩
  · cases hsc
    rcases (Worker.run_stays B o inputs).1.event houtlined (.move Worker.mainThread input) with
      ⟨hnone, -⟩ | ⟨tid, _, a', r', l', hsc', -, -, hstays, hresult', -⟩
    · rw [hnone] at hresult
      cases hresult
    · cases hsc'
      cases hresult.symm.trans hresult'
      refine .inr ⟨a, r, hresult, ?_, hminds, hstays⟩
      exact (System.stepsOf_concat hlog _).trans (if_pos rfl)

end Workers

/-! ## Links -/

/-- What holds of a link whose connection is in phase `x`. -/
structure Linked (x : Coordinator.Phase) (l : Link B) : Prop where
  run : ∃ inputs, l.worker = Worker.run B l.options inputs
  step : InStep x (workerPhase l.worker) l.line
  /-- An answer on its way is the answer of a worker that has done what it was told. -/
  done : ∀ cmd, x = .awaiting cmd → l.line.inbox ≠ [] → Done l.worker cmd

section Links

variable {x x₁ : Coordinator.Phase} {l : Link B}

theorem linked_fresh (o : Worker.Options) : Linked .idle (Link.fresh B o) :=
  ⟨⟨[], rfl⟩, inStep_fresh, nofun⟩

/-- A command is sent when nothing is on its way. -/
theorem inbox_of_awaiting {ms : List ProtocolMessage} {e : Coordinator.Deed}
    {cmd : ProtocolMessage} (h : Hearing x ms) (hafter : x.after e = some (.awaiting cmd)) :
    x = .awaiting cmd ∧ coordinatorSignal e = none ∨ ms = [] ∧ ∃ m sent, e = ⟨.send m, sent⟩ := by
  obtain ⟨a, r⟩ := e
  cases a with
  | send m =>
    cases x with
    | commanding =>
      rcases h with h | h
      · obtain ⟨x', hx'⟩ := Option.isSome_iff_exists.mp h
        exact .inr ⟨(mute_commanding.eq_nil hx').1, m, r, rfl⟩
      · exact h.phase.elim
    | asked q =>
      simp only [Coordinator.Phase.after, Coordinator.Phase.answered,
        Option.ite_none_right_eq_some, Option.some.injEq] at hafter
      have heq := hafter.2
      split at heq <;> cases heq
    | _ => cases hafter
  | recv => cases x <;> cases r <;> cases hafter
  | abort => cases x <;> cases hafter
  | _ =>
    cases x with
    | awaiting => exact .inl ⟨Option.some.inj hafter, rfl⟩
    | _ => cases hafter

/-- A step of the coordinator. -/
theorem Linked.serve (h : Linked x l) {e : Coordinator.Deed} (hafter : x.after e = some x₁)
    (hline : ∀ s, coordinatorSignal e = some s → l.line.Allows s) :
    Linked x₁ { l with line := l.line.carry (coordinatorSignal e) } := by
  refine ⟨h.run, h.step.serve hafter hline, ?_⟩
  rintro cmd rfl hinbox
  rcases inbox_of_awaiting h.step.hearing hafter with ⟨hx, hnone⟩ | ⟨hnil, m, sent, rfl⟩
  · dsimp only at hinbox
    rw [hnone] at hinbox
    exact h.done cmd hx hinbox
  · exact absurd (Line.inbox_of_say.trans hnil) hinbox

/-- What a worker says to a connection that awaits it is the answer to the command. -/
theorem Linked.answer (h : Linked x l) {cmd m : ProtocolMessage} {y₁ : Worker.Phase}
    (hx : x = .awaiting cmd) (hnil : l.line.inbox = []) (hup : l.line.up = true)
    (hafter : (workerPhase l.worker).after ⟨.send m, true⟩ = some y₁) :
    ∃ computed, workerPhase l.worker = .working cmd computed ∧
      Worker.isAnswer cmd computed m = true := by
  subst hx
  rcases h.step.attuned hup with hended | ⟨x', y', hx, hy, hagree⟩ | ⟨-, hrequests⟩
  · cases hended
  · rw [hnil] at hx
    cases hx
    generalize workerPhase l.worker = y at hafter hy
    cases y with
    | working q computed =>
      obtain ⟨-, rfl⟩ := mute_working.eq_nil hy
      cases hagree with
      | result =>
        simp only [Worker.Phase.after, Worker.Phase.answered, Option.ite_none_right_eq_some]
          at hafter
        exact ⟨computed, rfl, hafter.1⟩
    | speaking =>
      obtain ⟨-, rfl⟩ := mute_speaking.eq_nil hy
      cases hagree
    | serving =>
      rw [Line.foldlM_of_stays fun _ => rfl] at hy
      cases hy
      cases hagree
    | lost =>
      rw [Line.foldlM_of_stays fun _ => rfl] at hy
      cases hy
      cases hagree
    | _ => cases hafter
  · exact hrequests.phase.elim

/-- The worker has made a step. -/
theorem Linked.worker_acted (h : Linked x l) {l' : Link B} {a : Worker.Action} {r : a.Res}
    (hrun : ∃ inputs, l'.worker = Worker.run B l'.options inputs)
    (hdeeds : Worker.deeds l'.worker = Worker.deeds l.worker ++ [⟨a, r⟩])
    (hminds : Worker.manners.allows (workerPhase l.worker) a)
    (hstays : Worker.stages.allows (Worker.stage l.worker) a)
    (hallows : ∀ s, workerSignal ⟨a, r⟩ = some s → l.line.flip.Allows s)
    (hline : l'.line = (l.line.flip.carry (workerSignal ⟨a, r⟩)).flip) : Linked x l' := by
  obtain ⟨y₁, hy₁⟩ := Option.isSome_iff_exists.mp (hminds r)
  have hphase : workerPhase l'.worker = y₁ := by
    unfold workerPhase at hy₁ ⊢
    rw [hdeeds, Discipline.after_concat]
    exact congrArg (fun p => Option.getD p Worker.Phase.lost) hy₁
  refine ⟨hrun, ?_, fun cmd hx hinbox => ?_⟩
  · rw [hphase, hline]
    exact h.step.work hy₁ hallows
  by_cases hold : l.line.inbox = []
  · -- The worker has just sent its answer.
    rw [hline] at hinbox
    cases a with
    | send m =>
      cases r with
      | false => exact absurd hold hinbox
      | true =>
        cases hup : l.line.up with
        | false =>
          have hsame : l.line.flip.after (.say m true) = l.line.flip :=
            Line.after_of_down (l := l.line.flip) hup
          change (l.line.flip.after (.say m true)).flip.inbox ≠ [] at hinbox
          rw [hsame] at hinbox
          exact absurd hold hinbox
        | true =>
          obtain ⟨computed, hworking, hans⟩ := h.answer hx hold hup hy₁
          exact (done_of_answer hworking hans hstays).advance hdeeds
    | recv => cases r <;> exact absurd hold hinbox
    | _ => exact absurd hold hinbox
  · exact (h.done cmd hx hold).advance hdeeds

/-- A turn of the worker. What it has done, it has done. -/
theorem Linked.work (h : Linked x l) {input : Worker.Input}
    (hline : ∀ e s, (Worker.worker B l.options).machine.result l.worker.pool
        (.move Worker.mainThread input) = some e →
      workerSignal e = some s → l.line.flip.Allows s) :
    Linked x (l.turned input) ∧ ∀ cmd, Done l.worker cmd → Done (l.turned input).worker cmd := by
  obtain ⟨inputs, hrun⟩ := h.run
  have hnext : (l.turned input).worker = Worker.run B l.options (inputs ++ [input]) := by
    rw [run_concat, ← hrun]
    rfl
  rcases worker_event B l.options inputs input with
    ⟨hnone, hdeeds⟩ | ⟨a, r, hresult, hdeeds, hminds, hstays⟩
  · rw [← hnext, ← hrun] at hdeeds
    rw [← hrun] at hnone
    have hsame : (l.turned input).line = l.line := by
      simp only [Link.turned, hnone]
      rfl
    have hkept : ∀ cmd, Done l.worker cmd → Done (l.turned input).worker cmd := fun cmd hdone =>
      hdone.advance (hdeeds.trans (List.append_nil _).symm)
    refine ⟨⟨⟨_, hnext⟩, ?_, fun cmd hx hinbox => hkept cmd (h.done cmd hx (hsame ▸ hinbox))⟩, hkept⟩
    rw [hsame, workerPhase, hdeeds]
    exact h.step
  · rw [← hnext, ← hrun] at hdeeds
    rw [← hrun] at hresult hminds hstays
    refine ⟨h.worker_acted ⟨_, hnext⟩ hdeeds hminds hstays (hline _ · hresult) ?_,
      fun cmd hdone => hdone.advance hdeeds⟩
    simp only [Link.turned, hresult]
    rfl

end Links

/-! ## The coordinator -/

/-- What the coordinator keeps, whatever its peers do. -/
structure Coordinated (st : Coordinator.Traces) : Prop where
  sound : Sound st
  minded : Minded True st
  responsive : Responsive True st

/-- The phase of a connection. -/
def phase (st : Coordinator.Traces) (tid : Nat) : Coordinator.Phase :=
  (Coordinator.standing True st tid).phase

section Coordinated

variable {st : Coordinator.Traces} {sc : Sched Coordinator.Input}

theorem coordinated_tracing (state : Option Str) : Coordinated (Coordinator.tracing state) :=
  ⟨Coordinator.sound_tracing state, System.disciplined_initial _,
    Coordinator.responsive_tracing (absurd trivial)⟩

theorem Coordinated.next (h : Coordinated st) (sc : Sched Coordinator.Input) :
    Coordinated (Coordinator.coordinator.traced.next st sc) := by
  obtain ⟨hturns, hsound⟩ := h.sound.next sc
  refine ⟨hsound, ?_, h.responsive.advance h.minded hturns⟩
  have hstart : Coordinator.Poised Coordinator.coordinator.start {} := .inl rfl
  refine h.minded.next h.sound.outlined (fun l _ hx => Coordinator.minds_runSession l hx) hstart ?_
  intro tid input a k r s _ _ hperform
  exact h.responsive.answers hperform

/-- A turn makes no step, or one after which the connection of its thread is in the next phase. -/
theorem Coordinated.event (h : Coordinated st) (sc : Sched Coordinator.Input) :
    (Coordinator.coordinator.machine.result st.pool sc = none ∧
        (Coordinator.coordinator.traced.next st sc).log = st.log) ∨
      ∃ tid input e l, sc = .move tid input ∧
        Coordinator.coordinator.machine.result st.pool sc = some e ∧
        (Coordinator.coordinator.traced.next st sc).log = st.log ++ [⟨tid, l, e⟩] ∧
        (phase st tid).after e = some (phase (Coordinator.coordinator.traced.next st sc) tid) := by
  rcases h.minded.event h.sound.outlined sc with
    hnone | ⟨tid, input, a, r, l, hsc, -, hperform, hallows, hresult, hlog⟩
  · exact .inl hnone
  · refine .inr ⟨tid, input, _, l, hsc, hresult, hlog, ?_⟩
    have hanswers : (Coordinator.manners True).answers (Coordinator.standing True st tid) a r :=
      h.responsive.answers hperform
    have hafter := (hallows.resolve_left hanswers.1).1 r
    unfold phase
    rw [Coordinator.standing_concat hlog, if_pos rfl]
    exact Coordinator.Standing.after_phase hafter

end Coordinated

/-! ## Runs of the network -/

/-- What every run keeps of the link of a thread. -/
structure Joined (st : Coordinator.Traces) (tid : Nat) (l : Link B) : Prop where
  begun : tid < st.pool.threads.length
  linked : Linked (phase st tid) l
  answered : ∀ cmd resp, Exchanged st tid cmd resp →
    Worker.isAnswer cmd true resp = true ∧ Done l.worker cmd

section Joined

variable {st st' : Coordinator.Traces} {sc : Sched Coordinator.Input} {tid : Nat} {l l' : Link B}

/-- The worker has moved. -/
theorem Joined.work (h : Joined st tid l) (hlinked : Linked (phase st tid) l')
    (hkept : ∀ cmd, Done l.worker cmd → Done l'.worker cmd) : Joined st tid l' :=
  ⟨h.begun, hlinked, fun cmd resp hans => (h.answered cmd resp hans).imp_right (hkept cmd)⟩

/-- The thread has made no step. -/
theorem Joined.wait (h : Joined st tid l)
    (hthreads : st.pool.threads.length ≤ st'.pool.threads.length)
    (hsteps : System.stepsOf st' tid = System.stepsOf st tid) : Joined st' tid l := by
  have hphase : phase st' tid = phase st tid := by
    unfold phase Coordinator.standing
    rw [hsteps]
  refine ⟨Nat.lt_of_lt_of_le h.begun hthreads, hphase ▸ h.linked, fun cmd resp hans => ?_⟩
  unfold Exchanged at hans
  rw [hsteps] at hans
  exact h.answered cmd resp hans

/-- No request is answered with a command. -/
theorem no_command_of_isAnswerTo {q m : ProtocolMessage}
    (h : Coordinator.isAnswerTo q m = true) : ¬ (m.type = .execute ∨ m.type = .drain) := by
  have hack : ∀ t, Coordinator.acknowledgement q = some t → ¬ (t = .execute ∨ t = .drain) := by
    intro t ht
    unfold Coordinator.acknowledgement at ht
    split at ht
    case h_4 =>
      split at ht <;> cases ht <;> simp
    all_goals
      cases ht <;> simp
  simp only [Coordinator.isAnswerTo, Bool.or_eq_true, Bool.and_eq_true, decide_eq_true_eq] at h
  rcases h with rfl | ⟨herror | hsuccess, -⟩
  · decide
  · rw [herror]
    decide
  · exact hack _ hsuccess

theorem awaiting_of_sent {x x₁ : Coordinator.Phase} {cmd : ProtocolMessage}
    (hcmd : cmd.type = .execute ∨ cmd.type = .drain)
    (hafter : x.after ⟨.send cmd, true⟩ = some x₁) : x₁ = .awaiting cmd := by
  cases x with
  | commanding =>
    simp only [Coordinator.Phase.after, Coordinator.Phase.commanded, hcmd, if_true] at hafter
    exact (Option.some.inj hafter).symm
  | asked q =>
    -- The answer to a request is no command.
    simp only [Coordinator.Phase.after, Coordinator.Phase.answered,
      Option.ite_none_right_eq_some] at hafter
    exact absurd hcmd (no_command_of_isAnswerTo hafter.1)
  | _ => cases hafter

/-- A thread that has just sent a command awaits the answer. -/
theorem phase_of_sent (hst : Coordinated st) {before : List Coordinator.Deed}
    {cmd : ProtocolMessage} (hcmd : cmd.type = .execute ∨ cmd.type = .drain)
    (hsteps : System.stepsOf st tid = before ++ [⟨.send cmd, true⟩]) :
    phase st tid = .awaiting cmd := by
  obtain ⟨hallows, hanswers⟩ := hst.minded.lawful tid before ⟨.send cmd, true⟩ [] hsteps
  have hafter := Coordinator.Standing.after_phase ((hallows.resolve_left hanswers.1).1 true)
  unfold phase Coordinator.standing
  rw [hsteps, Discipline.after_concat]
  exact awaiting_of_sent hcmd hafter

/-- A worker has just connected. -/
theorem Joined.begin (o : Worker.Options) (hbegun : tid < st.pool.threads.length)
    (hsteps : System.stepsOf st tid = []) : Joined st tid (Link.fresh B o) := by
  have hphase : phase st tid = .idle := by
    unfold phase Coordinator.standing
    rw [hsteps]
    rfl
  refine ⟨hbegun, hphase ▸ linked_fresh o, ?_⟩
  rintro cmd resp ⟨-, before, after, hsplit⟩
  rw [hsteps] at hsplit
  cases before <;> cases hsplit

/-- The thread has made a step. -/
theorem Joined.serve (h : Joined st tid l) (hst : Coordinated st) {e : Coordinator.Deed}
    (hthreads : st.pool.threads.length ≤ st'.pool.threads.length)
    (hsteps : System.stepsOf st' tid = System.stepsOf st tid ++ [e])
    (hafter : (phase st tid).after e = some (phase st' tid))
    (hline : ∀ s, coordinatorSignal e = some s → l.line.Allows s) :
    Joined st' tid { l with line := l.line.carry (coordinatorSignal e) } := by
  refine ⟨Nat.lt_of_lt_of_le h.begun hthreads, h.linked.serve hafter hline, ?_⟩
  rintro cmd resp ⟨hcmd, before, after, hsplit⟩
  rw [hsteps] at hsplit
  rcases List.concat_split (hsplit.trans (List.append_cons _ _ _)) with ⟨hbefore, rfl, -⟩ | ⟨rest, -, hold⟩
  · -- The answer is received by this step.
    have hphase := phase_of_sent hst hcmd hbefore
    have hhead := Line.inbox_of_head (hline _ rfl)
    have hearing := h.linked.step.hearing
    rw [hphase, hhead] at hearing
    exact ⟨hearing.isAnswer, h.linked.done cmd hphase (by simp [hhead])⟩
  · exact h.answered cmd resp ⟨hcmd, before, rest, hold.trans (List.append_cons _ _ _).symm⟩

end Joined

/-- What every run of the network keeps. -/
structure Connected (n : Cluster B) : Prop where
  coordinated : Coordinated n.coordinator
  joined : ∀ tid l, n.links.lookup tid = some l → Joined n.coordinator tid l

section Connected

variable {n n' : Cluster B}

theorem connected_listening (state : Option Str) : Connected (listening B state) :=
  ⟨coordinated_tracing state, nofun⟩

/-- No turn ends a thread. -/
theorem threads_le (n : Cluster B) (h : Coordinated n.coordinator) (sc : Sched Coordinator.Input) :
    n.coordinator.pool.threads.length ≤
      (Coordinator.coordinator.traced.next n.coordinator sc).pool.threads.length := by
  have hturns := (h.sound.next sc).1
  generalize Coordinator.coordinator.traced.next n.coordinator sc = st' at hturns
  cases hturns <;> simp

/-- The threads that do not move. -/
theorem stepsOf_other {st : Coordinator.Traces} (h : Coordinated st) {sc : Sched Coordinator.Input}
    {tid : Nat} (hother : ∀ input, sc ≠ .move tid input) :
    System.stepsOf (Coordinator.coordinator.traced.next st sc) tid = System.stepsOf st tid := by
  rcases h.event sc with ⟨-, hlog⟩ | ⟨tid', input, e, l, hsc, -, hlog, -⟩
  · exact System.stepsOf_of_log hlog tid
  · rw [System.stepsOf_concat hlog, if_neg fun heq => ?_]
    obtain rfl : tid' = tid := heq
    exact hother input hsc

theorem stepsOf_fresh {st : Coordinator.Traces} (h : Coordinated st) :
    System.stepsOf st st.pool.threads.length = [] := by
  refine List.map_eq_nil_iff.mpr (List.filter_eq_nil_iff.mpr fun e he heq => ?_)
  exact absurd (of_decide_eq_true heq) (Nat.ne_of_lt (h.minded.spawned e he))

theorem Connected.pass (h : Connected n) {sc : Sched Coordinator.Input} {tid : Nat} {l : Link B}
    (hlink : n.links.lookup tid = some l) (hother : ∀ input, sc ≠ .move tid input) :
    Joined (Coordinator.coordinator.traced.next n.coordinator sc) tid l :=
  (h.joined tid l hlink).wait (threads_le n h.coordinated sc) (stepsOf_other h.coordinated hother)

/-- A turn of a thread that is linked. -/
theorem Connected.serve (h : Connected n) {tid : Nat} {l : Link B} {input : Coordinator.Input}
    (hlink : n.links.lookup tid = some l)
    (hline : ∀ e s,
      Coordinator.coordinator.machine.result n.coordinator.pool (.move tid input) = some e →
      coordinatorSignal e = some s → l.line.Allows s) :
    Joined (Coordinator.coordinator.traced.next n.coordinator (.move tid input)) tid
      { l with line := l.line.carry ((Coordinator.coordinator.machine.result n.coordinator.pool
        (.move tid input)).bind coordinatorSignal) } := by
  have hthreads := threads_le n h.coordinated (.move tid input)
  have hjoined := h.joined tid l hlink
  rcases h.coordinated.event (.move tid input) with
    ⟨hnone, hlog⟩ | ⟨tid', input', e, loop, hsc, hresult, hlog, hafter⟩
  · rw [hnone]
    exact hjoined.wait hthreads (System.stepsOf_of_log hlog tid)
  · cases hsc
    rw [hresult]
    refine hjoined.serve h.coordinated hthreads ?_ hafter (hline e · hresult)
    exact (System.stepsOf_concat hlog tid).trans (if_pos rfl)

/-- A worker connects. -/
theorem Connected.connect (h : Connected n) (o : Worker.Options) :
    Connected (n.step (.connect o)) := by
  have hstill : ∀ tid input, (.spawn : Sched Coordinator.Input) ≠ .move tid input := nofun
  refine ⟨h.coordinated.next .spawn, fun tid l hl => ?_⟩
  change (n.links.insert n.coordinator.pool.threads.length (.fresh B o)).lookup tid = some l at hl
  change Joined (Coordinator.coordinator.traced.next n.coordinator .spawn) tid l
  rw [AList.lookup_insert'] at hl
  split at hl
  · rename_i heq
    subst heq
    cases hl
    refine .begin o ?_ ((stepsOf_other h.coordinated (hstill _)).trans (stepsOf_fresh h.coordinated))
    simp [System.traced, Machine.next, System.record, System.machine, System.turn]
  · exact h.pass hl (hstill tid)

theorem Connected.advance (h : Connected n) (hmoved : Moved n n') : Connected n' := by
  cases hmoved with
  | idle => exact h
  | connected o => exact h.connect o
  | passed hout =>
    refine ⟨h.coordinated.next _, fun tid l hl => ?_⟩
    have hlink : n.links.lookup tid = some l := hl
    refine h.pass hlink fun input heq => ?_
    rw [hout tid input heq] at hlink
    cases hlink
  | @served tid l input hlink hline =>
    refine ⟨h.coordinated.next (.move tid input), fun tid' l' hl => ?_⟩
    simp only [Cluster.turned] at hl ⊢
    rw [AList.lookup_insert'] at hl
    split at hl
    · rename_i heq
      subst heq
      cases hl
      exact h.serve hlink hline
    · rename_i hne
      exact h.pass hl fun input heq => hne (Sched.move.inj heq).1.symm
  | worked hlink hline =>
    obtain ⟨hnext, hkept⟩ := (h.joined _ _ hlink).linked.work hline
    refine ⟨h.coordinated, fun tid l hl => ?_⟩
    rw [AList.lookup_insert'] at hl
    split at hl
    · rename_i heq
      cases heq
      cases hl
      exact (h.joined _ _ hlink).work hnext hkept
    · exact h.joined tid l hl

/-- Every run of the network keeps its links in step. -/
theorem exec_connected (B : Worker.ReferenceBackend) (state : Option Str) (steps : List Step) :
    Connected ((network B).exec (listening B state) steps) := by
  refine Machine.exec_always (M := network B) (connected_listening state) (fun n s h => ?_) steps
  exact h.advance (n.step_moved s)

end Connected

end EngineResidency.Network
