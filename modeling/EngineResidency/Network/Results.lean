-- SUMMARY: What the controller hears of an execution, and what the runtime knows of a drain, is what the worker of the incarnation has done.
import EngineResidency.Coordinator.Owners
import EngineResidency.Network.Answers

/-!
# Results of commands

Every run of the network is a run of the coordinator, so what holds of its connections holds here: a
success goes back to a message that the connection of the incarnation has received right after the
command, and so does an acknowledged cleanup. At the other end of the line, the worker has made the
computation by then, or it has released its backend.
-/

namespace EngineResidency.Network

open Coordinator (ProtocolMessage WorkerCommand Exchanged RegisteredBy IsReport answeredReply
  commandFrame routedCommand parsePayload u)

variable {B : Worker.ReferenceBackend}

/-! ## The frames of executions -/

section Frames

variable {cmd : WorkerCommand}

theorem lookup_executeFields (cmd : WorkerCommand) :
    let f := Coordinator.fieldsOf (("cmd_id", Coordinator.decimal cmd.commandId.toNat) ::
      Coordinator.executeFields cmd)
    f.lookup (lit "cmd_id") = some (Coordinator.decimal cmd.commandId.toNat) ∧
      f.lookup (lit "seed") = some (Coordinator.get cmd.params "seed" "42") ∧
      f.lookup (lit "batch") = some (Coordinator.get cmd.params "batch" "1") ∧
      f.lookup (lit "seq_len") = some (Coordinator.get cmd.params "seq_len" "16") := by
  simp only [Coordinator.fieldsOf, Coordinator.executeFields, List.foldl_cons, List.foldl_nil,
    AList.lookup_insert']
  exact ⟨rfl, rfl, rfl, rfl⟩

/-- A number that is missing is sent as its default. -/
theorem u_get {f f' : Coordinator.Fields} {key default : String} {d : UInt64}
    (hlookup : f'.lookup (lit key) = some (Coordinator.get f key default))
    (hdefault : Coordinator.stoull (lit default) = some d) : u f' key d = u f key d := by
  unfold u
  rw [hlookup]
  unfold Coordinator.get
  cases f.lookup (lit key) with
  | none => simp [hdefault]
  | some v => rfl

/-- The numbers of the frame are those of the message. -/
theorem u_commandFrame (msg : ProtocolMessage) :
    let f := parsePayload (commandFrame (routedCommand .execute msg (parsePayload msg.payload))).payload
    u f "cmd_id" 0 = u (parsePayload msg.payload) "cmd_id" 0 ∧
      u f "seed" 42 = u (parsePayload msg.payload) "seed" 42 ∧
      u f "batch" 1 = u (parsePayload msg.payload) "batch" 1 ∧
      u f "seq_len" 16 = u (parsePayload msg.payload) "seq_len" 16 := by
  let cmd := routedCommand .execute msg (parsePayload msg.payload)
  have hparams : cmd.params.OnLines := Coordinator.onLines_parsePayload msg.payload
  have hsame : Coordinator.SameFields (parsePayload (commandFrame cmd).payload) _ :=
    Coordinator.sameFields_forwarded
      (Coordinator.onLine_executeFields hparams)
  obtain ⟨hid, hseed, hbatch, hseq⟩ := lookup_executeFields cmd
  refine ⟨?_, u_get ((hsame _).trans hseed) (by decide),
    u_get ((hsame _).trans hbatch) (by decide), u_get ((hsame _).trans hseq) (by decide)⟩
  have hread : (parsePayload (commandFrame cmd).payload).lookup (lit "cmd_id") =
      some (Coordinator.decimal cmd.commandId.toNat) := (hsame _).trans hid
  change u (parsePayload (commandFrame cmd).payload) "cmd_id" 0 = cmd.commandId
  unfold u
  rw [hread]
  exact congrArg (·.getD 0) (Coordinator.stoull_decimal cmd.commandId)

/-- The worker is asked for the computation that the message asks for. -/
theorem computes_commandFrame (msg : ProtocolMessage) (input : Worker.ComputeInput) :
    Worker.computes (commandFrame (routedCommand .execute msg (parsePayload msg.payload))) input =
      Worker.computes msg input := by
  obtain ⟨-, hseed, hbatch, hseq⟩ := u_commandFrame msg
  unfold Worker.computes
  rw [hseed, hbatch, hseq]

/-- Its answer is an answer to the message. -/
theorem isAnswer_commandFrame {msg : ProtocolMessage} (htype : msg.type = .execute)
    (computed : Bool) (resp : ProtocolMessage) :
    Worker.isAnswer (commandFrame (routedCommand .execute msg (parsePayload msg.payload)))
      computed resp = Worker.isAnswer msg computed resp := by
  obtain ⟨hid, hseed, -⟩ := u_commandFrame msg
  unfold Worker.isAnswer Worker.echoes
  rw [hid, hseed, htype, Coordinator.type_commandFrame]
  rfl

end Frames

/-! ## Runs of the coordinator -/

/-- Every run of the network is a run of the coordinator: its workers are peers like any other. -/
theorem exec_coordinator (B : Worker.ReferenceBackend) (state : Option Str) (steps : List Step) :
    ∃ scs, ((network B).exec (listening B state) steps).coordinator =
      Coordinator.coordinator.traced.exec (Coordinator.tracing state) scs := by
  refine Machine.exec_always (M := network B) (I := fun n => ∃ scs, n.coordinator =
    Coordinator.coordinator.traced.exec (Coordinator.tracing state) scs) ⟨[], rfl⟩ ?_ steps
  rintro n s ⟨scs, hn⟩
  have hnext : ∀ sc, ∃ scs, Coordinator.coordinator.traced.next n.coordinator sc =
      Coordinator.coordinator.traced.exec (Coordinator.tracing state) scs := fun sc =>
    ⟨scs ++ [sc], by rw [hn, Machine.exec_concat]⟩
  have hmoved := n.step_moved s
  change ∃ scs, (n.step s).coordinator = _
  generalize n.step s = n' at hmoved
  cases hmoved with
  | idle | worked => exact ⟨scs, hn⟩
  | connected o => exact hnext .spawn
  | passed => exact hnext _
  | served => exact hnext (.move _ _)

/-! ## Answers -/

/-- What the connection of a worker has received right after a command is the answer to this command,
and the worker has done what it was told. -/
def AnswersDone (n : Cluster B) : Prop :=
  ∀ tid l cmd resp, n.links.lookup tid = some l → Exchanged n.coordinator tid cmd resp →
    Worker.isAnswer cmd true resp = true ∧ (cmd.type = .execute → Executed l.worker cmd) ∧
      (cmd.type = .drain → ∃ b, l.worker.pool.shared = B.release b)

theorem Connected.answersDone {n : Cluster B} (h : Connected n) : AnswersDone n := by
  intro tid l cmd resp hlink hexchanged
  have hjoined := h.joined tid l hlink
  obtain ⟨hanswer, hdone⟩ := hjoined.answered cmd resp hexchanged
  obtain ⟨inputs, hrun⟩ := hjoined.linked.run
  refine ⟨hanswer, hdone.executed, fun hdrain => ?_⟩
  have hreleased := hdone.released hdrain
  rw [hrun] at hreleased ⊢
  exact (Worker.run_stays B l.options inputs).2 hreleased

/-- In every interleaving of the coordinator and its workers, whatever other peers send and wherever
a line fails. -/
theorem answers_done (B : Worker.ReferenceBackend) (state : Option Str) (steps : List Step) :
    AnswersDone ((network B).exec (listening B state) steps) :=
  (exec_connected B state steps).answersDone

/-! ## Waiting -/

/-- As long as its line holds, a connection and its worker do not both wait for a message when there
is none on its way, unless the worker has gone on to serve requests of its own. -/
def NeverStuck (n : Cluster B) : Prop :=
  ∀ tid l (input : Coordinator.Input) (input' : Worker.Input), n.links.lookup tid = some l →
    l.line.up = true → l.line.inbox = [] → l.line.outbox = [] →
    System.pending n.coordinator.pool (.move tid input) = some .recv →
    System.pending l.worker.pool (.move Worker.mainThread input') = some .recv →
    workerPhase l.worker = .serving ∨ n.coordinator.pool.shared.crashed = true

theorem thread_of_pending {σ ι Act L : Type} {Res : Act → Type} {pool : Pool σ Act Res L} {tid : Nat}
    {input : ι} {a : Act} (h : System.pending pool (.move tid input) = some a) :
    ∃ k, pool.threads[tid]? = some (.act a k) := by
  unfold System.pending at h
  dsimp only at h
  split at h
  · rename_i k hthread
    cases h
    exact ⟨k, hthread⟩
  · cases h

/-- A connection that waits for a message is in a phase in which one may come. -/
theorem Coordinated.waiting {st : Coordinator.Traces} (h : Coordinated st) {tid : Nat}
    {input : Coordinator.Input}
    (hwaits : System.pending st.pool (.move tid input) = some .recv) :
    st.pool.shared.crashed = true ∨ ((phase st tid).after ⟨.recv, none⟩).isSome = true := by
  obtain ⟨k, hthread⟩ := thread_of_pending hwaits
  rcases (h.minded.thread tid _ hthread).1 with hended | ⟨hallowed, -⟩
  · exact .inl (h.responsive.ended tid hended)
  · exact .inr (hallowed none)

theorem Linked.waiting {x : Coordinator.Phase} {l : Link B} (h : Linked x l) {input : Worker.Input}
    (hwaits : System.pending l.worker.pool (.move Worker.mainThread input) = some .recv) :
    ((workerPhase l.worker).after ⟨.recv, none⟩).isSome = true := by
  obtain ⟨inputs, hrun⟩ := h.run
  obtain ⟨k, hthread⟩ := thread_of_pending hwaits
  have hminds := Worker.run_minds B l.options inputs
  rw [← hrun] at hminds
  exact (hminds.thread Worker.mainThread _ hthread).1 none

/-- In every interleaving of the coordinator and its workers. -/
theorem never_stuck (B : Worker.ReferenceBackend) (state : Option Str) (steps : List Step) :
    NeverStuck ((network B).exec (listening B state) steps) := by
  intro tid l input input' hlink hup hinbox houtbox hwaits hwaits'
  have hconnected := exec_connected B state steps
  have hlinked := (hconnected.joined tid l hlink).linked
  rcases hconnected.coordinated.waiting hwaits with hcrashed | hx
  · exact .inr hcrashed
  · exact .inl (hlinked.step.serving_of_waiting hup hinbox houtbox hx (hlinked.waiting hwaits'))

/-! ## Executions -/

/-- A session reports success to a message that asks for an execution. -/
def Succeeded (st : Coordinator.Traces) (msg m : ProtocolMessage) : Prop :=
  ∃ (tid : Nat) (rd : Round Coordinator.Action Coordinator.Action.Res Coordinator.Loop) (s : _)
    (rest : List Coordinator.Deed) (sent : Bool), st.rounds[tid]? = some rd ∧ rd.start = .session s ∧
    rd.steps = ⟨.recv, some msg⟩ :: rest ∧ msg.type = .execute ∧
    (⟨.send m, sent⟩ : Coordinator.Deed) ∈ rest ∧ m.type = .registerAck

/-- The report is made of a message that the connection of the incarnation has received right after
the command. If a worker is at the other end, it was the answer to the command, and the worker has
made the computation that was asked for. -/
def Computed (n : Cluster B) (msg m : ProtocolMessage) : Prop :=
  let cmd := routedCommand .execute msg (parsePayload msg.payload)
  ∃ i resp, RegisteredBy n.coordinator i ⟨u (parsePayload msg.payload) "target_incarnation" 0⟩ ∧
    Exchanged n.coordinator i (commandFrame cmd) resp ∧
    IsReport (answeredReply true (parsePayload resp.payload)
      (Coordinator.get (parsePayload resp.payload) "detail" "execute result")) cmd m ∧
    ∀ l, n.links.lookup i = some l →
      Worker.isAnswer msg true resp = true ∧ Executed l.worker msg

/-- Every success is the result of a computation. -/
def SuccessesComputed (n : Cluster B) : Prop :=
  ∀ msg m, Succeeded n.coordinator msg m → Computed n msg m

theorem successes_computed (B : Worker.ReferenceBackend) (state : Option Str) (steps : List Step)
    (hroom : ((network B).exec (listening B state) steps).coordinator.pool.threads.length <
      2 ^ 64 - 1) :
    SuccessesComputed ((network B).exec (listening B state) steps) := by
  rintro msg m ⟨tid, rd, s, rest, sent, hround, hstart, hsteps, htype, hsent, hack⟩
  have hanswers := answers_done B state steps
  obtain ⟨scs, hscs⟩ := exec_coordinator B state steps
  have howned := Coordinator.exec_owned state scs
  rw [← hscs] at howned
  -- The success was awaited, and comes from a dispatcher of the router that the message was queued to.
  have hawaited := howned.accounted.reported tid rd s msg rest m sent hround hstart hsteps htype
    hsent hack
  obtain ⟨rid, t, rep, hcmd, ⟨i, resp, hdispatched, hexchanged, hrep⟩, hreport⟩ :=
    hawaited.source howned.accounted.sourced howned.sound hround
  obtain ⟨hbinds, -⟩ := howned.addressed.queued rid _ hcmd
  refine ⟨i, resp, howned.registered hroom hdispatched hbinds, hexchanged, hrep rfl ▸ hreport, ?_⟩
  intro l hlink
  obtain ⟨hanswer, hexecuted, -⟩ := hanswers i l _ resp hlink hexchanged
  obtain ⟨input, r, hmem, hcomputes⟩ := hexecuted rfl
  exact ⟨(isAnswer_commandFrame htype true resp).symm.trans hanswer, input, r, hmem,
    (computes_commandFrame msg input).symm.trans hcomputes⟩

/-- The worker of the thread 0 and its connection take turns, each of them unless it waits for a
message that has not arrived. -/
def sampleTurns (n : Nat) : List Step :=
  let waits : ProtocolMessage := { type := .hello }
  (List.replicate n
    [Step.worker 0 { message := some waits }, .coordinator (.move 0 { message := some waits })]).flatten

/-- A worker connects, and the thread 1 asks for a command for it. -/
def sampleCommand (type : Coordinator.MessageType) (payload : String) : List Step :=
  let controller := [Sched.spawn] ++ Coordinator.moves 1 2 ++
    [Coordinator.receives 1 type payload] ++ Coordinator.moves 1 5
  [.connect { commandMode := true }] ++ sampleTurns 102 ++ controller.map .coordinator ++
    sampleTurns 13 ++ (Coordinator.moves 1 2).map .coordinator

/-- The entry reports a success to the thread 1. -/
def reportsSuccess : Coordinator.Entry → Bool
  | ⟨1, .session _, .send m, true⟩ => m.type = .registerAck
  | _ => false

/-- The thread 1 asks for an execution. -/
def sampleExecution : List Step :=
  sampleCommand .execute "target_incarnation=2\ncmd_id=5\nseed=7\n"

theorem sampleExecution_succeeds :
    ((network Worker.makeCpuReferenceBackend).exec (listening _ none)
        sampleExecution).coordinator.pool.threads.length < 2 ^ 64 - 1 ∧
      ((network Worker.makeCpuReferenceBackend).exec (listening _ none)
        sampleExecution).coordinator.log.any reportsSuccess = true := by decide +kernel

/-- The success of an execution is reported. -/
theorem successes_computed_sample :
    ((network Worker.makeCpuReferenceBackend).exec (listening _ none)
        sampleExecution).coordinator.log.any reportsSuccess = true ∧
      SuccessesComputed ((network Worker.makeCpuReferenceBackend).exec (listening _ none)
        sampleExecution) :=
  ⟨sampleExecution_succeeds.2, successes_computed _ none _ sampleExecution_succeeds.1⟩

/-! ## Drains -/

/-- A cleanup is acknowledged, and a drain is complete, only after the connection of the incarnation
has received a message right after a drain. If a worker is at the other end, it has released its
backend. -/
def CleanupsReleased (n : Cluster B) : Prop :=
  ∀ id, Runtime.acknowledgedFor n.coordinator.pool.shared.runtime id = true ∨
      (Runtime.drainState n.coordinator.pool.shared.runtime id).phase = .drained →
    ∃ i frame resp, RegisteredBy n.coordinator i id ∧ frame.type = .drain ∧
      Exchanged n.coordinator i frame resp ∧
      ∀ l, n.links.lookup i = some l →
        Worker.isAnswer frame true resp = true ∧ ∃ b, l.worker.pool.shared = B.release b

theorem cleanups_released (B : Worker.ReferenceBackend) (state : Option Str) (steps : List Step)
    (hroom : ((network B).exec (listening B state) steps).coordinator.pool.threads.length <
      2 ^ 64 - 1) :
    CleanupsReleased ((network B).exec (listening B state) steps) := by
  intro id hack
  have hanswers := answers_done B state steps
  obtain ⟨scs, hscs⟩ := exec_coordinator B state steps
  have howned := Coordinator.exec_owned state scs
  have hdrains := Coordinator.exec_drainInv state scs
  rw [← hscs] at howned hdrains
  obtain ⟨i, rid, frame, resp, hbinds, hdispatched, hdrain, hexchanged⟩ :=
    howned.drained id (hack.elim (fun h => h) hdrains.sound.acknowledged)
  refine ⟨i, frame, resp, howned.registered hroom hdispatched hbinds, hdrain, hexchanged, ?_⟩
  intro l hlink
  obtain ⟨hanswer, -, hreleased⟩ := hanswers i l frame resp hlink hexchanged
  exact ⟨hanswer, hreleased hdrain⟩

/-- The thread 1 asks for a drain. -/
def sampleDrain : List Step := sampleCommand .drain "target_incarnation=2\n"

theorem sampleDrain_acknowledged :
    ((network Worker.makeCpuReferenceBackend).exec (listening _ none)
        sampleDrain).coordinator.pool.threads.length < 2 ^ 64 - 1 ∧
      Runtime.acknowledgedFor ((network Worker.makeCpuReferenceBackend).exec (listening _ none)
        sampleDrain).coordinator.pool.shared.runtime ⟨2⟩ = true := by decide +kernel

/-- A cleanup is acknowledged. -/
theorem cleanups_released_sample :
    Runtime.acknowledgedFor ((network Worker.makeCpuReferenceBackend).exec (listening _ none)
        sampleDrain).coordinator.pool.shared.runtime ⟨2⟩ = true ∧
      CleanupsReleased ((network Worker.makeCpuReferenceBackend).exec (listening _ none)
        sampleDrain) :=
  ⟨sampleDrain_acknowledged.2, cleanups_released _ none _ sampleDrain_acknowledged.1⟩

end EngineResidency.Network
