-- SUMMARY: The coordinator and its workers, connected by lines, in every interleaving of all of them.
import EngineResidency.Base.Line
import EngineResidency.Base.UMap
import EngineResidency.Coordinator.Cleanup
import EngineResidency.Coordinator.Responses
import EngineResidency.Worker.Lifecycle

/-!
# The network

The coordinator runs a thread for each connection. At the other end of a connection there may be a
worker, which runs its own program over its own backend; what any other peer sends is up to the
environment. A step of the network is a turn of the coordinator or of one worker, or a new
connection. What one end of a line has sent is on its way until the other end receives it. Every
end may find at any time that its line has failed: it receives nothing, or its message is not
delivered, and nothing that is sent after that arrives.
-/

namespace EngineResidency.Network

open Coordinator (ProtocolMessage)

variable {B : Worker.ReferenceBackend}

/-! ## Turns at the ends of a line -/

/-- What a step of the coordinator does to the line of its thread. -/
def coordinatorSignal : Coordinator.Deed → Option (Signal ProtocolMessage)
  | ⟨.recv, m⟩ => some (.hear m)
  | ⟨.send m, sent⟩ => some (.say m sent)
  | _ => none

/-- What a step of a worker does to its line. -/
def workerSignal : Worker.Deed → Option (Signal ProtocolMessage)
  | ⟨.recv, m⟩ => some (.hear m)
  | ⟨.send m, sent⟩ => some (.say m sent)
  | _ => none

/-- What the environment contributes to an action at the end of a line: the message that
is received is the next one on the line. -/
def coordinatorInput (l : Line ProtocolMessage) (input : Coordinator.Input) :
    Option Coordinator.Action → Option Coordinator.Input
  | some .recv => (l.receive input.message.isSome).map fun m => { input with message := m }
  | _ => some input

def workerInput (l : Line ProtocolMessage) (input : Worker.Input) :
    Option Worker.Action → Option Worker.Input
  | some .recv => (l.receive input.message.isSome).map fun m => { input with message := m }
  | _ => some input

/-! ## The network -/

/-- A worker and its line, as the coordinator sees it. -/
structure Link (B : Worker.ReferenceBackend) where
  options : Worker.Options
  worker : Worker.Traces B
  line : Line ProtocolMessage := {}

/-- The coordinator, and the workers at the other ends of some of its connections. -/
structure Cluster (B : Worker.ReferenceBackend) where
  coordinator : Coordinator.Traces
  links : UMap Nat (Link B) := ∅

inductive Step where
  /-- A worker connects. -/
  | connect (o : Worker.Options)
  /-- A turn of the coordinator; `spawn` is the connection of another peer. -/
  | coordinator (sc : Sched Coordinator.Input)
  | worker (tid : Nat) (input : Worker.Input)

/-- A worker that has connected, and has sent nothing. -/
def Link.fresh (B : Worker.ReferenceBackend) (o : Worker.Options) : Link B :=
  { options := o, worker := Worker.connected B o }

/-- The link after a turn of its worker. -/
def Link.turned (l : Link B) (input : Worker.Input) : Link B :=
  let sc := .move Worker.mainThread input
  let e := (Worker.worker B l.options).machine.result l.worker.pool sc
  { l with
    worker := (Worker.worker B l.options).traced.next l.worker sc
    line := (l.line.flip.carry (e.bind workerSignal)).flip }

/-- The cluster after a turn of the thread of a link. -/
def Cluster.turned (n : Cluster B) (tid : Nat) (l : Link B) (input : Coordinator.Input) :
    Cluster B :=
  let e := Coordinator.coordinator.machine.result n.coordinator.pool (.move tid input)
  { coordinator := Coordinator.coordinator.traced.next n.coordinator (.move tid input)
    links := n.links.insert tid { l with line := l.line.carry (e.bind coordinatorSignal) } }

/-- The thread of a link moves, unless it waits for a message that has not arrived. -/
def Cluster.serve (n : Cluster B) (tid : Nat) (l : Link B) (input : Coordinator.Input) :
    Cluster B :=
  let waiting := System.pending n.coordinator.pool (.move tid input)
  (coordinatorInput l.line input waiting).elim n (n.turned tid l)

/-- A worker moves, unless it waits for a message that has not arrived. -/
def Cluster.work (n : Cluster B) (tid : Nat) (l : Link B) (input : Worker.Input) : Cluster B :=
  let waiting := System.pending l.worker.pool (.move Worker.mainThread input)
  (workerInput l.line.flip input waiting).elim n fun input =>
    { n with links := n.links.insert tid (l.turned input) }

/-- A turn of the coordinator that is no turn of a link. -/
def Cluster.pass (n : Cluster B) (sc : Sched Coordinator.Input) : Cluster B :=
  { n with coordinator := Coordinator.coordinator.traced.next n.coordinator sc }

def Cluster.step (n : Cluster B) : Step → Cluster B
  | .connect o =>
    { coordinator := Coordinator.coordinator.traced.next n.coordinator .spawn
      links := n.links.insert n.coordinator.pool.threads.length (.fresh B o) }
  | .coordinator .spawn => n.pass .spawn
  | .coordinator (.move tid input) =>
    (n.links.lookup tid).elim (n.pass (.move tid input)) fun l => n.serve tid l input
  | .worker tid input =>
    (n.links.lookup tid).elim n fun l => n.work tid l input

/-- The network as a machine. -/
def network (B : Worker.ReferenceBackend) : Machine (Cluster B) Step Unit :=
  ⟨fun s n => ((), n.step s)⟩

/-- A coordinator that has started from a state file, with nobody connected. -/
def listening (B : Worker.ReferenceBackend) (state : Option Str) : Cluster B :=
  { coordinator := Coordinator.tracing state }

/-! ## What a step does -/

/-- A thread that is no link, or has none yet. -/
def Cluster.Outside (n : Cluster B) (sc : Sched Coordinator.Input) : Prop :=
  ∀ tid input, sc = .move tid input → n.links.lookup tid = none

/-- What a step does to the coordinator and its links. -/
inductive Moved (n : Cluster B) : Cluster B → Prop
  | idle : Moved n n
  | connected (o : Worker.Options) : Moved n (n.step (.connect o))
  | passed {sc : Sched Coordinator.Input} (hout : n.Outside sc) : Moved n (n.pass sc)
  | served {tid : Nat} {l : Link B} {input : Coordinator.Input} (hlink : n.links.lookup tid = some l)
    (hline : ∀ e s,
      Coordinator.coordinator.machine.result n.coordinator.pool (.move tid input) = some e →
      coordinatorSignal e = some s → l.line.Allows s) :
    Moved n (n.turned tid l input)
  | worked {tid : Nat} {l : Link B} {input : Worker.Input} (hlink : n.links.lookup tid = some l)
    (hline : ∀ e s,
      (Worker.worker B l.options).machine.result l.worker.pool (.move Worker.mainThread input) =
        some e →
      workerSignal e = some s → l.line.flip.Allows s) :
    Moved n { n with links := n.links.insert tid (l.turned input) }

/-- What is received is the next message on the line. -/
theorem coordinatorInput_allows {l : Line ProtocolMessage} {input input' : Coordinator.Input}
    {a : Coordinator.Action} {r : a.Res} {s s' : Coordinator.SessionShared}
    {signal : Signal ProtocolMessage} (hinput : coordinatorInput l input (some a) = some input')
    (hperform : Coordinator.performAlive input' s a = some (r, s'))
    (hsignal : coordinatorSignal ⟨a, r⟩ = some signal) : l.Allows signal := by
  cases a with
  | recv =>
    obtain ⟨m, hm, heq⟩ := Option.map_eq_some_iff.mp hinput
    subst heq
    obtain ⟨hr, -⟩ := Coordinator.performAlive_recv hperform
    subst hr
    cases hsignal
    exact Line.allows_receive hm
  | send m =>
    cases hsignal
    trivial
  | _ => cases hsignal

theorem workerInput_allows {l : Line ProtocolMessage} {input input' : Worker.Input}
    {a : Worker.Action} {r : a.Res} {s s' : B.State} {signal : Signal ProtocolMessage}
    (hinput : workerInput l input (some a) = some input')
    (hperform : Worker.perform B input' s a = some (r, s'))
    (hsignal : workerSignal ⟨a, r⟩ = some signal) : l.Allows signal := by
  cases a with
  | recv =>
    obtain ⟨m, hm, heq⟩ := Option.map_eq_some_iff.mp hinput
    subst heq
    cases hperform
    cases hsignal
    exact Line.allows_receive hm
  | send m =>
    cases hsignal
    trivial
  | _ => cases hsignal

/-- The action that a turn performs was pending, whatever its input. -/
theorem pending_input {σ ι Act L : Type} {Res : Act → Type} (pool : Pool σ Act Res L) (tid : Nat)
    (input input' : ι) :
    System.pending pool (.move tid input) = System.pending pool (.move tid input') := rfl

theorem Cluster.serve_moved {n : Cluster B} {tid : Nat} {l : Link B} {input : Coordinator.Input}
    (hlink : n.links.lookup tid = some l) : Moved n (n.serve tid l input) := by
  unfold Cluster.serve
  dsimp only
  cases hinput : coordinatorInput l.line input
    (System.pending n.coordinator.pool (.move tid input)) with
  | none => exact .idle
  | some input' =>
    refine .served hlink fun e s he hsignal => ?_
    have hturned := System.turned (S := Coordinator.coordinator) n.coordinator.pool
      (.move tid input')
    rw [he] at hturned
    obtain ⟨_, _, hsc, hpending, hperform⟩ := System.of_event hturned
    cases hsc
    rw [pending_input _ _ input input', hpending] at hinput
    exact coordinatorInput_allows hinput hperform hsignal

theorem Cluster.work_moved {n : Cluster B} {tid : Nat} {l : Link B} {input : Worker.Input}
    (hlink : n.links.lookup tid = some l) : Moved n (n.work tid l input) := by
  unfold Cluster.work
  dsimp only
  cases hinput : workerInput l.line.flip input
    (System.pending l.worker.pool (.move Worker.mainThread input)) with
  | none => exact .idle
  | some input' =>
    refine .worked hlink fun e s he hsignal => ?_
    have hturned := System.turned (S := Worker.worker B l.options) l.worker.pool
      (.move Worker.mainThread input')
    rw [he] at hturned
    obtain ⟨_, _, hsc, hpending, hperform⟩ := System.of_event hturned
    cases hsc
    rw [pending_input _ _ input input', hpending] at hinput
    exact workerInput_allows hinput hperform hsignal

theorem Cluster.step_moved (n : Cluster B) (s : Step) : Moved n (n.step s) := by
  cases s with
  | connect o => exact .connected o
  | coordinator sc =>
    cases sc with
    | spawn => exact .passed nofun
    | move tid input =>
      simp only [Cluster.step]
      cases hlink : n.links.lookup tid with
      | none => exact .passed fun _ _ heq => by cases heq; exact hlink
      | some l => exact Cluster.serve_moved hlink
  | worker tid input =>
    simp only [Cluster.step]
    cases hlink : n.links.lookup tid with
    | none => exact .idle
    | some l => exact Cluster.work_moved hlink

end EngineResidency.Network
