-- SUMMARY: The program of a worker: its handshake with the coordinator, its command loop and its own requests.
import EngineResidency.Base.Pool
import EngineResidency.Worker.Backend

/-!
# Workers

A worker introduces itself, registers, publishes its components, prepares and warms up its
backend and asks for its readiness. Then it takes commands from its connection, or serves
requests of its own. It talks over one connection, one message at a time, and gives most
of the failures of the connection no thought: a message that was not received leaves the
last one in its place.
-/

namespace EngineResidency.Worker

open Coordinator (ProtocolMessage MessageType Fields makePayload parsePayload fieldsOf get u decimal)

/-- The command line. -/
structure Options where
  workerId : UInt64 := 1
  boot : UInt64 := 1
  label : Str := lit "worker"
  pid : UInt32 := 0
  serve : Nat := 0
  resultFile : Str := []
  stayAlive : Bool := false
  slot : UInt64 := 1
  commandMode : Bool := false
  noActivate : Bool := false
  readyMarker : Str := []

/-! ## Actions -/

/-- What a worker does in one step. -/
inductive Action where
  | send (m : ProtocolMessage)
  | recv
  | discover (ordinal : UInt64)
  | prepare (modelBytes workspaceBytes kvEntries : UInt64)
  | bindKernel (kernelKey : Str)
  | instantiateGraph (required : Bool)
  | warmup (batch seqLen : UInt32)
  | execute (input : ComputeInput)
  | verifyParity (actual cpuReference : ComputeResult)
  | release
  | writeFile (path text : Str)
  | fileExists (path : Str)
  | removeFile (path : Str)
  | sleep

def Action.Res : Action → Type
  | .send _ => Bool
  | .recv => Option ProtocolMessage
  | .discover _ => BackendDiscovery
  | .prepare _ _ _ | .bindKernel _ | .instantiateGraph _ | .verifyParity _ _ => Bool
  | .warmup _ _ | .execute _ => ComputeResult
  | .fileExists _ => Bool
  | .release | .writeFile _ _ | .removeFile _ | .sleep => Unit

/-- What the environment contributes to a step. -/
structure Input where
  message : Option ProtocolMessage := none
  delivered : Bool := true
  exists_ : Bool := true

/-- One step, over the state of the backend. -/
def perform (B : ReferenceBackend) (input : Input) (s : B.State) :
    (a : Action) → Option (a.Res × B.State)
  | .send _ => some (input.delivered, s)
  | .recv => some (input.message, s)
  | .discover ordinal => some (B.discover ordinal s)
  | .prepare modelBytes workspaceBytes kvEntries =>
    some (B.prepare modelBytes workspaceBytes kvEntries s)
  | .bindKernel kernelKey => some (B.bindKernel kernelKey s)
  | .instantiateGraph required => some (B.instantiateGraph required s)
  | .warmup batch seqLen => some (B.warmup batch seqLen s)
  | .execute input => some (B.execute input s)
  | .verifyParity actual cpuReference => some (B.verifyParity actual cpuReference s)
  | .release => some ((), B.release s)
  | .fileExists _ => some (input.exists_, s)
  | .writeFile _ _ | .removeFile _ | .sleep => some ((), s)

abbrev Program := Prog Action Action.Res

def send (m : ProtocolMessage) : Program Bool := Prog.perform (Action.send m)

def recv : Program (Option ProtocolMessage) := Prog.perform Action.recv

def execute (input : ComputeInput) : Program ComputeResult := Prog.perform (Action.execute input)

def verifyParity (actual cpuReference : ComputeResult) : Program Bool :=
  Prog.perform (Action.verifyParity actual cpuReference)

def release : Program Unit := Prog.perform Action.release

def fileExists (path : Str) : Program Bool := Prog.perform (Action.fileExists path)

def writeFile (path text : Str) : Program Unit := Prog.perform (Action.writeFile path text)

/-- Write a file, if one is asked for. -/
def mark (asked path text : Str) : Program Unit :=
  if asked = [] then pure () else writeFile path text

/-! ## Messages -/

/-- A message of a worker; it never names an authority. -/
def workerMessage (type : MessageType) (epoch : UInt32) (fields : List (String × Str)) :
    ProtocolMessage :=
  { type := type, epoch := epoch, payload := makePayload (fieldsOf fields) }

def sendMsg (type : MessageType) (epoch : UInt32) (fields : List (String × Str)) : Program Bool :=
  send (workerMessage type epoch fields)

/-- The epoch and the message that were received last. -/
structure Heard where
  epoch : UInt32 := 0
  message : ProtocolMessage := {}

def Heard.take (h : Heard) : Option ProtocolMessage → Heard
  | some m => ⟨m.epoch, m⟩
  | none => h

/-- Send a request and wait for its answer, whether the request was sent or not. -/
def request (type : MessageType) (h : Heard) (fields : List (String × Str)) : Program Heard := do
  let _ ← sendMsg type h.epoch fields
  return h.take (← recv)

def enumNumber {E : Type} [DecidableEq E] [CEnum E] (e : E) : Str := decimal (CEnum.raw e).toNat

/-- Publish one component. Its answer is not looked at, but for the epoch. -/
def pub (incId : UInt64) (h : Heard) (category : ComponentCategory) (state : ComponentState)
    (subject detail : Str) (extra : List (String × Str)) : Program Heard := do
  let answered ← request .publishComponent h
    ([("category", enumNumber category), ("state", enumNumber state), ("subject", subject),
      ("detail", detail), ("incarnation_id", decimal incId.toNat)] ++ extra)
  return { h with epoch := answered.epoch }

def measured : String × Str := ("provenance", enumNumber Provenance.measured)

/-! ## Commands -/

/-- The input of a computation. The numbers are small enough for a float. -/
def inputOf (count : Nat) (element : Nat → UInt32) : List Float32 :=
  (List.range count).map fun j => Float32.ofNat (element j).toNat

/-- The input of an EXECUTE command. -/
def commandInput (seed : UInt64) (batch seqLen : UInt32) : ComputeInput :=
  { batch := batch
    seqLen := seqLen
    seed := seed
    input := inputOf (batch * seqLen).toNat fun j => (UInt32.ofNat j + (seed % 11).toUInt32) % 11 }

/-- Execute and compare several times. -/
def holdExecution (input : ComputeInput) (cpu : ComputeResult) : Nat → Bool → Program Bool
  | 0, parity => return parity
  | n + 1, parity => do
    let result ← execute input
    let same ← verifyParity result cpu
    holdExecution input cpu n (parity && same)

/-- Wait for a file, for a bounded time, and remove it. -/
def awaitBarrier (path : Str) : Nat → Program Unit
  | 0 => Prog.perform (Action.removeFile path)
  | n + 1 => do
    if ← fileExists path then Prog.perform (Action.removeFile path)
    else
      Prog.perform Action.sleep
      awaitBarrier path n

/-- Wait for a file, if one is named. -/
def holdBarrier (path : Str) : Program Unit :=
  if path = [] then pure () else awaitBarrier path 600

def parityText (parity : Bool) : Str := if parity then lit "ok" else lit "mismatch"

def flag (b : Bool) : Str := if b then lit "1" else lit "0"

/-- Carry out an EXECUTE command; the parity of its first execution is returned. -/
def runExecute (incId : UInt64) (epoch : UInt32) (f : Fields) : Program Bool := do
  let cmdId := u f "cmd_id" 0
  let seed := u f "seed" 42
  let input := commandInput seed (u f "batch" 1).toUInt32 (u f "seq_len" 16).toUInt32
  let cpu : ComputeResult := { ok := true, output := cpuReferenceCompute input, seed := seed }
  mark (get f "marker" "") (get f "marker" "" ++ lit ".executing")
    (lit "incarnation=" ++ decimal incId.toNat)
  let result ← execute input
  let first ← verifyParity result cpu
  let parity ← holdExecution input cpu (u f "hold_iters" 0).toNat first
  holdBarrier (get f "hold_barrier" "")
  let _ ← sendMsg .executionResult epoch
    [("cmd_id", decimal cmdId.toNat), ("ok", flag parity), ("parity", parityText parity),
     ("detail", result.detail), ("seed", decimal seed.toNat)]
  return first

/-- Carry out a DRAIN command: the backend is released before the answer. -/
def runDrain (epoch : UInt32) (f : Fields) : Program Unit := do
  release
  mark (get f "marker" "") (get f "marker" "") (lit "cleanup done")
  let _ ← sendMsg .drainResult epoch
    [("cmd_id", decimal (u f "cmd_id" 0).toNat), ("ok", lit "1"),
     ("detail", lit "backend cleanup complete")]

/-- What a worker that takes commands keeps between two of them. -/
structure Commands where
  incId : UInt64
  epoch : UInt32
  outcome : Str
  activation : Str
  lastParity : Str := lit "NA"

inductive Loop where
  | start
  | commands (c : Commands)
  /-- The process is kept alive, with all that its backend holds. -/
  | alive

/-- Release the backend, unless that has been done. -/
def releaseUnless (drained : Bool) : Program Unit := if drained then pure () else release

/-- The end of a worker that takes commands. -/
def finish (o : Options) (c : Commands) (drained : Bool) : Program (Option Loop) := do
  releaseUnless drained
  mark o.resultFile o.resultFile
    (lit "worker=" ++ decimal o.workerId.toNat ++ lit " incarnation=" ++ decimal c.incId.toNat ++
      lit " readiness=" ++ c.outcome ++ lit " activation=" ++ c.activation ++
      lit " command=1 parity=" ++ c.lastParity ++ lit " drained=" ++ flag drained ++ lit "\n")
  return none

/-- One command. -/
def takeCommand (o : Options) (c : Commands) : Program (Option Loop) := do
  match ← recv with
  | none => finish o c false
  | some m =>
    let c := { c with epoch := m.epoch }
    let f := parsePayload m.payload
    match m.type with
    | .execute =>
      let parity ← runExecute c.incId c.epoch f
      return some (.commands
        { c with lastParity := if parity then lit "OK" else lit "MISMATCH" })
    | .drain =>
      runDrain c.epoch f
      finish o c true
    | .shutdown => finish o c false
    | _ =>
      let _ ← sendMsg .error c.epoch [("msg", lit "unhandled command")]
      return some (.commands c)

/-! ## Requests of its own -/

/-- Serve requests. The answer to EXECUTION_RESULT is not waited for: what is received after
RELEASE_USE is the answer to the message before. -/
def serveRequests (o : Options) : Nat → Nat → Heard → Program Heard
  | 0, _, h => return h
  | n + 1, i, h => do
    let seed : UInt64 := 1000 + o.workerId * 7 + UInt64.ofNat i
    let input : ComputeInput :=
      { batch := 1, seqLen := 16, seed := seed
        input := inputOf 16 fun j => UInt32.ofNat ((j + i) % 11) }
    let cpu : ComputeResult := { ok := true, output := cpuReferenceCompute input, seed := seed }
    let h ← request .acquireUse h
      [("execution_id", lit "1"), ("workload_id", decimal o.workerId.toNat),
       ("caller", lit "worker")]
    let useId := u (parsePayload h.message.payload) "use_id" 0
    let result ← execute input
    let parity ← verifyParity result cpu
    let _ ← sendMsg .executionResult h.epoch
      [("use_id", decimal useId.toNat), ("ok", flag parity), ("parity", parityText parity),
       ("detail", result.detail)]
    let h ← request .releaseUse h [("use_id", decimal useId.toNat)]
    serveRequests o n (i + 1) h

/-! ## The process -/

/-- Publish what the worker has before it prepares. -/
def publishComponents (incId : UInt64) (disc : BackendDiscovery) (h : Heard) : Program Heard := do
  let h ← pub incId h .backend .verified (lit "backend-reference") disc.backendName [measured]
  let h ← pub incId h .deviceContext .bound (lit "device-context-0") disc.deviceName [measured]
  let h ← pub incId h .model .verified (lit "reference-model") (lit "model bound and verified")
    [("model_gen", lit "1"), ("compat", lit "ref/v1"), ("size_bytes", decimal 1048576), measured]
  let h ← pub incId h .kvCapacity .bound (lit "kv-main") (lit "1024 kv entries provisioned")
    [("kv_gen", lit "1"), ("size_bytes", lit "1024"), measured]
  let h ← pub incId h .kernel .verified (lit "er-reference-kernel")
    (lit "kernel bound and verified") [("kernel_gen", lit "1"), ("compat", lit "ref/v1"), measured]
  pub incId h .graph .verified (lit "er-reference-graph")
    (lit "graph instantiated and replayed") [("graph_gen", lit "1"), measured]

/-- Prepare the backend, and publish that it has warmed up. -/
def prepareBackend (incId : UInt64) (h : Heard) : Program Heard := do
  let h ← request .prepare h []
  let _ ← Prog.perform (Action.prepare 1048576 65536 1024)
  let _ ← Prog.perform (Action.bindKernel (lit "er-reference-kernel"))
  let _ ← Prog.perform (Action.instantiateGraph true)
  let warm ← Prog.perform (Action.warmup 1 16)
  pub incId h .warmup .verified (lit "warmup") (lit "warmup verified")
    [("elapsed_ns", decimal warm.elapsedNs.toNat), measured]

/-- Activate a worker that is ready. -/
def tryActivate (o : Options) (outcome : Str) (rgen : UInt64) (h : Heard) :
    Program (Heard × Str) := do
  if (outcome = lit "READY" ∨ outcome = lit "DEGRADED") ∧ o.noActivate = false then
    let h ← request .activate h
      [("readiness_gen", decimal rgen.toNat), ("slot_id", decimal o.slot.toNat),
       ("caller", lit "worker")]
    let f := parsePayload h.message.payload
    return (h, if h.message.type = .error then lit "REJECTED:" ++ get f "msg" "?"
      else get f "state" "REJECTED")
  else return (h, lit "UNKNOWN")

/-- Take commands, once the coordinator has heard that the worker is ready for them. -/
def awaitCommands (o : Options) (c : Commands) (h : Heard) : Program (Option Loop) := do
  let h ← request .commandReady h []
  if h.message.type = .error then return none
  else
    mark o.readyMarker o.readyMarker
      (lit "worker=" ++ decimal o.workerId.toNat ++ lit " incarnation=" ++
        decimal c.incId.toNat ++ lit " activation=" ++ c.activation)
    return some (.commands { c with epoch := h.epoch })

/-- The end of a worker that serves requests of its own. -/
def serveAll (o : Options) (c : Commands) (query : Str) (h : Heard) : Program (Option Loop) := do
  let _ ← serveRequests o o.serve 0 h
  mark o.resultFile o.resultFile
    (lit "worker=" ++ decimal o.workerId.toNat ++ lit " incarnation=" ++ decimal c.incId.toNat ++
      lit " readiness=" ++ c.outcome ++ lit " activation=" ++ c.activation ++
      lit " parity=" ++ (if o.serve > 0 then lit "OK" else lit "NA") ++ lit " detail=|" ++
      query ++ lit "|\n")
  if o.stayAlive then return some .alive
  else
    release
    return none

/-- The registered worker, up to its commands or its own requests. -/
def runRegistered (o : Options) (h : Heard) : Program (Option Loop) := do
  let reg := parsePayload h.message.payload
  let incId := u reg "incarnation_id" 0
  let disc ← Prog.perform (Action.discover 0)
  let h ← publishComponents incId disc h
  let h ← prepareBackend incId h
  let h ← request .queryReadiness h []
  let outcome := get (parsePayload h.message.payload) "outcome" "UNKNOWN"
  let query := h.message.payload
  let (h, activation) ← tryActivate o outcome (u reg "readiness_gen" 1) h
  let c : Commands := { incId, epoch := h.epoch, outcome, activation }
  if o.commandMode then awaitCommands o c h else serveAll o c query h

/-- The process, once it is connected. -/
def start (o : Options) : Program (Option Loop) := do
  if !(← sendMsg .hello 0 [("label", o.label)]) then return none
  else
    match ← recv with
    | none => return none
    | some m =>
      let registering ← sendMsg .register m.epoch
        [("worker_id", decimal o.workerId.toNat), ("worker_boot", decimal o.boot.toNat),
         ("source_id", lit "1"), ("source_boot", decimal o.boot.toNat),
         ("pid", decimal o.pid.toNat), ("label", o.label)]
      if !registering then return none
      else
        match ← recv with
        | none => return none
        | some m => if m.type = .error then return none else runRegistered o ⟨m.epoch, m⟩

def code (o : Options) : Loop → Program (Option Loop)
  | .start => start o
  | .commands c => takeCommand o c
  | .alive => do
    Prog.perform Action.sleep
    return some .alive

/-- A worker with its backend. -/
def worker (B : ReferenceBackend) (o : Options) : System B.State Input Action Action.Res Loop where
  perform := perform B
  start := .start
  code := code o

end EngineResidency.Worker
