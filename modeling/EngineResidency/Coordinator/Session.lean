-- SUMMARY: The sessions, the routers and the startup of the coordinator as programs.
import EngineResidency.Coordinator.Thread

/-!
# Sessions

Every connection has a thread that runs `runSession`: it receives a message and runs
the handler for it, over and over. A worker that has signalled COMMAND_READY turns
its thread into the dispatcher of its router. The actions of a handler stand in the
order of the source.

The replies of the runtime have the shape of the operation that was called; the
alternatives of the patterns below are never taken.
-/

namespace EngineResidency.Coordinator

open EngineResidency.Runtime

/-! ## Startup -/

def referenceEngine : EngineDefinition where
  engineId := ⟨1⟩
  engineGeneration := ⟨1⟩
  configGeneration := ⟨1⟩
  name := lit "reference-engine"
  role := .generalInference
  backendId := ⟨1⟩
  backendGeneration := ⟨1⟩
  modelId := ⟨1⟩
  modelGeneration := ⟨1⟩
  modelName := lit "reference-model"
  modelBytes := 1048576
  workspaceBytes := 65536
  kvCapacityEntries := 1024
  kernelKey := lit "er-reference-kernel"
  kernelGeneration := ⟨1⟩
  kernelRequired := true
  graphRequired := true
  graphOptionalFallback := false
  graphGeneration := ⟨1⟩
  compatibility := .withNamespace (lit "ref/v1")
  standbyEligible := true
  standbyTarget := 1
  maxConcurrency := 8
  warmupRequired := true

def referenceRequirements : List ProfileRequirement :=
  [{ category := .backend, kind := .required, minState := .verified
     description := lit "backend verified" },
   { category := .deviceContext, kind := .required, minState := .bound
     description := lit "device context bound" },
   { category := .model, kind := .required, minState := .verified
     subject := lit "reference-model", generationFamily := .model
     compatibility := .withNamespace (lit "ref/v1")
     description := lit "model bound+verified" },
   { category := .kvCapacity, kind := .required, minState := .bound
     subject := lit "kv-main", generationFamily := .kvCapacity
     description := lit "kv capacity provisioned" },
   { category := .kernel, kind := .required, minState := .verified
     subject := lit "er-reference-kernel", generationFamily := .kernel
     compatibility := .withNamespace (lit "ref/v1")
     description := lit "kernel bound+verified" },
   { category := .graph, kind := .required, minState := .verified
     subject := lit "er-reference-graph", generationFamily := .graph
     description := lit "graph instantiated+verified" },
   { category := .warmup, kind := .required, minState := .verified
     subject := lit "warmup"
     description := lit "warmup verified" }]

def referenceProfile : ReadinessProfile where
  profileId := ⟨1⟩
  profileGeneration := ⟨1⟩
  engineId := ⟨1⟩
  engineGeneration := ⟨1⟩
  name := lit "reference-bs1"
  role := .generalInference
  maxBatch := 1
  maxSeqLen := 4096
  dtype := lit "fp32"
  layout := lit "row-major"
  workspaceBytes := 65536
  modelBytes := 1048576
  kvCapacityEntries := 1024
  graphRequired := true
  graphOptionalFallback := false
  warmupRequired := true
  compatibility := .withNamespace (lit "ref/v1")
  requirements := referenceRequirements

def seedReferenceEngine : List Op := [.defineEngine referenceEngine, .defineProfile referenceProfile]

/-- The runtime when the coordinator starts to listen: seeded, and recovered from
`state` when there is such a file. A refused recovery leaves the seeded runtime. -/
def startup (state : Option Str) : Impl :=
  let s := machine.exec (Impl.new {}) seedReferenceEngine
  match state with
  | none => s
  | some blob =>
    match machine.result s (.load blob) with
    | .ok _ => machine.exec s [.load blob, .advanceEpoch]
    | .error _ => machine.next s (.load blob)

/-! ## Routers -/

/-- The queue takes a command when the router is ready, alive and has room. -/
def accepts (r : WorkerRouter) : Bool := r.ready && r.alive && r.queue.length < kMaxQueue

def failedReply (detail : String) : CommandReply :=
  { ok := false, detail := lit detail, fields := fieldsOf [("msg", lit detail)] }

/-- Queue a command, or set its promise at once. -/
def enqueueCommand (rid : Nat) (cmd : WorkerCommand) (g : Registry) : Registry :=
  let cmd := { cmd with ticket := g.nextTicket }
  let g := { g with nextTicket := g.nextTicket + 1 }
  if (g.routers.lookup rid).any accepts then
    g.modifyRouter rid fun r => { r with queue := r.queue ++ [cmd] }
  else g.fulfil cmd.ticket (failedReply "router not ready or pending command queue full")

def enqueue (rid : Nat) (cmd : WorkerCommand) : Thread Nat := do
  let g ← locked (enqueueCommand rid cmd)
  return g.nextTicket

def fulfil (ticket : Nat) (rep : CommandReply) : Thread Unit := do
  let _ ← locked (Registry.fulfil ticket rep)

/-- Set the promises of all commands in a queue. -/
def fulfilAll (rep : CommandReply) : List WorkerCommand → Thread Unit
  | [] => return ()
  | cmd :: cmds => do
    fulfil cmd.ticket rep
    fulfilAll rep cmds

def queueOf (rid : Nat) (g : Registry) : List WorkerCommand :=
  match g.routers.lookup rid with
  | some r => r.queue
  | none => []

/-- Mark a router dead and fail every pending command. -/
def fail (rid : Nat) (reason : String) : Thread Unit := do
  let _ ← locked (Registry.modifyRouter rid fun r => { r with alive := false })
  let g ← locked (Registry.modifyRouter rid fun r => { r with queue := [] })
  fulfilAll (failedReply ("worker failed: " ++ reason)) (queueOf rid g)
  let _ ← locked (Registry.modifyRouter rid fun r => { r with open_ := false })

/-- Why a command does not belong to the current cycle, if it does not. -/
def checkCycle (epoch authority : UInt32) : Thread (Option Str) := do
  if epoch ≠ 0 then
    let current ← currentEpoch
    if epoch.toUInt64 ≠ current.raw then
      return some (lit "stale epoch: " ++ decimal epoch.toNat)
  if authority ≠ 0 then
    let current ← currentAuthority
    if authority.toUInt64 ≠ current.raw then
      return some (lit "stale authority: " ++ decimal authority.toNat)
  return none

/-- A domain error as a value; every other exception ends the process. -/
def caught {A : Type} (body : Body A) (fallback : A) : Thread (A × Option Str) := do
  match ← body.run with
  | .ok a => return (a, none)
  | .error (.domain e) => return (fallback, some (lit e.message))
  | .error .outOfRange =>
    abort
    return (fallback, none)

/-- The use that a routed execution wants. -/
def routedToken (r : WorkerRouter) (params : Fields) : ServingUseToken :=
  { incarnationId := r.incarnation
    incarnationGeneration := ⟨1⟩
    engineId := r.engineId
    engineGeneration := ⟨1⟩
    profileId := ⟨1⟩
    readinessGeneration := ⟨u params "readiness_gen" 1⟩
    activationGeneration := ⟨u params "activation_gen" 1⟩
    executionId := ⟨u params "execution_id" 1⟩
    workloadId := ⟨u params "workload_id" 1⟩ }

def acquireUseFor (r : WorkerRouter) (params : Fields) : Thread (ServingUseId × Option Str) :=
  caught (do
    let .token got ← call (.acquireServingUse (routedToken r params)) | return {}
    return got.useId) {}

/-- A release that fails is ignored: the use may be closed already. -/
def releaseUseFor (r : WorkerRouter) (useId : ServingUseId) (outcome : WorkOutcome)
    (detail : String) : Thread Unit := do
  let _ ← (call (.releaseServingUse
    { useId := useId, incarnationId := r.incarnation, incarnationGeneration := ⟨1⟩ }
    outcome (lit detail))).run

/-- The frame that forwards a command to its worker. -/
def forwarded (cmd : WorkerCommand) (fields : List (String × Str)) : ProtocolMessage :=
  { message cmd.type ([("cmd_id", decimal cmd.commandId.toNat)] ++ fields) with
    epoch := cmd.epoch
    authority := cmd.authority }

/-- The reply for a worker's answer. -/
def answeredReply (ok : Bool) (fields : Fields) (detail : Str) : CommandReply :=
  { ok := ok
    detail := detail
    fields := if !ok && (fields.lookup (lit "msg")).isNone then fields.insert (lit "msg") detail
      else fields }

def textReply (detail : Str) : CommandReply :=
  { ok := false, detail := detail, fields := fieldsOf [("msg", detail)] }

def processExecute (rid : Nat) (r : WorkerRouter) (cmd : WorkerCommand) : Thread Unit := do
  let mut fenced ← incarnationIsFenced r.incarnation
  if !fenced then
    fenced := (← drainState r.incarnation).admissionFenced
  if fenced then
    fulfil cmd.ticket (failedReply "incarnation fenced/drained")
  else
    match ← acquireUseFor r cmd.params with
    | (_, some err) => fulfil cmd.ticket (textReply err)
    | (useId, none) =>
      let sent ← send (forwarded cmd
        [("seed", get cmd.params "seed" "42"), ("batch", get cmd.params "batch" "1"),
         ("seq_len", get cmd.params "seq_len" "16"),
         ("hold_iters", get cmd.params "hold_iters" "0"),
         ("marker", get cmd.params "marker" ""),
         ("hold_barrier", get cmd.params "hold_barrier" "")])
      if !sent then
        releaseUseFor r useId .failed "worker disconnected during execute"
        fail rid "worker disconnected during execute"
        fulfil cmd.ticket (failedReply "worker disconnected during execute")
      else
        match ← recv with
        | none =>
          releaseUseFor r useId .failed "worker read failed during execute"
          fail rid "worker read failed during execute"
          fulfil cmd.ticket (failedReply "worker read failed during execute")
        | some resp =>
          let comp : Bool := resp.type ≠ .error
          releaseUseFor r useId (if comp then .completed else .failed)
            (if comp then "execute completed" else "worker reported failure")
          let fields := parsePayload resp.payload
          fulfil cmd.ticket (answeredReply comp fields (get fields "detail" "execute result"))

def processDrain (rid : Nat) (r : WorkerRouter) (cmd : WorkerCommand) : Thread Unit := do
  let sent ← send (forwarded cmd [("marker", get cmd.params "marker" "")])
  if !sent then
    fail rid "worker disconnected during drain"
    fulfil cmd.ticket (failedReply "worker disconnected during drain")
  else
    match ← recv with
    | none =>
      fail rid "worker read failed during drain"
      fulfil cmd.ticket (failedReply "worker read failed during drain")
    | some resp =>
      let (_, err) ← caught (call (.acknowledgeBackendCleanup r.incarnation)) .done
      let st ← drainState r.incarnation
      let fields := (parsePayload resp.payload).insert (lit "drain_phase") (lit st.phase.toString)
      fulfil cmd.ticket (answeredReply (resp.type ≠ .error && err.isNone) fields
        (err.getD (get fields "detail" "drain complete")))

/-- Carry out one command. The cycle is checked again when its turn comes. -/
def process (rid : Nat) (r : WorkerRouter) (cmd : WorkerCommand) : Thread Unit := do
  match ← checkCycle cmd.epoch cmd.authority with
  | some err => fulfil cmd.ticket (textReply err)
  | none =>
    match cmd.type with
    | .execute => processExecute rid r cmd
    | .drain => processDrain rid r cmd
    | _ => fulfil cmd.ticket (failedReply "unsupported routed command")

/-! ## Routing -/

/-- Answer a controller that has sent a command. -/
def replyToController (rep : CommandReply) (cmdId : UInt64) (epoch authority : UInt32) :
    Thread Unit := do
  let fields := rep.fields.insert (lit "cmd_id") (decimal cmdId.toNat)
  let fields := if !rep.ok && (fields.lookup (lit "msg")).isNone
    then fields.insert (lit "msg") rep.detail else fields
  let fields := if (fields.lookup (lit "detail")).isNone
    then fields.insert (lit "detail") rep.detail else fields
  let _ ← send
    { type := if rep.ok then .registerAck else .error
      epoch := epoch
      authority := authority
      payload := makePayload fields }

/-- The router bound to an incarnation, or why there is none that takes commands. -/
def findRouter (target : EngineIncarnationId) (targetBoot : UInt64) :
    Thread (Except String Nat) := do
  let g ← locked id
  match (g.workerRouter.lookup target).bind fun rid => (g.routers.lookup rid).map (rid, ·) with
  | none => return .error "no worker bound to target incarnation"
  | some (rid, r) =>
    if targetBoot ≠ 0 ∧ r.workerBoot.raw ≠ targetBoot then
      return .error "worker boot binding mismatch"
    let g ← locked id
    if (g.routers.lookup rid).any (·.ready) then return .ok rid
    else return .error "worker is not command-ready"

/-- Wait for the reply to a queued command and pass it on. -/
def awaitReply (rid : Nat) (cmd : WorkerCommand) (timeout : String) : Thread Unit := do
  let ticket ← enqueue rid cmd
  match ← await ticket with
  | none =>
    replyToController { ok := false, detail := lit timeout } cmd.commandId cmd.epoch cmd.authority
  | some rep => replyToController rep cmd.commandId cmd.epoch cmd.authority

/-- The command that a message asks to be routed. -/
def routedCommand (type : MessageType) (msg : ProtocolMessage) (f : Fields) : WorkerCommand :=
  { type := type
    commandId := u f "cmd_id" 0
    epoch := msg.epoch
    authority := msg.authority
    params := f }

def routeExecute (msg : ProtocolMessage) (f : Fields) (target : EngineIncarnationId)
    (targetBoot : UInt64) : Thread Unit := do
  let cmd := routedCommand .execute msg f
  match ← findRouter target targetBoot with
  | .error why => replyToController (failedReply why) cmd.commandId cmd.epoch cmd.authority
  | .ok rid => awaitReply rid cmd "execute timed out awaiting worker"

/-- A routed drain is requested before the worker hears of it. -/
def requestRoutedDrain (target : EngineIncarnationId) : Body Unit := do
  if ← incarnationIsFenced target then
    reject .fencedWorker "fenced incarnation"
  let _ ← call (.requestDrain target)

def routeDrain (msg : ProtocolMessage) (f : Fields) (target : EngineIncarnationId)
    (targetBoot : UInt64) : Thread Unit := do
  let cmd := routedCommand .drain msg f
  match ← findRouter target targetBoot with
  | .error why => replyToController (failedReply why) cmd.commandId cmd.epoch cmd.authority
  | .ok rid =>
    match ← caught (requestRoutedDrain target) () with
    | (_, some err) => replyToController (textReply err) cmd.commandId cmd.epoch cmd.authority
    | (_, none) => awaitReply rid cmd "drain timed out awaiting worker"

/-! ## Handlers -/

/-- What a session keeps between two messages. A socket that was handed to a router
is gone, also when the router does not take it. -/
structure SessionLocal where
  sid : UInt64
  incId : EngineIncarnationId := {}
  connected : Bool := true

/-- The incarnation that a message names, or the session's own. -/
def targetOf (f : Fields) (own : EngineIncarnationId) : EngineIncarnationId :=
  if u f "incarnation_id" 0 ≠ 0 then ⟨u f "incarnation_id" 0⟩ else own

/-- Neither fenced nor draining, at two moments. -/
def requireOpen (target : EngineIncarnationId) : Body Unit := do
  if ← incarnationIsFenced target then
    reject .fencedWorker "fenced/drained incarnation"
  if (← drainState target).admissionFenced then
    reject .fencedWorker "fenced/drained incarnation"

def handleHello (msg : ProtocolMessage) : Thread Unit := do
  let epoch ← currentEpoch
  let authority ← currentAuthority
  let _ ← send
    { message .registerAck
        [("ok", lit "true"), ("epoch", decimal epoch.raw.toNat),
         ("authority", decimal authority.raw.toNat)] with
      epoch := msg.epoch
      authority := msg.authority }

def describedWorker (f : Fields) : WorkerDescription :=
  { workerId := ⟨u f "worker_id" 1⟩
    workerBoot := ⟨u f "worker_boot" 1⟩
    sourceId := ⟨u f "source_id" 1⟩
    sourceBoot := ⟨u f "source_boot" 1⟩
    pid := (u f "pid" 0).toUInt32
    label := get f "label" "worker" }

/-- Bind a session to its incarnation and give it a router. -/
def bindSession (sid : UInt64) (inc : EngineIncarnation) (g : Registry) : Registry :=
  { g with
    nextRouter := g.nextRouter + 1
    routers := g.routers.insert g.nextRouter
      { sessionId := sid
        workerId := inc.workerId
        workerBoot := inc.workerBoot
        incarnation := inc.incarnationId
        engineId := inc.engineId }
    sessionInc := g.sessionInc.insert sid inc.incarnationId
    workerRouter := g.workerRouter.insert inc.incarnationId g.nextRouter }

def handleRegister (l : SessionLocal) (f : Fields) : Thread EngineIncarnationId :=
  attempt l.incId do
    let worker := describedWorker f
    let .permit permit ← call (.issueRegistrationPermit worker.workerId worker.workerBoot)
      | return l.incId
    let .incarnation registered ← call (.registerIncarnation worker permit) | return l.incId
    let _ ← locked (bindSession l.sid registered)
    let epoch ← currentEpoch
    let authority ← currentAuthority
    let _ ← send (message .registerAck
      [("ok", lit "true"), ("incarnation_id", decimal registered.incarnationId.raw.toNat),
       ("incarnation_generation", decimal registered.incarnationGeneration.raw.toNat),
       ("readiness_gen", decimal registered.readinessGeneration.raw.toNat),
       ("epoch", decimal epoch.raw.toNat), ("authority", decimal authority.raw.toNat)])
    return registered.incarnationId

/-- The cast of a number from the wire to an enumeration: first to `int`, then to the
enumeration, with no check. -/
def castEnum {E : Type} [DecidableEq E] [CEnum E] (v : UInt64) : E := CEnum.ofRaw v.toUInt32

/-- The evidence that a PUBLISH_COMPONENT message describes. -/
def describedEvidence (f : Fields) (target : EngineIncarnationId) (epoch : CoordinatorEpoch) :
    ComponentEvidence :=
  { incarnationId := target
    engineId := ⟨1⟩
    engineGeneration := ⟨1⟩
    category := castEnum (u f "category" 0)
    state := castEnum (u f "state" 0)
    subject := get f "subject" ""
    namespace_ := get f "ns" "er"
    provenance := castEnum (u f "provenance" 0)
    detail := get f "detail" ""
    modelGeneration := ⟨u f "model_gen" 1⟩
    kvCapacityGeneration := ⟨u f "kv_gen" 1⟩
    kernelGeneration := ⟨u f "kernel_gen" 1⟩
    graphGeneration := ⟨u f "graph_gen" 1⟩
    compatibility := .withNamespace (get f "compat" "ref/v1")
    sizeBytes := u f "size_bytes" 0
    elapsedNs := u f "elapsed_ns" 0
    coordinatorEpoch := epoch }

/-- `session_inc[sid]` of the source: an entry that is missing is created first. -/
def touchSession (sid : UInt64) (g : Registry) : Registry :=
  if (g.sessionInc.lookup sid).isSome then g
  else { g with sessionInc := g.sessionInc.insert sid {} }

def handlePublishComponent (l : SessionLocal) (f : Fields) : Thread Unit :=
  attempt () do
    let g ← locked (touchSession l.sid)
    let target := targetOf f ((g.sessionInc.lookup l.sid).getD {})
    requireOpen target
    let epoch ← currentEpoch
    let .evidence pub ← call (.publishComponent (describedEvidence f target epoch)) | return ()
    let _ ← send (message .prepareResult
      [("ok", lit "true"), ("evidence_id", decimal pub.evidenceId.raw.toNat)])

/-- Step an attempt several times. -/
def stepAttempt : Nat → PreparationAttempt → Body PreparationAttempt
  | 0, a => return a
  | n + 1, a => do
    let .attempt a ← call (.stepPreparation a.attemptId) | return a
    stepAttempt n a

def handlePrepare (l : SessionLocal) : Thread Unit :=
  attempt () do
    let .plan plan ← call (.createPreparationPlan l.incId ⟨1⟩ .warm) | return ()
    let .attempt a ← call (.beginPreparation plan) | return ()
    let a ← stepAttempt (plan.steps.length + 1) a
    let .attempt done ← call (.completePreparation a.attemptId) | return ()
    let _ ← send (message .prepareResult
      [("ok", lit "true"), ("preparation", lit done.state.toString)])

/-- Texts separated by commas, as long as the text so far is not empty. -/
def joined (texts : List Str) : Str :=
  texts.foldl (fun x m => (if x.isEmpty then x else x ++ lit ",") ++ m) []

def handleQueryReadiness (l : SessionLocal) (f : Fields) : Thread Unit :=
  attempt () do
    let target := targetOf f l.incId
    requireOpen target
    let rr ← evaluateReadiness target ⟨1⟩
    let _ ← send (message .prepareResult
      [("outcome", lit rr.outcome.toString), ("missing", joined (rr.missing ++ rr.incompatible))])

def handleActivate (l : SessionLocal) (f : Fields) : Thread Unit :=
  attempt () do
    let target := targetOf f l.incId
    requireOpen target
    let rgen := u f "readiness_gen" 0
    let gen ← if rgen ≠ 0 then pure ⟨rgen⟩ else currentReadinessGeneration target
    let authority ← currentAuthority
    let .activation rec ← call (.activate
        { incarnationId := target
          incarnationGeneration := ⟨1⟩
          engineId := ⟨1⟩
          engineGeneration := ⟨1⟩
          profileId := ⟨1⟩
          profileGeneration := ⟨1⟩
          readinessGeneration := gen
          standbyGeneration := ⟨1⟩
          callerAuthority := authority
          slotId := ⟨u f "slot_id" 1⟩
          caller := get f "caller" "controller" })
      | return ()
    let _ ← send (message .registerAck
      [("ok", lit "true"), ("activation_id", decimal rec.activationId.raw.toNat),
       ("state", lit rec.state.toString)])

def handleAcquireUse (l : SessionLocal) (f : Fields) : Thread Unit :=
  attempt () do
    let target := targetOf f l.incId
    requireOpen target
    let .token acquired ← call (.acquireServingUse
        { incarnationId := target
          incarnationGeneration := ⟨1⟩
          engineId := ⟨1⟩
          engineGeneration := ⟨1⟩
          profileId := ⟨1⟩
          readinessGeneration := ⟨u f "readiness_gen" 1⟩
          activationGeneration := ⟨u f "activation_gen" 1⟩
          executionId := ⟨u f "execution_id" 1⟩
          workloadId := ⟨u f "workload_id" 1⟩ })
      | return ()
    let _ ← send (message .registerAck
      [("ok", lit "true"), ("use_id", decimal acquired.useId.raw.toNat)])

def handleReleaseUse (l : SessionLocal) (f : Fields) : Thread Unit :=
  attempt () do
    let target := targetOf f l.incId
    requireOpen target
    let _ ← call (.releaseServingUse
      { useId := ⟨u f "use_id" 0⟩, incarnationId := target, incarnationGeneration := ⟨1⟩ }
      .completed (get f "detail" "released"))
    let _ ← send (message .registerAck [("ok", lit "true")])

/-- A drain that names a target is routed; any other is the session's own. -/
def handleDrain (l : SessionLocal) (msg : ProtocolMessage) (f : Fields) : Thread Unit :=
  if u f "target_incarnation" 0 ≠ 0 then
    routeDrain msg f ⟨u f "target_incarnation" 0⟩ (u f "target_worker_boot" 0)
  else
    attempt () do
      let _ ← call (.requestDrain l.incId)
      let _ ← send (message .drainResult [("ok", lit "true")])

def handleExecute (msg : ProtocolMessage) (f : Fields) : Thread Unit :=
  if u f "target_incarnation" 0 ≠ 0 then
    routeExecute msg f ⟨u f "target_incarnation" 0⟩ (u f "target_worker_boot" 0)
  else do
    let _ ← send (errorMessage ⟨.invalidArgument, "execute requires a target_incarnation"⟩)

def handleReplace (f : Fields) : Thread Unit :=
  attempt () do
    let action := get f "replacement_action" ""
    if action = lit "begin" then
      let epoch ← currentEpoch
      let authority ← currentAuthority
      let .replacement ret ← call (.beginReplacement
          { engineId := ⟨1⟩
            engineGeneration := ⟨1⟩
            oldIncarnation := ⟨u f "old_incarnation" 0⟩
            oldIncarnationGeneration := ⟨1⟩
            candidateIncarnation := ⟨u f "candidate_incarnation" 0⟩
            candidateIncarnationGeneration := ⟨1⟩
            epoch := epoch
            authority := authority
            makeBeforeBreak := u f "make_before_break" 1 ≠ 0 })
        | return ()
      let _ ← send (message .registerAck
        [("ok", lit "true"), ("replacement_id", decimal ret.replacementId.raw.toNat),
         ("phase", lit ret.phase.toString)])
    else if action = lit "commit" then
      let .replacement ret ← call (.commitCutover ⟨u f "replacement_id" 0⟩) | return ()
      let _ ← send (message .registerAck [("ok", lit "true"), ("phase", lit ret.phase.toString)])
    else if action = lit "retire" then
      let .replacement ret ← call (.retireOld ⟨u f "replacement_id" 0⟩) | return ()
      let _ ← send (message .registerAck [("ok", lit "true"), ("phase", lit ret.phase.toString)])
    else
      reject .invalidArgument "unknown replacement_action"

def handleFenceWorker (f : Fields) : Thread Unit :=
  attempt () do
    let _ ← call (.fenceWorker ⟨u f "worker_id" 1⟩ ⟨u f "worker_boot" 1⟩)
    let _ ← send (message .registerAck [("ok", lit "true")])

/-- The file that the blob is written to is not modelled. -/
def handleSave : Thread Unit :=
  attempt () do
    let blob ← serialize
    let _ ← send (message .registerAck [("ok", lit "true"), ("bytes", decimal blob.length)])

def handleExecutionResult (l : SessionLocal) (f : Fields) : Thread Unit :=
  attempt () do
    requireOpen (targetOf f l.incId)
    let _ ← send (message .registerAck [("ok", lit "true")])

def flag (b : Bool) : Str := if b then lit "1" else lit "0"

def handleQueryDrain (l : SessionLocal) (f : Fields) : Thread Unit := do
  let st ← drainState (targetOf f l.incId)
  let total ← activeUseCount
  let _ ← send (message .registerAck
    [("ok", lit "true"), ("drain_phase", lit st.phase.toString),
     ("active_use", decimal st.activeUse.toNat), ("admission_fenced", flag st.admissionFenced),
     ("backend_cleanup_ack", flag st.backendCleanupAck),
     ("total_active_use", signedDecimal total)])

/-! ## Threads -/

/-- Where a thread goes on: it takes a session identity, receives a message, or
dispatches the commands of a router. -/
inductive Loop where
  | start
  | session (l : SessionLocal)
  | dispatch (l : SessionLocal) (rid : Nat)

/-- Forget a session, and its router unless another session has taken its place. -/
def forgetSession (l : SessionLocal) (g : Registry) : Registry :=
  let own := (g.workerRouter.lookup l.incId).bind g.routers.lookup
  { g with
    sessionInc := g.sessionInc.erase l.sid
    workerRouter :=
      if own.any (·.sessionId == l.sid) then g.workerRouter.erase l.incId else g.workerRouter }

def endSession (l : SessionLocal) : Thread (Option Loop) := do
  let _ ← locked (forgetSession l)
  return none

/-- The router of a session's own incarnation. -/
def sessionRouter (sid : UInt64) (g : Registry) : Option (Nat × WorkerRouter) := do
  let inc ← g.sessionInc.lookup sid
  let rid ← g.workerRouter.lookup inc
  let r ← g.routers.lookup rid
  return (rid, r)

/-- A router takes a socket once, while it is alive. -/
def adoptable (r : WorkerRouter) : Bool := !r.open_ && r.alive

def handleCommandReady (l : SessionLocal) : Thread (Option Loop) := do
  let g ← locked id
  match sessionRouter l.sid g with
  | none =>
    let _ ← send (errorMessage ⟨.invalidState, "no worker router for this session"⟩)
    return some (.session l)
  | some (rid, r) =>
    let _ ← send (message .registerAck
      [("ok", lit "true"), ("command_ready", lit "true"),
       ("incarnation_id", decimal r.incarnation.raw.toNat)])
    let g ← locked (Registry.modifyRouter rid fun r =>
      if adoptable r then { r with open_ := true } else r)
    if !(g.routers.lookup rid).any adoptable then
      return some (.session { l with connected := false })
    let g ← locked (Registry.modifyRouter rid fun r =>
      if r.alive then { r with ready := true } else r)
    if (g.routers.lookup rid).any (·.alive) then return some (.dispatch l rid)
    else endSession l

/-- One message. -/
def handle (l : SessionLocal) (msg : ProtocolMessage) : Thread (Option Loop) := do
  let f := parsePayload msg.payload
  match msg.type with
  | .hello => handleHello msg
  | .register =>
    let incId ← handleRegister l f
    return some (.session { l with incId := incId })
  | .publishComponent => handlePublishComponent l f
  | .prepare => handlePrepare l
  | .queryReadiness => handleQueryReadiness l f
  | .activate => handleActivate l f
  | .acquireUse => handleAcquireUse l f
  | .releaseUse => handleReleaseUse l f
  | .drain => handleDrain l msg f
  | .execute => handleExecute msg f
  | .replace => handleReplace f
  | .fenceWorker => handleFenceWorker f
  | .save => handleSave
  | .executionResult => handleExecutionResult l f
  | .commandReady => return ← handleCommandReady l
  | .queryDrain => handleQueryDrain l f
  | .shutdown =>
    let _ ← send (message .registerAck [("ok", lit "true")])
    return ← endSession l
  | _ =>
    let _ ← send (errorMessage ⟨.invalidArgument, "unhandled message"⟩)
  return some (.session l)

/-- Receive one message and handle it, unless it belongs to another epoch. -/
def receive (l : SessionLocal) : Thread (Option Loop) := do
  let received ← if l.connected then recv else pure none
  match received with
  | none => endSession l
  | some msg =>
    if msg.epoch ≠ 0 then
      let epoch ← currentEpoch
      if msg.epoch.toUInt64 ≠ epoch.raw then
        let _ ← send (errorMessage ⟨.staleEpoch, "stale epoch traffic"⟩)
        return some (.session l)
    handle l msg

/-- Whether the dispatcher has something to do: a command, or the end of its router. -/
def mayPop (rid : Nat) (g : Registry) : Bool :=
  match g.routers.lookup rid with
  | some r => !r.queue.isEmpty || !r.alive
  | none => true

def endDispatch (l : SessionLocal) (rid : Nat) : Thread (Option Loop) := do
  fail rid "worker session ended"
  endSession l

/-- Take the next command of a router and carry it out. -/
def dispatchNext (l : SessionLocal) (rid : Nat) : Thread (Option Loop) := do
  let g ← locked id
  if !(g.routers.lookup rid).any (·.alive) then
    endDispatch l rid
  else
    let g ← lockedWhen (mayPop rid) (Registry.modifyRouter rid fun r =>
      { r with queue := r.queue.tail })
    match g.routers.lookup rid with
    | none => endDispatch l rid
    | some r =>
      match r.queue with
      | [] => endDispatch l rid
      | cmd :: _ =>
        process rid r cmd
        return some (.dispatch l rid)

def takeSession (g : Registry) : Registry := { g with nextSession := g.nextSession + 1 }

def runSession : Loop → Thread (Option Loop)
  | .start => do
    let g ← locked takeSession
    return some (.session { sid := g.nextSession })
  | .session l => receive l
  | .dispatch l rid => dispatchNext l rid

/-- The coordinator: any number of threads that run sessions. -/
def coordinator : System SessionShared Input Action Action.Res Loop where
  perform := performAlive
  start := .start
  code := runSession

/-- The coordinator before its first connection. -/
def listening (state : Option Str) : Pool SessionShared Action Action.Res Loop :=
  System.initial { runtime := startup state }

/-! ## A sample schedule -/

def moves (tid n : Nat) : List (Sched Input) := List.replicate n (.move tid {})

/-- A thread receives a message. -/
def receives (tid : Nat) (type : MessageType) (payload : String) : Sched Input :=
  .move tid { message := some { type := type, payload := lit payload } }

/-- The thread 0 registers the boot 3 of the worker 7 and waits for its next message. -/
def sampleRegister : List (Sched Input) :=
  [.spawn] ++ moves 0 2 ++ [receives 0 .register "worker_id=7\nworker_boot=3\n"] ++ moves 0 7

end EngineResidency.Coordinator
