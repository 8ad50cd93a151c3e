-- SUMMARY: What the threads of the coordinator share, and the atomic actions their programs are made of.
import EngineResidency.Base.Pool
import EngineResidency.Coordinator.Message
import EngineResidency.Runtime.Step

/-!
# Threads of the coordinator

The threads of the coordinator share the runtime and a registry of sessions and
routers. A call of the runtime is one atomic action, and so is a critical section of
the registry; between two actions of a thread every other thread may act.

The environment chooses the messages that are received, whether a frame can be
sent, whether a wait times out, and the readings of the clock. The tables of session
owners, of session uses and of boots are written and never read; they are left out.
-/

namespace EngineResidency.Coordinator

open EngineResidency.Runtime

/-! ## Shared state -/

/-- The reply to a routed command. -/
structure CommandReply where
  ok : Bool := false
  detail : Str := []
  fields : Fields := ∅

/-- A command that waits for a worker; `ticket` names the promise of its reply. -/
structure WorkerCommand where
  type : MessageType := .execute
  commandId : UInt64 := 0
  epoch : UInt32 := 0
  authority : UInt32 := 0
  params : Fields := ∅
  ticket : Nat := 0

/-- A router; `open_` says that it has adopted a socket. -/
structure WorkerRouter where
  sessionId : UInt64
  workerId : WorkerId
  workerBoot : WorkerBootId
  incarnation : EngineIncarnationId
  engineId : EngineId
  ready : Bool := false
  alive : Bool := true
  open_ : Bool := false
  queue : List WorkerCommand := []

def kMaxQueue : Nat := 64

/-- What the sessions share besides the runtime. Routers and promises are objects of
their own: the tables hold their names. -/
structure Registry where
  nextSession : UInt64 := 1
  sessionInc : UMap UInt64 EngineIncarnationId := ∅
  workerRouter : UMap EngineIncarnationId Nat := ∅
  routers : UMap Nat WorkerRouter := ∅
  nextRouter : Nat := 0
  replies : UMap Nat CommandReply := ∅
  nextTicket : Nat := 0

namespace Registry

def modifyRouter (rid : Nat) (f : WorkerRouter → WorkerRouter) (g : Registry) : Registry :=
  { g with routers := g.routers.modify rid f }

/-- Set the promise of a command, unless it has been set. -/
def fulfil (ticket : Nat) (rep : CommandReply) (g : Registry) : Registry :=
  if (g.replies.lookup ticket).isSome then g
  else { g with replies := g.replies.insert ticket rep }

end Registry

structure SessionShared where
  runtime : Impl
  registry : Registry := {}
  /-- An exception that no handler catches ends the process. -/
  crashed : Bool := false

/-! ## Actions -/

/-- The queries of the runtime that sessions make. -/
inductive Query where
  | currentEpoch
  | currentAuthority
  | incarnationIsFenced (id : EngineIncarnationId)
  | drainState (id : EngineIncarnationId)
  | currentReadinessGeneration (id : EngineIncarnationId)
  | evaluateReadiness (id : EngineIncarnationId) (profile : ReadinessProfileId)
  | serialize
  | activeUseCount

def Query.Res : Query → Type
  | .currentEpoch => CoordinatorEpoch
  | .currentAuthority => AuthorityGeneration
  | .incarnationIsFenced _ => Bool
  | .drainState _ => DrainState
  | .currentReadinessGeneration _ => Except Err ReadinessGeneration
  | .evaluateReadiness _ _ => Except Err ReadinessResult
  | .serialize => Except Err Str
  | .activeUseCount => Int32

def Query.answer (s : Impl) (now : DurationNs) : (q : Query) → q.Res
  | .currentEpoch => s.authority.epoch
  | .currentAuthority => s.authority.authority
  | .incarnationIsFenced id => Runtime.incarnationIsFenced s id
  | .drainState id => Runtime.drainState s id
  | .currentReadinessGeneration id => Runtime.currentReadinessGeneration s id
  | .evaluateReadiness id profile => Runtime.evaluateReadiness s id profile now
  | .serialize => Runtime.serialize s
  | .activeUseCount => s.activeUseCount.toUInt32.toInt32

/-- What a REGISTER message says about a worker. -/
structure WorkerDescription where
  workerId : WorkerId
  workerBoot : WorkerBootId
  sourceId : SourceId
  sourceBoot : SourceBootId
  pid : UInt32
  label : Str

/-- The record that a session registers for a worker. -/
def WorkerDescription.incarnation (d : WorkerDescription) : EngineIncarnation :=
  { engineId := ⟨1⟩
    engineGeneration := ⟨1⟩
    configGeneration := ⟨1⟩
    workerId := d.workerId
    workerBoot := d.workerBoot
    sourceId := d.sourceId
    sourceBoot := d.sourceBoot
    process := { pid := d.pid, label := d.label }
    backendId := ⟨1⟩
    backendGeneration := ⟨1⟩ }

/-- The operations of the runtime that sessions and routers call. None of them recovers
a state, changes the epoch, revalidates an incarnation or declares it running. -/
inductive Call where
  | issueRegistrationPermit (w : WorkerId) (b : WorkerBootId)
  | registerIncarnation (worker : WorkerDescription) (permit : RegistrationPermit)
  | publishComponent (ev : ComponentEvidence)
  | createPreparationPlan (incId : EngineIncarnationId) (profId : ReadinessProfileId)
      (target : DesiredResidency)
  | beginPreparation (plan : PreparationPlan)
  | stepPreparation (attemptId : PreparationAttemptId)
  | completePreparation (attemptId : PreparationAttemptId)
  | activate (req : ActivationRequest)
  | acquireServingUse (wanted : ServingUseToken)
  | releaseServingUse (token : ServingUseToken) (outcome : WorkOutcome) (detail : Str)
  | requestDrain (id : EngineIncarnationId)
  | acknowledgeBackendCleanup (id : EngineIncarnationId)
  | beginReplacement (plan : ReplacementPlan)
  | commitCutover (rid : ReplacementId)
  | retireOld (rid : ReplacementId)
  | fenceWorker (w : WorkerId) (b : WorkerBootId)

/-- A call with the readings of the clock that it takes. -/
def Call.op (now admittedAt : DurationNs) : Call → Op
  | .issueRegistrationPermit w b => .issueRegistrationPermit w b
  | .registerIncarnation worker permit => .registerIncarnation worker.incarnation permit now
  | .publishComponent ev => .publishComponent ev now
  | .createPreparationPlan incId profId target =>
    .createPreparationPlan incId profId target now
  | .beginPreparation plan => .beginPreparation plan
  | .stepPreparation attemptId => .stepPreparation attemptId
  | .completePreparation attemptId => .completePreparation attemptId now
  | .activate req => .activate req now
  | .acquireServingUse wanted => .acquireServingUse wanted now admittedAt
  | .releaseServingUse token outcome detail => .releaseServingUse token outcome detail now
  | .requestDrain id => .requestDrain id
  | .acknowledgeBackendCleanup id => .acknowledgeBackendCleanup id
  | .beginReplacement plan => .beginReplacement plan
  | .commitCutover rid => .commitCutover rid
  | .retireOld rid => .retireOld rid
  | .fenceWorker w b => .fenceWorker w b

/-- What a thread does in one atomic step. -/
inductive Action where
  /-- An operation of the runtime; it reads the clock while it holds the lock. -/
  | call (c : Call)
  | query (q : Query)
  /-- A critical section of the registry, entered when `ready` holds. -/
  | locked (ready : Registry → Bool) (f : Registry → Registry)
  /-- Wait for the reply to a routed command, for a bounded time. -/
  | await (ticket : Nat)
  | recv
  | send (m : ProtocolMessage)
  | abort

def Action.Res : Action → Type
  | .call _ => Except Err Reply
  | .query q => q.Res
  | .locked _ _ => Registry
  | .await _ => Option CommandReply
  | .recv => Option ProtocolMessage
  | .send _ => Bool
  | .abort => Unit

/-- What the environment contributes to an action. -/
structure Input where
  now : DurationNs := 0
  admittedAt : DurationNs := 0
  message : Option ProtocolMessage := none
  delivered : Bool := true
  timedOut : Bool := false

/-- One action. A critical section returns the registry it found. -/
def perform (input : Input) (s : SessionShared) : (a : Action) → Option (a.Res × SessionShared)
  | .call c =>
    let r := machine.step (c.op input.now input.admittedAt) s.runtime
    some (r.1, { s with runtime := r.2 })
  | .query q => some (q.answer s.runtime input.now, s)
  | .locked ready f =>
    if ready s.registry then some (s.registry, { s with registry := f s.registry }) else none
  | .await ticket =>
    if input.timedOut then some (none, s)
    else (s.registry.replies.lookup ticket).map fun rep => (some rep, s)
  | .recv => some (input.message, s)
  | .send _ => some (input.delivered, s)
  | .abort => some ((), { s with crashed := true })

/-- Nothing happens after the process has ended. -/
def performAlive (input : Input) (s : SessionShared) (a : Action) :
    Option (a.Res × SessionShared) :=
  if s.crashed then none else perform input s a

/-! ## Programs -/

/-- The programs of a thread. -/
abbrev Thread := Prog Action Action.Res

/-- The body of a `try` block. -/
abbrev Body := ExceptT Err Thread

def locked (f : Registry → Registry) : Thread Registry :=
  Prog.perform (Action.locked (fun _ => true) f)

def lockedWhen (ready : Registry → Bool) (f : Registry → Registry) : Thread Registry :=
  Prog.perform (Action.locked ready f)

/-! The queries of the runtime. -/

def currentEpoch : Thread CoordinatorEpoch := Prog.perform (Action.query .currentEpoch)

def currentAuthority : Thread AuthorityGeneration := Prog.perform (Action.query .currentAuthority)

def incarnationIsFenced (id : EngineIncarnationId) : Thread Bool :=
  Prog.perform (Action.query (.incarnationIsFenced id))

def drainState (id : EngineIncarnationId) : Thread DrainState :=
  Prog.perform (Action.query (.drainState id))

def currentReadinessGeneration (id : EngineIncarnationId) : Body ReadinessGeneration :=
  ExceptT.mk (Prog.perform (Action.query (.currentReadinessGeneration id)))

def evaluateReadiness (id : EngineIncarnationId) (profile : ReadinessProfileId) :
    Body ReadinessResult :=
  ExceptT.mk (Prog.perform (Action.query (.evaluateReadiness id profile)))

def serialize : Body Str := ExceptT.mk (Prog.perform (Action.query .serialize))

def activeUseCount : Thread Int32 := Prog.perform (Action.query .activeUseCount)

/-! The connection of the thread, and the operations of the runtime. -/

def recv : Thread (Option ProtocolMessage) := Prog.perform Action.recv

def send (m : ProtocolMessage) : Thread Bool := Prog.perform (Action.send m)

def await (ticket : Nat) : Thread (Option CommandReply) := Prog.perform (Action.await ticket)

def abort : Thread Unit := Prog.perform Action.abort

def call (c : Call) : Body Reply := ExceptT.mk (Prog.perform (Action.call c))

def reject (code : ErrorCode) (msg : String) : Body Unit :=
  ExceptT.mk (pure (.error (domainError code msg)))

/-- A message with fields. -/
def message (type : MessageType) (fields : List (String × Str)) : ProtocolMessage :=
  { type := type, payload := makePayload (fieldsOf fields) }

def errorMessage (e : DomainError) : ProtocolMessage :=
  message .error [("code", decimal e.code.ctorIdx), ("msg", lit e.message)]

/-- A handler's `try` block: a domain error is reported to the peer. -/
def attempt {A : Type} (fallback : A) (body : Body A) : Thread A := do
  match ← body.run with
  | .ok a => return a
  | .error (.domain e) =>
    let _ ← send (errorMessage e)
    return fallback
  | .error .outOfRange =>
    abort
    return fallback

end EngineResidency.Coordinator
