-- SUMMARY: What a worker asks of its backend, and the reference backend that computes on the CPU.
import EngineResidency.Coordinator.Message

/-!
# Backends

A worker prepares, uses and releases one backend. It knows the backend by a narrow contract;
the reference backend computes on the CPU what a device would compute, so that its results can
be compared with those of the device.
-/

namespace EngineResidency.Worker

open Coordinator (newline)

structure ComputeInput where
  input : List Float32 := []
  batch : UInt32 := 1
  seqLen : UInt32 := 1
  dtype : Str := lit "fp32"
  seed : UInt64 := 0

structure ComputeResult where
  ok : Bool := false
  output : List Float32 := []
  seed : UInt64 := 0
  elapsedNs : DurationNs := 0
  detail : Str := []
  bytesMoved : UInt64 := 0

structure BackendDiscovery where
  backendName : Str := []
  cuda : Bool := false
  deviceOrdinal : UInt64 := 0
  deviceName : Str := []
  computeCapability : Str := []
  deviceMemTotal : UInt64 := 0
  deviceMemFree : UInt64 := 0
  deviceMemBase : UInt64 := 0
  hasDeviceContext : Bool := false
  hasGraphSupport : Bool := false

/-- The contract of a backend. -/
structure ReferenceBackend where
  State : Type
  init : State
  discover : UInt64 → State → BackendDiscovery × State
  prepare (modelBytes workspaceBytes kvEntries : UInt64) : State → Bool × State
  bindKernel (kernelKey : Str) : State → Bool × State
  instantiateGraph (required : Bool) : State → Bool × State
  warmup (batch seqLen : UInt32) : State → ComputeResult × State
  execute (input : ComputeInput) : State → ComputeResult × State
  verifyParity (actual cpuReference : ComputeResult) : State → Bool × State
  release : State → State
  /-- The detail of a result is one line. -/
  detail_line : ∀ input s, newline ∉ (execute input s).1.detail

/-! ## The reference computation -/

/-- One element of the result. -/
def computeElement (seed : UInt64) (x : Float32) (i : Nat) : Float32 :=
  x * 0.0625 + 0.5 + Float32.ofNat (i % 67) * 0.01 + Float32.ofNat (seed % 1000).toNat * 0.001

def cpuReferenceCompute (input : ComputeInput) : List Float32 :=
  input.input.zipIdx.map fun (x, i) => computeElement input.seed x i

/-- `std::max` -/
def maxFloat (a b : Float32) : Float32 := if a < b then b else a

/-- Two elements of results that count as the same. -/
def within (a b : Float32) : Bool :=
  if a.isNaN || b.isNaN then false
  else if a != b then
    !decide ((1e-5 : Float32) * maxFloat 1 (maxFloat a.abs b.abs) < (a - b).abs)
  else true

/-! ## The CPU backend -/

structure CpuReferenceBackend where
  model : List Float32 := []
  workspace : List Float32 := []
  kv : List Float32 := []
  kvEntries : UInt64 := 0
  kernelKey : Str := []
  prepared : Bool := false
  kernelBound : Bool := false
  graphInstantiated : Bool := false
  graphRequired : Bool := false

namespace CpuReferenceBackend

def discover (ordinal : UInt64) (b : CpuReferenceBackend) : BackendDiscovery × CpuReferenceBackend :=
  ({ backendName := lit "cpu-reference"
     cuda := false
     deviceOrdinal := ordinal
     deviceName := lit "x86-64 reference"
     computeCapability := lit "n/a"
     deviceMemTotal := 1024 * 1024 * 1024
     deviceMemFree := 1024 * 1024 * 1024
     deviceMemBase := 0
     hasDeviceContext := true
     hasGraphSupport := true }, b)

def prepare (modelBytes workspaceBytes kvEntries : UInt64) (b : CpuReferenceBackend) :
    Bool × CpuReferenceBackend :=
  (true, { b with
    model := List.replicate modelBytes.toNat 1
    workspace := List.replicate workspaceBytes.toNat 0
    kvEntries := kvEntries
    kv := List.replicate kvEntries.toNat 0
    prepared := true })

def bindKernel (kernelKey : Str) (b : CpuReferenceBackend) : Bool × CpuReferenceBackend :=
  (!kernelKey.isEmpty, { b with kernelKey := kernelKey, kernelBound := !kernelKey.isEmpty })

def instantiateGraph (required : Bool) (b : CpuReferenceBackend) : Bool × CpuReferenceBackend :=
  (true, { b with graphInstantiated := true, graphRequired := required })

def run (input : ComputeInput) (b : CpuReferenceBackend) : ComputeResult × CpuReferenceBackend :=
  ({ ok := true
     output := cpuReferenceCompute input
     seed := input.seed
     bytesMoved := UInt64.ofNat (input.input.length * 4)
     detail := lit "cpu-reference-compute" }, b)

def warmup (batch seqLen : UInt32) : CpuReferenceBackend → ComputeResult × CpuReferenceBackend :=
  run { batch := batch, seqLen := seqLen, seed := 42
        input := List.replicate (batch.toNat * seqLen.toNat) 0 }

def execute (input : ComputeInput) : CpuReferenceBackend → ComputeResult × CpuReferenceBackend :=
  run input

def verifyParity (actual cpuReference : ComputeResult) (b : CpuReferenceBackend) :
    Bool × CpuReferenceBackend :=
  (actual.ok && cpuReference.ok && actual.output.length == cpuReference.output.length &&
    (actual.output.zip cpuReference.output).all fun (x, y) => within x y, b)

def release (b : CpuReferenceBackend) : CpuReferenceBackend :=
  { b with
    model := []
    workspace := []
    kv := []
    prepared := false
    kernelBound := false
    graphInstantiated := false }

end CpuReferenceBackend

def makeCpuReferenceBackend : ReferenceBackend where
  State := CpuReferenceBackend
  init := {}
  discover := CpuReferenceBackend.discover
  prepare := CpuReferenceBackend.prepare
  bindKernel := CpuReferenceBackend.bindKernel
  instantiateGraph := CpuReferenceBackend.instantiateGraph
  warmup := CpuReferenceBackend.warmup
  execute := CpuReferenceBackend.execute
  verifyParity := CpuReferenceBackend.verifyParity
  release := CpuReferenceBackend.release
  detail_line input s := by
    change newline ∉ lit "cpu-reference-compute"
    decide

end EngineResidency.Worker
