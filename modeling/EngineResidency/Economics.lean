-- SUMMARY: Aggregation and comparison of preparation and recovery costs.
import EngineResidency.Records

/-!
# Recovery economics

Named cost components are aggregated either sequentially or along the critical
path. A model of another name leaves the cost invalid. Alternatives are compared by
their totals.
-/

namespace EngineResidency

def CostComponent.effectiveNs (c : CostComponent) : DurationNs :=
  if c.measuredNs ≠ 0 then c.measuredNs else c.estimatedNs

/-- The cost of one named alternative. -/
structure RecoveryCost where
  action : RecoveryAction := .replaceLost
  components : List CostComponent := []
  totalNs : DurationNs := 0
  parallelBestNs : DurationNs := 0
  aggregationModel : Str := []
  provenance : Provenance := .estimated
  deriving DecidableEq, Repr

/-- What the aggregation loop has accumulated. -/
structure CostAcc where
  total : UInt64 := 0
  criticalPath : UInt64 := 0
  anyMeasured : Bool := false
  anyUnknown : Bool := false
  deriving DecidableEq, Repr

/-- The aggregation loop. A sum beyond 64 bits saturates and leaves the loop. -/
def aggregateLoop (acc : CostAcc) : List CostComponent → CostAcc
  | [] => acc
  | c :: cs =>
    let eff := c.effectiveNs
    let acc :=
      { acc with
        anyMeasured := acc.anyMeasured || c.provenance == Provenance.measured
        anyUnknown := acc.anyUnknown || (eff == 0 && c.estimatedNs == 0 && c.measuredNs == 0)
        criticalPath := max acc.criticalPath eff }
    if acc.total > 0xFFFFFFFFFFFFFFFF - eff then { acc with total := 0xFFFFFFFFFFFFFFFF }
    else aggregateLoop { acc with total := acc.total + eff } cs

/-- Aggregate named cost components under a model. -/
def aggregateRecoveryCost (components : List CostComponent) (action : RecoveryAction)
    (aggregationModel : Str) : RecoveryCost :=
  let acc := aggregateLoop {} components
  let cost : RecoveryCost :=
    { action := action, components := components, aggregationModel := aggregationModel }
  -- Both known models report the critical path and the provenance; any other
  -- model returns with a total of zero.
  let known (total : DurationNs) : RecoveryCost :=
    { cost with
      totalNs := total
      parallelBestNs := acc.criticalPath
      provenance :=
        if acc.anyMeasured then .measured
        else if !acc.anyUnknown then .estimated
        else cost.provenance }
  if aggregationModel = lit "SEQUENTIAL" then known acc.total
  else if aggregationModel = lit "PARALLEL_CRITICAL_PATH" then known acc.criticalPath
  else cost

/-! ## Comparison -/

/-- `RecoveryCost::is_valid`. -/
def RecoveryCost.isValid (cost : RecoveryCost) : Bool :=
  cost.aggregationModel == lit "SEQUENTIAL" || cost.aggregationModel == lit "PARALLEL_CRITICAL_PATH"

/-- Deterministic comparison of supplied alternatives. -/
structure CostComparison where
  alternatives : List RecoveryCost := []
  selectedIndex : Int32 := -1
  selectionReason : Str := []
  detail : Str := []
  deriving DecidableEq, Repr

/-- The loop over the alternatives from the one at `i` on; `best` is the place of `a`. -/
def compareLoop (best : Nat) (a : RecoveryCost) (i : Nat) : List RecoveryCost → Nat
  | [] => best
  | b :: rest =>
    if b.totalNs < a.totalNs then compareLoop i b (i + 1) rest
    else if b.totalNs = a.totalNs ∧ b.action.ctorIdx < a.action.ctorIdx then
      compareLoop i b (i + 1) rest
    else compareLoop best a (i + 1) rest

/-- Select the alternative with the lowest total, and of those the one with the first action.
Whether an alternative is valid is not asked. -/
def compareRecoveryCosts (alternatives : List RecoveryCost) : CostComparison :=
  match alternatives with
  | [] => { alternatives, selectedIndex := -1, selectionReason := lit "no alternatives supplied" }
  | a :: rest =>
    let best := compareLoop 0 a 1 rest
    { alternatives, selectedIndex := Int32.ofNat best,
      selectionReason :=
        lit "lowest total cost alternative at index " ++ lit (toString best) }

end EngineResidency
