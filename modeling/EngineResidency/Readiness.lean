-- SUMMARY: Profile-specific readiness evaluation over component evidence.
import EngineResidency.Records
import Mathlib.Data.List.Induction

/-!
# Readiness evaluation

`evaluateReadiness` judges one incarnation for one profile from the evidence
recorded for it. Each requirement of the profile is matched with the best
evidence of its category; the requirements are then combined into one outcome.
-/

namespace EngineResidency

/-- The judgement of one requirement. -/
structure RequirementOutcome where
  category : ComponentCategory := .model
  subject : Str := []
  kind : RequirementKind := .required
  minState : ComponentState := .verified
  actualState : ComponentState := .unknown
  satisfied : Bool := false
  fallbackUsed : Bool := false
  incompatible : Bool := false
  stale : Bool := false
  missing : Bool := false
  reason : Str := []
  deriving DecidableEq, Repr

/-- An inspectable readiness evaluation for one profile. -/
structure ReadinessResult where
  engineId : EngineId := {}
  engineGeneration : EngineGeneration := {}
  incarnationId : EngineIncarnationId := {}
  incarnationGeneration : EngineIncarnationGeneration := {}
  profileId : ReadinessProfileId := {}
  profileGeneration : ReadinessProfileGeneration := {}
  readinessGeneration : ReadinessGeneration := {}
  activationGeneration : ActivationGeneration := {}
  outcome : ReadinessOutcome := .unknown
  coherentSnapshot : Bool := false
  requirementOutcomes : List RequirementOutcome := []
  satisfied : List Str := []
  missing : List Str := []
  incompatible : List Str := []
  staleEvidence : List Str := []
  requiredActions : List Str := []
  selectedFallback : Str := []
  headroomBytes : UInt64 := 0
  headroomKvEntries : UInt64 := 0
  detail : Str := []
  deriving DecidableEq, Repr

/-- Whether an outcome authorizes work. -/
def ReadinessOutcome.serves (o : ReadinessOutcome) : Prop := o = .ready ∨ o = .degraded

instance (o : ReadinessOutcome) : Decidable o.serves :=
  inferInstanceAs (Decidable (_ ∨ _))

/-! ## Selecting evidence -/

/-- The evidence that counts for a category and, where they are not empty, a
subject and a namespace: a later generation wins, and among equal generations
the later observation. -/
def bestEvidence (evidence : List ComponentEvidence) (category : ComponentCategory)
    (subject evidenceNamespace : Str) : Option ComponentEvidence :=
  evidence.foldl (fun best e =>
    if e.category ≠ category then best
    else if subject ≠ [] ∧ e.subject ≠ subject then best
    else if evidenceNamespace ≠ [] ∧ e.namespace_ ≠ evidenceNamespace then best
    else match best with
      | none => some e
      | some b =>
        if b.evidenceGeneration.raw < e.evidenceGeneration.raw then some e
        else if e.evidenceGeneration = b.evidenceGeneration ∧ b.observedAtNs < e.observedAtNs then
          some e
        else some b) none

/-- The strength of a component state. The states below zero never satisfy
anything. -/
def ComponentState.rank : ComponentState → Int
  | .absent => 0
  | .discovered => 1
  | .available => 2
  | .loading => 3
  | .bound => 4
  | .verified => 5
  | .failed => -1
  | .stale => -2
  | .unknown => -3
  | .revalidationRequired => -4
  | .undeclared _ => -5

def stateSatisfies (actual required : ComponentState) : Bool :=
  required.rank ≤ actual.rank && 0 ≤ required.rank

/-- Whether the generation that a requirement names differs from the one the
engine definition prescribes. -/
def generationMismatch (engine : EngineDefinition) (req : ProfileRequirement)
    (e : ComponentEvidence) : Bool :=
  match req.generationFamily with
  | .model => e.modelGeneration != engine.modelGeneration
  | .adapter => e.adapterGeneration != engine.adapterGeneration
  | .kvCapacity => !e.kvCapacityGeneration.isValid
  | .kernel => e.kernelGeneration != engine.kernelGeneration
  | .graph => e.graphGeneration != engine.graphGeneration
  | .dependency => e.dependencyGeneration != engine.dependencyGeneration
  | .compatibility => req.compatibility.isValid && req.compatibility != e.compatibility
  | .allocation | .resourceClaim | .none => false
  -- The switch of the source has no case for these.
  | .kvState | .undeclared _ => false

/-! ## Evaluating a profile -/

/-- The result under construction and what the loop has seen so far. -/
structure Evaluation where
  result : ReadinessResult := {}
  hasRequiredMissing : Bool := false
  hasRequiredStale : Bool := false
  hasIncompatible : Bool := false
  fallbackUsed : Bool := false

namespace Evaluation

def record (acc : Evaluation) (o : RequirementOutcome) : Evaluation :=
  { acc with result.requirementOutcomes := acc.result.requirementOutcomes ++ [o] }

def recordMissing (acc : Evaluation) (o : RequirementOutcome) : Evaluation :=
  { acc.record o with
    hasRequiredMissing := true
    result.missing := acc.result.missing ++ [o.subject] }

def recordIncompatible (acc : Evaluation) (o : RequirementOutcome) : Evaluation :=
  { acc.record o with
    hasIncompatible := true
    result.incompatible := acc.result.incompatible ++ [o.subject] }

def recordStale (acc : Evaluation) (o : RequirementOutcome) : Evaluation :=
  { acc.record o with
    hasRequiredStale := true
    result.staleEvidence := acc.result.staleEvidence ++ [o.subject] }

def recordSatisfied (acc : Evaluation) (o : RequirementOutcome) : Evaluation :=
  if o.kind = .permittedFallback then
    { acc.record { o with fallbackUsed := true } with
      fallbackUsed := true
      result.satisfied := acc.result.satisfied ++ [o.subject]
      result.selectedFallback := o.subject }
  else
    { acc.record o with result.satisfied := acc.result.satisfied ++ [o.subject] }

end Evaluation

/-- One iteration of the evaluation loop. -/
def evaluateRequirement (engine : EngineDefinition) (evidence : List ComponentEvidence)
    (now : DurationNs) (acc : Evaluation) (req : ProfileRequirement) : Evaluation :=
  let o : RequirementOutcome :=
    { category := req.category
      subject := if req.subject = [] then lit req.category.toString else req.subject
      kind := req.kind
      minState := req.minState
      actualState := .absent }
  if req.kind = .unsupported then
    acc.recordIncompatible
      { o with incompatible := true, reason := lit "unsupported requirement for this profile" }
  else match bestEvidence evidence req.category req.subject [] with
  | none =>
    if req.kind ≠ .optional then
      acc.recordMissing
        { o with missing := true, reason := lit "missing prerequisite: " ++ o.subject }
    else
      acc.record { o with satisfied := true, reason := lit "optional optimization absent" }
  | some e =>
    let o := { o with actualState := e.state }
    if !stateSatisfies e.state req.minState then
      if req.kind ≠ .optional then
        acc.recordMissing
          { o with
            missing := true
            reason := lit e.state.toString ++ lit " does not satisfy required " ++
              lit req.minState.toString }
      else
        acc.record
          { o with
            satisfied := true
            reason := lit "optional optimization not at required state" }
    else if req.compatibility.isValid ∧ req.compatibility ≠ e.compatibility then
      acc.recordIncompatible { o with incompatible := true, reason := lit "compatibility mismatch" }
    else if req.generationFamily ≠ .none ∧ generationMismatch engine req e then
      acc.recordIncompatible
        { o with
          incompatible := true
          reason := lit "generation mismatch with engine definition" }
    else if !e.isFresh now ∧ req.kind ≠ .optional then
      acc.recordStale
        { o with stale := true, reason := lit "evidence exceeding freshness window" }
    else
      acc.recordSatisfied { o with satisfied := true }

/-- Deterministic readiness evaluation of one incarnation for one profile. This
is the internal evaluator; the runtime's query adds the recovery gate. -/
def evaluateReadiness (engine : EngineDefinition) (profile : ReadinessProfile)
    (inc : EngineIncarnation) (evidence : List ComponentEvidence) (now : DurationNs) :
    ReadinessResult :=
  let start : Evaluation :=
    { result :=
        { engineId := engine.engineId
          engineGeneration := engine.engineGeneration
          incarnationId := inc.incarnationId
          incarnationGeneration := inc.incarnationGeneration
          profileId := profile.profileId
          profileGeneration := profile.profileGeneration
          readinessGeneration := inc.readinessGeneration
          coherentSnapshot := true } }
  let acc := profile.requirements.foldl (evaluateRequirement engine evidence now) start
  let result := match bestEvidence evidence .kvCapacity [] [] with
    | some kv => { acc.result with headroomKvEntries := kv.sizeBytes }
    | none => acc.result
  let result :=
    if acc.hasIncompatible then
      { result with outcome := .blocked, detail := lit "incompatible requirement(s) present" }
    else if acc.hasRequiredMissing then
      { result with outcome := .blocked, detail := lit "required prerequisite(s) missing" }
    else if acc.hasRequiredStale then
      { result with outcome := .stale, detail := lit "required evidence is stale" }
    else if acc.fallbackUsed then
      { result with outcome := .degraded, detail := lit "serving under permitted fallback" }
    else
      { result with outcome := .ready, detail := lit "all required prerequisites satisfied" }
  if result.outcome ≠ .ready ∧ result.outcome ≠ .degraded then
    { result with
      requiredActions := result.requiredActions ++ [lit "ensure required components"] }
  else result

/-! ## What an evaluation rests on -/

/-- The requirement cannot be passed over: it is required, or a permitted fallback. -/
def ProfileRequirement.IsDemanded (req : ProfileRequirement) : Prop :=
  req.kind = .required ∨ req.kind = .permittedFallback

instance (req : ProfileRequirement) : Decidable req.IsDemanded :=
  inferInstanceAs (Decidable (_ ∨ _))

/-- The evidence `e` is the best there is for a requirement, and strong enough for it. -/
structure Satisfies (evidence : List ComponentEvidence) (req : ProfileRequirement)
    (e : ComponentEvidence) : Prop where
  selected : bestEvidence evidence req.category req.subject [] = some e
  strong : stateSatisfies e.state req.minState = true

/-- Evidence that satisfies anything has a state that counts. -/
theorem Satisfies.rank {evidence : List ComponentEvidence} {req : ProfileRequirement}
    {e : ComponentEvidence} (h : Satisfies evidence req e) : 0 ≤ e.state.rank := by
  have hstrong := h.strong
  simp only [stateSatisfies, Bool.and_eq_true, decide_eq_true_eq] at hstrong
  omega

/-- One iteration of the selection. -/
def keepBest (category : ComponentCategory) (subject evidenceNamespace : Str)
    (best : Option ComponentEvidence) (e : ComponentEvidence) : Option ComponentEvidence :=
  if e.category ≠ category then best
  else if subject ≠ [] ∧ e.subject ≠ subject then best
  else if evidenceNamespace ≠ [] ∧ e.namespace_ ≠ evidenceNamespace then best
  else match best with
    | none => some e
    | some b =>
      if b.evidenceGeneration.raw < e.evidenceGeneration.raw then some e
      else if e.evidenceGeneration = b.evidenceGeneration ∧ b.observedAtNs < e.observedAtNs then
        some e
      else some b

theorem bestEvidence_eq_foldl (evidence : List ComponentEvidence) (category : ComponentCategory)
    (subject evidenceNamespace : Str) :
    bestEvidence evidence category subject evidenceNamespace =
      evidence.foldl (keepBest category subject evidenceNamespace) none := rfl

/-- The record is of the category that was asked for and, where one was asked for, of
the subject. -/
def ComponentEvidence.IsAbout (e : ComponentEvidence) (category : ComponentCategory)
    (subject : Str) : Prop :=
  e.category = category ∧ (subject = [] ∨ e.subject = subject)

section Selection

variable {category : ComponentCategory} {subject evidenceNamespace : Str}
  {best : Option ComponentEvidence} {e : ComponentEvidence}

theorem keepBest_cases :
    keepBest category subject evidenceNamespace best e = best ∨
      keepBest category subject evidenceNamespace best e = some e ∧ e.IsAbout category subject := by
  unfold keepBest
  split
  · exact .inl rfl
  rename_i hcategory
  split
  · exact .inl rfl
  rename_i hsubject
  have habout : e.IsAbout category subject := by
    refine ⟨not_not.mp hcategory, ?_⟩
    by_cases hempty : subject = []
    · exact .inl hempty
    · exact .inr (not_not.mp fun hne => hsubject ⟨hempty, hne⟩)
  split
  · exact .inl rfl
  cases best with
  | none => exact .inr ⟨rfl, habout⟩
  | some b =>
    simp only
    split
    · exact .inr ⟨rfl, habout⟩
    split
    · exact .inr ⟨rfl, habout⟩
    · exact .inl rfl

/-- One more record is selected, or the selection stays. -/
theorem bestEvidence_append (evidence : List ComponentEvidence) (e : ComponentEvidence) :
    bestEvidence (evidence ++ [e]) category subject evidenceNamespace =
        bestEvidence evidence category subject evidenceNamespace ∨
      bestEvidence (evidence ++ [e]) category subject evidenceNamespace = some e := by
  simp only [bestEvidence_eq_foldl, List.foldl_append, List.foldl_cons, List.foldl_nil]
  rcases keepBest_cases with h | h
  · exact .inl h
  · exact .inr h.1

/-- What is selected was recorded, and is about what was asked for. -/
theorem bestEvidence_mem {evidence : List ComponentEvidence}
    (h : bestEvidence evidence category subject evidenceNamespace = some e) :
    e ∈ evidence ∧ e.IsAbout category subject := by
  induction evidence using List.reverseRecOn generalizing e with
  | nil => cases h
  | append_singleton evidence x ih =>
    simp only [bestEvidence_eq_foldl, List.foldl_append, List.foldl_cons, List.foldl_nil] at h
    rcases keepBest_cases (e := x) with hkeep | ⟨hnew, habout⟩
    · obtain ⟨hmem, habout⟩ := ih (hkeep.symm.trans h)
      exact ⟨List.mem_append_left _ hmem, habout⟩
    · cases hnew.symm.trans h
      exact ⟨List.mem_append_right _ (List.mem_singleton_self _), habout⟩

end Selection

end EngineResidency
