-- SUMMARY: What the readiness evaluation means, requirement by requirement and as a whole.
import EngineResidency.Readiness

/-!
# The meaning of an evaluation

The evaluator is one loop with early exits and four flags. Its meaning is stated without a
loop: each requirement is incompatible, missing, stale or satisfied, by the best evidence
there is for it, and the outcome is read off these findings.
-/

namespace EngineResidency

/-! ## What a requirement is found to be -/

/-- The name under which a requirement is reported. -/
def ProfileRequirement.reportedSubject (req : ProfileRequirement) : Str :=
  if req.subject = [] then lit req.category.toString else req.subject

/-- The requirement has to be met. A kind that the source does not declare is treated like
a required one. -/
def ProfileRequirement.IsMandatory (req : ProfileRequirement) : Prop :=
  req.IsDemanded ∨ ∃ v, req.kind = .undeclared v

/-- The evidence carries another compatibility key or another generation than the
requirement asks for. -/
def ProfileRequirement.Mismatches (engine : EngineDefinition) (req : ProfileRequirement)
    (e : ComponentEvidence) : Prop :=
  (req.compatibility.isValid ∧ req.compatibility ≠ e.compatibility) ∨
    generationMismatch engine req e = true

section Findings

variable (engine : EngineDefinition) (evidence : List ComponentEvidence) (now : DurationNs)
  (req : ProfileRequirement)

/-- The profile does not support the component, or the evidence for it is strong enough
but does not fit. -/
def IsIncompatible : Prop :=
  req.kind = .unsupported ∨ ∃ e, Satisfies evidence req e ∧ req.Mismatches engine e

/-- The component has to be there, and no evidence for it is strong enough. -/
def IsMissing : Prop := req.IsMandatory ∧ ∀ e, ¬ Satisfies evidence req e

/-- The component has to be there, and the evidence for it fits but is too old. -/
def IsStale : Prop :=
  req.IsMandatory ∧ ¬ IsIncompatible engine evidence req ∧ ¬ IsMissing evidence req ∧
    ∃ e, bestEvidence evidence req.category req.subject [] = some e ∧ e.isFresh now = false

end Findings

/-- The four ways in which a requirement is marked. -/
inductive Finding where
  | satisfied | missing | incompatible | stale
  deriving DecidableEq

def RequirementOutcome.marks (o : RequirementOutcome) : Finding → Bool
  | .satisfied => o.satisfied
  | .missing => o.missing
  | .incompatible => o.incompatible
  | .stale => o.stale

/-- The outcome reports on the requirement. -/
structure Reports (req : ProfileRequirement) (o : RequirementOutcome) : Prop where
  category : o.category = req.category
  subject : o.subject = req.reportedSubject
  kind : o.kind = req.kind
  minState : o.minState = req.minState

/-- The outcome reports on the requirement, and marks it as what it is. -/
structure Judged (engine : EngineDefinition) (evidence : List ComponentEvidence)
    (now : DurationNs) (req : ProfileRequirement) (o : RequirementOutcome) : Prop
    extends Reports req o where
  incompatible : o.incompatible = true ↔ IsIncompatible engine evidence req
  missing : o.missing = true ↔ IsMissing evidence req
  stale : o.stale = true ↔ IsStale engine evidence now req
  satisfied : o.satisfied = true ↔ ¬ IsIncompatible engine evidence req ∧
    ¬ IsMissing evidence req ∧ ¬ IsStale engine evidence now req

variable {engine : EngineDefinition} {profile : ReadinessProfile} {inc : EngineIncarnation}
  {evidence : List ComponentEvidence} {now : DurationNs} {req : ProfileRequirement}
  {o : RequirementOutcome}

theorem isMandatory_iff : req.IsMandatory ↔ req.kind ≠ .unsupported ∧ req.kind ≠ .optional := by
  unfold ProfileRequirement.IsMandatory ProfileRequirement.IsDemanded
  cases req.kind <;> simp

/-- Nothing is both incompatible and missing. -/
theorem IsIncompatible.not_isMissing (h : IsIncompatible engine evidence req) :
    ¬ IsMissing evidence req := by
  intro ⟨hmandatory, hnone⟩
  rcases h with hunsupported | ⟨e, hsatisfies, -⟩
  · exact (isMandatory_iff.mp hmandatory).1 hunsupported
  · exact hnone e hsatisfies

namespace Judged

theorem ofIncompatible (hreports : Reports req o) (h : IsIncompatible engine evidence req)
    (hincompatible : o.incompatible = true) (hmissing : o.missing = false)
    (hstale : o.stale = false) (hsatisfied : o.satisfied = false) :
    Judged engine evidence now req o where
  toReports := hreports
  incompatible := iff_of_true hincompatible h
  missing := iff_of_false (Bool.eq_false_iff.mp hmissing) h.not_isMissing
  stale := iff_of_false (Bool.eq_false_iff.mp hstale) fun hs => hs.2.1 h
  satisfied := iff_of_false (Bool.eq_false_iff.mp hsatisfied) fun hs => hs.1 h

theorem ofMissing (hreports : Reports req o) (h : IsMissing evidence req)
    (hincompatible : o.incompatible = false) (hmissing : o.missing = true)
    (hstale : o.stale = false) (hsatisfied : o.satisfied = false) :
    Judged engine evidence now req o where
  toReports := hreports
  incompatible := iff_of_false (Bool.eq_false_iff.mp hincompatible) fun hi => hi.not_isMissing h
  missing := iff_of_true hmissing h
  stale := iff_of_false (Bool.eq_false_iff.mp hstale) fun hs => hs.2.2.1 h
  satisfied := iff_of_false (Bool.eq_false_iff.mp hsatisfied) fun hs => hs.2.1 h

theorem ofStale (hreports : Reports req o) (h : IsStale engine evidence now req)
    (hincompatible : o.incompatible = false) (hmissing : o.missing = false)
    (hstale : o.stale = true) (hsatisfied : o.satisfied = false) :
    Judged engine evidence now req o where
  toReports := hreports
  incompatible := iff_of_false (Bool.eq_false_iff.mp hincompatible) h.2.1
  missing := iff_of_false (Bool.eq_false_iff.mp hmissing) h.2.2.1
  stale := iff_of_true hstale h
  satisfied := iff_of_false (Bool.eq_false_iff.mp hsatisfied) fun hs => hs.2.2 h

theorem ofSatisfied (hreports : Reports req o) (hi : ¬ IsIncompatible engine evidence req)
    (hm : ¬ IsMissing evidence req) (hs : ¬ IsStale engine evidence now req)
    (hincompatible : o.incompatible = false) (hmissing : o.missing = false)
    (hstale : o.stale = false) (hsatisfied : o.satisfied = true) :
    Judged engine evidence now req o where
  toReports := hreports
  incompatible := iff_of_false (Bool.eq_false_iff.mp hincompatible) hi
  missing := iff_of_false (Bool.eq_false_iff.mp hmissing) hm
  stale := iff_of_false (Bool.eq_false_iff.mp hstale) hs
  satisfied := iff_of_true hsatisfied ⟨hi, hm, hs⟩

/-- Every requirement is marked as exactly one of the four. -/
theorem existsUnique_marks (h : Judged engine evidence now req o) :
    ∃! f, o.marks f = true := by
  by_cases hi : IsIncompatible engine evidence req
  · refine ⟨.incompatible, h.incompatible.mpr hi, fun f hf => ?_⟩
    cases f with
    | incompatible => rfl
    | satisfied => exact absurd hi (h.satisfied.mp hf).1
    | missing => exact absurd (h.missing.mp hf) hi.not_isMissing
    | stale => exact absurd hi (h.stale.mp hf).2.1
  by_cases hm : IsMissing evidence req
  · refine ⟨.missing, h.missing.mpr hm, fun f hf => ?_⟩
    cases f with
    | incompatible => exact absurd (h.incompatible.mp hf) hi
    | satisfied => exact absurd hm (h.satisfied.mp hf).2.1
    | missing => rfl
    | stale => exact absurd hm (h.stale.mp hf).2.2.1
  by_cases hs : IsStale engine evidence now req
  · refine ⟨.stale, h.stale.mpr hs, fun f hf => ?_⟩
    cases f with
    | incompatible => exact absurd (h.incompatible.mp hf) hi
    | satisfied => exact absurd hs (h.satisfied.mp hf).2.2
    | missing => exact absurd (h.missing.mp hf) hm
    | stale => rfl
  · refine ⟨.satisfied, h.satisfied.mpr ⟨hi, hm, hs⟩, fun f hf => ?_⟩
    cases f with
    | incompatible => exact absurd (h.incompatible.mp hf) hi
    | satisfied => rfl
    | missing => exact absurd (h.missing.mp hf) hm
    | stale => exact absurd (h.stale.mp hf) hs

end Judged

/-! ## The loop -/

/-- From `acc` to `acc'` the loop has judged `reqs`, and noted nothing else. -/
structure Adds (engine : EngineDefinition) (evidence : List ComponentEvidence) (now : DurationNs)
    (reqs : List ProfileRequirement) (acc acc' : Evaluation) (os : List RequirementOutcome) :
    Prop where
  judged : List.Forall₂ (Judged engine evidence now) reqs os
  recorded : acc'.result.requirementOutcomes = acc.result.requirementOutcomes ++ os
  missing : acc'.result.missing = acc.result.missing ++ (os.filter (·.missing)).map (·.subject)
  incompatible : acc'.result.incompatible =
    acc.result.incompatible ++ (os.filter (·.incompatible)).map (·.subject)
  staleEvidence : acc'.result.staleEvidence =
    acc.result.staleEvidence ++ (os.filter (·.stale)).map (·.subject)
  hasIncompatible : acc'.hasIncompatible = (acc.hasIncompatible || os.any (·.incompatible))
  hasRequiredMissing : acc'.hasRequiredMissing = (acc.hasRequiredMissing || os.any (·.missing))
  hasRequiredStale : acc'.hasRequiredStale = (acc.hasRequiredStale || os.any (·.stale))
  fallbackUsed : acc'.fallbackUsed =
    (acc.fallbackUsed || os.any fun o => o.satisfied && o.kind == .permittedFallback)

namespace Adds

variable {reqs reqs' : List ProfileRequirement} {acc acc' acc'' : Evaluation}
  {os os' : List RequirementOutcome}

theorem refl (acc : Evaluation) : Adds engine evidence now [] acc acc [] where
  judged := .nil
  recorded := (List.append_nil _).symm
  missing := (List.append_nil _).symm
  incompatible := (List.append_nil _).symm
  staleEvidence := (List.append_nil _).symm
  hasIncompatible := (Bool.or_false _).symm
  hasRequiredMissing := (Bool.or_false _).symm
  hasRequiredStale := (Bool.or_false _).symm
  fallbackUsed := (Bool.or_false _).symm

theorem trans (h : Adds engine evidence now reqs acc acc' os)
    (h' : Adds engine evidence now reqs' acc' acc'' os') :
    Adds engine evidence now (reqs ++ reqs') acc acc'' (os ++ os') where
  judged := List.rel_append h.judged h'.judged
  recorded := by rw [h'.recorded, h.recorded, List.append_assoc]
  missing := by rw [h'.missing, h.missing, List.filter_append, List.map_append, List.append_assoc]
  incompatible := by
    rw [h'.incompatible, h.incompatible, List.filter_append, List.map_append, List.append_assoc]
  staleEvidence := by
    rw [h'.staleEvidence, h.staleEvidence, List.filter_append, List.map_append,
      List.append_assoc]
  hasIncompatible := by rw [h'.hasIncompatible, h.hasIncompatible, List.any_append, Bool.or_assoc]
  hasRequiredMissing := by
    rw [h'.hasRequiredMissing, h.hasRequiredMissing, List.any_append, Bool.or_assoc]
  hasRequiredStale := by
    rw [h'.hasRequiredStale, h.hasRequiredStale, List.any_append, Bool.or_assoc]
  fallbackUsed := by rw [h'.fallbackUsed, h.fallbackUsed, List.any_append, Bool.or_assoc]

/-! What each of the exits adds. -/

theorem recordIncompatible (hreports : Reports req o) (h : IsIncompatible engine evidence req)
    (hincompatible : o.incompatible = true) (hmissing : o.missing = false)
    (hstale : o.stale = false) (hsatisfied : o.satisfied = false) :
    Adds engine evidence now [req] acc (acc.recordIncompatible o) [o] := by
  have hjudged : Judged engine evidence now req o :=
    .ofIncompatible hreports h hincompatible hmissing hstale hsatisfied
  constructor <;> simp [Evaluation.recordIncompatible, Evaluation.record, *]

theorem recordMissing (hreports : Reports req o) (h : IsMissing evidence req)
    (hincompatible : o.incompatible = false) (hmissing : o.missing = true)
    (hstale : o.stale = false) (hsatisfied : o.satisfied = false) :
    Adds engine evidence now [req] acc (acc.recordMissing o) [o] := by
  have hjudged : Judged engine evidence now req o :=
    .ofMissing hreports h hincompatible hmissing hstale hsatisfied
  constructor <;> simp [Evaluation.recordMissing, Evaluation.record, *]

theorem recordStale (hreports : Reports req o) (h : IsStale engine evidence now req)
    (hincompatible : o.incompatible = false) (hmissing : o.missing = false)
    (hstale : o.stale = true) (hsatisfied : o.satisfied = false) :
    Adds engine evidence now [req] acc (acc.recordStale o) [o] := by
  have hjudged : Judged engine evidence now req o :=
    .ofStale hreports h hincompatible hmissing hstale hsatisfied
  constructor <;> simp [Evaluation.recordStale, Evaluation.record, *]

section Satisfied

variable (hi : ¬ IsIncompatible engine evidence req) (hm : ¬ IsMissing evidence req)
  (hs : ¬ IsStale engine evidence now req)
include hi hm hs

/-- An optional requirement without strong evidence is noted and nothing else. -/
theorem recordOptional (hreports : Reports req o) (hkind : req.kind = .optional)
    (hincompatible : o.incompatible = false) (hmissing : o.missing = false)
    (hstale : o.stale = false) (hsatisfied : o.satisfied = true) :
    Adds engine evidence now [req] acc (acc.record o) [o] := by
  have hjudged : Judged engine evidence now req o :=
    .ofSatisfied hreports hi hm hs hincompatible hmissing hstale hsatisfied
  have hoptional : o.kind = .optional := hreports.kind.trans hkind
  constructor <;> simp [Evaluation.record, *]

theorem recordSatisfied (hreports : Reports req o) (hincompatible : o.incompatible = false)
    (hmissing : o.missing = false) (hstale : o.stale = false) (hsatisfied : o.satisfied = true) :
    ∃ o', Adds engine evidence now [req] acc (acc.recordSatisfied o) [o'] := by
  unfold Evaluation.recordSatisfied
  split
  · refine ⟨{ o with fallbackUsed := true }, ?_⟩
    have hjudged : Judged engine evidence now req { o with fallbackUsed := true } :=
      .ofSatisfied ⟨hreports.category, hreports.subject, hreports.kind, hreports.minState⟩
        hi hm hs hincompatible hmissing hstale hsatisfied
    constructor
    case judged => exact .cons hjudged .nil
    all_goals simp [Evaluation.record, *]
  · refine ⟨o, ?_⟩
    have hjudged : Judged engine evidence now req o :=
      .ofSatisfied hreports hi hm hs hincompatible hmissing hstale hsatisfied
    constructor <;> simp [Evaluation.record, *]

end Satisfied

end Adds

/-! What the conditions of the loop say about a requirement. -/

theorem not_isMissing_of_optional (hkind : req.kind = .optional) : ¬ IsMissing evidence req :=
  fun h => (isMandatory_iff.mp h.1).2 hkind

theorem not_isStale_of_optional (hkind : req.kind = .optional) :
    ¬ IsStale engine evidence now req :=
  fun h => (isMandatory_iff.mp h.1).2 hkind

theorem not_isIncompatible_of_unsatisfied (hsupported : req.kind ≠ .unsupported)
    (hnone : ∀ e, ¬ Satisfies evidence req e) : ¬ IsIncompatible engine evidence req := by
  intro h
  rcases h with hkind | ⟨e, hsatisfies, -⟩
  · exact hsupported hkind
  · exact hnone e hsatisfies

section Selected

variable {e : ComponentEvidence}
  (hselected : bestEvidence evidence req.category req.subject [] = some e)
include hselected

theorem satisfies_iff_of_selected {e' : ComponentEvidence} :
    Satisfies evidence req e' ↔ e' = e ∧ stateSatisfies e.state req.minState = true := by
  constructor
  · intro h
    cases hselected.symm.trans h.selected
    exact ⟨rfl, h.strong⟩
  · rintro ⟨rfl, hstrong⟩
    exact ⟨hselected, hstrong⟩

theorem not_satisfies_of_weak (hweak : stateSatisfies e.state req.minState = false) :
    ∀ e', ¬ Satisfies evidence req e' := by
  intro e' h
  rw [((satisfies_iff_of_selected hselected).mp h).2] at hweak
  cases hweak

variable (hstrong : stateSatisfies e.state req.minState = true)
include hstrong

theorem not_isMissing_of_strong : ¬ IsMissing evidence req :=
  fun h => h.2 e ⟨hselected, hstrong⟩

theorem isIncompatible_iff_of_strong (hsupported : req.kind ≠ .unsupported) :
    IsIncompatible engine evidence req ↔ req.Mismatches engine e := by
  constructor
  · intro h
    rcases h with hkind | ⟨e', hsatisfies, hmismatches⟩
    · exact absurd hkind hsupported
    · cases ((satisfies_iff_of_selected hselected).mp hsatisfies).1
      exact hmismatches
  · intro h
    exact .inr ⟨e, ⟨hselected, hstrong⟩, h⟩

end Selected

/-- Without strong evidence a requirement is missing, unless it is optional. -/
theorem Adds.recordUnsatisfied {acc : Evaluation} {o₁ o₂ : RequirementOutcome}
    (hsupported : req.kind ≠ .unsupported) (hnone : ∀ e, ¬ Satisfies evidence req e)
    (h₁ : Reports req o₁) (hincompatible₁ : o₁.incompatible = false) (hmissing₁ : o₁.missing = true)
    (hstale₁ : o₁.stale = false) (hsatisfied₁ : o₁.satisfied = false)
    (h₂ : Reports req o₂) (hincompatible₂ : o₂.incompatible = false)
    (hmissing₂ : o₂.missing = false) (hstale₂ : o₂.stale = false)
    (hsatisfied₂ : o₂.satisfied = true) :
    ∃ o, Adds engine evidence now [req] acc
      (if req.kind ≠ .optional then acc.recordMissing o₁ else acc.record o₂) [o] := by
  split
  · rename_i hkind
    have hm : IsMissing evidence req := ⟨isMandatory_iff.mpr ⟨hsupported, hkind⟩, hnone⟩
    exact ⟨o₁, .recordMissing h₁ hm hincompatible₁ hmissing₁ hstale₁ hsatisfied₁⟩
  · rename_i hkind
    have hoptional : req.kind = .optional := not_not.mp hkind
    have hi : ¬ IsIncompatible engine evidence req :=
      not_isIncompatible_of_unsatisfied hsupported hnone
    exact ⟨o₂, .recordOptional hi (not_isMissing_of_optional hoptional)
      (not_isStale_of_optional hoptional) h₂ hoptional hincompatible₂ hmissing₂ hstale₂
      hsatisfied₂⟩

/-- One iteration judges one requirement. -/
theorem evaluateRequirement_adds (acc : Evaluation) (req : ProfileRequirement) :
    ∃ o, Adds engine evidence now [req] acc (evaluateRequirement engine evidence now acc req)
      [o] := by
  unfold evaluateRequirement
  dsimp only
  split
  · rename_i hkind
    exact ⟨_, .recordIncompatible ⟨rfl, rfl, rfl, rfl⟩ (.inl hkind) rfl rfl rfl rfl⟩
  rename_i hsupported
  split
  · rename_i hselected
    have hnone : ∀ e, ¬ Satisfies evidence req e := by
      intro e h
      cases hselected.symm.trans h.selected
    exact Adds.recordUnsatisfied hsupported hnone ⟨rfl, rfl, rfl, rfl⟩ rfl rfl rfl rfl
      ⟨rfl, rfl, rfl, rfl⟩ rfl rfl rfl rfl
  rename_i e hselected
  split
  · rename_i hweak
    have hnone : ∀ e, ¬ Satisfies evidence req e :=
      not_satisfies_of_weak hselected (by simpa using hweak)
    exact Adds.recordUnsatisfied hsupported hnone ⟨rfl, rfl, rfl, rfl⟩ rfl rfl rfl rfl
      ⟨rfl, rfl, rfl, rfl⟩ rfl rfl rfl rfl
  rename_i hweak
  have hstrong : stateSatisfies e.state req.minState = true := by simpa using hweak
  have hincompatible : IsIncompatible engine evidence req ↔ req.Mismatches engine e :=
    isIncompatible_iff_of_strong hselected hstrong hsupported
  have hm : ¬ IsMissing evidence req := not_isMissing_of_strong hselected hstrong
  split
  · rename_i hkey
    exact ⟨_, .recordIncompatible ⟨rfl, rfl, rfl, rfl⟩ (hincompatible.mpr (.inl hkey)) rfl rfl rfl
      rfl⟩
  rename_i hkey
  split
  · rename_i hgeneration
    exact ⟨_, .recordIncompatible ⟨rfl, rfl, rfl, rfl⟩ (hincompatible.mpr (.inr hgeneration.2)) rfl
      rfl rfl rfl⟩
  rename_i hgeneration
  have hi : ¬ IsIncompatible engine evidence req := by
    rw [hincompatible]
    intro h
    rcases h with h | h
    · exact hkey h
    · exact hgeneration ⟨fun hfamily => by simp [generationMismatch, hfamily] at h, h⟩
  split
  · rename_i hold
    have hs : IsStale engine evidence now req :=
      ⟨isMandatory_iff.mpr ⟨hsupported, hold.2⟩, hi, hm, e, hselected, by simpa using hold.1⟩
    exact ⟨_, .recordStale ⟨rfl, rfl, rfl, rfl⟩ hs rfl rfl rfl rfl⟩
  · rename_i hfresh
    have hs : ¬ IsStale engine evidence now req := by
      rintro ⟨hmandatory, -, -, e', hselected', hold⟩
      cases hselected.symm.trans hselected'
      exact hfresh ⟨by simpa using hold, (isMandatory_iff.mp hmandatory).2⟩
    exact Adds.recordSatisfied hi hm hs ⟨rfl, rfl, rfl, rfl⟩ rfl rfl rfl rfl

/-- The loop judges the requirements one after the other. -/
theorem foldl_adds (reqs : List ProfileRequirement) (acc : Evaluation) :
    ∃ os, Adds engine evidence now reqs acc
      (reqs.foldl (evaluateRequirement engine evidence now) acc) os := by
  induction reqs generalizing acc with
  | nil => exact ⟨[], .refl acc⟩
  | cons req reqs ih =>
    obtain ⟨o, ho⟩ := @evaluateRequirement_adds engine evidence now acc req
    obtain ⟨os, hos⟩ := ih (evaluateRequirement engine evidence now acc req)
    exact ⟨o :: os, ho.trans hos⟩

/-! ## The outcome -/

/-- What the loop starts from. -/
def evaluationStart (engine : EngineDefinition) (profile : ReadinessProfile)
    (inc : EngineIncarnation) : Evaluation where
  result :=
    { engineId := engine.engineId
      engineGeneration := engine.engineGeneration
      incarnationId := inc.incarnationId
      incarnationGeneration := inc.incarnationGeneration
      profileId := profile.profileId
      profileGeneration := profile.profileGeneration
      readinessGeneration := inc.readinessGeneration
      coherentSnapshot := true }

/-- What the loop has found in the end. -/
def evaluated (engine : EngineDefinition) (profile : ReadinessProfile) (inc : EngineIncarnation)
    (evidence : List ComponentEvidence) (now : DurationNs) : Evaluation :=
  profile.requirements.foldl (evaluateRequirement engine evidence now)
    (evaluationStart engine profile inc)

/-- The outcome that the loop's findings are combined into. -/
def Evaluation.outcome (acc : Evaluation) : ReadinessOutcome :=
  if acc.hasIncompatible then .blocked
  else if acc.hasRequiredMissing then .blocked
  else if acc.hasRequiredStale then .stale
  else if acc.fallbackUsed then .degraded
  else .ready

/-- After the loop nothing is written but the outcome and its explanation. -/
structure Concludes (acc : Evaluation) (r : ReadinessResult) : Prop where
  outcome : r.outcome = acc.outcome
  requirementOutcomes : r.requirementOutcomes = acc.result.requirementOutcomes
  missing : r.missing = acc.result.missing
  incompatible : r.incompatible = acc.result.incompatible
  staleEvidence : r.staleEvidence = acc.result.staleEvidence

theorem evaluateReadiness_concludes (engine : EngineDefinition) (profile : ReadinessProfile)
    (inc : EngineIncarnation) (evidence : List ComponentEvidence) (now : DurationNs) :
    Concludes (evaluated engine profile inc evidence now)
      (evaluateReadiness engine profile inc evidence now) := by
  unfold evaluateReadiness
  generalize hacc : evaluated engine profile inc evidence now = acc
  unfold evaluated evaluationStart at hacc
  simp only [hacc]
  split <;> split <;> (repeat' split) <;> constructor <;> simp [Evaluation.outcome, *]

/-- Something keeps the profile from being served for good, not only for its age. -/
def ReadinessProfile.IsBlocked (engine : EngineDefinition) (profile : ReadinessProfile)
    (evidence : List ComponentEvidence) : Prop :=
  ∃ req ∈ profile.requirements, IsIncompatible engine evidence req ∨ IsMissing evidence req

/-- The evidence for some requirement is too old. -/
def ReadinessProfile.IsAged (engine : EngineDefinition) (profile : ReadinessProfile)
    (evidence : List ComponentEvidence) (now : DurationNs) : Prop :=
  ∃ req ∈ profile.requirements, IsStale engine evidence now req

def ReadinessProfile.HasFallback (profile : ReadinessProfile) : Prop :=
  ∃ req ∈ profile.requirements, req.kind = .permittedFallback

theorem any_iff_of_forall₂ {α β : Type} {R : α → β → Prop} {as : List α} {bs : List β}
    {p : β → Bool} {q : α → Prop} (h : List.Forall₂ R as bs)
    (hiff : ∀ a b, R a b → (p b = true ↔ q a)) : bs.any p = true ↔ ∃ a ∈ as, q a := by
  induction h with
  | nil => simp
  | cons hab _ ih => simp [ih, hiff _ _ hab]

theorem exists_of_forall₂ {α β : Type} {R : α → β → Prop} {as : List α} {bs : List β}
    (h : List.Forall₂ R as bs) {b : β} (hb : b ∈ bs) : ∃ a ∈ as, R a b := by
  induction h with
  | nil => cases hb
  | @cons a _ _ _ hab _ ih =>
    rcases List.mem_cons.mp hb with rfl | hb
    · exact ⟨a, List.mem_cons_self, hab⟩
    · obtain ⟨a', ha', hab'⟩ := ih hb
      exact ⟨a', List.mem_cons_of_mem _ ha', hab'⟩

/-- The findings of the loop, without the loop. -/
structure Found (engine : EngineDefinition) (profile : ReadinessProfile)
    (evidence : List ComponentEvidence) (now : DurationNs) (acc : Evaluation) : Prop where
  blocked : acc.hasIncompatible = true ∨ acc.hasRequiredMissing = true ↔
    profile.IsBlocked engine evidence
  aged : acc.hasRequiredStale = true ↔ profile.IsAged engine evidence now
  fallback : ¬ profile.IsBlocked engine evidence → ¬ profile.IsAged engine evidence now →
    (acc.fallbackUsed = true ↔ profile.HasFallback)

section Verdict

variable (engine profile inc evidence now)

/-- The loop judges every requirement of the profile. -/
theorem evaluated_adds :
    ∃ os, Adds engine evidence now profile.requirements (evaluationStart engine profile inc)
      (evaluated engine profile inc evidence now) os :=
  foldl_adds _ _

theorem evaluated_found :
    Found engine profile evidence now (evaluated engine profile inc evidence now) := by
  obtain ⟨os, h⟩ := evaluated_adds engine profile inc evidence now
  have hincompatible : (evaluated engine profile inc evidence now).hasIncompatible = true ↔
      ∃ req ∈ profile.requirements, IsIncompatible engine evidence req := by
    rw [h.hasIncompatible, ← any_iff_of_forall₂ h.judged fun _ _ hj => hj.incompatible]
    rfl
  have hmissing : (evaluated engine profile inc evidence now).hasRequiredMissing = true ↔
      ∃ req ∈ profile.requirements, IsMissing evidence req := by
    rw [h.hasRequiredMissing, ← any_iff_of_forall₂ h.judged fun _ _ hj => hj.missing]
    rfl
  constructor
  case blocked =>
    rw [hincompatible, hmissing, ReadinessProfile.IsBlocked]
    constructor
    · rintro (⟨req, hreq, hi⟩ | ⟨req, hreq, hm⟩)
      · exact ⟨req, hreq, .inl hi⟩
      · exact ⟨req, hreq, .inr hm⟩
    · rintro ⟨req, hreq, hi | hm⟩
      · exact .inl ⟨req, hreq, hi⟩
      · exact .inr ⟨req, hreq, hm⟩
  case aged =>
    rw [h.hasRequiredStale, ReadinessProfile.IsAged,
      ← any_iff_of_forall₂ h.judged fun _ _ hj => hj.stale]
    rfl
  case fallback =>
    intro hblocked haged
    have hused : (evaluated engine profile inc evidence now).fallbackUsed = true ↔
        ∃ req ∈ profile.requirements, (¬ IsIncompatible engine evidence req ∧
          ¬ IsMissing evidence req ∧ ¬ IsStale engine evidence now req) ∧
          req.kind = .permittedFallback := by
      rw [h.fallbackUsed, ← any_iff_of_forall₂ h.judged
        (p := fun o => o.satisfied && o.kind == .permittedFallback) fun _ _ hj => by
          rw [Bool.and_eq_true, hj.satisfied, beq_iff_eq, hj.kind]]
      rfl
    rw [hused]
    constructor
    · rintro ⟨req, hreq, -, hkind⟩
      exact ⟨req, hreq, hkind⟩
    · rintro ⟨req, hreq, hkind⟩
      exact ⟨req, hreq, ⟨fun hi => hblocked ⟨req, hreq, .inl hi⟩,
        fun hm => hblocked ⟨req, hreq, .inr hm⟩, fun hs => haged ⟨req, hreq, hs⟩⟩, hkind⟩

variable {engine profile inc evidence now}

/-! The four outcomes. -/

open Classical in
/-- The first of the three findings that applies decides the outcome. -/
theorem outcome_eq :
    (evaluateReadiness engine profile inc evidence now).outcome =
      if profile.IsBlocked engine evidence then .blocked
      else if profile.IsAged engine evidence now then .stale
      else if profile.HasFallback then .degraded
      else .ready := by
  obtain ⟨hblocked, haged, hfallback⟩ := evaluated_found engine profile inc evidence now
  rw [(evaluateReadiness_concludes engine profile inc evidence now).outcome, ← hblocked, ← haged]
  generalize evaluated engine profile inc evidence now = acc at hblocked haged hfallback
  unfold Evaluation.outcome
  grind

theorem outcome_blocked_iff :
    (evaluateReadiness engine profile inc evidence now).outcome = .blocked ↔
      profile.IsBlocked engine evidence := by
  rw [outcome_eq]
  split_ifs <;> simp_all

theorem outcome_stale_iff :
    (evaluateReadiness engine profile inc evidence now).outcome = .stale ↔
      ¬ profile.IsBlocked engine evidence ∧ profile.IsAged engine evidence now := by
  rw [outcome_eq]
  split_ifs <;> simp_all

theorem outcome_degraded_iff :
    (evaluateReadiness engine profile inc evidence now).outcome = .degraded ↔
      ¬ profile.IsBlocked engine evidence ∧ ¬ profile.IsAged engine evidence now ∧
        profile.HasFallback := by
  rw [outcome_eq]
  split_ifs <;> simp_all

theorem outcome_ready_iff :
    (evaluateReadiness engine profile inc evidence now).outcome = .ready ↔
      ¬ profile.IsBlocked engine evidence ∧ ¬ profile.IsAged engine evidence now ∧
        ¬ profile.HasFallback := by
  rw [outcome_eq]
  split_ifs <;> simp_all

/-- An evaluation authorizes work when nothing is in the way. -/
theorem outcome_serves_iff :
    (evaluateReadiness engine profile inc evidence now).outcome.serves ↔
      ¬ profile.IsBlocked engine evidence ∧ ¬ profile.IsAged engine evidence now := by
  rw [ReadinessOutcome.serves, outcome_ready_iff, outcome_degraded_iff]
  tauto

/-- The evaluation records one outcome for each requirement, in their order. -/
theorem evaluateReadiness_judged :
    List.Forall₂ (Judged engine evidence now) profile.requirements
      (evaluateReadiness engine profile inc evidence now).requirementOutcomes := by
  obtain ⟨os, h⟩ := evaluated_adds engine profile inc evidence now
  rw [(evaluateReadiness_concludes engine profile inc evidence now).requirementOutcomes,
    h.recorded]
  exact h.judged

/-- What an outcome marks as satisfied has evidence, unless the requirement may be passed
over. -/
theorem evaluateReadiness_forall₂ :
    List.Forall₂ (fun req o => req.IsDemanded → o.satisfied = true → ∃ e, Satisfies evidence req e)
      profile.requirements (evaluateReadiness engine profile inc evidence now).requirementOutcomes := by
  refine evaluateReadiness_judged.imp fun req o hj hdemanded hsatisfied => ?_
  by_contra hnone
  exact (hj.satisfied.mp hsatisfied).2.1 ⟨.inl hdemanded, not_exists.mp hnone⟩

/-- An evaluation that authorizes work has found evidence for every requirement that
cannot be passed over. -/
theorem satisfies_of_serves
    (h : (evaluateReadiness engine profile inc evidence now).outcome.serves)
    {req : ProfileRequirement} (hreq : req ∈ profile.requirements) (hdemanded : req.IsDemanded) :
    ∃ e, Satisfies evidence req e := by
  by_contra hnone
  exact (outcome_serves_iff.mp h).1 ⟨req, hreq, .inr ⟨.inl hdemanded, not_exists.mp hnone⟩⟩

end Verdict

/-- The result says what the findings on the requirements are, and nothing else. -/
structure Means (engine : EngineDefinition) (profile : ReadinessProfile)
    (evidence : List ComponentEvidence) (now : DurationNs) (r : ReadinessResult) : Prop where
  blocked : r.outcome = .blocked ↔ profile.IsBlocked engine evidence
  stale : r.outcome = .stale ↔
    ¬ profile.IsBlocked engine evidence ∧ profile.IsAged engine evidence now
  degraded : r.outcome = .degraded ↔ ¬ profile.IsBlocked engine evidence ∧
    ¬ profile.IsAged engine evidence now ∧ profile.HasFallback
  ready : r.outcome = .ready ↔ ¬ profile.IsBlocked engine evidence ∧
    ¬ profile.IsAged engine evidence now ∧ ¬ profile.HasFallback
  judged : List.Forall₂ (Judged engine evidence now) profile.requirements r.requirementOutcomes
  marked : ∀ o ∈ r.requirementOutcomes, ∃! f, o.marks f = true
  missing : r.missing = (r.requirementOutcomes.filter (·.missing)).map (·.subject)
  incompatible : r.incompatible = (r.requirementOutcomes.filter (·.incompatible)).map (·.subject)
  staleEvidence : r.staleEvidence = (r.requirementOutcomes.filter (·.stale)).map (·.subject)

/-- The readiness evaluation is its meaning. -/
theorem evaluateReadiness_means (engine : EngineDefinition) (profile : ReadinessProfile)
    (inc : EngineIncarnation) (evidence : List ComponentEvidence) (now : DurationNs) :
    Means engine profile evidence now (evaluateReadiness engine profile inc evidence now) := by
  obtain ⟨os, h⟩ := evaluated_adds engine profile inc evidence now
  have hconcludes := evaluateReadiness_concludes engine profile inc evidence now
  have hos : (evaluateReadiness engine profile inc evidence now).requirementOutcomes = os :=
    hconcludes.requirementOutcomes.trans h.recorded
  constructor
  case blocked => exact outcome_blocked_iff
  case stale => exact outcome_stale_iff
  case degraded => exact outcome_degraded_iff
  case ready => exact outcome_ready_iff
  case judged => exact evaluateReadiness_judged
  case marked =>
    intro o ho
    obtain ⟨req, -, hj⟩ := exists_of_forall₂ evaluateReadiness_judged ho
    exact hj.existsUnique_marks
  case missing =>
    rw [hos]
    exact hconcludes.missing.trans h.missing
  case incompatible =>
    rw [hos]
    exact hconcludes.incompatible.trans h.incompatible
  case staleEvidence =>
    rw [hos]
    exact hconcludes.staleEvidence.trans h.staleEvidence

end EngineResidency
