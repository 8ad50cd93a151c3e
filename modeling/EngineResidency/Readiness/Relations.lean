-- SUMMARY: How two evaluations relate: at two times, without the optional requirements, for another profile.
import EngineResidency.Readiness.Meaning

/-!
# Relations between evaluations

Time only ages evidence, and an evaluation follows it. An optional requirement is meant to
be passed over, and a record that is bound to a profile is meant for this profile alone;
the evaluator keeps neither of the two rules in every case, and the exact cases are given.
-/

namespace EngineResidency

variable {engine : EngineDefinition} {profile : ReadinessProfile} {inc : EngineIncarnation}
  {evidence : List ComponentEvidence} {now t₁ t₂ : DurationNs} {req : ProfileRequirement}

/-! ## Time -/

/-- Evidence that is fresh was fresh before, from its observation on. -/
theorem isFresh_antitone {e : ComponentEvidence} (hobserved : e.observedAtNs ≤ t₁)
    (hle : t₁ ≤ t₂) (h : e.isFresh t₂ = true) : e.isFresh t₁ = true := by
  unfold ComponentEvidence.isFresh at h ⊢
  split at h
  · rw [if_pos ‹_›]
  rename_i hexpires
  split at h
  · cases h
  rename_i hknown
  rw [if_neg hexpires, if_neg hknown]
  have hobserved₂ : e.observedAtNs ≤ t₂ := UInt64.le_trans hobserved hle
  simp only [hobserved, hobserved₂, decide_true, Bool.true_and, decide_eq_true_eq,
    UInt64.le_iff_toNat_le, UInt64.toNat_sub_of_le _ _ hobserved,
    UInt64.toNat_sub_of_le _ _ hobserved₂] at h hle ⊢
  omega

theorem IsStale.mono (hobserved : ∀ e ∈ evidence, e.observedAtNs ≤ t₁) (hle : t₁ ≤ t₂)
    (h : IsStale engine evidence t₁ req) : IsStale engine evidence t₂ req := by
  obtain ⟨hmandatory, hi, hm, e, hselected, hold⟩ := h
  refine ⟨hmandatory, hi, hm, e, hselected, Bool.eq_false_iff.mpr fun hfresh => ?_⟩
  have hbefore := isFresh_antitone (hobserved e (bestEvidence_mem hselected).1) hle hfresh
  rw [hold] at hbefore
  cases hbefore

theorem ReadinessProfile.IsAged.mono (hobserved : ∀ e ∈ evidence, e.observedAtNs ≤ t₁)
    (hle : t₁ ≤ t₂) (h : profile.IsAged engine evidence t₁) :
    profile.IsAged engine evidence t₂ := by
  obtain ⟨req, hreq, hs⟩ := h
  exact ⟨req, hreq, hs.mono hobserved hle⟩

/-- Passing time only ages readiness. -/
theorem readiness_only_ages (engine : EngineDefinition) (profile : ReadinessProfile)
    (inc : EngineIncarnation) (evidence : List ComponentEvidence) (t₁ t₂ : DurationNs)
    (hle : t₁ ≤ t₂) (hobserved : ∀ e ∈ evidence, e.observedAtNs ≤ t₁) :
    ((evaluateReadiness engine profile inc evidence t₁).outcome = .blocked →
      (evaluateReadiness engine profile inc evidence t₂).outcome = .blocked) ∧
    ((evaluateReadiness engine profile inc evidence t₁).outcome = .stale →
      (evaluateReadiness engine profile inc evidence t₂).outcome = .stale) ∧
    ((evaluateReadiness engine profile inc evidence t₂).outcome.serves →
      (evaluateReadiness engine profile inc evidence t₁).outcome =
        (evaluateReadiness engine profile inc evidence t₂).outcome) := by
  refine ⟨fun h => ?_, fun h => ?_, fun h => ?_⟩
  · -- What blocks a profile does not depend on the time.
    rw [outcome_blocked_iff] at h ⊢
    exact h
  · rw [outcome_stale_iff] at h ⊢
    exact ⟨h.1, h.2.mono hobserved hle⟩
  · have hyoung : ¬ profile.IsAged engine evidence t₁ :=
      fun haged => (outcome_serves_iff.mp h).2 (haged.mono hobserved hle)
    rcases h with h | h
    · rw [h]
      rw [outcome_ready_iff] at h ⊢
      exact ⟨h.1, hyoung, h.2.2⟩
    · rw [h]
      rw [outcome_degraded_iff] at h ⊢
      exact ⟨h.1, hyoung, h.2.2⟩

/-- Evidence for the model that is sampled at time 10 and expires after 5. -/
def sampleAging : List ComponentEvidence :=
  [{ category := .model, state := .verified, observedAtNs := 10, maxAgeNs := 5 }]

def sampleModelProfile : ReadinessProfile := { requirements := [{}] }

theorem readiness_only_ages_sample :
    (evaluateReadiness {} sampleModelProfile {} sampleAging 15).outcome = .ready ∧
      (evaluateReadiness {} sampleModelProfile {} sampleAging 16).outcome = .stale ∧
      (evaluateReadiness {} sampleModelProfile {} sampleAging 100).outcome = .stale ∧
      (evaluateReadiness {} sampleModelProfile {} sampleAging 12).outcome = .ready := by
  have hready : (evaluateReadiness {} sampleModelProfile {} sampleAging 15).outcome = .ready := by
    decide +kernel
  have hstale : (evaluateReadiness {} sampleModelProfile {} sampleAging 16).outcome = .stale := by
    decide +kernel
  obtain ⟨-, hlater, -⟩ :=
    readiness_only_ages {} sampleModelProfile {} sampleAging 16 100 (by decide) (by decide)
  obtain ⟨-, -, hearlier⟩ :=
    readiness_only_ages {} sampleModelProfile {} sampleAging 12 15 (by decide) (by decide)
  exact ⟨hready, hstale, hlater hstale, (hearlier (.inl hready)).trans hready⟩

/-! ## Optional requirements -/

/-- The profile without its optional requirements. -/
def ReadinessProfile.withoutOptional (profile : ReadinessProfile) : ReadinessProfile :=
  { profile with requirements := profile.requirements.filter (·.kind ≠ .optional) }

theorem mem_withoutOptional :
    req ∈ profile.withoutOptional.requirements ↔ req ∈ profile.requirements ∧ req.kind ≠ .optional := by
  simp [ReadinessProfile.withoutOptional]

/-- An optional requirement can only be incompatible. -/
theorem isBlocked_iff_withoutOptional :
    profile.IsBlocked engine evidence ↔ profile.withoutOptional.IsBlocked engine evidence ∨
      ∃ req ∈ profile.requirements, req.kind = .optional ∧ IsIncompatible engine evidence req := by
  constructor
  · rintro ⟨req, hreq, hblocks⟩
    by_cases hkind : req.kind = .optional
    · exact .inr ⟨req, hreq, hkind, hblocks.resolve_right (not_isMissing_of_optional hkind)⟩
    · exact .inl ⟨req, mem_withoutOptional.mpr ⟨hreq, hkind⟩, hblocks⟩
  · rintro (⟨req, hreq, hblocks⟩ | ⟨req, hreq, -, hi⟩)
    · exact ⟨req, (mem_withoutOptional.mp hreq).1, hblocks⟩
    · exact ⟨req, hreq, .inl hi⟩

theorem isAged_withoutOptional :
    profile.withoutOptional.IsAged engine evidence now ↔ profile.IsAged engine evidence now := by
  constructor
  · rintro ⟨req, hreq, hs⟩
    exact ⟨req, (mem_withoutOptional.mp hreq).1, hs⟩
  · rintro ⟨req, hreq, hs⟩
    have hkind : req.kind ≠ .optional := fun hkind => not_isStale_of_optional hkind hs
    exact ⟨req, mem_withoutOptional.mpr ⟨hreq, hkind⟩, hs⟩

theorem hasFallback_withoutOptional :
    profile.withoutOptional.HasFallback ↔ profile.HasFallback := by
  constructor
  · rintro ⟨req, hreq, hkind⟩
    exact ⟨req, (mem_withoutOptional.mp hreq).1, hkind⟩
  · rintro ⟨req, hreq, hkind⟩
    exact ⟨req, mem_withoutOptional.mpr ⟨hreq, by simp [hkind]⟩, hkind⟩

/-- Two evaluations with the same findings have the same outcome. -/
theorem outcome_congr {profile' : ReadinessProfile}
    (hblocked : profile.IsBlocked engine evidence ↔ profile'.IsBlocked engine evidence)
    (haged : profile.IsAged engine evidence now ↔ profile'.IsAged engine evidence now)
    (hfallback : profile.HasFallback ↔ profile'.HasFallback) :
    (evaluateReadiness engine profile inc evidence now).outcome =
      (evaluateReadiness engine profile' inc evidence now).outcome := by
  by_cases hb : profile.IsBlocked engine evidence
  · rw [outcome_blocked_iff.mpr hb, outcome_blocked_iff.mpr (hblocked.mp hb)]
  by_cases ha : profile.IsAged engine evidence now
  · rw [outcome_stale_iff.mpr ⟨hb, ha⟩,
      outcome_stale_iff.mpr ⟨fun h => hb (hblocked.mpr h), haged.mp ha⟩]
  by_cases hf : profile.HasFallback
  · rw [outcome_degraded_iff.mpr ⟨hb, ha, hf⟩, outcome_degraded_iff.mpr
      ⟨fun h => hb (hblocked.mpr h), fun h => ha (haged.mpr h), hfallback.mp hf⟩]
  · rw [outcome_ready_iff.mpr ⟨hb, ha, hf⟩, outcome_ready_iff.mpr
      ⟨fun h => hb (hblocked.mpr h), fun h => ha (haged.mpr h), fun h => hf (hfallback.mpr h)⟩]

/-- The optional requirements do not count in the outcome exactly when none of them is
incompatible, or the profile is blocked anyway. -/
theorem optional_never_blocks_iff (engine : EngineDefinition) (profile : ReadinessProfile)
    (inc : EngineIncarnation) (evidence : List ComponentEvidence) (now : DurationNs) :
    (evaluateReadiness engine profile.withoutOptional inc evidence now).outcome =
        (evaluateReadiness engine profile inc evidence now).outcome ↔
      (∀ req ∈ profile.requirements, req.kind = .optional → ∀ e, Satisfies evidence req e →
        ¬ req.Mismatches engine e) ∨
      ∃ req ∈ profile.requirements, req.kind ≠ .optional ∧
        (IsIncompatible engine evidence req ∨ IsMissing evidence req) := by
  have hother : (∃ req ∈ profile.requirements, req.kind ≠ .optional ∧
      (IsIncompatible engine evidence req ∨ IsMissing evidence req)) ↔
      profile.withoutOptional.IsBlocked engine evidence := by
    simp only [ReadinessProfile.IsBlocked, mem_withoutOptional, and_assoc]
  rw [hother]
  constructor
  · intro h
    by_contra hneither
    obtain ⟨hsome, hfree⟩ := not_or.mp hneither
    push Not at hsome
    obtain ⟨req, hreq, hkind, e, hsatisfies, hmismatches⟩ := hsome
    have hblocked : (evaluateReadiness engine profile inc evidence now).outcome = .blocked :=
      outcome_blocked_iff.mpr ⟨req, hreq, .inl (.inr ⟨e, hsatisfies, hmismatches⟩)⟩
    exact hfree (outcome_blocked_iff.mp (h.trans hblocked))
  · intro h
    refine outcome_congr ⟨fun hb => isBlocked_iff_withoutOptional.mpr (.inl hb), fun hb => ?_⟩
      isAged_withoutOptional hasFallback_withoutOptional
    rcases h with hnone | hother
    · refine (isBlocked_iff_withoutOptional.mp hb).resolve_right ?_
      rintro ⟨req, hreq, hkind, hunsupported | ⟨e, hsatisfies, hmismatches⟩⟩
      · rw [hkind] at hunsupported
        cases hunsupported
      · exact hnone req hreq hkind e hsatisfies hmismatches
    · exact hother

/-- The graph is optional, and asked for in the generation of the engine. -/
def sampleOptionalProfile : ReadinessProfile :=
  { requirements := [{}, { category := .graph, kind := .optional, generationFamily := .graph }] }

/-- The model is there, and a graph of a generation that the engine does not have. -/
def sampleOtherGraph : List ComponentEvidence :=
  [{ category := .model, state := .verified },
    { category := .graph, state := .verified, graphGeneration := ⟨2⟩ }]

/-- An optional graph of another generation blocks a profile that is ready without it. -/
theorem optional_blocks :
    ¬ (evaluateReadiness {} sampleOptionalProfile.withoutOptional {} sampleOtherGraph 0).outcome =
      (evaluateReadiness {} sampleOptionalProfile {} sampleOtherGraph 0).outcome := by
  decide +kernel

/-! ## Other profiles -/

/-- The record is bound to a profile, and not to this one. -/
def ReadinessProfile.Excludes (profile : ReadinessProfile) (e : ComponentEvidence) : Prop :=
  e.profileId.isValid = true ∧ e.profileId ≠ profile.profileId

/-- No record of another profile satisfies a demanded requirement of this one, and where
such a record is what there is for one, the profile is not served. -/
structure KeepsApart (profile : ReadinessProfile) (evidence : List ComponentEvidence)
    (r : ReadinessResult) : Prop where
  satisfied : List.Forall₂ (fun req o => req.IsDemanded → o.satisfied = true →
    ∀ e, bestEvidence evidence req.category req.subject [] = some e → ¬ profile.Excludes e)
    profile.requirements r.requirementOutcomes
  served : ∀ req ∈ profile.requirements, req.IsDemanded →
    ∀ e, bestEvidence evidence req.category req.subject [] = some e → profile.Excludes e →
      ¬ r.outcome.serves

/-- The record does not do for the requirement, whichever profile it is bound to. -/
def ProfileRequirement.Rejects (engine : EngineDefinition) (now : DurationNs)
    (req : ProfileRequirement) (e : ComponentEvidence) : Prop :=
  stateSatisfies e.state req.minState = false ∨ req.Mismatches engine e ∨ e.isFresh now = false

section Selected

variable {e : ComponentEvidence}
  (hselected : bestEvidence evidence req.category req.subject [] = some e)
include hselected

/-- A requirement that has to be met is met exactly when its best evidence does for it. -/
theorem found_iff_rejects (hmandatory : req.IsMandatory) :
    (IsIncompatible engine evidence req ∨ IsMissing evidence req ∨ IsStale engine evidence now req) ↔
      req.Rejects engine now e := by
  have hsupported : req.kind ≠ .unsupported := (isMandatory_iff.mp hmandatory).1
  cases hstate : stateSatisfies e.state req.minState with
  | false =>
    have hm : IsMissing evidence req :=
      ⟨hmandatory, not_satisfies_of_weak hselected hstate⟩
    exact iff_of_true (.inr (.inl hm)) (.inl hstate)
  | true =>
    have hm : ¬ IsMissing evidence req := not_isMissing_of_strong hselected hstate
    have hi : IsIncompatible engine evidence req ↔ req.Mismatches engine e :=
      isIncompatible_iff_of_strong hselected hstate hsupported
    by_cases hmismatches : req.Mismatches engine e
    · exact iff_of_true (.inl (hi.mpr hmismatches)) (.inr (.inl hmismatches))
    have hfits : ¬ IsIncompatible engine evidence req := fun h => hmismatches (hi.mp h)
    constructor
    · rintro (h | h | ⟨-, -, -, e', hselected', hold⟩)
      · exact absurd h hfits
      · exact absurd h hm
      · cases hselected.symm.trans hselected'
        exact .inr (.inr hold)
    · rintro (h | h | h)
      · rw [hstate] at h
        cases h
      · exact absurd h hmismatches
      · exact .inr (.inr ⟨hmandatory, hfits, hm, e, hselected, h⟩)

end Selected

/-- A relation that depends on the requirement alone is about the requirements. -/
theorem forall₂_iff_of_forall₂ {α β : Type} {R S : α → β → Prop} {as : List α} {bs : List β}
    {q : α → Prop} (h : List.Forall₂ R as bs) (hiff : ∀ a b, R a b → (S a b ↔ q a)) :
    List.Forall₂ S as bs ↔ ∀ a ∈ as, q a := by
  induction h with
  | nil => simp
  | cons hab _ ih => simp [ih, hiff _ _ hab]

/-- Profiles are kept apart exactly when no record of another profile does for a demanded
requirement that it is the best evidence for. -/
theorem profiles_isolated_iff (engine : EngineDefinition) (profile : ReadinessProfile)
    (inc : EngineIncarnation) (evidence : List ComponentEvidence) (now : DurationNs) :
    KeepsApart profile evidence (evaluateReadiness engine profile inc evidence now) ↔
      ∀ req ∈ profile.requirements, req.IsDemanded →
        ∀ e, bestEvidence evidence req.category req.subject [] = some e → profile.Excludes e →
          req.Rejects engine now e := by
  have hsatisfied : List.Forall₂ (fun req o => req.IsDemanded → o.satisfied = true →
      ∀ e, bestEvidence evidence req.category req.subject [] = some e → ¬ profile.Excludes e)
      profile.requirements (evaluateReadiness engine profile inc evidence now).requirementOutcomes ↔
      ∀ req ∈ profile.requirements, req.IsDemanded → ∀ e,
        bestEvidence evidence req.category req.subject [] = some e → profile.Excludes e →
          req.Rejects engine now e := by
    refine forall₂_iff_of_forall₂ evaluateReadiness_judged fun req o hj => ?_
    rw [hj.satisfied]
    refine forall_congr' fun hdemanded => ?_
    constructor
    · intro h e hselected hexcludes
      refine (found_iff_rejects hselected (.inl hdemanded)).mp ?_
      by_contra hnothing
      obtain ⟨hi, hrest⟩ := not_or.mp hnothing
      exact h ⟨hi, not_or.mp hrest⟩ e hselected hexcludes
    · rintro h ⟨hi, hm, hs⟩ e hselected hexcludes
      rcases (found_iff_rejects hselected (.inl hdemanded)).mpr (h e hselected hexcludes) with
        hfound | hfound | hfound
      · exact hi hfound
      · exact hm hfound
      · exact hs hfound
  constructor
  · intro h
    exact hsatisfied.mp h.satisfied
  · intro h
    refine ⟨hsatisfied.mpr h, ?_⟩
    intro req hreq hdemanded e hselected hexcludes hserves
    obtain ⟨hfree, hyoung⟩ := outcome_serves_iff.mp hserves
    rcases (found_iff_rejects hselected (.inl hdemanded)).mpr
      (h req hreq hdemanded e hselected hexcludes) with hi | hm | hs
    · exact hfree ⟨req, hreq, .inl hi⟩
    · exact hfree ⟨req, hreq, .inr hm⟩
    · exact hyoung ⟨req, hreq, hs⟩

/-- A profile that asks for a completed warmup. -/
def sampleWarmProfile : ReadinessProfile :=
  { profileId := ⟨1⟩, requirements := [{ category := .warmup }] }

/-- A warmup that was run for profile 2. -/
def sampleOtherWarmup : ComponentEvidence :=
  { category := .warmup, state := .verified, profileId := ⟨2⟩ }

/-- A warmup for profile 2 makes profile 1 ready. -/
theorem warmup_crosses_profiles :
    sampleWarmProfile.Excludes sampleOtherWarmup ∧
      (evaluateReadiness {} sampleWarmProfile {} [sampleOtherWarmup] 0).outcome = .ready ∧
      ¬ KeepsApart sampleWarmProfile [sampleOtherWarmup]
        (evaluateReadiness {} sampleWarmProfile {} [sampleOtherWarmup] 0) := by
  have hexcludes : sampleWarmProfile.Excludes sampleOtherWarmup := ⟨rfl, by decide⟩
  have hready : (evaluateReadiness {} sampleWarmProfile {} [sampleOtherWarmup] 0).outcome =
      .ready := by decide +kernel
  refine ⟨hexcludes, hready, fun h => ?_⟩
  exact h.served { category := .warmup } (by decide) (.inl rfl) sampleOtherWarmup rfl
    hexcludes (.inl hready)

end EngineResidency
