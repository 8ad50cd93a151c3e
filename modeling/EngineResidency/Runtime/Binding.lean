-- SUMMARY: When the attempts of a run without recovery stay bound to their stored plans.
import EngineResidency.Runtime.Attempts

/-!
# Attempts and their plans

The plan that an attempt executes is the stored one: its steps are read from the table
each time. What the attempt says about its incarnation and its profile is copied from the
plan that the caller brings along, of which only the identity is compared with the table;
and a completion reads the evidence, not the steps that have been taken. `KeepsBinding`
is the check that these two leave out.
-/

namespace EngineResidency

/-- What the attempt says is what the plan says, as far as its steps have been taken. -/
structure PreparationAttempt.BoundTo (a : PreparationAttempt) (plan : PreparationPlan) : Prop where
  incarnationId : a.incarnationId = plan.incarnationId
  incarnationGeneration : a.incarnationGeneration = plan.incarnationGeneration
  profileId : a.profileId = plan.profileId
  profileGeneration : a.profileGeneration = plan.profileGeneration
  within : a.nextStepIndex ≤ plan.steps.length
  completedSteps :
    a.completedSteps = (plan.steps.take a.nextStepIndex).map PreparationStep.description
  publishedReady : a.publishedReady = true → a.nextStepIndex = plan.steps.length

/-- The caller's copy names the same incarnation and the same profile as the stored plan. -/
structure PreparationPlan.Copies (copy stored : PreparationPlan) : Prop where
  incarnationId : copy.incarnationId = stored.incarnationId
  incarnationGeneration : copy.incarnationGeneration = stored.incarnationGeneration
  profileId : copy.profileId = stored.profileId
  profileGeneration : copy.profileGeneration = stored.profileGeneration

namespace Runtime

variable {s s' : Impl} {op : Op} {r : Except Err Reply} {a : PreparationAttempt}
  {plan : PreparationPlan} {outcome : ReadinessOutcome}

/-- Every attempt is bound to the stored plan that it names. -/
def AttemptsBound (s : Impl) : Prop :=
  s.attempts.All fun a => ∃ plan, s.plans.lookup a.planId = some plan ∧ a.BoundTo plan

/-- A plan that an attempt begins with copies the stored one, and an attempt that publishes
READY has taken all steps. -/
def KeepsBinding (s : Impl) : Op → Prop
  | .beginPreparation plan => Begins s plan → ∀ stored,
    s.plans.lookup plan.planId = some stored → plan.Copies stored
  | .completePreparation x now => ∀ a inc outcome plan, Finishes s x now a inc outcome →
    outcome.serves → s.plans.lookup a.planId = some plan → plan.steps.length ≤ a.nextStepIndex
  | _ => True

/-! ## Plans are never overwritten -/

/-- The counter behind the plans counts them, and every plan lies below those to come. -/
structure PlansNumbered (s : Impl) : Prop where
  counter : s.idPlan.toNat = s.plans.size
  below : ∀ id plan, s.plans.lookup id = some plan → id.raw.toNat ≤ s.idPlan.toNat + 1

theorem plansNumbered_new (opts : RuntimeOptions) : PlansNumbered (Impl.new opts) :=
  ⟨rfl, fun id plan hplan => by simp [Impl.new] at hplan⟩

/-- There is room for the next plan below the end of the counter. -/
theorem PlansNumbered.toNat_next (hs : PlansNumbered s)
    (hroom : s.plans.size < s.opts.maxPendingPreparationAttempts.toNat) :
    (s.idPlan + 1 + 1).toNat = s.idPlan.toNat + 2 ∧ (s.idPlan + 1).toNat = s.idPlan.toNat + 1 := by
  have hmax := s.opts.maxPendingPreparationAttempts.toNat_lt
  have hcounter := hs.counter
  have hone : (1 : UInt64).toNat = 1 := rfl
  simp only [UInt64.toNat_add, hone]
  omega

theorem PlansNumbered.fresh (hs : PlansNumbered s)
    (hroom : s.plans.size < s.opts.maxPendingPreparationAttempts.toNat) :
    s.plans.lookup ⟨s.idPlan + 1 + 1⟩ = none := by
  cases hplan : s.plans.lookup ⟨s.idPlan + 1 + 1⟩ with
  | none => rfl
  | some plan =>
    have hle : (s.idPlan + 1 + 1).toNat ≤ s.idPlan.toNat + 1 := hs.below _ plan hplan
    have hnext := (hs.toNat_next hroom).1
    omega

theorem Transition.plansNumbered (h : Transition s op r s') (hload : ¬ op.IsLoad)
    (hs : PlansNumbered s) : PlansNumbered s' := by
  cases h with
  | @createPreparationPlan incId profId target now inc profile engine plan hinc hcurrent hprofile
      hroom hengine hplan =>
    obtain ⟨hnext, hcount⟩ := hs.toNat_next hroom
    have hid : plan.planId = ⟨s.idPlan + 1 + 1⟩ := by rw [hplan]; rfl
    refine ⟨?_, fun id q hq => ?_⟩
    · change (s.idPlan + 1).toNat = (s.plans.insert plan.planId plan).size
      rw [hid, AList.size_insert_of_not_mem (hs.fresh hroom), hcount, hs.counter]
    · change id.raw.toNat ≤ (s.idPlan + 1).toNat + 1
      have hq : (s.plans.insert plan.planId plan).lookup id = some q := hq
      rw [hid, AList.lookup_insert'] at hq
      split at hq
      · rename_i heq
        subst heq
        change (s.idPlan + 1 + 1).toNat ≤ (s.idPlan + 1).toNat + 1
        omega
      · have hle := hs.below id q hq
        omega
  | load => exact absurd trivial hload
  | _ => exact ⟨hs.counter, hs.below⟩

/-! ## One step -/

/-- A step takes the next step of the plan, if there is one. -/
theorem boundTo_advanceAttempt (h : a.BoundTo plan) : (advanceAttempt plan a).BoundTo plan := by
  obtain ⟨hinc, hincGen, hprofile, hprofileGen, hwithin, hsteps, hready⟩ := h
  unfold advanceAttempt
  cases hnext : plan.steps[a.nextStepIndex]? with
  | none =>
    dsimp only
    split <;> exact ⟨hinc, hincGen, hprofile, hprofileGen, hwithin, hsteps, hready⟩
  | some step =>
    have hlt : a.nextStepIndex < plan.steps.length := (List.getElem?_eq_some_iff.mp hnext).1
    have htaken : a.completedSteps ++ [step.description] =
        (plan.steps.take (a.nextStepIndex + 1)).map PreparationStep.description := by
      rw [List.take_add_one, hnext, List.map_append, ← hsteps]
      rfl
    -- An attempt that has published has no step left.
    have hopen : a.publishedReady = true → a.nextStepIndex + 1 = plan.steps.length :=
      fun hpublished => absurd (hready hpublished) (Nat.ne_of_lt hlt)
    dsimp only
    split <;> exact ⟨hinc, hincGen, hprofile, hprofileGen, hlt, htaken, hopen⟩

theorem boundTo_completedAttempt (h : a.BoundTo plan)
    (hdone : outcome.serves → plan.steps.length ≤ a.nextStepIndex) :
    (completedAttempt outcome a).BoundTo plan := by
  unfold completedAttempt
  split
  · rename_i hserves
    exact { h with publishedReady := fun _ => Nat.le_antisymm h.within (hdone hserves) }
  · exact { h with }

theorem completedAttempt_planId : (completedAttempt outcome a).planId = a.planId := by
  unfold completedAttempt
  split <;> rfl

theorem advanceAttempt_planId : (advanceAttempt plan a).planId = a.planId := by
  obtain ⟨n, descriptions, heq⟩ := advanceAttempt_eq plan a
  rw [heq]

/-- A new plan leaves the binding of the attempts alone. -/
theorem AttemptsBound.storePlan (hs : AttemptsBound s) (hfresh : s.plans.lookup plan.planId = none) :
    AttemptsBound (storePlan plan s) := by
  intro x a ha
  obtain ⟨q, hq, hbound⟩ := hs x a ha
  have hne : a.planId ≠ plan.planId := by
    intro heq
    rw [heq, hfresh] at hq
    cases hq
  exact ⟨q, (AList.lookup_insert_ne hne).trans hq, hbound⟩

/-- The attempt that begins is bound to the stored plan if the caller's plan copies it. -/
theorem boundTo_nextAttempt {stored : PreparationPlan} :
    (nextAttempt s plan).BoundTo stored ↔ plan.Copies stored := by
  constructor
  · intro h
    exact ⟨h.incarnationId, h.incarnationGeneration, h.profileId, h.profileGeneration⟩
  · intro h
    exact ⟨h.incarnationId, h.incarnationGeneration, h.profileId, h.profileGeneration,
      Nat.zero_le _, rfl, nofun⟩

theorem AttemptStep.attemptsBound (h : AttemptStep s op s') (hnumbered : PlansNumbered s)
    (hs : AttemptsBound s) (hop : KeepsBinding s op) : AttemptsBound s' := by
  cases h with
  | refused => exact hs
  | other _ hattempts _ hplans =>
    unfold AttemptsBound
    rw [hattempts, hplans]
    exact hs
  | planned hplan hroom => exact hs.storePlan (hplan ▸ hnumbered.fresh hroom)
  | begun hbegins =>
    obtain ⟨stored, hstored, -⟩ := hbegins.planned
    exact hs.insert ⟨stored, hstored, boundTo_nextAttempt.mpr (hop hbegins stored hstored)⟩
  | @stepped x a plan ha hsteps =>
    refine hs.modify_of_lookup ha ⟨plan, ?_, ?_⟩
    · rw [advanceAttempt_planId]
      exact hsteps.planned
    · obtain ⟨q, hq, hbound⟩ := hs x a ha
      cases hsteps.planned.symm.trans hq
      exact boundTo_advanceAttempt hbound
  | @completed x now a inc outcome hfinishes =>
    unfold AttemptsBound
    rw [completed_attempts, completed_plans]
    obtain ⟨plan, hplan, hbound⟩ := hs x a hfinishes.attempt
    refine AList.All.modify_of_lookup hs hfinishes.attempt ⟨plan, ?_, ?_⟩
    · rw [completedAttempt_planId]
      exact hplan
    · exact boundTo_completedAttempt hbound fun hserves =>
        hop a inc outcome plan hfinishes hserves hplan
  | @cancelled x a ha =>
    obtain ⟨plan, hplan, hbound⟩ := hs x a ha
    exact hs.modify_of_lookup ha ⟨plan, hplan, { hbound with }⟩
  | @rolledBack x a ha =>
    obtain ⟨plan, hplan, hbound⟩ := hs x a ha
    exact hs.modify_of_lookup ha ⟨plan, hplan, { hbound with }⟩

theorem keepsBinding_of_next (h : AttemptsBound (machine.next s op)) : KeepsBinding s op := by
  cases op with
  | beginPreparation plan =>
    intro hbegins stored hstored
    rw [beginPreparation_next hbegins] at h
    obtain ⟨q, hq, hbound⟩ := h _ _ (AList.lookup_insert _)
    cases hstored.symm.trans hq
    exact boundTo_nextAttempt.mp hbound
  | completePreparation x now =>
    intro a inc outcome plan hfinishes hserves hplan
    rw [completePreparation_next hfinishes] at h
    unfold AttemptsBound at h
    rw [completed_attempts, completed_plans] at h
    obtain ⟨q, hq, hbound⟩ := h x (completedAttempt outcome a)
      (by rw [AList.lookup_modify_self, hfinishes.attempt]; rfl)
    rw [completedAttempt_planId, hplan] at hq
    cases hq
    -- The attempt is published, so all steps have been taken.
    unfold completedAttempt at hbound
    rw [if_pos hserves] at hbound
    exact Nat.le_of_eq (hbound.publishedReady rfl).symm
  | _ => trivial

/-! ## Whole runs -/

/-- In every state of a run without recovery each attempt is bound to its stored plan if and
only if every attempt of the run begins with a copy of the stored plan and publishes READY
only after its last step. -/
theorem attempts_bound_iff (opts : RuntimeOptions) (ops : List Op)
    (hload : ∀ op ∈ ops, ¬ op.IsLoad) :
    machine.Throughout AttemptsBound (Impl.new opts) ops ↔
      machine.Along KeepsBinding (Impl.new opts) ops := by
  refine Machine.throughout_iff .empty (plansNumbered_new opts) hload ?_ ?_
  · intro s op hop hs
    exact (step_transition s op).plansNumbered hop hs
  · intro s op _ hnumbered hs
    constructor
    · intro h
      exact keepsBinding_of_next h
    · intro h
      exact (attemptStep s op).attemptsBound hnumbered hs h

/-- An attempt of the stored plan that takes its only step and publishes READY. -/
theorem attempts_bound_sample : machine.Throughout AttemptsBound (Impl.new {})
    (sampleBegun ++ [.stepPreparation ⟨2⟩, .completePreparation ⟨2⟩ 0]) := by
  refine (attempts_bound_iff {} _ (by decide)).mpr
    ⟨trivial, trivial, trivial, trivial, trivial, trivial, ?_, trivial, ?_, trivial⟩
  · intro _ stored hstored
    cases hstored
    exact ⟨rfl, rfl, rfl, rfl⟩
  · intro a inc outcome plan hfinishes _ hplan
    cases hfinishes.attempt
    cases hplan
    decide

/-- An attempt that is completed before its only step publishes READY, and one that begins with
another profile in the caller's copy keeps that profile. -/
theorem attempts_come_loose :
    ¬ machine.Throughout AttemptsBound (Impl.new {})
        (sampleBegun ++ [.completePreparation ⟨2⟩ 0]) ∧
      ¬ machine.Throughout AttemptsBound (Impl.new {})
        (sampleStart ++ [.createPreparationPlan ⟨2⟩ ⟨1⟩ .warm 0,
          .beginPreparation { samplePlan with profileId := ⟨7⟩ }]) := by
  constructor
  · intro h
    obtain ⟨plan, hplan, hbound⟩ := h _ (List.prefix_refl _) ⟨2⟩ _ rfl
    cases hplan
    exact absurd (hbound.publishedReady rfl) (by decide)
  · intro h
    obtain ⟨plan, hplan, hbound⟩ := h _ (List.prefix_refl _) ⟨2⟩ _ rfl
    cases hplan
    exact absurd hbound.profileId (by decide)

end Runtime

end EngineResidency
