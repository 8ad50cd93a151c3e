-- SUMMARY: When finished preparations give their capacity back.
import EngineResidency.Base.Occupancy
import EngineResidency.Runtime.Attempts
import EngineResidency.Runtime.Restart

/-!
# The capacity for preparation

One bound limits two tables. An attempt that begins is checked against the active attempts,
and a completion, a cancellation and a rollback take their entry out again. A plan that is
created is checked against all plans, of which nothing ever takes one out. So the bound on
what may be pending limits what a run may create at all, and a plan that has been carried
through keeps its place.
-/

namespace EngineResidency.Runtime

open EStateM

variable {s s' : Impl} {op : Op} {r : Except Err Reply} {opts : RuntimeOptions}
  {plans : Occupancy PreparationPlanId}

/-! ## The plans of a run -/

/-- The plan that an operation has created. -/
def createdPlan : Except Err Reply → Option PreparationPlanId
  | .ok (.plan plan) => some plan.planId
  | _ => none

/-- The plan that an operation has carried through: it has completed, cancelled or rolled back
an attempt of it. -/
def carriedThrough (s : Impl) (op : Op) : Except Err Reply → Option PreparationPlanId
  | .ok _ => op.ends.bind fun x => (s.attempts.lookup x).map PreparationAttempt.planId
  | .error _ => none

/-- The plans after an operation. -/
def notePlans (s : Impl) (op : Op) (plans : Occupancy PreparationPlanId) :
    Occupancy PreparationPlanId :=
  match createdPlan (machine.result s op), carriedThrough s op (machine.result s op) with
  | some id, _ => plans.enter id
  | none, some id => plans.finish id
  | none, none => plans

/-- The plans that a run has created, and those of them that have not been carried through.
A recovery sets the counter of the plans, so a later plan may take the place of an earlier
one with its identity; the two count once. -/
def plansOf (opts : RuntimeOptions) (ops : List Op) : Occupancy PreparationPlanId :=
  machine.book notePlans (Impl.new opts) ops .empty

/-- The operation has been refused for want of room. -/
def ExceedsBounds (r : Except Err Reply) : Prop :=
  ∃ msg, r = .error (domainError .boundsExceeded msg)

/-- After the run, no plan for a known profile and a known, current incarnation is refused for
want of room, provided that fewer plans are pending than may be. -/
def CapacityReturned (opts : RuntimeOptions) (ops : List Op) : Prop :=
  let s := machine.exec (Impl.new opts) ops
  (plansOf opts ops).pending.card < opts.maxPendingPreparationAttempts.toNat →
    ∀ incId profId target now inc profile, s.findInc incId = some inc → inc.isCurrent = true →
      s.profiles.lookup profId = some profile →
        ¬ ExceedsBounds (machine.result s (.createPreparationPlan incId profId target now))

/-- Some incarnation is current and some profile is known. -/
def Preparable (s : Impl) : Prop :=
  (∃ incId inc, s.findInc incId = some inc ∧ inc.isCurrent = true) ∧
    ∃ profId profile, s.profiles.lookup profId = some profile

/-! ## One step -/

/-- The table of plans keeps every plan that has been created, up to the bound. -/
structure PlansKept (opts : RuntimeOptions) (s : Impl) (plans : Occupancy PreparationPlanId) :
    Prop where
  sameOpts : s.opts = opts
  fills : plans.Fills s.plans
  room : plans.taken.card ≤ opts.maxPendingPreparationAttempts.toNat

theorem plansKept_new (opts : RuntimeOptions) : PlansKept opts (Impl.new opts) .empty :=
  ⟨rfl, .empty, Nat.zero_le _⟩

theorem PlansKept.finish (h : PlansKept opts s plans) (id : PreparationPlanId) :
    PlansKept opts s (plans.finish id) :=
  ⟨h.sameOpts, h.fills.finish id, h.room⟩

/-- What an operation creates goes into the table; nothing is taken out of it. -/
theorem Transition.plans_eq (h : Transition s op r s') :
    (createdPlan r = none ∧ s'.plans = s.plans) ∨
      ∃ plan, createdPlan r = some plan.planId ∧ s'.plans = s.plans.insert plan.planId plan ∧
        s.plans.size < s.opts.maxPendingPreparationAttempts.toNat := by
  cases h with
  | @createPreparationPlan incId profId target now inc profile engine plan hinc hcurrent hprofile
      hroom => exact .inr ⟨plan, rfl, rfl, hroom⟩
  | updateEngineConfig hr =>
    rcases hr with rfl | ⟨e, rfl⟩
    · exact .inl ⟨rfl, rfl⟩
    · exact .inl ⟨rfl, rfl⟩
  | _ => exact .inl ⟨rfl, rfl⟩

theorem PlansKept.next (h : PlansKept opts s plans) (op : Op) :
    PlansKept opts (machine.next s op) (notePlans s op plans) := by
  have hstep := step_transition s op
  have hopts : (machine.next s op).opts = opts := hstep.opts_eq.trans h.sameOpts
  unfold notePlans
  rcases hstep.plans_eq with ⟨hnone, hplans⟩ | ⟨plan, hcreated, hplans, hroom⟩
  · have hkept : PlansKept opts (machine.next s op) plans := by
      refine ⟨hopts, ?_, h.room⟩
      rw [hplans]
      exact h.fills
    rw [hnone]
    cases carriedThrough s op (machine.result s op) with
    | none => exact hkept
    | some id => exact hkept.finish id
  · rw [hcreated]
    refine ⟨hopts, ?_, ?_⟩
    · rw [hplans]
      exact h.fills.enter plan.planId plan
    · rw [h.fills.size, h.sameOpts] at hroom
      exact (plans.card_enter plan.planId).trans hroom

theorem plansKept_exec (opts : RuntimeOptions) (ops : List Op) :
    PlansKept opts (machine.exec (Impl.new opts) ops) (plansOf opts ops) :=
  Machine.book_invariant (plansKept_new opts) (fun _ op _ h => h.next op) ops

section Creation

variable {incId : EngineIncarnationId} {profId : ReadinessProfileId} {inc : EngineIncarnation}
  {profile : ReadinessProfile}

/-- The creation of a plan that passes the other checks is refused if the table is full. -/
theorem createPreparationPlan_exceeds (target : DesiredResidency) (now : DurationNs)
    (hinc : s.findInc incId = some inc) (hcurrent : inc.isCurrent = true)
    (hprofile : s.profiles.lookup profId = some profile) :
    ExceedsBounds (machine.result s (.createPreparationPlan incId profId target now)) ↔
      s.opts.maxPendingPreparationAttempts.toNat ≤ s.plans.size := by
  have hwp : wp (step (.createPreparationPlan incId profId target now)) (fun r _ =>
      ExceedsBounds r ↔ s.opts.maxPendingPreparationAttempts.toNat ≤ s.plans.size) s := by
    refine wp_map (wp_get (wp_found_of_eq hinc ?_))
    refine wp_passes (by simp [hcurrent]) (wp_found_of_eq hprofile ?_)
    refine wp_rejectIf (fun hfull => iff_of_true ⟨_, rfl⟩ hfull) fun hroom => ?_
    refine wp_found (fun _ => iff_of_false ?_ hroom) fun engine _ => ?_
    · rintro ⟨msg, hmsg⟩
      cases hmsg
    · refine wp_modify (wp_pure (iff_of_false ?_ hroom))
      rintro ⟨msg, hmsg⟩
      cases hmsg
  exact wp_iff.mp hwp

theorem PlansKept.exceeds (h : PlansKept opts s plans) (target : DesiredResidency)
    (now : DurationNs) (hinc : s.findInc incId = some inc) (hcurrent : inc.isCurrent = true)
    (hprofile : s.profiles.lookup profId = some profile) :
    ExceedsBounds (machine.result s (.createPreparationPlan incId profId target now)) ↔
      opts.maxPendingPreparationAttempts.toNat ≤ plans.taken.card := by
  rw [createPreparationPlan_exceeds target now hinc hcurrent hprofile, h.sameOpts, h.fills.size]

end Creation

/-! ## Whole runs -/

/-- After any run that leaves a current incarnation and a profile, capacity is given back if and
only if the run has created fewer plans than may be pending, or has carried none of them
through. -/
theorem capacity_returned_iff (opts : RuntimeOptions) (ops : List Op) :
    CapacityReturned opts ops ↔ (Preparable (machine.exec (Impl.new opts) ops) →
      (plansOf opts ops).taken.card < opts.maxPendingPreparationAttempts.toNat ∨
        (plansOf opts ops).pending = (plansOf opts ops).taken) := by
  have hkept := plansKept_exec opts ops
  constructor
  · rintro h ⟨⟨incId, inc, hinc, hcurrent⟩, profId, profile, hprofile⟩
    refine (Occupancy.room_iff hkept.room).mp fun hpending => ?_
    have hcreated := h hpending incId profId .warm 0 inc profile hinc hcurrent hprofile
    rw [hkept.exceeds .warm 0 hinc hcurrent hprofile] at hcreated
    exact Nat.not_le.mp hcreated
  · intro h hpending incId profId target now inc profile hinc hcurrent hprofile
    rw [hkept.exceeds target now hinc hcurrent hprofile]
    have hroom := h ⟨⟨incId, inc, hinc, hcurrent⟩, profId, profile, hprofile⟩
    exact Nat.not_le.mpr ((Occupancy.room_iff hkept.room).mpr hroom hpending)

/-- The incarnation and the profile that `sampleStart` makes are there, and the incarnation is
current. -/
def sampleKnown (s : Impl) : Bool :=
  (s.findInc ⟨2⟩).any (·.isCurrent) && (s.profiles.lookup ⟨1⟩).isSome

/-- A run that has created as many plans as may be pending, of which fewer are. -/
theorem not_capacityReturned {ops : List Op}
    (hknown : sampleKnown (machine.exec (Impl.new opts) ops) = true)
    (hpending : (plansOf opts ops).pending.card < opts.maxPendingPreparationAttempts.toNat)
    (hspent : opts.maxPendingPreparationAttempts.toNat ≤ (plansOf opts ops).taken.card) :
    ¬ CapacityReturned opts ops := by
  intro h
  rw [sampleKnown, Bool.and_eq_true, Option.any_eq_true, Option.isSome_iff_exists] at hknown
  obtain ⟨⟨inc, hinc, hcurrent⟩, profile, hprofile⟩ := hknown
  refine h hpending ⟨2⟩ ⟨1⟩ .warm 0 inc profile hinc hcurrent hprofile ?_
  exact ((plansKept_exec opts ops).exceeds .warm 0 hinc hcurrent hprofile).mpr hspent

/-- Where one plan may be pending and none is, a second plan is refused, although the first has
been completed, cancelled or rolled back. -/
theorem capacity_spent :
    ¬ CapacityReturned { maxPendingPreparationAttempts := 1 }
        (sampleBegun ++ [.completePreparation ⟨2⟩ 0]) ∧
      ¬ CapacityReturned { maxPendingPreparationAttempts := 1 }
        (sampleBegun ++ [.cancelPreparation ⟨2⟩]) ∧
      ¬ CapacityReturned { maxPendingPreparationAttempts := 1 }
        (sampleBegun ++ [.rollbackPreparation ⟨2⟩]) := by
  refine ⟨not_capacityReturned ?_ ?_ ?_, not_capacityReturned ?_ ?_ ?_,
    not_capacityReturned ?_ ?_ ?_⟩
  all_goals decide +kernel

end EngineResidency.Runtime
