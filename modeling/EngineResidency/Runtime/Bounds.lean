-- SUMMARY: The resource bounds of the runtime hold in every reachable state, but for what a recovery has brought in.
import EngineResidency.Runtime.Publication
import EngineResidency.Runtime.Restart

/-!
# Resource bounds

The options of a runtime bound its tables. Each bound is checked by the operation that adds
to the table, before it does, and by no other; so it takes an argument over all operations
that no table outgrows its bound in another way. A recovery checks no bound: it installs
as many records as were saved, and the tables it installs may be larger than the bounds
of the runtime that recovers them.
-/

namespace EngineResidency.Runtime

variable {s s' : Impl} {op : Op} {r : Except Err Reply}

/-! ## Resources -/

/-- What the options bound. -/
inductive Resource where
  | engines
  | incarnations
  | registrationPermits
  | componentEvidence
  | preparationPlans
  | pendingPreparationAttempts
  | activeUses
  | costSamples

namespace Resource

/-- How much of a resource is in use. -/
def used (s : Impl) : Resource → Nat
  | .engines => s.engines.size
  | .incarnations => s.incarnations.size
  | .registrationPermits => s.permits.size
  | .componentEvidence => s.evidenceTotal
  | .preparationPlans => s.plans.size
  | .pendingPreparationAttempts => s.activeAttempt.size
  | .activeUses => s.activeUseCount.toNat
  | .costSamples => s.costHistory.length

def limit (opts : RuntimeOptions) : Resource → Nat
  | .engines => opts.maxEngines.toNat
  | .incarnations => opts.maxIncarnations.toNat
  | .registrationPermits => opts.maxRegistrationPermits.toNat
  | .componentEvidence => opts.maxComponentEvidence.toNat
  | .preparationPlans => opts.maxPendingPreparationAttempts.toNat
  | .pendingPreparationAttempts => opts.maxPendingPreparationAttempts.toNat
  | .activeUses => opts.maxActiveUses.toNat
  | .costSamples => opts.maxCostSamples.toNat

/-- How much of a resource a saved state brings with it. -/
def saved (p : PersistentState) : Resource → Nat
  | .engines => p.engines.length
  | .incarnations => p.incarnations.length
  | .componentEvidence => p.evidence.length
  | .costSamples => p.costHistory.length
  | _ => 0

end Resource

/-- The bound on the steps of a plan. It is no less than one: when nothing is missing, or when the
options allow no step at all, a plan still gets one step. -/
def planLimit (opts : RuntimeOptions) : Nat := max 1 opts.maxPreparationPlanSteps.toNat

/-- No plan has more steps than the options allow, or than the one step that every plan has. -/
def PlansBounded (s : Impl) : Prop :=
  s.plans.All fun plan => plan.steps.length ≤ planLimit s.opts

/-! ## One step -/

/-- A resource that is in use no more than before, or within its bound. -/
def Within (q : Resource) (s s' : Impl) : Prop := q.used s' ≤ max (q.used s) (q.limit s.opts)

theorem within_of_le {q : Resource} (h : q.used s' ≤ q.used s) : Within q s s' :=
  h.trans (Nat.le_max_left _ _)

theorem within_of_eq {q : Resource} (h : q.used s' = q.used s) : Within q s s' :=
  within_of_le h.le

/-- An insertion into a table that had room. -/
theorem within_insert {K V : Type} [DecidableEq K] {q : Resource} {m : UMap K V} {k : K} {v : V}
    (hused : q.used s' = (m.insert k v).size) (hroom : m.size < q.limit s.opts) : Within q s s' := by
  have hgrows : (m.insert k v).size ≤ m.size + 1 := AList.size_insert_le m k v
  refine le_trans ?_ (Nat.le_max_right _ _)
  rw [hused]
  exact hgrows.trans hroom

theorem within_engines (h : Transition s op r s') (hload : ¬ op.IsLoad) :
    Within .engines s s' := by
  cases h with
  | defineEngine _ hroom => exact within_insert rfl hroom
  | updateEngineConfig => exact within_of_eq (AList.size_mapEntries _ _)
  | load => exact absurd trivial hload
  | _ => exact within_of_eq rfl

theorem within_incarnations (h : Transition s op r s') (hload : ¬ op.IsLoad) :
    Within .incarnations s s' := by
  rcases h.incarnations with ⟨-, f, hincs, -⟩ | ⟨inc, now, -, -, hroom, hincs, -⟩ | ⟨blob, p, rfl, -⟩
  · refine within_of_eq ?_
    rw [Resource.used, hincs]
    exact AList.size_mapEntries _ _
  · exact within_insert (congrArg AList.size hincs) hroom
  · exact absurd trivial hload

theorem within_permits (h : Transition s op r s') : Within .registrationPermits s s' := by
  cases h with
  | issueRegistrationPermit _ _ hroom => exact within_insert rfl hroom
  | registerIncarnation => exact within_of_eq (AList.size_mapEntries _ _)
  | _ => exact within_of_eq rfl

theorem within_evidence (h : Transition s op r s') (hload : ¬ op.IsLoad) :
    Within .componentEvidence s s' := by
  cases h with
  | publishComponent _ _ _ _ _ hroom =>
    refine le_trans ?_ (Nat.le_max_right _ _)
    exact (evidenceTotal_push _ _).le.trans hroom
  | invalidateExhausted => exact within_of_eq (evidenceTotal_void rfl)
  | invalidateIncarnationComponents => exact within_of_eq (evidenceTotal_void rfl)
  | load => exact absurd trivial hload
  | _ => exact within_of_eq rfl

theorem within_plans (h : Transition s op r s') : Within .preparationPlans s s' := by
  cases h with
  | createPreparationPlan _ _ _ hroom => exact within_insert rfl hroom
  | _ => exact within_of_eq rfl

theorem within_attempts (h : Transition s op r s') : Within .pendingPreparationAttempts s s' := by
  cases h with
  | beginPreparation _ _ _ _ _ hroom => exact within_insert rfl hroom
  | completePreparation => exact within_of_le (AList.size_erase_le _ _)
  | completePreparationFailed => exact within_of_le (AList.size_erase_le _ _)
  | cancelPreparation => exact within_of_le (AList.size_erase_le _ _)
  | rollbackPreparation => exact within_of_le (AList.size_erase_le _ _)
  | _ => exact within_of_eq rfl

theorem within_uses (h : Transition s op r s') : Within .activeUses s s' := by
  cases h with
  | acquireServingUse _ _ _ _ _ _ _ _ hroom =>
    refine le_trans ?_ (Nat.le_max_right _ _)
    have hbound := s.opts.maxActiveUses.toNat_lt
    have hcount : (s.activeUseCount + 1).toNat = s.activeUseCount.toNat + 1 := by
      rw [UInt64.toNat_add]
      exact Nat.mod_eq_of_lt (by simp; omega)
    exact hcount.le.trans hroom
  | releaseServingUse _ _ _ hcount =>
    have hpos : 1 ≤ s.activeUseCount :=
      UInt64.le_iff_toNat_le.mpr (Nat.pos_of_ne_zero fun hzero => hcount (UInt64.toNat_inj.mp hzero))
    refine within_of_le ((UInt64.toNat_sub_of_le _ _ hpos).le.trans (Nat.sub_le _ _))
  | _ => exact within_of_eq rfl

theorem within_costs (h : Transition s op r s') (hload : ¬ op.IsLoad) :
    Within .costSamples s s' := by
  cases h with
  | aggregateRecoveryCost hroom =>
    refine le_trans ?_ (Nat.le_max_right _ _)
    exact (List.length_append).le.trans hroom
  | load => exact absurd trivial hload
  | _ => exact within_of_eq rfl

/-- An operation other than a recovery takes no more of a resource than its bound allows. -/
theorem Transition.within (h : Transition s op r s') (hload : ¬ op.IsLoad) (q : Resource) :
    Within q s s' := by
  cases q with
  | engines => exact within_engines h hload
  | incarnations => exact within_incarnations h hload
  | registrationPermits => exact within_permits h
  | componentEvidence => exact within_evidence h hload
  | preparationPlans => exact within_plans h
  | pendingPreparationAttempts => exact within_attempts h
  | activeUses => exact within_uses h
  | costSamples => exact within_costs h hload

/-- A recovery brings in what was saved, and keeps the tables that are not saved. -/
theorem used_restored (s : Impl) (p : PersistentState) (q : Resource) :
    q.used (restored s p) ≤ max (q.used s) (q.saved p) := by
  have hinsert : ∀ {K A V : Type} [DecidableEq K] {key : A → K} {f : A → V} (l : List A),
      (l.foldl (fun (m : UMap K V) a => m.insert (key a) (f a)) ∅).size ≤ l.length := by
    intro K A V _ key f l
    exact (AList.size_foldl_insert_le l ∅).trans (Nat.zero_add _).le
  cases q with
  | engines => exact (hinsert p.engines).trans (Nat.le_max_right _ _)
  | incarnations => exact (hinsert p.incarnations).trans (Nat.le_max_right _ _)
  | componentEvidence =>
    have hvalues : (restored s p).evidence.values.flatten.Perm (p.evidence.map demoteEvidence) :=
      AList.values_foldl_group (m := ∅)
    refine le_trans ?_ (Nat.le_max_right _ _)
    have hlen := hvalues.length_eq
    rw [List.length_flatten, List.length_map] at hlen
    exact hlen.le
  | costSamples => exact Nat.le_max_right _ _
  | _ => exact Nat.le_max_left _ _

theorem length_planSteps_le (maxSteps : UInt32) (missing : List Str) :
    (planSteps maxSteps missing).length ≤ max 1 maxSteps.toNat := by
  simp only [planSteps]
  split
  · exact Nat.le_max_left _ _
  · rw [List.length_map, List.length_take]
    exact (Nat.min_le_left _ _).trans (Nat.le_max_right _ _)

theorem Transition.plansBounded (h : Transition s op r s') (hs : PlansBounded s) :
    PlansBounded s' := by
  have hopts : planLimit s'.opts = planLimit s.opts := congrArg planLimit h.opts_eq
  unfold PlansBounded
  rw [hopts]
  cases h with
  | createPreparationPlan _ _ _ _ _ hplan =>
    refine AList.All.insert hs ?_
    rw [hplan]
    exact length_planSteps_le _ _
  | _ => exact hs

/-! ## Whole runs -/

/-- Some recovery of the run has brought in as much. -/
def BroughtIn (ops : List Op) (q : Resource) (n : Nat) : Prop :=
  ∃ blob p, Op.load blob ∈ ops ∧ Persistence.deserializePersistentState blob = .ok p ∧ n ≤ q.saved p

/-- In every state that any run of operations reaches, every resource is within its bound, or
some recovery of the run has brought in as much of it; and no plan has more steps than the options
allow, but for the one step that it has in any case. -/
theorem resources_bounded (opts : RuntimeOptions) (ops : List Op) :
    (∀ q : Resource, q.used (machine.exec (Impl.new opts) ops) ≤ q.limit opts ∨
      BroughtIn ops q (q.used (machine.exec (Impl.new opts) ops))) ∧
    ∀ id plan, (machine.exec (Impl.new opts) ops).plans.lookup id = some plan →
      plan.steps.length ≤ planLimit opts := by
  have hall : (machine.exec (Impl.new opts) ops).opts = opts ∧
      PlansBounded (machine.exec (Impl.new opts) ops) ∧
      ∀ q : Resource, q.used (machine.exec (Impl.new opts) ops) ≤ q.limit opts ∨
        BroughtIn ops q (q.used (machine.exec (Impl.new opts) ops)) := by
    induction ops using List.reverseRecOn with
    | nil =>
      refine ⟨rfl, AList.All.empty, fun q => .inl ?_⟩
      cases q <;> exact Nat.zero_le _
    | append_singleton ops op ih =>
      obtain ⟨hopts, hplans, hused⟩ := ih
      rw [Machine.exec_concat]
      generalize machine.exec (Impl.new opts) ops = s at hopts hplans hused
      have hstep := step_transition s op
      generalize machine.result s op = r, machine.next s op = s' at hstep ⊢
      refine ⟨hstep.opts_eq.trans hopts, hstep.plansBounded hplans, fun q => ?_⟩
      -- What an earlier recovery has brought in is still there to account for it.
      have hearlier : ∀ n, n ≤ q.used s → n ≤ q.limit opts ∨ BroughtIn (ops ++ [op]) q n := by
        intro n hn
        rcases hused q with hle | ⟨blob, p, hmem, hblob, hle⟩
        · exact .inl (hn.trans hle)
        · exact .inr ⟨blob, p, List.mem_append_left _ hmem, hblob, hn.trans hle⟩
      by_cases hload : op.IsLoad
      · cases hstep with
        | refused => exact hearlier _ le_rfl
        | @load blob p hblob =>
          rcases le_max_iff.mp (used_restored s p q) with hkept | hsaved
          · exact hearlier _ hkept
          · exact .inr ⟨blob, p, by simp, hblob, hsaved⟩
        | _ => exact absurd hload id
      · rcases le_max_iff.mp (hstep.within hload q) with hkept | hbound
        · exact hearlier _ hkept
        · exact .inl (hopts ▸ hbound)
  exact ⟨hall.2.2, fun id plan hplan => hall.1 ▸ hall.2.1 id plan hplan⟩

end EngineResidency.Runtime
