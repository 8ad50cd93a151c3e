-- SUMMARY: An operation on one incarnation leaves every other incarnation as it was.
import EngineResidency.Runtime.Incarnation
import EngineResidency.Runtime.ServingUse

/-!
# Isolation of incarnations

The tables of the runtime are shared by all incarnations. `Confined i` says that two
states differ at most in what is stored for the incarnation `i`; every operation that
names `i`, and nothing but `i`, is confined to it, whether it succeeds or throws.
-/

namespace EngineResidency.Runtime

variable {s s' : Impl} {op : Op} {r : Except Err Reply} {i j : EngineIncarnationId}

/-- The incarnation that an operation names, when it names one. The operations on a
preparation attempt name the incarnation that the attempt is bound to. -/
def Op.names (s : Impl) : Op → Option EngineIncarnationId
  | .markRunning id _ => some id
  | .revalidate id => some id
  | .publishComponent ev _ => some ev.incarnationId
  | .createPreparationPlan incId _ _ _ => some incId
  | .beginPreparation plan => some plan.incarnationId
  | .stepPreparation attemptId => (s.attempts.lookup attemptId).map (·.incarnationId)
  | .completePreparation attemptId _ => (s.attempts.lookup attemptId).map (·.incarnationId)
  | .cancelPreparation attemptId => (s.attempts.lookup attemptId).map (·.incarnationId)
  | .rollbackPreparation attemptId => (s.attempts.lookup attemptId).map (·.incarnationId)
  | .activate req _ => some req.incarnationId
  | .acquireServingUse wanted _ _ => some wanted.incarnationId
  | .releaseServingUse token _ _ _ => some token.incarnationId
  | .requestDrain id => some id
  | .acknowledgeBackendCleanup id => some id
  | .invalidateIncarnationComponents id _ => some id
  | _ => none

/-! ## Confined changes -/

/-- The two states differ at most in what is stored for one incarnation. -/
structure Confined (i : EngineIncarnationId) (s s' : Impl) : Prop where
  engines : s'.engines = s.engines
  profiles : s'.profiles = s.profiles
  record : ∀ j, j ≠ i → s'.findInc j = s.findInc j
  evidence : ∀ j, j ≠ i → s'.evidence.lookup j = s.evidence.lookup j
  drain : ∀ j, j ≠ i → s'.drains.lookup j = s.drains.lookup j
  use : ∀ j, j ≠ i → ∀ x u, Impl.holds j u = true →
    (s'.activeUses.lookup x = some u ↔ s.activeUses.lookup x = some u)

namespace Confined

theorem refl (i : EngineIncarnationId) (s : Impl) : Confined i s s :=
  ⟨rfl, rfl, fun _ _ => rfl, fun _ _ => rfl, fun _ _ => rfl, fun _ _ _ _ _ => Iff.rfl⟩

theorem trans {s₁ s₂ s₃ : Impl} (h₁ : Confined i s₁ s₂) (h₂ : Confined i s₂ s₃) :
    Confined i s₁ s₃ where
  engines := h₂.engines.trans h₁.engines
  profiles := h₂.profiles.trans h₁.profiles
  record j hj := (h₂.record j hj).trans (h₁.record j hj)
  evidence j hj := (h₂.evidence j hj).trans (h₁.evidence j hj)
  drain j hj := (h₂.drain j hj).trans (h₁.drain j hj)
  use j hj x u hu := (h₂.use j hj x u hu).trans (h₁.use j hj x u hu)

/-- A change that touches none of the tables of incarnations. -/
theorem of_eq (hengines : s'.engines = s.engines) (hprofiles : s'.profiles = s.profiles)
    (hincarnations : s'.incarnations = s.incarnations) (hevidence : s'.evidence = s.evidence)
    (hdrains : s'.drains = s.drains) (huses : s'.activeUses = s.activeUses) : Confined i s s' where
  engines := hengines
  profiles := hprofiles
  record j _ := congrArg (AList.lookup j) hincarnations
  evidence j _ := congrArg (AList.lookup j) hevidence
  drain j _ := congrArg (AList.lookup j) hdrains
  use j _ x u _ := by rw [huses]

theorem modifyInc (f : EngineIncarnation → EngineIncarnation) (s : Impl) :
    Confined i s (s.modifyInc i f) :=
  { refl i s with record := fun _ hj => AList.lookup_modify_ne f s.incarnations hj }

theorem modifyDrain (f : DrainState → DrainState) (s : Impl) : Confined i s (s.modifyDrain i f) :=
  { refl i s with drain := fun _ hj => AList.lookup_modify_ne f s.drains hj }

theorem touchDrain (s : Impl) : Confined i s (s.touchDrain i) := by
  refine { refl i s with drain := fun j hj => ?_ }
  unfold Impl.touchDrain
  split
  · rfl
  · exact AList.lookup_insert_ne hj

theorem pushEvidence (e : ComponentEvidence) (s : Impl) : Confined i s (s.pushEvidence i e) :=
  { refl i s with evidence := fun _ hj => AList.lookup_insert_ne hj }

theorem reinstate (inc : EngineIncarnation) (s : Impl) : Confined i s (reinstate i inc s) :=
  (modifyInc _ s).trans (.of_eq rfl rfl rfl rfl rfl rfl)

theorem storeCompletion (attemptId : PreparationAttemptId) (outcome : ReadinessOutcome) (s : Impl) :
    Confined i s (storeCompletion attemptId i outcome s) := by
  have hattempt : Confined i s (s.modifyAttempt attemptId (completedAttempt outcome)) :=
    of_eq rfl rfl rfl rfl rfl rfl
  exact hattempt.trans (modifyInc _ _)

theorem modifyEvidence (f : List ComponentEvidence → List ComponentEvidence) (s : Impl) :
    Confined i s { s with evidence := s.evidence.modify i f } :=
  { refl i s with evidence := fun _ hj => AList.lookup_modify_ne f s.evidence hj }

/-- A new use of `i` under a free identity. -/
theorem insertUse {x : ServingUseId} {u : ActiveUse} (hu : u.incarnationId = i)
    (hfresh : s.activeUses.lookup x = none) :
    Confined i s { s with activeUses := s.activeUses.insert x u } := by
  refine { refl i s with use := fun j hj y v hv => ?_ }
  simp only [AList.lookup_insert']
  split
  · rename_i heq
    subst heq
    rw [hfresh]
    constructor
    · intro h
      cases h
      simp [Impl.holds, hu, Ne.symm hj] at hv
    · intro h
      cases h
  · exact Iff.rfl

/-- A use of `i` is rewritten as one of `i`. -/
theorem modifyUse {x : ServingUseId} {u : ActiveUse} {f : ActiveUse → ActiveUse}
    (hu : s.activeUses.lookup x = some u) (hi : u.incarnationId = i)
    (hf : (f u).incarnationId = i) : Confined i s (s.modifyUse x f) := by
  refine { refl i s with use := fun j hj y v hv => ?_ }
  have hother : v.incarnationId ≠ i := by
    intro h
    simp [Impl.holds, h, Ne.symm hj] at hv
  simp only [Impl.modifyUse, AList.lookup_modify]
  split
  · rename_i heq
    subst heq
    rw [hu]
    constructor
    · intro h
      cases h
      exact absurd hf hother
    · intro h
      cases h
      exact absurd hi hother
  · exact Iff.rfl

end Confined

/-! ## The operations -/

/-- An operation that names one incarnation is confined to it. -/
theorem Transition.confined (h : Transition s op r s') (hnames : op.names s = some i)
    (hkeyed : KeyedById s) (hfresh : s.activeUses.lookup ⟨s.idUse + 1 + 1⟩ = none) :
    Confined i s s' := by
  -- Most operations write the record of the incarnation, and then counters, which are not compared.
  cases h with
  | refused => exact .refl i s
  | markRunning =>
    cases hnames
    exact .modifyInc _ s
  -- A generation that is exhausted is found only after the record has been written.
  | revalidateExhausted =>
    cases hnames
    exact .reinstate _ s
  | revalidate =>
    cases hnames
    exact (Confined.reinstate _ s).trans (.modifyInc _ _)
  | publishComponent =>
    cases hnames
    exact ((Confined.pushEvidence _ s).trans (.modifyInc _ _)).trans (.of_eq rfl rfl rfl rfl rfl rfl)
  | createPreparationPlan hinc hcurrent hprofile hroom hengine hplan =>
    cases hnames
    subst hplan
    exact (Confined.modifyInc _ s).trans (.of_eq rfl rfl rfl rfl rfl rfl)
  | beginPreparation =>
    cases hnames
    exact (Confined.modifyInc _ s).trans (.of_eq rfl rfl rfl rfl rfl rfl)
  -- The progress of an attempt is in the table of attempts alone.
  | stepPreparation => exact .of_eq rfl rfl rfl rfl rfl rfl
  -- A completion names an attempt, and through it the incarnation.
  | completePreparationExhausted hattempt =>
    simp only [Op.names, hattempt, Option.map_some, Option.some.injEq] at hnames
    subst hnames
    exact .storeCompletion _ _ s
  | completePreparation hattempt =>
    simp only [Op.names, hattempt, Option.map_some, Option.some.injEq] at hnames
    subst hnames
    exact ((Confined.storeCompletion _ _ s).trans (.modifyInc _ _)).trans
      (.of_eq rfl rfl rfl rfl rfl rfl)
  | completePreparationFailed hattempt =>
    simp only [Op.names, hattempt, Option.map_some, Option.some.injEq] at hnames
    subst hnames
    exact (Confined.storeCompletion _ _ s).trans (.of_eq rfl rfl rfl rfl rfl rfl)
  | cancelPreparation => exact .of_eq rfl rfl rfl rfl rfl rfl
  | rollbackPreparation => exact .of_eq rfl rfl rfl rfl rfl rfl
  | activate =>
    cases hnames
    exact (Confined.modifyInc _ s).trans (.of_eq rfl rfl rfl rfl rfl rfl)
  | @acquireServingUse wanted now admittedAt inc _ _ hinc =>
    cases hnames
    -- The record of the use names the incarnation under which it was admitted.
    have hid : inc.incarnationId = wanted.incarnationId := hkeyed _ _ hinc
    exact ((Confined.modifyInc _ s).trans (.insertUse hid hfresh)).trans
      (.of_eq rfl rfl rfl rfl rfl rfl)
  -- The token and the record of the use name the same incarnation.
  | releaseServingUseUnderflow huse hopen hinc =>
    cases hnames
    exact .modifyUse huse hinc hinc
  | releaseServingUse huse hopen hinc =>
    cases hnames
    exact ((Confined.modifyUse huse hinc hinc).trans (.modifyDrain _ _)).trans
      (.of_eq rfl rfl rfl rfl rfl rfl)
  -- The entry of a drain is created when it is first read.
  | requestDrainExhausted =>
    cases hnames
    exact .touchDrain s
  | requestDrain =>
    cases hnames
    exact ((Confined.touchDrain s).trans (.modifyInc _ _)).trans (.modifyDrain _ _)
  | acknowledgeBackendCleanup =>
    cases hnames
    exact .modifyDrain _ s
  | invalidateExhausted =>
    cases hnames
    exact (Confined.modifyInc _ s).trans (.modifyEvidence _ _)
  | invalidateIncarnationComponents =>
    cases hnames
    exact ((Confined.modifyInc _ s).trans (.modifyEvidence _ _)).trans (.modifyInc _ _)
  -- The other operations name no incarnation, or more than one.
  | _ => cases hnames

/-! ## Other incarnations -/

/-- The incarnation `j` has the same record, evidence, drain and open uses in both states,
and is evaluated as before. -/
structure Unaffected (j : EngineIncarnationId) (s s' : Impl) : Prop where
  record : s'.findInc j = s.findInc j
  evidence : s'.evidence.lookup j = s.evidence.lookup j
  drain : s'.drains.lookup j = s.drains.lookup j
  uses : ∀ x u, s'.activeUses.lookup x = some u ∧ u.incarnationId = j ∧ u.released = false ↔
    s.activeUses.lookup x = some u ∧ u.incarnationId = j ∧ u.released = false
  readiness : ∀ profId now, evaluateReadiness s' j profId now = evaluateReadiness s j profId now

theorem Confined.unaffected (h : Confined i s s') (hj : j ≠ i) : Unaffected j s s' where
  record := h.record j hj
  evidence := h.evidence j hj
  drain := h.drain j hj
  uses x u := by
    constructor
    all_goals
      rintro ⟨hu, hid, hopen⟩
      have hholds : Impl.holds j u = true := by simp [Impl.holds, hid, hopen]
    · exact ⟨(h.use j hj x u hholds).mp hu, hid, hopen⟩
    · exact ⟨(h.use j hj x u hholds).mpr hu, hid, hopen⟩
  readiness profId now := by
    have hevidence : s'.evidenceFor j = s.evidenceFor j := by
      rw [Impl.evidenceFor, Impl.evidenceFor, h.evidence j hj]
    simp only [evaluateReadiness, h.record j hj, h.profiles, h.engines, hevidence]

/-- Incarnations do not interfere. In a state reached without a recovery, an operation that
names one incarnation leaves every other one as it was, whether it succeeds or throws. -/
theorem incarnations_do_not_interfere (opts : RuntimeOptions) (ops : List Op)
    (hload : ∀ op ∈ ops, ¬ op.IsLoad) (hfit : UsesFit (machine.exec (Impl.new opts) ops))
    (op : Op) (i j : EngineIncarnationId)
    (hnames : op.names (machine.exec (Impl.new opts) ops) = some i) (hj : j ≠ i) :
    Unaffected j (machine.exec (Impl.new opts) ops)
      (machine.next (machine.exec (Impl.new opts) ops) op) := by
  have hkeyed : KeyedById (machine.exec (Impl.new opts) ops) :=
    machine.exec_always (keyedById_new opts) (fun s op hs => (step_transition s op).keyedById hs) ops
  have hfresh := (usesNumbered_exec opts hload hfit).fresh hfit
  exact ((step_transition _ op).confined hnames hkeyed hfresh).unaffected hj

/-- Start a second incarnation next to the one of `sampleStart`, and admit a use of the
first. -/
def samplePair : List Op :=
  sampleStart ++
    [.issueRegistrationPermit ⟨2⟩ ⟨1⟩,
     .registerIncarnation { engineId := ⟨1⟩, workerId := ⟨2⟩, workerBoot := ⟨1⟩ }
       { permitId := ⟨3⟩ } 0,
     sampleAcquire]

/-- A drain of the first incarnation does not affect the second one. -/
theorem incarnations_do_not_interfere_sample :
    ((machine.exec (Impl.new {}) samplePair).findInc ⟨3⟩).isSome ∧
      Unaffected ⟨3⟩ (machine.exec (Impl.new {}) samplePair)
        (machine.next (machine.exec (Impl.new {}) samplePair) (.requestDrain ⟨2⟩)) :=
  ⟨by decide, incarnations_do_not_interfere {} samplePair (by decide)
    (by unfold UsesFit; decide) (.requestDrain ⟨2⟩) ⟨2⟩ ⟨3⟩ rfl (by decide)⟩

end EngineResidency.Runtime
