-- SUMMARY: Every incarnation belongs to a defined engine, and every error that an operation throws is a domain error.
import EngineResidency.Runtime.Incarnation
import EngineResidency.Runtime.Standby

/-!
# References

An incarnation names its engine, and some operations look the engine up with `at`, which
throws `std::out_of_range` when there is none. No handler catches that exception. A
registration checks that the engine is defined, and no operation takes an engine away; but
a recovery installs engines and incarnations as they were saved, and checks nothing. So
the lookups succeed in every run whose recoveries bring in incarnations of defined engines
alone.
-/

namespace EngineResidency

/-- Every incarnation of a saved state belongs to an engine of that state. -/
def PersistentState.Anchored (p : PersistentState) : Prop :=
  ∀ i ∈ p.incarnations, ∃ e ∈ p.engines, e.engineId = i.engineId

instance (p : PersistentState) : Decidable p.Anchored :=
  inferInstanceAs (Decidable (∀ i ∈ p.incarnations, ∃ e ∈ p.engines, e.engineId = i.engineId))

/-- The message of a domain error is one line, and a failed lookup with `at` needs a reason. -/
def Err.Proper (reason : Prop) : Err → Prop
  | .domain d => 10 ∉ lit d.message
  | .outOfRange => reason

namespace Runtime

open EStateM

variable {s s' : Impl} {op : Op} {r : Except Err Reply}

/-- Every incarnation belongs to an engine that is defined. -/
def Anchored (s : Impl) : Prop :=
  ∀ id i, s.findInc id = some i → (s.engines.lookup i.engineId).isSome

/-- A recovery brings in incarnations of defined engines. -/
def RecoversAnchored (op : Op) : Prop :=
  ∀ blob p, op = .load blob → Persistence.deserializePersistentState blob = .ok p → p.Anchored

/-! ## Engines stay defined -/

/-- An engine that is defined stays defined: no operation but a recovery takes it away. -/
theorem Transition.engines_isSome (h : Transition s op r s') (hload : ¬ op.IsLoad) {k : EngineId}
    (hk : (s.engines.lookup k).isSome) : (s'.engines.lookup k).isSome := by
  cases h with
  | @defineEngine engine stored =>
    change (AList.lookup k (s.engines.insert stored.engineId stored)).isSome
    rw [AList.lookup_insert']
    split
    · rfl
    · exact hk
  | updateEngineConfig =>
    simp only [storeConfig, AList.lookup_modify]
    split
    · rename_i heq
      rw [Option.isSome_map, ← heq]
      exact hk
    · exact hk
  | load => exact absurd trivial hload
  | _ => exact hk

/-- A recovery replaces the engines and the incarnations together. -/
theorem anchored_restored {p : PersistentState} (hp : p.Anchored) : Anchored (restored s p) := by
  intro id i' hi'
  obtain ⟨i, hi, -, rfl⟩ := restored_findInc hi'
  obtain ⟨e, he, heq⟩ := hp i hi
  have hmem : e.engineId ∈ (restored s p).engines := AList.mem_foldl_insert_of_mem he
  exact AList.lookup_isSome.mpr (heq ▸ hmem)

/-- The incarnations keep their engines in every operation: a registration checks that the engine
is defined, and no operation changes the engine of an incarnation. -/
theorem Transition.anchored (h : Transition s op r s') (hop : RecoversAnchored op)
    (hs : Anchored s) : Anchored s' := by
  by_cases hload : op.IsLoad
  · cases h with
    | refused => exact hs
    | load hblob => exact anchored_restored (hop _ _ rfl hblob)
    | _ => exact absurd hload id
  · intro id i' hi'
    rcases h.incarnations with hchanged | ⟨inc, now, henr⟩ | ⟨blob, p, rfl, -⟩
    · obtain ⟨i, hi, hch⟩ := hchanged.findInc hi'
      rw [hch.sameIdentity.engineId]
      exact h.engines_isSome hload (hs id i hi)
    · rcases henr.findInc hi' with ⟨-, rfl⟩ | ⟨-, hi⟩
      · obtain ⟨permit, rfl⟩ := henr.op_eq
        have hcount := henr.idInc
        cases h with
        | refused => exact absurd hcount (by simp)
        | registerIncarnation _ _ _ _ _ _ hengine =>
          exact Option.isSome_iff_exists.mpr ⟨_, hengine⟩
      · exact h.engines_isSome hload (hs id i' hi)
    · exact absurd trivial hload

/-! ## What operations throw -/

/-- An operation that throws proper errors alone. -/
def Throws {A : Type} (reason : Prop) (m : Rt A) (s : Impl) : Prop :=
  wp m (fun r _ => ∀ e, r = .error e → e.Proper reason) s

variable {reason : Prop}

theorem proper_domainError {code : ErrorCode} {msg : String} (h : 10 ∉ lit msg) :
    (domainError code msg).Proper reason :=
  h

/-- A generation that is exhausted is reported in one line. -/
theorem proper_next {t : GenTag} {g : Generation t} {e : Err} (h : g.next = .error e) :
    e.Proper reason := by
  unfold Generation.next at h
  split at h
  · cases h
    exact proper_domainError (by decide)
  · cases h

section Throws

variable {A : Type}

theorem throws_pure {a : A} : Throws reason (pure a) s := fun e he => by cases he

theorem throws_modify {f : Impl → Impl} : Throws reason (modify f) s := fun e he => by cases he

/-- A check throws its own message, and what comes after it may rely on its success. -/
theorem throws_rejectIf {c : Prop} [Decidable c] {code : ErrorCode} {msg : String} {k : Unit → Rt A}
    (hmsg : 10 ∉ lit msg) (hk : ¬ c → Throws reason (k ()) s) :
    Throws reason (rejectIf c (domainError code msg) >>= k) s := by
  refine wp_rejectIf (fun _ e he => ?_) hk
  cases he
  exact proper_domainError hmsg

/-- A lookup with `find` throws its own message when nothing is found. -/
theorem throws_found {B : Type} {o : Option B} {code : ErrorCode} {msg : String} {k : B → Rt A}
    (hmsg : 10 ∉ lit msg) (hk : ∀ b, o = some b → Throws reason (k b) s) :
    Throws reason (found o (domainError code msg) >>= k) s := by
  refine wp_found (fun _ e he => ?_) hk
  cases he
  exact proper_domainError hmsg

/-- A step that has failed by itself throws what it has failed with. -/
theorem throws_unwrap {B : Type} {x : Except Err B} {k : B → Rt A}
    (hx : ∀ e, x = .error e → e.Proper reason) (hk : ∀ b, x = .ok b → Throws reason (k b) s) :
    Throws reason (unwrap x >>= k) s := by
  refine wp_unwrap (fun e he e' he' => ?_) hk
  cases he'
  exact hx e he

theorem throws_next {t : GenTag} {g : Generation t} {k : Generation t → Rt A}
    (hk : ∀ g', g.next = .ok g' → Throws reason (k g') s) : Throws reason (unwrap g.next >>= k) s :=
  throws_unwrap (fun _ => proper_next) hk

end Throws

/-! Each operation is a chain of checks with messages of their own. -/

section Operations

theorem throws_defineEngine (engine : EngineDefinition) : Throws reason (defineEngine engine) s := by
  refine throws_rejectIf (by decide) fun _ => wp_modify (wp_get ?_)
  exact throws_rejectIf (by decide) fun _ => wp_modify throws_pure

theorem throws_invalidateForConfig (engineId : EngineId) (id : EngineIncarnationId) :
    Throws reason (invalidateForConfig engineId id) s := by
  refine wp_get ?_
  split
  · exact throws_pure
  · refine wp_ite (fun _ => ?_) fun _ => throws_pure
    exact wp_modify (throws_next fun _ _ => throws_modify)

/-- Any of the incarnations of the engine may have exhausted its generation. -/
theorem throws_updateEngineConfig (engineId : EngineId) (newGen : EngineConfigGeneration) :
    Throws reason (updateEngineConfig engineId newGen) s := by
  refine wp_get (throws_found (by decide) fun engine _ => throws_rejectIf (by decide) fun _ => ?_)
  refine wp_modify (wp_forM (I := fun _ _ => True) trivial (fun _ id _ _ s _ => ?_) fun _ _ =>
    throws_pure)
  have hthrows : Throws reason (invalidateForConfig engineId id) s :=
    throws_invalidateForConfig engineId id
  refine wp_mono hthrows fun r s' hr => ?_
  cases r with
  | ok => trivial
  | error e => exact hr

theorem throws_defineProfile (profile : ReadinessProfile) : Throws reason (defineProfile profile) s :=
  wp_modify (wp_get (throws_found (by decide) fun _ _ => wp_modify throws_pure))

theorem throws_issueRegistrationPermit (w : WorkerId) (b : WorkerBootId) :
    Throws reason (issueRegistrationPermit w b) s := by
  refine wp_get (throws_rejectIf (by decide) fun _ => throws_rejectIf (by decide) fun _ => ?_)
  exact throws_rejectIf (by decide) fun _ => wp_modify throws_pure

theorem throws_registerIncarnation (inc : EngineIncarnation) (permit : RegistrationPermit)
    (now : DurationNs) : Throws reason (registerIncarnation inc permit now) s := by
  refine wp_get (throws_found (by decide) fun _ _ => throws_rejectIf (by decide) fun _ => ?_)
  refine throws_rejectIf (by decide) fun _ => throws_rejectIf (by decide) fun _ => ?_
  refine throws_rejectIf (by decide) fun _ => throws_found (by decide) fun _ _ => ?_
  refine throws_rejectIf (by decide) fun _ => throws_rejectIf (by decide) fun _ => ?_
  exact wp_modify throws_pure

theorem throws_markRunning (id : EngineIncarnationId) (now : DurationNs) :
    Throws reason (markRunning id now) s :=
  wp_get (throws_found (by decide) fun _ _ => wp_modify throws_pure)

theorem throws_revalidate (id : EngineIncarnationId) : Throws reason (revalidate id) s := by
  refine wp_get (throws_found (by decide) fun _ _ => wp_modify ?_)
  exact throws_next fun _ _ => wp_modify throws_pure

theorem throws_advanceEpoch : Throws reason advanceEpoch s := by
  refine wp_get (throws_next fun _ _ => wp_modify ?_)
  exact throws_next fun _ _ => wp_modify throws_pure

theorem throws_publishComponent (ev : ComponentEvidence) (now : DurationNs) :
    Throws reason (publishComponent ev now) s := by
  refine wp_get (throws_found (by decide) fun _ _ => throws_rejectIf (by decide) fun _ => ?_)
  refine throws_rejectIf (by decide) fun _ => throws_rejectIf (by decide) fun _ => ?_
  exact throws_rejectIf (by decide) fun _ => wp_modify throws_pure

/-- The engine of an incarnation is missing for a reason. -/
theorem reason_of_missing (hs : ¬ reason → Anchored s) {id : EngineIncarnationId}
    {inc : EngineIncarnation} (hinc : s.findInc id = some inc)
    (hnone : s.engines.lookup inc.engineId = none) : reason := by
  by_contra hno
  have hsome := hs hno id inc hinc
  rw [hnone] at hsome
  cases hsome

/-- The engine of the incarnation is looked up with `at`. -/
theorem throws_createPreparationPlan (hs : ¬ reason → Anchored s) (incId : EngineIncarnationId)
    (profId : ReadinessProfileId) (target : DesiredResidency) (now : DurationNs) :
    Throws reason (createPreparationPlan incId profId target now) s := by
  refine wp_get (throws_found (by decide) fun inc hinc => throws_rejectIf (by decide) fun _ => ?_)
  refine throws_found (by decide) fun profile _ => throws_rejectIf (by decide) fun _ => ?_
  refine wp_found (fun hnone e he => ?_) fun _ _ => wp_modify throws_pure
  cases he
  exact reason_of_missing hs hinc hnone

/-- The profile of a request is looked up with `find`, the engine of its incarnation with `at`. -/
theorem proper_activationGate (hs : ¬ reason → Anchored s) {req : ActivationRequest} {inc : EngineIncarnation}
    {now : DurationNs} (hinc : s.findInc req.incarnationId = some inc) {e : Err}
    (h : activationGate s req inc now = .error e) : e.Proper reason := by
  unfold activationGate at h
  split at h
  · cases hprofile : s.profiles.lookup req.profileId with
    | none =>
      simp only [hprofile] at h
      cases h
      exact proper_domainError (by decide)
    | some profile =>
      cases hengine : s.engines.lookup inc.engineId with
      | none =>
        simp only [hprofile, hengine] at h
        cases h
        exact reason_of_missing hs hinc hengine
      | some engine =>
        simp only [hprofile, hengine] at h
        change (if _ then _ else _) = _ at h
        split at h
        · cases h
        · cases h
          exact proper_domainError (by decide)
  · cases h

theorem throws_activate (hs : ¬ reason → Anchored s) (req : ActivationRequest) (now : DurationNs) :
    Throws reason (activate req now) s := by
  refine wp_get (throws_rejectIf (by decide) fun _ => throws_found (by decide) fun inc hinc => ?_)
  refine throws_rejectIf (by decide) fun _ => throws_rejectIf (by decide) fun _ => ?_
  refine throws_rejectIf (by decide) fun _ => ?_
  refine throws_unwrap (fun e he => proper_activationGate hs hinc he) fun _ _ => ?_
  exact throws_rejectIf (by decide) fun _ => wp_modify throws_pure

theorem throws_beginPreparation (plan : PreparationPlan) : Throws reason (beginPreparation plan) s := by
  refine wp_get (throws_found (by decide) fun _ _ => throws_rejectIf (by decide) fun _ => ?_)
  refine throws_found (by decide) fun _ _ => throws_rejectIf (by decide) fun _ => ?_
  refine throws_rejectIf (by decide) fun _ => throws_rejectIf (by decide) fun _ => ?_
  exact wp_modify throws_pure

theorem throws_stepPreparation (attemptId : PreparationAttemptId) :
    Throws reason (stepPreparation attemptId) s := by
  refine wp_get (throws_found (by decide) fun _ _ => throws_rejectIf (by decide) fun _ => ?_)
  refine throws_rejectIf (by decide) fun _ => throws_found (by decide) fun _ _ => ?_
  exact wp_modify throws_pure

theorem throws_completePreparation (attemptId : PreparationAttemptId) (now : DurationNs) :
    Throws reason (completePreparation attemptId now) s := by
  refine wp_get (throws_found (by decide) fun _ _ => throws_rejectIf (by decide) fun _ => ?_)
  refine throws_rejectIf (by decide) fun _ => throws_rejectIf (by decide) fun _ => ?_
  refine throws_found (by decide) fun _ _ => throws_rejectIf (by decide) fun _ => ?_
  refine throws_found (by decide) fun _ _ => throws_found (by decide) fun _ _ => wp_modify ?_
  refine wp_ite (fun _ => ?_) fun _ => ?_
  · exact throws_next fun _ _ => wp_modify (wp_modify throws_pure)
  · exact wp_modify throws_pure

theorem throws_cancelPreparation (attemptId : PreparationAttemptId) :
    Throws reason (cancelPreparation attemptId) s := by
  refine wp_get (throws_found (by decide) fun _ _ => throws_rejectIf (by decide) fun _ => ?_)
  exact wp_modify throws_pure

theorem throws_rollbackPreparation (attemptId : PreparationAttemptId) :
    Throws reason (rollbackPreparation attemptId) s :=
  wp_get (throws_found (by decide) fun _ _ => wp_modify throws_pure)

/-- The message of a refusal ends with the name of the outcome, which is one line. -/
theorem throws_acquireServingUse (wanted : ServingUseToken) (now admittedAt : DurationNs) :
    Throws reason (acquireServingUse wanted now admittedAt) s := by
  have houtcome : ∀ outcome : ReadinessOutcome,
      10 ∉ lit ("readiness no longer satisfied: " ++ outcome.toString) := by
    intro outcome
    cases outcome <;> decide
  refine wp_get (throws_found (by decide) fun _ _ => throws_rejectIf (by decide) fun _ => ?_)
  refine throws_rejectIf (by decide) fun _ => throws_rejectIf (by decide) fun _ => ?_
  refine throws_rejectIf (by decide) fun _ => throws_found (by decide) fun _ _ => ?_
  refine throws_found (by decide) fun _ _ => throws_rejectIf (houtcome _) fun _ => ?_
  exact throws_rejectIf (by decide) fun _ => wp_modify throws_pure

theorem throws_releaseServingUse (token : ServingUseToken) (outcome : WorkOutcome) (detail : Str)
    (now : DurationNs) : Throws reason (releaseServingUse token outcome detail now) s := by
  refine wp_get (throws_found (by decide) fun _ _ => throws_rejectIf (by decide) fun _ => ?_)
  refine throws_rejectIf (by decide) fun _ => wp_modify ?_
  exact throws_rejectIf (by decide) fun _ => wp_modify throws_pure

theorem throws_requestDrain (id : EngineIncarnationId) : Throws reason (requestDrain id) s := by
  refine wp_get (throws_found (by decide) fun _ _ => wp_modify ?_)
  exact throws_next fun _ _ => wp_modify throws_pure

theorem throws_acknowledgeBackendCleanup (id : EngineIncarnationId) :
    Throws reason (acknowledgeBackendCleanup id) s :=
  wp_get (throws_found (by decide) fun _ _ => wp_modify throws_pure)

theorem throws_beginReplacement (plan : ReplacementPlan) : Throws reason (beginReplacement plan) s := by
  refine wp_get (throws_rejectIf (by decide) fun _ => throws_rejectIf (by decide) fun _ => ?_)
  refine throws_found (by decide) fun _ _ => throws_rejectIf (by decide) fun _ => ?_
  refine throws_found (by decide) fun _ _ => throws_rejectIf (by decide) fun _ => ?_
  exact wp_modify throws_pure

theorem throws_commitCutover (rid : ReplacementId) : Throws reason (commitCutover rid) s := by
  refine wp_get (throws_found (by decide) fun _ _ => throws_rejectIf (by decide) fun _ => ?_)
  refine throws_found (by decide) fun _ _ => throws_rejectIf (by decide) fun _ => ?_
  exact wp_modify throws_pure

theorem throws_retireOld (rid : ReplacementId) : Throws reason (retireOld rid) s :=
  wp_get (throws_found (by decide) fun _ _ => wp_modify throws_pure)

theorem throws_invalidateIncarnationComponents (id : EngineIncarnationId) (why : Str) :
    Throws reason (invalidateIncarnationComponents id why) s := by
  refine wp_get (throws_found (by decide) fun _ _ => wp_modify ?_)
  exact throws_next fun _ _ => wp_modify throws_pure

theorem throws_aggregateRecoveryCost (components : List CostComponent) (action : RecoveryAction)
    (aggregationModel : Str) :
    Throws reason (aggregateRecoveryCost components action aggregationModel) s :=
  wp_get (throws_rejectIf (by decide) fun _ => wp_modify throws_pure)

end Operations

/-- The reply of an operation makes no difference. -/
theorem throws_map {A B : Type} {f : A → B} {m : Rt A} (hm : Throws reason m s) : Throws reason (f <$> m) s := by
  refine wp_map (wp_mono hm fun r s' hr e he => ?_)
  cases r with
  | ok a => cases he
  | error e' =>
    cases he
    exact hr e rfl

/-- An operation other than a recovery throws proper errors alone. -/
theorem step_throws (hs : ¬ reason → Anchored s) (hload : ¬ op.IsLoad) : Throws reason (step op) s := by
  cases op with
  | defineEngine engine => exact throws_map (throws_defineEngine engine)
  | updateEngineConfig engineId newGen =>
    exact throws_map (throws_updateEngineConfig engineId newGen)
  | defineProfile profile => exact throws_map (throws_defineProfile profile)
  | issueRegistrationPermit w b => exact throws_map (throws_issueRegistrationPermit w b)
  | registerIncarnation inc permit now =>
    exact throws_map (throws_registerIncarnation inc permit now)
  | markRunning id now => exact throws_map (throws_markRunning id now)
  | revalidate id => exact throws_map (throws_revalidate id)
  | fenceWorker w b => exact throws_map (wp_modify throws_pure)
  | advanceEpoch => exact throws_map throws_advanceEpoch
  | publishComponent ev now => exact throws_map (throws_publishComponent ev now)
  | createPreparationPlan incId profId target now =>
    exact throws_map (throws_createPreparationPlan hs incId profId target now)
  | beginPreparation plan => exact throws_map (throws_beginPreparation plan)
  | stepPreparation attemptId => exact throws_map (throws_stepPreparation attemptId)
  | completePreparation attemptId now => exact throws_map (throws_completePreparation attemptId now)
  | cancelPreparation attemptId => exact throws_map (throws_cancelPreparation attemptId)
  | rollbackPreparation attemptId => exact throws_map (throws_rollbackPreparation attemptId)
  | activate req now => exact throws_map (throws_activate hs req now)
  | acquireServingUse wanted now admittedAt =>
    exact throws_map (throws_acquireServingUse wanted now admittedAt)
  | releaseServingUse token outcome detail now =>
    exact throws_map (throws_releaseServingUse token outcome detail now)
  | requestDrain id => exact throws_map (throws_requestDrain id)
  | acknowledgeBackendCleanup id => exact throws_map (throws_acknowledgeBackendCleanup id)
  | beginReplacement plan => exact throws_map (throws_beginReplacement plan)
  | commitCutover rid => exact throws_map (throws_commitCutover rid)
  | retireOld rid => exact throws_map (throws_retireOld rid)
  | invalidateIncarnationComponents id reason =>
    exact throws_map (throws_invalidateIncarnationComponents id reason)
  | aggregateRecoveryCost components action aggregationModel =>
    exact throws_map (throws_aggregateRecoveryCost components action aggregationModel)
  | load => exact absurd trivial hload

end Runtime

end EngineResidency
