-- SUMMARY: When the admission of a serving use agrees with the published readiness gate.
import EngineResidency.Runtime.Incarnation

/-!
# Admission and the readiness gate

The admission of a use re-implements the gate that the public readiness query
publishes, without the query's checks of the recovery state and of the profile's
engine. Whether the two agree depends on the operations that make an incarnation
current: `Vetted` says that a current incarnation awaits no revalidation, and
`vets` is the check that every promoting operation would need for it.
-/

namespace EngineResidency.Runtime

variable {s s' : Impl} {op : Op} {r : Except Err Reply}

/-- If a use is admitted, then the public query in the same state at the same clock
reading authorizes work. -/
def AdmissionAgrees (s : Impl) (wanted : ServingUseToken) (now admittedAt : DurationNs) : Prop :=
  (∃ token, machine.result s (.acquireServingUse wanted now admittedAt) = .ok (.token token)) →
    ∃ res inc profile,
      evaluateReadiness s wanted.incarnationId wanted.profileId now = .ok res ∧
      res.outcome.serves ∧
      s.findInc wanted.incarnationId = some inc ∧
      inc.state.recovery.awaitsRevalidation = false ∧
      s.profiles.lookup wanted.profileId = some profile ∧
      profile.engineId = inc.engineId

/-! ## Current incarnations are vetted -/

/-- No current incarnation awaits revalidation. -/
def Vetted (s : Impl) : Prop :=
  ∀ id i, s.findInc id = some i → i.isCurrent = true → i.state.recovery.awaitsRevalidation = false

/-- The check that activation and cutover leave out: the incarnation they promote awaits
no revalidation. -/
def vets (s : Impl) : Op → Bool
  | .activate req now =>
    (s.findInc req.incarnationId).all fun i =>
      !mayActivate s req i now || !i.state.recovery.awaitsRevalidation
  | .commitCutover rid =>
    (s.replacementPlans.lookup rid).all fun p =>
      (s.findInc p.candidateIncarnation).all fun i =>
        !mayCutOver p i || !i.state.recovery.awaitsRevalidation
  | _ => true

/-- The check that admission leaves out: the profile belongs to the engine of the
incarnation. -/
def ownProfile (s : Impl) (wanted : ServingUseToken) : Bool :=
  (s.findInc wanted.incarnationId).all fun i =>
    (s.profiles.lookup wanted.profileId).all fun p => p.engineId == i.engineId

theorem vetted_new (opts : RuntimeOptions) : Vetted (Impl.new opts) := by
  intro id i hi
  simp [Impl.findInc, Impl.new] at hi

theorem IncChange.vetted {id : EngineIncarnationId} {i i' : EngineIncarnation}
    (h : IncChange s op id i i') (hi : s.findInc id = some i) (hop : vets s op = true)
    (hs : i.isCurrent = true → i.state.recovery.awaitsRevalidation = false) :
    i'.isCurrent = true → i'.state.recovery.awaitsRevalidation = false := by
  cases h with
  | quiet h => rw [h.eq]; exact hs
  | revalidated h => rw [h.eq]; exact fun _ => rfl
  | fenced =>
    unfold fenceInc
    split
    · intro hcur; cases hcur
    · exact hs
  | demoted =>
    unfold demoteForEpoch
    split
    · intro hcur; cases hcur
    · exact hs
  | started =>
    unfold confirmStart
    split <;> exact hs
  | activated _ _ _ hmay =>
    have hvetted : i.state.recovery.awaitsRevalidation = false := by
      simpa [vets, hi, hmay] using hop
    exact fun _ => hvetted
  | promoted hplan _ hmay =>
    have hvetted : i.state.recovery.awaitsRevalidation = false := by
      simpa [vets, hplan, hi, hmay] using hop
    exact fun _ => hvetted
  | superseded | retired => intro hcur; cases hcur
  | running | draining => exact hs

theorem Transition.vetted (h : Transition s op r s') (hop : vets s op = true) (hs : Vetted s) :
    Vetted s' :=
  h.forall_inc (fun _ _ _ hi hch hP => hch.vetted hi hop hP) (fun _ _ _ _ => rfl)
    (fun _ hcur => by cases hcur) hs

/-! ## The query -/

/-- Behind its checks, the query answers what the evaluator does. -/
theorem evaluateReadiness_passed {id : EngineIncarnationId} {profId : ReadinessProfileId}
    {inc : EngineIncarnation} {profile : ReadinessProfile} {engine : EngineDefinition}
    {now : DurationNs} (hinc : s.findInc id = some inc)
    (hprofile : s.profiles.lookup profId = some profile) (hown : profile.engineId = inc.engineId)
    (hengine : s.engines.lookup inc.engineId = some engine)
    (hopen : inc.state.recovery.awaitsRevalidation = false) :
    evaluateReadiness s id profId now =
      .ok (EngineResidency.evaluateReadiness engine profile inc (s.evidenceFor id) now) := by
  simp only [evaluateReadiness, hinc, hprofile, Option.elim, bind, Except.bind, hown, ne_eq,
    not_true_eq_false, if_false, hengine, hopen, Bool.false_eq_true]
  rfl

/-- An answer other than that of the recovery gate has passed all checks of the query. -/
theorem answers_iff {Q : ReadinessOutcome → Prop} (hgate : ¬ Q .revalidationRequired)
    {id : EngineIncarnationId} {profId : ReadinessProfileId} {now : DurationNs} :
    (∃ res, evaluateReadiness s id profId now = .ok res ∧ Q res.outcome) ↔
      ∃ inc profile engine, s.findInc id = some inc ∧ s.profiles.lookup profId = some profile ∧
        profile.engineId = inc.engineId ∧ s.engines.lookup inc.engineId = some engine ∧
        inc.state.recovery.awaitsRevalidation = false ∧
        Q (EngineResidency.evaluateReadiness engine profile inc (s.evidenceFor id) now).outcome := by
  constructor
  · rintro ⟨res, hres, houtcome⟩
    have h := hres
    unfold evaluateReadiness at h
    cases hinc : s.findInc id with
    | none => rw [hinc] at h; cases h
    | some inc =>
      rw [hinc] at h
      cases hprofile : s.profiles.lookup profId with
      | none => rw [hprofile] at h; cases h
      | some profile =>
        rw [hprofile] at h
        simp only [Option.elim, bind, Except.bind] at h
        split at h
        · cases h
        rename_i hown
        cases hengine : s.engines.lookup inc.engineId with
        | none => rw [hengine] at h; cases h
        | some engine =>
          rw [hengine] at h
          dsimp only at h
          split at h
          · cases h
            exact absurd houtcome hgate
          · rename_i hopen
            cases h
            exact ⟨inc, profile, engine, rfl, rfl, not_not.mp hown, hengine,
              Bool.eq_false_iff.mpr hopen, houtcome⟩
  · rintro ⟨inc, profile, engine, hinc, hprofile, hown, hengine, hopen, houtcome⟩
    exact ⟨_, evaluateReadiness_passed hinc hprofile hown hengine hopen, houtcome⟩

/-! ## Admission -/

/-- In a state whose current incarnations are vetted, an admission with a profile of
the incarnation's own engine agrees with the query. -/
theorem admissionAgrees_of_vetted {wanted : ServingUseToken} {now admittedAt : DurationNs}
    (hkeyed : KeyedById s) (hvetted : Vetted s)
    (hprofile : ownProfile s wanted = true) : AdmissionAgrees s wanted now admittedAt := by
  rintro ⟨token, htoken⟩
  obtain ⟨inc, profile, engine, hadm⟩ := acquireServingUse_ok htoken
  have hrec := hvetted _ inc hadm.found hadm.current
  have hown : profile.engineId = inc.engineId := by
    simpa [ownProfile, hadm.found, hadm.profiled] using hprofile
  have hready := hadm.ready
  rw [hkeyed _ inc hadm.found] at hready
  exact ⟨_, inc, profile,
    evaluateReadiness_passed hadm.found hadm.profiled hown hadm.defined hrec, hready, hadm.found,
    hrec, hadm.profiled, hown⟩

/-- In every run whose promotions pass the check that they leave out, the admission of a
use with a profile of the incarnation's own engine agrees with the published readiness
gate. -/
theorem admission_agrees (opts : RuntimeOptions) (ops : List Op) (wanted : ServingUseToken)
    (now admittedAt : DurationNs)
    (hrun : machine.Along (fun s op => vets s op = true) (Impl.new opts) ops)
    (hprofile : ownProfile (machine.exec (Impl.new opts) ops) wanted = true) :
    AdmissionAgrees (machine.exec (Impl.new opts) ops) wanted now admittedAt := by
  have hinv : KeyedById (machine.exec (Impl.new opts) ops) ∧
      Vetted (machine.exec (Impl.new opts) ops) :=
    Machine.exec_invariant (I := fun s => KeyedById s ∧ Vetted s)
      ⟨keyedById_new opts, vetted_new opts⟩ hrun fun s op hs hop =>
      ⟨(step_transition s op).keyedById hs.1, (step_transition s op).vetted hop hs.2⟩
  exact admissionAgrees_of_vetted hinv.1 hinv.2 hprofile

theorem admission_agrees_sample :
    (∃ token, machine.result (machine.exec (Impl.new {}) sampleStart) sampleAcquire =
      .ok (.token token)) ∧
    ∃ res, evaluateReadiness (machine.exec (Impl.new {}) sampleStart) ⟨2⟩ ⟨1⟩ 0 = .ok res ∧
      res.outcome.serves := by
  have hok : ∃ token, machine.result (machine.exec (Impl.new {}) sampleStart) sampleAcquire =
      .ok (.token token) := ⟨_, rfl⟩
  obtain ⟨res, -, -, hres, hserves, -⟩ :=
    admission_agrees {} sampleStart sampleWanted 0 0 (by decide) (by decide) hok
  exact ⟨hok, res, hres, hserves⟩

/-- The two runs that the checks exclude. An incarnation that has to revalidate after an
epoch change is activated all the same, and a use is admitted while the query asks for
revalidation. A use is admitted with the profile of another engine, for which the query
throws. -/
theorem admission_disagrees :
    ¬ AdmissionAgrees
      (machine.exec (Impl.new {}) (sampleStart ++ [.advanceEpoch, .activate
        { incarnationId := ⟨2⟩, readinessGeneration := ⟨1⟩, callerAuthority := ⟨2⟩ } 0]))
      sampleWanted 0 0 ∧
    ¬ AdmissionAgrees
      (machine.exec (Impl.new {}) (sampleStart ++ [.defineEngine { engineId := ⟨2⟩ },
        .defineProfile { profileId := ⟨2⟩, engineId := ⟨2⟩ }]))
      { sampleWanted with profileId := ⟨2⟩ } 0 0 := by
  constructor
  · intro h
    obtain ⟨res, inc, profile, hres, hserves, -⟩ := h ⟨_, rfl⟩
    have hout : res.outcome = .revalidationRequired := by
      cases hres
      rfl
    rw [hout] at hserves
    exact absurd hserves (by decide)
  · intro h
    obtain ⟨res, inc, profile, hres, -⟩ := h ⟨_, rfl⟩
    cases hres

end EngineResidency.Runtime
