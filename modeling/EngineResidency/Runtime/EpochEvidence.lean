-- SUMMARY: When no readiness rests on evidence of an earlier epoch.
import EngineResidency.Runtime.Admission
import EngineResidency.Runtime.Evidence

/-!
# Readiness and the epoch

An epoch change leaves the evidence as it is. It protects readiness through the recovery
state alone: a RUNNING incarnation has to revalidate before it is evaluated again. An
incarnation that is not RUNNING stays open to evaluation, `revalidate` opens one without
looking at its evidence, and a registration may take an identity for which evidence is
recorded. `keepsEvidenceCurrent` is the check these three leave out: the evidence that
would be selected from then on is of the current epoch, or satisfies nothing.
-/

namespace EngineResidency.Runtime

variable {s s' : Impl} {op : Op} {r : Except Err Reply} {id : EngineIncarnationId}
  {epoch : CoordinatorEpoch} {evidence : List ComponentEvidence}

/-- Readiness rests on evidence of the current epoch: in every evaluation that authorizes
work, what satisfies a requirement that cannot be passed over carries that epoch. -/
def ReadinessCurrent (s : Impl) : Prop :=
  ∀ id profId now result profile, evaluateReadiness s id profId now = .ok result →
    result.outcome.serves → s.profiles.lookup profId = some profile →
    ∀ req ∈ profile.requirements, req.IsDemanded →
    ∀ e, Satisfies (s.evidenceFor id) req e → e.coordinatorEpoch = s.authority.epoch

/-! ## Selections -/

/-- The selected record is of the epoch, or has a state that satisfies nothing. -/
def isOfEpoch (epoch : CoordinatorEpoch) (e : ComponentEvidence) : Bool :=
  e.coordinatorEpoch == epoch || e.state.rank < 0

/-- What is selected from the evidence for a category, with or without a subject, is of
the epoch or satisfies nothing. -/
def selectsOnly (epoch : CoordinatorEpoch) (evidence : List ComponentEvidence) : Bool :=
  evidence.all fun e =>
    (bestEvidence evidence e.category [] []).all (isOfEpoch epoch) &&
      (bestEvidence evidence e.category e.subject []).all (isOfEpoch epoch)

theorem selectsOnly_iff : selectsOnly epoch evidence = true ↔
    ∀ category subject e, bestEvidence evidence category subject [] = some e →
      isOfEpoch epoch e = true := by
  simp only [selectsOnly, List.all_eq_true, Bool.and_eq_true]
  constructor
  · -- A record is selected for its own category, and for its own subject or for none.
    intro h category subject e hbest
    obtain ⟨hmem, rfl, hsubject⟩ := bestEvidence_mem hbest
    rcases hsubject with rfl | rfl
    · have hall := (h e hmem).1
      rwa [hbest] at hall
    · have hall := (h e hmem).2
      rwa [hbest] at hall
  · intro h e _
    have hall : ∀ subject, (bestEvidence evidence e.category subject []).all (isOfEpoch epoch) =
        true := by
      intro subject
      cases hbest : bestEvidence evidence e.category subject [] with
      | none => rfl
      | some b => exact h e.category subject b hbest
    exact ⟨hall [], hall e.subject⟩

/-- Evidence that satisfies nothing. -/
theorem selectsOnly_of_void (h : ∀ e ∈ evidence, e.state = .revalidationRequired) :
    selectsOnly epoch evidence = true := by
  refine selectsOnly_iff.mpr fun category subject e hbest => ?_
  have hvoid := h e (bestEvidence_mem hbest).1
  simp [isOfEpoch, hvoid, ComponentState.rank]

/-- One more record of the epoch. -/
theorem selectsOnly_append {e : ComponentEvidence} (h : selectsOnly epoch evidence = true)
    (he : e.coordinatorEpoch = epoch) : selectsOnly epoch (evidence ++ [e]) = true := by
  refine selectsOnly_iff.mpr fun category subject b hbest => ?_
  rcases bestEvidence_append evidence e with hold | hnew
  · exact selectsOnly_iff.mp h category subject b (hold.symm.trans hbest)
  · cases hnew.symm.trans hbest
    simp [isOfEpoch, he]

theorem EvidenceChange.selectsOnly (h : EvidenceChange s op r s')
    (hs : selectsOnly s.authority.epoch (s.evidenceFor id) = true) :
    selectsOnly s.authority.epoch (s'.evidenceFor id) = true := by
  cases h with
  | kept h =>
    rw [evidenceFor_congr h]
    exact hs
  | published hepoch h =>
    rw [evidenceFor_push h]
    split
    · exact selectsOnly_append hs hepoch
    · exact hs
  | voided h =>
    rw [evidenceFor_void h]
    split
    · refine selectsOnly_of_void fun e he => ?_
      obtain ⟨e, -, rfl⟩ := List.mem_map.mp he
      rfl
    · exact hs
  | recovered => exact selectsOnly_of_void fun e => restored_evidenceFor

/-! ## One step -/

/-- The checks of a registration. -/
def mayRegister (s : Impl) (inc : EngineIncarnation) (permit : RegistrationPermit) : Bool :=
  (s.permits.lookup permit.permitId).any (fun p =>
    !p.consumed && p.workerId == inc.workerId && p.workerBoot == inc.workerBoot &&
      p.epoch == s.authority.epoch) &&
  !s.bootFenced inc.workerId inc.workerBoot && (s.engines.lookup inc.engineId).isSome &&
  !s.incarnations.values.any (isDuplicateOf inc) &&
  s.incarnations.size < s.opts.maxIncarnations.toNat

/-- An incarnation that is open to evaluation after the operation, and was not before it
or under another epoch, has no evidence of another epoch to be selected. -/
def keepsEvidenceCurrent (s : Impl) : Op → Bool
  | .revalidate id =>
    (s.findInc id).isNone || selectsOnly s.authority.epoch (s.evidenceFor id)
  -- The identity that is assigned may have been in use, with evidence left behind.
  | .registerIncarnation inc permit _ =>
    !mayRegister s inc permit || selectsOnly s.authority.epoch (s.evidenceFor ⟨s.idInc + 1 + 1⟩)
  | .advanceEpoch =>
    match s.authority.epoch.next with
    | .error _ => true
    -- When the authority generation cannot be counted on, nothing is sent to revalidation.
    | .ok epoch => s.incarnations.values.all fun i =>
      i.state.recovery.awaitsRevalidation ||
        (i.state.lifecycle == .running && s.authority.authority.next.isOk) ||
        selectsOnly epoch (s.evidenceFor i.incarnationId)
  | _ => true

/-- Every incarnation that is open to evaluation has only evidence of the current epoch
to be selected. -/
def EvidenceCurrent (s : Impl) : Prop :=
  ∀ id i, s.findInc id = some i → i.state.recovery.awaitsRevalidation = false →
    selectsOnly s.authority.epoch (s.evidenceFor id) = true

theorem EvidenceCurrent.readinessCurrent (hs : EvidenceCurrent s) : ReadinessCurrent s := by
  intro id profId now result profile hres hserves _ req _ _ e he
  obtain ⟨inc, -, -, hinc, -, -, -, hopen, -⟩ :=
    (answers_iff (by decide)).mp ⟨result, hres, hserves⟩
  have hsel := selectsOnly_iff.mp (hs id inc hinc hopen) _ _ e he.selected
  have hrank := he.rank
  rw [isOfEpoch, Bool.or_eq_true, beq_iff_eq, decide_eq_true_eq] at hsel
  rcases hsel with hepoch | hvoid
  · exact hepoch
  · omega

/-- Only a revalidation opens an incarnation to evaluation again, and an epoch change
leaves open what is not running. -/
theorem IncChange.awaitsRevalidation {i i' : EngineIncarnation} (h : IncChange s op id i i')
    (hopen : i'.state.recovery.awaitsRevalidation = false) :
    i.state.recovery.awaitsRevalidation = false ∨ op = .revalidate id := by
  cases h with
  | quiet h =>
    rw [h.eq] at hopen
    exact .inl hopen
  | revalidated => exact .inr rfl
  | fenced =>
    revert hopen
    unfold fenceInc
    split
    · exact .inl
    · exact .inl
  | demoted =>
    revert hopen
    unfold demoteForEpoch
    split
    · intro hopen
      cases hopen
    · exact .inl
  | started =>
    revert hopen
    unfold confirmStart
    split
    · exact .inl
    · exact .inl
  | _ => exact .inl hopen

/-- An operation that keeps the epoch and rewrites the records in place. -/
theorem EvidenceCurrent.of_changed (hs : EvidenceCurrent s) (hop : keepsEvidenceCurrent s op = true)
    (hepoch : s'.authority.epoch = s.authority.epoch) (hincs : IncsChanged s op s')
    (hevidence : EvidenceChange s op r s') : EvidenceCurrent s' := by
  intro id i' hi' hopen
  rw [hepoch]
  refine hevidence.selectsOnly ?_
  obtain ⟨i, hi, hchange⟩ := hincs.findInc hi'
  rcases hchange.awaitsRevalidation hopen with hopen | rfl
  · exact hs id i hi hopen
  · simpa [keepsEvidenceCurrent, hi] using hop

theorem mayRegister_eq_true {inc : EngineIncarnation} {permit p : RegistrationPermit}
    {engine : EngineDefinition} (hpermit : s.permits.lookup permit.permitId = some p)
    (hspent : p.consumed = false) (hworker : p.workerId = inc.workerId)
    (hboot : p.workerBoot = inc.workerBoot) (hepoch : p.epoch = s.authority.epoch)
    (hfenced : s.bootFenced inc.workerId inc.workerBoot = false)
    (hengine : s.engines.lookup inc.engineId = some engine)
    (hdup : s.incarnations.values.any (isDuplicateOf inc) = false)
    (hroom : s.incarnations.size < s.opts.maxIncarnations.toNat) :
    mayRegister s inc permit = true := by
  simp [mayRegister, hpermit, hspent, hworker, hboot, hepoch, hfenced, hengine, hdup, hroom]

/-- What the check of an epoch change says of one incarnation. -/
theorem selectsOnly_of_advance {next : CoordinatorEpoch} {i : EngineIncarnation}
    (hop : keepsEvidenceCurrent s .advanceEpoch = true) (hkeyed : KeyedById s)
    (hnext : s.authority.epoch.next = .ok next) (hi : s.findInc id = some i)
    (hopen : i.state.recovery.awaitsRevalidation = false)
    (hlasting : i.state.lifecycle ≠ .running ∨ s.authority.authority.next.isOk = false) :
    selectsOnly next (s.evidenceFor id) = true := by
  simp only [keepsEvidenceCurrent, hnext, List.all_eq_true, Bool.or_eq_true, Bool.and_eq_true,
    beq_iff_eq] at hop
  rcases hop i (AList.mem_values.mpr ⟨id, hi⟩) with (hawaits | ⟨hrunning, hok⟩) | hsel
  · rw [hopen] at hawaits
    cases hawaits
  · rcases hlasting with hlasting | hlasting
    · exact absurd hrunning hlasting
    · rw [hok] at hlasting
      cases hlasting
  · rwa [hkeyed id i hi] at hsel

theorem Transition.evidenceCurrent (h : Transition s op r s')
    (hop : keepsEvidenceCurrent s op = true) (hkeyed : KeyedById s) (hs : EvidenceCurrent s) :
    EvidenceCurrent s' := by
  have hincs := h.incarnations
  have hevidence := h.evidence
  cases h with
  | refused => exact hs
  | registerIncarnation hpermit hspent hworker hboot hepoch hfenced hengine hdup hroom =>
    intro id i' hi' hopen
    simp only [Impl.findInc, enroll, AList.lookup_insert'] at hi'
    split at hi'
    · rename_i hid
      have hmay := mayRegister_eq_true hpermit hspent hworker hboot hepoch hfenced hengine hdup hroom
      have hsel : selectsOnly s.authority.epoch (s.evidenceFor ⟨s.idInc + 1 + 1⟩) = true := by
        simpa [keepsEvidenceCurrent, hmay] using hop
      rw [hid]
      exact hsel
    · exact hs id i' hi' hopen
  | advanceEpochExhausted hepoch hauthority =>
    intro id i hi hopen
    have hstuck : s.authority.authority.next.isOk = false := by rw [hauthority]; rfl
    exact selectsOnly_of_advance (s := s) hop hkeyed hepoch hi hopen (.inr hstuck)
  | advanceEpoch hepoch hauthority =>
    intro id i' hi' hopen
    have hi' : (s.incarnations.mapVal demoteForEpoch).lookup id = some i' := hi'
    rw [AList.lookup_mapVal, Option.map_eq_some_iff] at hi'
    obtain ⟨i, hi, rfl⟩ := hi'
    -- What runs has to revalidate; everything else stays open as it was.
    by_cases hrunning : i.state.lifecycle = .running
    · simp [demoteForEpoch, hrunning, RecoveryState.awaitsRevalidation] at hopen
    · rw [demoteForEpoch, if_neg hrunning] at hopen
      exact selectsOnly_of_advance (s := s) hop hkeyed hepoch hi hopen (.inl hrunning)
  | load => exact fun id i' _ _ => selectsOnly_of_void fun e => restored_evidenceFor
  | _ =>
    rcases hincs with hchanged | ⟨inc, now, henr⟩ | ⟨blob, p, hload, -⟩
    · exact hs.of_changed hop rfl hchanged hevidence
    · obtain ⟨permit, hregister⟩ := henr.op_eq
      cases hregister
    · cases hload

/-- In every run whose steps keep the evidence current, readiness rests on evidence of the
current epoch. -/
theorem readiness_current (opts : RuntimeOptions) (ops : List Op)
    (hrun : machine.Along (fun s op => keepsEvidenceCurrent s op = true) (Impl.new opts) ops) :
    ReadinessCurrent (machine.exec (Impl.new opts) ops) := by
  have hinit : EvidenceCurrent (Impl.new opts) := by
    intro id i hi
    simp [Impl.findInc, Impl.new] at hi
  have hinv : KeyedById (machine.exec (Impl.new opts) ops) ∧
      EvidenceCurrent (machine.exec (Impl.new opts) ops) :=
    Machine.exec_invariant (I := fun s => KeyedById s ∧ EvidenceCurrent s)
      ⟨keyedById_new opts, hinit⟩ hrun fun s op hs hop =>
        ⟨(step_transition s op).keyedById hs.1, (step_transition s op).evidenceCurrent hop hs.1 hs.2⟩
  exact hinv.2.readinessCurrent

/-- Evidence of the first epoch, an epoch change, evidence of the second epoch, and a
revalidation. -/
theorem readiness_current_sample :
    ReadinessCurrent (machine.exec (Impl.new {}) (sampleDemanding ++
      [samplePublish ⟨1⟩ 0, .advanceEpoch, samplePublish ⟨2⟩ 1, .revalidate ⟨2⟩])) :=
  readiness_current {} _ (by decide)

/-- A revalidation without new evidence restores READY on evidence of the first epoch; so
does an epoch change that finds the incarnation draining. -/
theorem readiness_outlives_epoch :
    ¬ ReadinessCurrent (machine.exec (Impl.new {}) (sampleDemanding ++
      [samplePublish ⟨1⟩ 0, .advanceEpoch, .revalidate ⟨2⟩])) ∧
    ¬ ReadinessCurrent (machine.exec (Impl.new {}) (sampleDemanding ++
      [samplePublish ⟨1⟩ 0, .requestDrain ⟨2⟩, .advanceEpoch])) := by
  refine ⟨fun h => ?_, fun h => ?_⟩
  · have hepoch := h ⟨2⟩ ⟨1⟩ 0 _ _ rfl (.inl rfl) rfl {} List.mem_cons_self (.inl rfl) _ ⟨rfl, rfl⟩
    cases hepoch
  · have hepoch := h ⟨2⟩ ⟨1⟩ 0 _ _ rfl (.inl rfl) rfl {} List.mem_cons_self (.inl rfl) _ ⟨rfl, rfl⟩
    cases hepoch

end EngineResidency.Runtime
