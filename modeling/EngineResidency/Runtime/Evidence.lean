-- SUMMARY: What happens to recorded evidence, and why evidence that was voided never counts again.
import EngineResidency.Readiness.Meaning
import EngineResidency.Runtime.Incarnation

/-!
# Recorded evidence

Evidence is only ever added, by a publication. A recovery and an invalidation void what
is recorded, but leave the records in place, where they compete with later ones for
being selected. `VoidOrIn` is what a run keeps: a record is void or was published since.
The evaluator marks nothing as satisfied by a void record, so whatever it uses is new.
-/

namespace EngineResidency.Runtime

variable {s s' : Impl} {op : Op} {r : Except Err Reply} {id : EngineIncarnationId}

/-! ## One step -/

/-- What an operation does to the evidence. -/
inductive EvidenceChange (s : Impl) : Op → Except Err Reply → Impl → Prop
  | kept {op : Op} {r : Except Err Reply} {s' : Impl} (h : s'.evidence = s.evidence) :
    EvidenceChange s op r s'
  | published {ev : ComponentEvidence} {now : DurationNs} {s' : Impl}
    (hepoch : ev.coordinatorEpoch = s.authority.epoch)
    (h : s'.evidence =
      (s.pushEvidence ev.incarnationId (stampedEvidence s ev now)).evidence) :
    EvidenceChange s (.publishComponent ev now) (.ok (.evidence (stampedEvidence s ev now))) s'
  | voided {id : EngineIncarnationId} {reason : Str} {r : Except Err Reply} {s' : Impl}
    (h : s'.evidence = s.evidence.modify id (List.map (invalidatedEvidence reason))) :
    EvidenceChange s (.invalidateIncarnationComponents id reason) r s'
  | recovered {blob : Str} {p : PersistentState} :
    EvidenceChange s (.load blob) (.ok .done) (restored s p)

theorem Transition.evidence (h : Transition s op r s') : EvidenceChange s op r s' := by
  cases h with
  | publishComponent _ _ _ _ hepoch => exact .published hepoch rfl
  | invalidateExhausted => exact .voided rfl
  | invalidateIncarnationComponents => exact .voided rfl
  | load => exact .recovered
  | _ => exact .kept rfl

theorem evidenceFor_congr (h : s'.evidence = s.evidence) :
    s'.evidenceFor id = s.evidenceFor id := by
  rw [Impl.evidenceFor, Impl.evidenceFor, h]

theorem evidenceFor_push {key : EngineIncarnationId} {e : ComponentEvidence}
    (h : s'.evidence = (s.pushEvidence key e).evidence) :
    s'.evidenceFor id = if id = key then s.evidenceFor id ++ [e] else s.evidenceFor id := by
  rw [Impl.evidenceFor, h, Impl.pushEvidence, AList.lookup_insert']
  split
  · rename_i hid
    rw [hid]
    rfl
  · rfl

theorem evidenceFor_void {key : EngineIncarnationId} {reason : Str}
    (h : s'.evidence = s.evidence.modify key (List.map (invalidatedEvidence reason))) :
    s'.evidenceFor id =
      if id = key then (s.evidenceFor id).map (invalidatedEvidence reason)
      else s.evidenceFor id := by
  rw [Impl.evidenceFor, h, AList.lookup_modify]
  split
  · rename_i hid
    rw [hid, Impl.evidenceFor]
    cases s.evidence.lookup key with
    | none => rfl
    | some es => rfl
  · rfl

/-- A recovery voids all evidence. -/
theorem restored_evidenceFor {p : PersistentState} {e : ComponentEvidence}
    (he : e ∈ (restored s p).evidenceFor id) : e.state = .revalidationRequired := by
  have hall : (restored s p).evidence.All fun es => ∀ e ∈ es, e.state = .revalidationRequired := by
    refine .foldl_insert .empty fun m hm x _ e he => ?_
    rcases List.mem_append.mp he with hold | hnew
    · cases hes : m.lookup x.incarnationId with
      | none => simp [hes] at hold
      | some es => exact hm _ es hes e (by simpa [hes] using hold)
    · obtain rfl := List.mem_singleton.mp hnew
      rfl
  rw [Impl.evidenceFor] at he
  cases hes : (restored s p).evidence.lookup id with
  | none => simp [hes] at he
  | some es => exact hall id es hes e (by simpa [hes] using he)

/-! ## What has been published since -/

/-- The record that a publication for the incarnation has returned. -/
def returnedEvidence (id : EngineIncarnationId) :
    Op × Except Err Reply → Option ComponentEvidence
  | (.publishComponent _ _, .ok (.evidence e)) => if e.incarnationId = id then some e else none
  | _ => none

/-- The records that the publications of a run for the incarnation have returned. -/
def publishedFor (id : EngineIncarnationId) (s : Impl) (ops : List Op) : List ComponentEvidence :=
  (machine.trace s ops).filterMap (returnedEvidence id)

/-- Every record of the incarnation is void or one of `es`. -/
def VoidOrIn (es : List ComponentEvidence) (id : EngineIncarnationId) (s : Impl) : Prop :=
  ∀ e ∈ s.evidenceFor id, e.state = .revalidationRequired ∨ e ∈ es

theorem EvidenceChange.voidOrIn {es : List ComponentEvidence} (h : EvidenceChange s op r s')
    (hs : VoidOrIn es id s) : VoidOrIn (es ++ (returnedEvidence id (op, r)).toList) id s' := by
  have hmono : ∀ e ∈ s.evidenceFor id, e.state = .revalidationRequired ∨
      e ∈ es ++ (returnedEvidence id (op, r)).toList :=
    fun e he => (hs e he).imp_right (List.mem_append_left _)
  intro e he
  cases h with
  | kept h =>
    rw [evidenceFor_congr h] at he
    exact hmono e he
  | @published ev now _ hepoch h =>
    rw [evidenceFor_push h] at he
    split at he
    · rename_i hid
      rcases List.mem_append.mp he with hold | hnew
      · exact hmono e hold
      · -- The stored record is the one that the publication returns.
        obtain rfl := List.mem_singleton.mp hnew
        refine .inr (List.mem_append_right _ ?_)
        simp [returnedEvidence, stampedEvidence, hid]
    · exact hmono e he
  | voided h =>
    rw [evidenceFor_void h] at he
    split at he
    · obtain ⟨e, -, rfl⟩ := List.mem_map.mp he
      exact .inl rfl
    · exact hmono e he
  | recovered => exact .inl (restored_evidenceFor he)

theorem publishedFor_cons (s : Impl) (op : Op) (ops : List Op) :
    publishedFor id s (op :: ops) = (returnedEvidence id (op, machine.result s op)).toList ++
      publishedFor id (machine.next s op) ops := by
  simp only [publishedFor, Machine.trace, List.filterMap_cons]
  cases returnedEvidence id (op, machine.result s op) with
  | none => rfl
  | some e => rfl

theorem voidOrIn_exec {es : List ComponentEvidence} (ops : List Op) (hs : VoidOrIn es id s) :
    VoidOrIn (es ++ publishedFor id s ops) id (machine.exec s ops) := by
  induction ops generalizing s es with
  | nil => simpa [publishedFor, Machine.trace] using hs
  | cons op ops ih =>
    have hnext := ih ((step_transition s op).evidence.voidOrIn hs)
    rw [List.append_assoc] at hnext
    rw [publishedFor_cons]
    exact hnext

/-! ## Whole runs -/

/-- The operation voids the evidence of the incarnation. -/
def Op.VoidsEvidence (id : EngineIncarnationId) : Op → Prop
  | .load _ => True
  | .invalidateIncarnationComponents id' _ => id' = id
  | _ => False

theorem Transition.voidOrIn_nil {reply : Reply} (h : Transition s op (.ok reply) s')
    (hop : op.VoidsEvidence id) : VoidOrIn [] id s' := by
  intro e he
  cases h with
  | @invalidateIncarnationComponents id' reason =>
    obtain rfl : id' = id := hop
    rw [evidenceFor_void (s := s) rfl, if_pos rfl] at he
    obtain ⟨e, -, rfl⟩ := List.mem_map.mp he
    exact .inl rfl
  | load => exact .inl (restored_evidenceFor he)
  | _ => exact hop.elim

/-- Every requirement of the profile that cannot be passed over is satisfied by one of
`es`. -/
def BackedBy (es : List ComponentEvidence) (id : EngineIncarnationId) (s : Impl)
    (profile : ReadinessProfile) : Prop :=
  ∀ req ∈ profile.requirements, req.IsDemanded →
    ∃ e ∈ es, Satisfies (s.evidenceFor id) req e

/-- Completing the attempt `a` publishes readiness: its flag is set, or it is returned as
prepared. -/
def PublishesReady (s : Impl) (attemptId : PreparationAttemptId) (a : PreparationAttempt)
    (now : DurationNs) : Prop :=
  (a.publishedReady = false ∧
    ∃ a', (machine.next s (.completePreparation attemptId now)).attempts.lookup attemptId =
      some a' ∧ a'.publishedReady = true) ∨
  ∃ a', machine.result s (.completePreparation attemptId now) = .ok (.attempt a') ∧
    a'.state = .prepared

/-- Whatever counts on the evidence of the incarnation counts on one of `es`. -/
structure RestsOn (es : List ComponentEvidence) (id : EngineIncarnationId) (s : Impl) : Prop where
  evaluation : ∀ engine profile inc now, List.Forall₂
    (fun req o => req.IsDemanded → o.satisfied = true →
      ∃ e ∈ es, Satisfies (s.evidenceFor id) req e)
    profile.requirements
    (EngineResidency.evaluateReadiness engine profile inc (s.evidenceFor id)
      now).requirementOutcomes
  use : ∀ wanted now admittedAt profile reply, wanted.incarnationId = id →
    s.profiles.lookup wanted.profileId = some profile →
    machine.result s (.acquireServingUse wanted now admittedAt) = .ok reply →
    BackedBy es id s profile
  activation : ∀ req now profile reply, req.incarnationId = id → req.profileId.isValid = true →
    s.profiles.lookup req.profileId = some profile →
    machine.result s (.activate req now) = .ok reply → BackedBy es id s profile
  preparation : ∀ attemptId a now profile, s.attempts.lookup attemptId = some a →
    a.incarnationId = id → s.profiles.lookup a.profileId = some profile →
    PublishesReady s attemptId a now → BackedBy es id s profile

section RestsOn

variable {es : List ComponentEvidence}

/-- A void record satisfies nothing. -/
theorem VoidOrIn.mem_of_satisfies (hs : VoidOrIn es id s) {req : ProfileRequirement}
    {e : ComponentEvidence} (he : Satisfies (s.evidenceFor id) req e) : e ∈ es := by
  rcases hs e (bestEvidence_mem he.selected).1 with hvoid | hmem
  · have hrank := he.rank
    rw [hvoid] at hrank
    exact absurd hrank (by decide)
  · exact hmem

theorem VoidOrIn.backedBy (hs : VoidOrIn es id s) {engine : EngineDefinition}
    {profile : ReadinessProfile} {inc : EngineIncarnation} {now : DurationNs}
    (h : (EngineResidency.evaluateReadiness engine profile inc (s.evidenceFor id)
      now).outcome.serves) : BackedBy es id s profile := by
  intro req hreq hdemanded
  obtain ⟨e, he⟩ := satisfies_of_serves h hreq hdemanded
  exact ⟨e, hs.mem_of_satisfies he, he⟩

/-- The gate of an activation that names a profile is the evaluation. -/
theorem serves_of_activationGate {req : ActivationRequest} {inc : EngineIncarnation}
    {now : DurationNs} {profile : ReadinessProfile} (h : activationGate s req inc now = .ok ())
    (hvalid : req.profileId.isValid = true)
    (hprofile : s.profiles.lookup req.profileId = some profile) :
    ∃ engine, (EngineResidency.evaluateReadiness engine profile inc
      (s.evidenceFor inc.incarnationId) now).outcome.serves := by
  unfold activationGate at h
  rw [if_pos hvalid, hprofile] at h
  cases hengine : s.engines.lookup inc.engineId with
  | none => rw [hengine] at h; cases h
  | some engine =>
    rw [hengine] at h
    refine ⟨engine, ?_⟩
    by_contra hserves
    simp only [Option.elim, bind, Except.bind] at h
    rw [if_neg hserves] at h
    cases h

theorem PublishesReady.serves {attemptId : PreparationAttemptId} {a : PreparationAttempt}
    {now : DurationNs} {profile : ReadinessProfile} (h : PublishesReady s attemptId a now)
    (ha : s.attempts.lookup attemptId = some a)
    (hprofile : s.profiles.lookup a.profileId = some profile) :
    ∃ engine inc, (EngineResidency.evaluateReadiness engine profile inc
      (s.evidenceFor a.incarnationId) now).outcome.serves := by
  have hstep := step_transition s (.completePreparation attemptId now)
  unfold PublishesReady at h
  generalize machine.next s (.completePreparation attemptId now) = s' at h hstep
  generalize machine.result s (.completePreparation attemptId now) = r at h hstep
  have hevaluated : ∀ {inc : EngineIncarnation} {outcome : ReadinessOutcome}, outcome.serves →
      Completes s a inc now outcome → ∃ engine inc, (EngineResidency.evaluateReadiness engine
        profile inc (s.evidenceFor a.incarnationId) now).outcome.serves := by
    intro inc outcome hserves hcompletes
    obtain ⟨profile', engine, hprofile', -, rfl⟩ := hcompletes.evaluated
    cases hprofile.symm.trans hprofile'
    exact ⟨engine, inc, hserves⟩
  cases hstep with
  | refused =>
    rcases h with ⟨hopen, a', ha', hpublished⟩ | ⟨a', hres, -⟩
    · cases ha.symm.trans ha'
      rw [hopen] at hpublished
      cases hpublished
    · cases hres
  | completePreparationExhausted hattempt _ _ hserves hcompletes =>
    cases ha.symm.trans hattempt
    exact hevaluated hserves hcompletes
  | completePreparation hattempt _ _ _ _ _ hserves _ hcompletes =>
    cases ha.symm.trans hattempt
    exact hevaluated hserves hcompletes
  | @completePreparationFailed _ _ a₀ inc outcome hattempt _ _ _ hserves =>
    -- An attempt that fails keeps its flag and is not returned as prepared.
    cases ha.symm.trans hattempt
    rcases h with ⟨hopen, a', ha', hpublished⟩ | ⟨a', hres, hprepared⟩
    · have hstored : a' = completedAttempt outcome a := by
        simp only [endAttempt, storeCompletion, Impl.modifyInc, Impl.modifyAttempt,
          AList.lookup_modify_self, ha] at ha'
        exact (Option.some.inj ha').symm
      rw [hstored, completedAttempt_publishedReady a hserves, hopen] at hpublished
      cases hpublished
    · cases hres
      rw [completedAttempt_failed a hserves] at hprepared
      cases hprepared

theorem VoidOrIn.restsOn (hs : VoidOrIn es id s) (hkeyed : KeyedById s) : RestsOn es id s where
  evaluation engine profile inc now := by
    refine evaluateReadiness_forall₂.imp fun req o h hdemanded hsatisfied => ?_
    obtain ⟨e, he⟩ := h hdemanded hsatisfied
    exact ⟨e, hs.mem_of_satisfies he, he⟩
  use wanted now admittedAt profile reply hid hprofile hres := by
    obtain ⟨inc, profile', engine, hadm⟩ := acquireServingUse_ok hres
    cases hprofile.symm.trans hadm.profiled
    have hready := hadm.ready
    rw [hkeyed _ inc hadm.found, hid] at hready
    exact hs.backedBy hready
  activation req now profile reply hid hvalid hprofile hres := by
    have hstep := step_transition s (.activate req now)
    rw [hres] at hstep
    generalize machine.next s (.activate req now) = s' at hstep
    cases hstep with
    | activate _ hinc _ _ _ _ hgate =>
      obtain ⟨engine, hserves⟩ := serves_of_activationGate hgate hvalid hprofile
      rw [hkeyed _ _ hinc, hid] at hserves
      exact hs.backedBy hserves
  preparation attemptId a now profile ha hid hprofile hpublishes := by
    obtain ⟨engine, inc, hserves⟩ := hpublishes.serves ha hprofile
    rw [hid] at hserves
    exact hs.backedBy hserves

end RestsOn

/-- Once a recovery, or an invalidation of the incarnation, has voided its evidence,
whatever counts on its evidence in any continuation counts on what was published since. -/
theorem voided_evidence_never_counts (opts : RuntimeOptions) (os₁ os₂ : List Op) {op : Op}
    {reply : Reply} {id : EngineIncarnationId} (hop : op.VoidsEvidence id)
    (hok : machine.result (machine.exec (Impl.new opts) os₁) op = .ok reply) :
    RestsOn (publishedFor id (machine.exec (Impl.new opts) (os₁ ++ [op])) os₂) id
      (machine.exec (Impl.new opts) (os₁ ++ op :: os₂)) := by
  have hkeyed : KeyedById (machine.exec (Impl.new opts) (os₁ ++ op :: os₂)) :=
    Machine.exec_always (keyedById_new opts)
      (fun s op hs => (step_transition s op).keyedById hs) _
  have hvoid : VoidOrIn [] id (machine.exec (Impl.new opts) (os₁ ++ [op])) := by
    have hstep := step_transition (machine.exec (Impl.new opts) os₁) op
    rw [hok] at hstep
    rw [Machine.exec_append]
    exact hstep.voidOrIn_nil hop
  have hrun := voidOrIn_exec os₂ hvoid
  rw [← Machine.exec_append, List.append_assoc] at hrun
  exact VoidOrIn.restsOn hrun hkeyed

/-- As `sampleStart`, with a profile that demands a verified model. -/
def sampleDemanding : List Op :=
  [.defineEngine { engineId := ⟨1⟩ },
   .defineProfile { profileId := ⟨1⟩, engineId := ⟨1⟩, requirements := [{}] },
   .issueRegistrationPermit ⟨1⟩ ⟨1⟩,
   .registerIncarnation { engineId := ⟨1⟩, workerId := ⟨1⟩, workerBoot := ⟨1⟩ }
     { permitId := ⟨2⟩ } 0,
   .markRunning ⟨2⟩ 0]

/-- Publish that the model of the sample incarnation is verified, under an epoch. -/
def samplePublish (epoch : CoordinatorEpoch) (now : DurationNs) : Op :=
  .publishComponent
    { category := .model, state := .verified, incarnationId := ⟨2⟩, coordinatorEpoch := epoch } now

/-- A use that is admitted after an invalidation rests on evidence published after it. -/
theorem voided_evidence_never_counts_sample :
    ∃ e ∈ publishedFor ⟨2⟩ (machine.exec (Impl.new {}) (sampleDemanding ++ [samplePublish ⟨1⟩ 0] ++
        [.invalidateIncarnationComponents ⟨2⟩ []])) [samplePublish ⟨1⟩ 1],
      Satisfies ((machine.exec (Impl.new {}) (sampleDemanding ++ [samplePublish ⟨1⟩ 0] ++
        .invalidateIncarnationComponents ⟨2⟩ [] :: [samplePublish ⟨1⟩ 1])).evidenceFor ⟨2⟩) {} e := by
  have hop : (Op.invalidateIncarnationComponents ⟨2⟩ []).VoidsEvidence ⟨2⟩ := rfl
  have hrests := voided_evidence_never_counts {} (sampleDemanding ++ [samplePublish ⟨1⟩ 0])
    [samplePublish ⟨1⟩ 1] hop rfl
  exact hrests.use { sampleWanted with readinessGeneration := ⟨2⟩ } 1 1 _ _ rfl rfl rfl {}
    List.mem_cons_self (.inl rfl)

end EngineResidency.Runtime
