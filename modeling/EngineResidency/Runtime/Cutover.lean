-- SUMMARY: What a cutover proves of its candidate, and the checks it leaves out.
import EngineResidency.Runtime.Admission

/-!
# Cutover

A replacement makes before it breaks: the old incarnation keeps its authority until the
candidate takes over. `PromotesProven` says that a cutover only promotes a candidate that
can take over. The code checks the phase of the plan and that the candidate runs;
`provesCandidate` is the check that would be needed.
-/

namespace EngineResidency.Runtime

open EStateM

variable {s s' : Impl} {op : Op} {r : Except Err Reply}

/-! ## What a cutover should rest on -/

/-- Whether the public query authorizes work. -/
def servesFor (s : Impl) (id : EngineIncarnationId) (profId : ReadinessProfileId)
    (now : DurationNs) : Bool :=
  match evaluateReadiness s id profId now with
  | .ok res => res.outcome.serves
  | .error _ => false

/-- The incarnation can pass readiness for a profile of the engine. -/
def ServesUnder (s : Impl) (id : EngineIncarnationId) (engineId : EngineId) (now : DurationNs) :
    Prop :=
  ∃ profId profile, s.profiles.lookup profId = some profile ∧ profile.engineId = engineId ∧
    servesFor s id profId now = true

/-- The candidate of a plan can take over from the old incarnation. -/
structure Proven (s : Impl) (p : ReplacementPlan) (cand old : EngineIncarnation)
    (now : DurationNs) : Prop where
  found : s.findInc p.candidateIncarnation = some cand
  replaced : s.findInc p.oldIncarnation = some old
  engine : cand.engineId = old.engineId
  boot : s.bootFenced cand.workerId cand.workerBoot = false
  recovery : cand.state.recovery = .nominal
  ready : ServesUnder s p.candidateIncarnation cand.engineId now

/-- The engine has a current incarnation that can pass readiness. -/
def HasServing (s : Impl) (engineId : EngineId) (now : DurationNs) : Prop :=
  ∃ id i, s.currentByEngine.lookup engineId = some id ∧ s.findInc id = some i ∧
    i.engineId = engineId ∧ i.isCurrent = true ∧ ServesUnder s id engineId now

/-- If a cutover succeeds, then its candidate can take over, and has taken over. -/
def PromotesProven (s : Impl) (rid : ReplacementId) (now : DurationNs) : Prop :=
  ∀ reply, machine.result s (.commitCutover rid) = .ok reply →
    ∃ p cand old, s.replacementPlans.lookup rid = some p ∧ Proven s p cand old now ∧
      HasServing (machine.next s (.commitCutover rid)) old.engineId now

/-- The checks that a cutover leaves out: the old incarnation is one of the same engine,
the boot of the candidate is not fenced, and the query authorizes work of the candidate. -/
def provesCandidate (s : Impl) (rid : ReplacementId) (now : DurationNs) : Bool :=
  (s.replacementPlans.lookup rid).all fun p =>
    (s.findInc p.candidateIncarnation).all fun cand =>
      !mayCutOver p cand ||
        ((s.findInc p.oldIncarnation).any (fun old => cand.engineId == old.engineId) &&
          !s.bootFenced cand.workerId cand.workerBoot &&
          s.profiles.keys.any fun profId => servesFor s p.candidateIncarnation profId now)

/-! ## The recovery state of an incarnation -/

/-- An incarnation that awaits no revalidation is nominal. -/
def Recovered (s : Impl) : Prop :=
  ∀ id i, s.findInc id = some i → i.state.recovery = .nominal ∨ i.state.recovery = .revalidating

theorem recovered_new (opts : RuntimeOptions) : Recovered (Impl.new opts) := by
  intro id i hi
  simp [Impl.findInc, Impl.new] at hi

theorem IncChange.recovery {id : EngineIncarnationId} {i i' : EngineIncarnation}
    (h : IncChange s op id i i') :
    i'.state.recovery = i.state.recovery ∨ i'.state.recovery = .nominal ∨
      i'.state.recovery = .revalidating := by
  cases h with
  | quiet h => exact .inl (by rw [h.eq])
  | revalidated h => exact .inr (.inl (by rw [h.eq]; rfl))
  | fenced => unfold fenceInc; split <;> exact .inl rfl
  | demoted =>
    unfold demoteForEpoch
    split
    · exact .inr (.inr rfl)
    · exact .inl rfl
  | started => unfold confirmStart; split <;> exact .inl rfl
  | _ => exact .inl rfl

theorem Transition.recovered (h : Transition s op r s') (hs : Recovered s) : Recovered s' := by
  refine h.forall_inc (fun _ _ _ _ hch hP => ?_) (fun _ _ _ => .inl rfl) (fun _ => .inr rfl) hs
  rcases hch.recovery with heq | hset
  · rw [heq]
    exact hP
  · exact hset

/-! ## Readiness before and after a cutover -/

/-- What the query checks before it authorizes work. -/
theorem servesFor_iff {id : EngineIncarnationId} {inc : EngineIncarnation}
    {profId : ReadinessProfileId} {now : DurationNs} (hinc : s.findInc id = some inc) :
    servesFor s id profId now = true ↔
      ∃ profile engine, s.profiles.lookup profId = some profile ∧
        profile.engineId = inc.engineId ∧ s.engines.lookup inc.engineId = some engine ∧
        inc.state.recovery.awaitsRevalidation = false ∧
        (EngineResidency.evaluateReadiness engine profile inc (s.evidenceFor id) now).outcome.serves := by
  have hanswer : servesFor s id profId now = true ↔
      ∃ res, evaluateReadiness s id profId now = .ok res ∧ res.outcome.serves := by
    unfold servesFor
    cases evaluateReadiness s id profId now <;> simp
  rw [hanswer, answers_iff (by decide), hinc]
  simp

/-- What the query reads of a record. -/
structure SameQuery (i i' : EngineIncarnation) : Prop where
  incarnationId : i'.incarnationId = i.incarnationId
  incarnationGeneration : i'.incarnationGeneration = i.incarnationGeneration
  engineId : i'.engineId = i.engineId
  readinessGeneration : i'.readinessGeneration = i.readinessGeneration
  recovery : i'.state.recovery = i.state.recovery

theorem servesFor_congr {id : EngineIncarnationId} {i i' : EngineIncarnation}
    {profId : ReadinessProfileId} {now : DurationNs} (hi : s.findInc id = some i)
    (hi' : s'.findInc id = some i') (hsame : SameQuery i i') (hprofiles : s'.profiles = s.profiles)
    (hengines : s'.engines = s.engines) (hevidence : s'.evidence = s.evidence) :
    servesFor s' id profId now = servesFor s id profId now := by
  have heval : ∀ engine profile evidence,
      EngineResidency.evaluateReadiness engine profile i' evidence now =
        EngineResidency.evaluateReadiness engine profile i evidence now := by
    intro engine profile evidence
    unfold EngineResidency.evaluateReadiness
    rw [hsame.incarnationId, hsame.incarnationGeneration, hsame.readinessGeneration]
  have hfor : s'.evidenceFor id = s.evidenceFor id := by
    rw [Impl.evidenceFor, Impl.evidenceFor, hevidence]
  rw [Bool.eq_iff_iff, servesFor_iff hi, servesFor_iff hi', hprofiles, hengines, hfor,
    hsame.engineId, hsame.recovery]
  simp only [heval]

/-- The record of the candidate after a cutover. -/
theorem cutover_findInc {p : ReplacementPlan} {cand : EngineIncarnation} (rid : ReplacementId)
    (hcand : s.findInc p.candidateIncarnation = some cand) :
    ∃ i, ((cutover p cand s).modifyReplacement rid (setPhase .cutover)).findInc
        p.candidateIncarnation = some i ∧ i.isCurrent = true ∧ SameQuery cand i := by
  have hlookup : s.incarnations.lookup p.candidateIncarnation = some cand := hcand
  simp only [Impl.findInc, Impl.modifyReplacement, cutover]
  rw [AList.lookup_modify_self, AList.lookup_modify]
  split
  · rename_i hsame
    rw [← hsame, hlookup]
    exact ⟨_, rfl, rfl, rfl, rfl, rfl, rfl, rfl⟩
  · rw [hlookup]
    exact ⟨_, rfl, rfl, rfl, rfl, rfl, rfl, rfl⟩

/-! ## Cutovers -/

/-- A cutover that succeeds has passed the checks of the code. -/
theorem commitCutover_ok {rid : ReplacementId} {reply : Reply}
    (h : machine.result s (.commitCutover rid) = .ok reply) :
    ∃ p cand, s.replacementPlans.lookup rid = some p ∧
      s.findInc p.candidateIncarnation = some cand ∧ mayCutOver p cand = true ∧
      machine.next s (.commitCutover rid) =
        (cutover p cand s).modifyReplacement rid (setPhase .cutover) := by
  have hstep := step_transition s (.commitCutover rid)
  rw [h] at hstep
  generalize machine.next s (.commitCutover rid) = s' at hstep ⊢
  cases hstep with
  | commitCutover hplan hphase hcand hrunning =>
    exact ⟨_, _, hplan, hcand, by simp [mayCutOver, hphase, hrunning], rfl⟩

/-- A cutover that passes the checks of the code succeeds. -/
theorem commitCutover_result {rid : ReplacementId} {p : ReplacementPlan} {cand : EngineIncarnation}
    (hplan : s.replacementPlans.lookup rid = some p)
    (hcand : s.findInc p.candidateIncarnation = some cand) (hmay : mayCutOver p cand = true) :
    machine.result s (.commitCutover rid) = .ok (.replacement (setPhase .cutover p)) := by
  simp only [mayCutOver, Bool.and_eq_true, beq_iff_eq] at hmay
  have hwp : wp (step (.commitCutover rid))
      (fun r _ => r = .ok (.replacement (setPhase .cutover p))) s :=
    wp_map (wp_get (wp_found_of_eq hplan (wp_passes (not_not.mpr hmay.1)
      (wp_found_of_eq hcand (wp_passes (not_not.mpr hmay.2) (wp_modify (wp_pure rfl)))))))
  exact wp_iff.mp hwp

theorem provesCandidate_iff {rid : ReplacementId} {now : DurationNs} {p : ReplacementPlan}
    {cand : EngineIncarnation} (hplan : s.replacementPlans.lookup rid = some p)
    (hcand : s.findInc p.candidateIncarnation = some cand) (hmay : mayCutOver p cand = true) :
    provesCandidate s rid now = true ↔
      (∃ old, s.findInc p.oldIncarnation = some old ∧ cand.engineId = old.engineId) ∧
        s.bootFenced cand.workerId cand.workerBoot = false ∧
        ∃ profId, servesFor s p.candidateIncarnation profId now = true := by
  simp only [provesCandidate, hplan, hcand, hmay, Option.all_some, Bool.not_true, Bool.false_or,
    Bool.and_eq_true, Bool.not_eq_true', Option.any_eq_true, List.any_eq_true, beq_iff_eq]
  constructor
  · rintro ⟨⟨hold, hboot⟩, profId, -, hserves⟩
    exact ⟨hold, hboot, profId, hserves⟩
  · rintro ⟨hold, hboot, profId, hserves⟩
    obtain ⟨profile, engine, hprofile, -⟩ := (servesFor_iff hcand).mp hserves
    exact ⟨⟨hold, hboot⟩, profId, AList.mem_of_lookup hprofile, hserves⟩

/-- In every reachable state, a cutover promotes only a candidate that can take over if and
only if the plan passes the checks that the cutover leaves out. -/
theorem cutover_promotes_proven_iff (opts : RuntimeOptions) (ops : List Op) (rid : ReplacementId)
    (now : DurationNs) :
    PromotesProven (machine.exec (Impl.new opts) ops) rid now ↔
      provesCandidate (machine.exec (Impl.new opts) ops) rid now = true := by
  have hinv : KeyedById (machine.exec (Impl.new opts) ops) ∧
      Recovered (machine.exec (Impl.new opts) ops) :=
    machine.exec_always (I := fun s => KeyedById s ∧ Recovered s)
      ⟨keyedById_new opts, recovered_new opts⟩ (fun s op hs =>
        ⟨(step_transition s op).keyedById hs.1, (step_transition s op).recovered hs.2⟩) ops
  generalize machine.exec (Impl.new opts) ops = s at hinv ⊢
  obtain ⟨hkeyed, hrecovered⟩ := hinv
  constructor
  · intro hproven
    by_contra hnot
    simp only [provesCandidate, Option.all_eq_true, not_forall] at hnot
    obtain ⟨p, hplan, cand, hcand, hcheck⟩ := hnot
    have hmay : mayCutOver p cand = true := by
      by_contra hno
      simp [hno] at hcheck
    obtain ⟨p', cand', old, hplan', hp, -⟩ := hproven _ (commitCutover_result hplan hcand hmay)
    cases hplan.symm.trans hplan'
    cases hcand.symm.trans hp.found
    obtain ⟨profId, -, -, -, hserves⟩ := hp.ready
    have hall : provesCandidate s rid now = true := (provesCandidate_iff hplan hcand hmay).mpr
      ⟨⟨old, hp.replaced, hp.engine⟩, hp.boot, profId, hserves⟩
    simp only [provesCandidate, hplan, hcand, Option.all_some] at hall
    exact hcheck hall
  · intro hcheck reply hreply
    obtain ⟨p, cand, hplan, hcand, hmay, hnext⟩ := commitCutover_ok hreply
    obtain ⟨⟨old, hold, hengine⟩, hboot, profId, hserves⟩ :=
      (provesCandidate_iff hplan hcand hmay).mp hcheck
    obtain ⟨profile, engine, hprofile, hown, -, hrec, -⟩ := (servesFor_iff hcand).mp hserves
    have hnominal : cand.state.recovery = .nominal := by
      rcases hrecovered _ _ hcand with hnominal | hawaits
      · exact hnominal
      · rw [hawaits] at hrec
        cases hrec
    refine ⟨p, cand, old, hplan, ⟨hcand, hold, hengine, hboot, hnominal, profId, profile, hprofile,
      hown, hserves⟩, ?_⟩
    rw [hnext]
    obtain ⟨i, hi, hcurrent, hsame⟩ := cutover_findInc rid hcand
    refine ⟨p.candidateIncarnation, i, ?_, hi, hsame.engineId.trans hengine, hcurrent, profId,
      profile, hprofile, hown.trans hengine, ?_⟩
    · simp [Impl.modifyReplacement, cutover, hengine, hkeyed _ _ hcand]
    · rw [servesFor_congr hcand hi hsame rfl rfl rfl]
      exact hserves

/-- Start an old incarnation and a candidate of the same engine, whose profile requires a
backend, and begin a replacement. The candidate has shown nothing. -/
def sampleUnproven : List Op :=
  [.defineEngine { engineId := ⟨1⟩ },
   .defineProfile
     { profileId := ⟨1⟩, engineId := ⟨1⟩
       requirements := [{ category := .backend, kind := .required, minState := .verified }] },
   .issueRegistrationPermit ⟨1⟩ ⟨1⟩,
   .registerIncarnation { engineId := ⟨1⟩, workerId := ⟨1⟩, workerBoot := ⟨1⟩ }
     { permitId := ⟨2⟩ } 0,
   .markRunning ⟨2⟩ 0,
   .issueRegistrationPermit ⟨2⟩ ⟨1⟩,
   .registerIncarnation { engineId := ⟨1⟩, workerId := ⟨2⟩, workerBoot := ⟨1⟩ }
     { permitId := ⟨3⟩ } 0,
   .markRunning ⟨3⟩ 0,
   .beginReplacement
     { oldIncarnation := ⟨2⟩, candidateIncarnation := ⟨3⟩, epoch := ⟨1⟩, authority := ⟨1⟩ }]

/-- The cutover succeeds although no profile authorizes work of the candidate. -/
theorem cutover_promotes_unproven :
    (∃ reply, machine.result (machine.exec (Impl.new {}) sampleUnproven) (.commitCutover ⟨2⟩) =
      .ok reply) ∧
    ¬ PromotesProven (machine.exec (Impl.new {}) sampleUnproven) ⟨2⟩ 0 := by
  refine ⟨⟨_, rfl⟩, fun h => ?_⟩
  obtain ⟨p, cand, old, hplan, hproven, -⟩ := h _ rfl
  obtain ⟨profId, profile, hprofile, -, hserves⟩ := hproven.ready
  have hkeys : (machine.exec (Impl.new {}) sampleUnproven).profiles.keys = [⟨1⟩] := by decide
  have honly : profId = ⟨1⟩ := by
    have hmem := AList.mem_keys.mp (AList.mem_of_lookup hprofile)
    rwa [hkeys, List.mem_singleton] at hmem
  have hcandidate : p.candidateIncarnation = ⟨3⟩ := by
    cases hplan
    rfl
  rw [honly, hcandidate] at hserves
  exact absurd hserves (by decide)

end EngineResidency.Runtime
