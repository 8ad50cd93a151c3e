-- SUMMARY: What the operations can do to the record of an incarnation.
import EngineResidency.Runtime.Transition

/-!
# Changes of an incarnation

Around ten operations write the lifecycle, the health, the activation or the
currency of an incarnation, each behind checks of its own. `IncChange` lists these
changes with the checks that guard them; everything else an operation does to a
record leaves its standing alone. `Transition.incarnations` reduces every statement
about the records of a run to one about these changes.
-/

namespace EngineResidency.Runtime

variable {s s' : Impl} {op : Op} {r : Except Err Reply}

/-- Two records that differ at most in what preparation and activity write: the
preparation state, the observed residency, the readiness generation and the time
of the last activity. -/
structure SameStanding (i i' : EngineIncarnation) : Prop where
  eq : i' =
    { i with
      state.preparation := i'.state.preparation
      state.observed := i'.state.observed
      readinessGeneration := i'.readinessGeneration
      lastActivityNs := i'.lastActivityNs }

theorem SameStanding.refl (i : EngineIncarnation) : SameStanding i i := ⟨rfl⟩

theorem MaybeInvalidated.sameStanding {i i' : EngineIncarnation} (h : MaybeInvalidated i i') :
    SameStanding i i' := by
  rcases h with rfl | ⟨gen, rfl⟩
  · exact .refl _
  · exact ⟨rfl⟩

/-- The checks of an activation. -/
def mayActivate (s : Impl) (req : ActivationRequest) (inc : EngineIncarnation)
    (now : DurationNs) : Bool :=
  req.callerAuthority == s.authority.authority && inc.state.health != .fenced &&
    inc.state.registration != .fenced && inc.state.lifecycle == .running &&
    inc.readinessGeneration == req.readinessGeneration &&
    (activationGate s req inc now).isOk && !(req.slotId.isValid && slotTaken s req.slotId inc)

theorem mayActivate_eq_true {req : ActivationRequest} {inc : EngineIncarnation} {now : DurationNs}
    (hauthority : req.callerAuthority = s.authority.authority)
    (hhealth : inc.state.health ≠ .fenced) (hregistration : inc.state.registration ≠ .fenced)
    (hrunning : inc.state.lifecycle = .running)
    (hgen : inc.readinessGeneration = req.readinessGeneration)
    (hgate : activationGate s req inc now = .ok ())
    (hslot : req.slotId.isValid = true → slotTaken s req.slotId inc = false) :
    mayActivate s req inc now = true := by
  have hfree : (req.slotId.isValid && slotTaken s req.slotId inc) = false := by
    cases hvalid : req.slotId.isValid with
    | false => rfl
    | true => exact hslot hvalid
  simp [mayActivate, hauthority, hhealth, hregistration, hrunning, hgen, hgate, hfree,
    Except.isOk, Except.toBool]

/-- The checks of a cutover. -/
def mayCutOver (p : ReplacementPlan) (cand : EngineIncarnation) : Bool :=
  p.phase == .preparing && cand.state.lifecycle == .running

/-- The changes that an operation makes to the record stored under a key. -/
inductive IncChange (s : Impl) :
    Op → EngineIncarnationId → EngineIncarnation → EngineIncarnation → Prop
  | quiet {op : Op} {id : EngineIncarnationId} {i i' : EngineIncarnation}
    (h : SameStanding i i') : IncChange s op id i i'
  | running {id : EngineIncarnationId} {now : DurationNs} {i : EngineIncarnation} :
    IncChange s (.markRunning id now) id i (running now i)
  | revalidated {id : EngineIncarnationId} {i i' : EngineIncarnation}
    (h : SameStanding (revalidated i) i') : IncChange s (.revalidate id) id i i'
  | fenced {w : WorkerId} {b : WorkerBootId} {id : EngineIncarnationId} {i : EngineIncarnation} :
    IncChange s (.fenceWorker w b) id i (fenceInc w b i)
  | demoted {id : EngineIncarnationId} {i : EngineIncarnation} :
    IncChange s .advanceEpoch id i (demoteForEpoch i)
  | started {ev : ComponentEvidence} {now : DurationNs} {i : EngineIncarnation}
    (hregistration : i.state.registration ≠ .fenced) (hhealth : i.state.health ≠ .fenced)
    (hfenced : s.bootFenced i.workerId i.workerBoot = false) :
    IncChange s (.publishComponent ev now) ev.incarnationId i
      (confirmStart ev.category { i with lastActivityNs := now })
  | activated {req : ActivationRequest} {now : DurationNs} {i : EngineIncarnation}
    (hhealth : i.state.health ≠ .fenced) (hregistration : i.state.registration ≠ .fenced)
    (hrunning : i.state.lifecycle = .running) (hmay : mayActivate s req i now = true) :
    IncChange s (.activate req now) req.incarnationId i (activated i)
  | draining {id : EngineIncarnationId} {i : EngineIncarnation} :
    IncChange s (.requestDrain id) id i (draining i)
  | superseded {rid : ReplacementId} {p : ReplacementPlan} {i : EngineIncarnation}
    (hplan : s.replacementPlans.lookup rid = some p) :
    IncChange s (.commitCutover rid) p.oldIncarnation i (superseded i)
  | promoted {rid : ReplacementId} {p : ReplacementPlan} {i : EngineIncarnation}
    (hplan : s.replacementPlans.lookup rid = some p) (hrunning : i.state.lifecycle = .running)
    (hmay : mayCutOver p i = true) :
    IncChange s (.commitCutover rid) p.candidateIncarnation i (promoted i)
  | retired {rid : ReplacementId} {p : ReplacementPlan} {i : EngineIncarnation}
    (hplan : s.replacementPlans.lookup rid = some p) :
    IncChange s (.retireOld rid) p.oldIncarnation i (retired i)

/-- The records after an operation are the records before it, each changed by
`IncChange`, and no identity was assigned. -/
def IncsChanged (s : Impl) (op : Op) (s' : Impl) : Prop :=
  s'.idInc = s.idInc ∧ ∃ f, s'.incarnations = s.incarnations.mapEntries f ∧
    ∀ id i, s.findInc id = some i → IncChange s op id i (f id i)

theorem IncsChanged.refl (hid : s'.idInc = s.idInc) (h : s'.incarnations = s.incarnations) :
    IncsChanged s op s' :=
  ⟨hid, fun _ i => i, h.trans (AList.mapEntries_id _).symm, fun _ i _ => .quiet (.refl i)⟩

/-- A change of one record. -/
theorem IncsChanged.modify (id : EngineIncarnationId) (f : EngineIncarnation → EngineIncarnation)
    (hid : s'.idInc = s.idInc) (h : s'.incarnations = s.incarnations.modify id f)
    (hf : ∀ i, s.findInc id = some i → IncChange s op id i (f i)) : IncsChanged s op s' := by
  refine ⟨hid, fun k i => if k = id then f i else i, h, fun k i hi => ?_⟩
  by_cases hk : k = id
  · subst hk
    simpa using hf i hi
  · simpa [hk] using IncChange.quiet (.refl i)

theorem IncsChanged.mapVal {f : EngineIncarnation → EngineIncarnation}
    (hid : s'.idInc = s.idInc) (h : s'.incarnations = s.incarnations.mapVal f)
    (hf : ∀ id i, s.findInc id = some i → IncChange s op id i (f i)) : IncsChanged s op s' :=
  ⟨hid, fun _ => f, h, hf⟩

/-- The writes of a cutover, one after the other: the candidate may be the old
incarnation, and is then promoted in the end. -/
theorem incsChanged_cutover {rid : ReplacementId} {p : ReplacementPlan} {cand : EngineIncarnation}
    (hid : s'.idInc = s.idInc)
    (h : s'.incarnations = (s.incarnations.modify p.oldIncarnation superseded).modify
      p.candidateIncarnation promoted)
    (hplan : s.replacementPlans.lookup rid = some p) (hphase : p.phase = .preparing)
    (hcand : s.findInc p.candidateIncarnation = some cand)
    (hrunning : cand.state.lifecycle = .running) : IncsChanged s (.commitCutover rid) s' := by
  refine ⟨hid, fun k i => if k = p.candidateIncarnation then promoted i
    else if k = p.oldIncarnation then superseded i else i, ?_, fun k i hi => ?_⟩
  · rw [h]
    simp only [AList.modify, AList.mapEntries_mapEntries]
    congr 1
    funext k i
    by_cases hnew : k = p.candidateIncarnation
    · rw [if_pos hnew, if_pos hnew]
      by_cases hold : k = p.oldIncarnation
      · rw [if_pos hold]; rfl
      · rw [if_neg hold]
    · rw [if_neg hnew, if_neg hnew]
  · by_cases hnew : k = p.candidateIncarnation
    · subst hnew
      have heq : i = cand := Option.some.inj (hi.symm.trans hcand)
      subst heq
      have hmay : mayCutOver p i = true := by simp [mayCutOver, hphase, hrunning]
      simpa using IncChange.promoted hplan hrunning hmay
    · by_cases hold : k = p.oldIncarnation
      · subst hold
        simpa [hnew] using IncChange.superseded hplan
      · simpa [hnew, hold] using IncChange.quiet (.refl i)

/-- A registration that was admitted. -/
structure Enrolled (s : Impl) (op : Op) (s' : Impl) (inc : EngineIncarnation) (now : DurationNs) :
    Prop where
  op_eq : ∃ permit, op = .registerIncarnation inc permit now
  boot : s.bootFenced inc.workerId inc.workerBoot = false
  room : s.incarnations.size < s.opts.maxIncarnations.toNat
  incarnations : s'.incarnations =
    s.incarnations.insert (registered s inc now).incarnationId (registered s inc now)
  idInc : s'.idInc = s.idInc + 1

/-- What an operation does to the records: it changes them in place, adds one, or
replaces them all by recovered ones. -/
theorem Transition.incarnations (h : Transition s op r s') :
    IncsChanged s op s' ∨ (∃ inc now, Enrolled s op s' inc now) ∨
      ∃ blob p, op = .load blob ∧ s' = restored s p := by
  cases h with
  | updateEngineConfig hr hf =>
    exact .inl ⟨rfl, _, rfl, fun id i _ => .quiet (hf id i).sameStanding⟩
  | registerIncarnation hpermit hspent hworker hboot hepoch hfenced hengine hdup hroom =>
    exact .inr (.inl ⟨_, _, ⟨_, rfl⟩, hfenced, hroom, rfl, rfl⟩)
  | markRunning => exact .inl (.modify _ _ rfl rfl fun i _ => .running)
  | revalidateExhausted => exact .inl (.modify _ _ rfl rfl fun i _ => .revalidated (.refl _))
  | @revalidate id inc gen hinc hgen =>
    refine .inl (.modify id (fun i => setReadiness gen (revalidated i)) rfl ?_
      fun i _ => .revalidated ⟨rfl⟩)
    simp only [reinstate, Impl.modifyInc, AList.modify_modify]
  | fenceWorker => exact .inl (.mapVal rfl rfl fun id i _ => .fenced)
  | advanceEpoch => exact .inl (.mapVal rfl rfl fun id i _ => .demoted)
  | publishComponent hinc hregistration hhealth hfenced =>
    refine .inl (.modify _ _ rfl rfl fun i hi => ?_)
    have heq := Option.some.inj (hi.symm.trans hinc)
    subst heq
    exact .started hregistration hhealth hfenced
  | createPreparationPlan => exact .inl (.modify _ _ rfl rfl fun i _ => .quiet ⟨rfl⟩)
  | beginPreparation => exact .inl (.modify _ _ rfl rfl fun i _ => .quiet ⟨rfl⟩)
  | completePreparationExhausted => exact .inl (.modify _ _ rfl rfl fun i _ => .quiet ⟨rfl⟩)
  | @completePreparation attemptId now a inc outcome gen =>
    refine .inl (.modify a.incarnationId
      (fun i => publishReadiness gen (setPreparation (completedState outcome) i)) rfl ?_
      fun i _ => .quiet ⟨rfl⟩)
    simp only [endAttempt, storeCompletion, Impl.modifyInc, Impl.modifyAttempt,
      AList.modify_modify]
  | completePreparationFailed => exact .inl (.modify _ _ rfl rfl fun i _ => .quiet ⟨rfl⟩)
  | activate hauthority hinc hhealth hregistration hrunning hgen hgate hslot =>
    refine .inl (.modify _ _ rfl rfl fun i hi => ?_)
    have heq := Option.some.inj (hi.symm.trans hinc)
    subst heq
    exact .activated hhealth hregistration hrunning
      (mayActivate_eq_true hauthority hhealth hregistration hrunning hgen hgate hslot)
  | acquireServingUse => exact .inl (.modify _ _ rfl rfl fun i _ => .quiet ⟨rfl⟩)
  | requestDrain => exact .inl (.modify _ _ rfl rfl fun i _ => .draining)
  | commitCutover hplan hphase hcand hrunning =>
    exact .inl (incsChanged_cutover rfl rfl hplan hphase hcand hrunning)
  | retireOld hplan => exact .inl (.modify _ _ rfl rfl fun i _ => .retired hplan)
  | invalidateExhausted => exact .inl (.modify _ _ rfl rfl fun i _ => .quiet ⟨rfl⟩)
  | @invalidateIncarnationComponents id reason inc gen =>
    refine .inl (.modify id (fun i => setReadiness gen (setPreparation .invalidated i)) rfl ?_
      fun i _ => .quiet ⟨rfl⟩)
    simp only [invalidateEvidence, Impl.modifyInc, AList.modify_modify]
  | load => exact .inr (.inr ⟨_, _, rfl, rfl⟩)
  | _ => exact .inl (.refl rfl rfl)

/-! ## Records before and after -/

theorem IncsChanged.findInc {id : EngineIncarnationId} {i' : EngineIncarnation}
    (h : IncsChanged s op s') (hi : s'.findInc id = some i') :
    ∃ i, s.findInc id = some i ∧ IncChange s op id i i' := by
  obtain ⟨-, f, heq, hf⟩ := h
  simp only [Impl.findInc, heq, AList.lookup_mapEntries, Option.map_eq_some_iff] at hi
  obtain ⟨i, hi, rfl⟩ := hi
  exact ⟨i, hi, hf id i hi⟩

/-- No change in place removes a record. -/
theorem IncsChanged.findInc_next {id : EngineIncarnationId} {i : EngineIncarnation}
    (h : IncsChanged s op s') (hi : s.findInc id = some i) :
    ∃ i', s'.findInc id = some i' ∧ IncChange s op id i i' := by
  obtain ⟨-, f, heq, hf⟩ := h
  refine ⟨f id i, ?_, hf id i hi⟩
  simp only [Impl.findInc] at hi ⊢
  rw [heq, AList.lookup_mapEntries, hi]
  rfl

theorem Enrolled.findInc {inc i' : EngineIncarnation} {now : DurationNs} {id : EngineIncarnationId}
    (h : Enrolled s op s' inc now) (hi : s'.findInc id = some i') :
    (id = (registered s inc now).incarnationId ∧ i' = registered s inc now) ∨
      (id ≠ (registered s inc now).incarnationId ∧ s.findInc id = some i') := by
  simp only [Impl.findInc, h.incarnations, AList.lookup_insert'] at hi
  split at hi
  · rename_i hid
    exact .inl ⟨hid, (Option.some.inj hi).symm⟩
  · rename_i hid
    exact .inr ⟨hid, hi⟩

theorem restored_findInc {p : PersistentState} {id : EngineIncarnationId} {i' : EngineIncarnation}
    (hi : (restored s p).findInc id = some i') :
    ∃ i ∈ p.incarnations, i.incarnationId = id ∧ i' = demoteRecovered i := by
  rcases AList.lookup_foldl_insert hi with h | h
  · exact h
  · simp at h

/-- What holds of every registered and every recovered record, and survives every
change, holds of every record. -/
theorem Transition.forall_inc {P : EngineIncarnationId → EngineIncarnation → Prop}
    (h : Transition s op r s')
    (hchange : ∀ id i i', s.findInc id = some i → IncChange s op id i i' → P id i → P id i')
    (hnew : ∀ inc now, Enrolled s op s' inc now →
      P (registered s inc now).incarnationId (registered s inc now))
    (hload : ∀ i, P i.incarnationId (demoteRecovered i))
    (hs : ∀ id i, s.findInc id = some i → P id i) : ∀ id i, s'.findInc id = some i → P id i := by
  intro id i' hi'
  rcases h.incarnations with hchanged | ⟨inc, now, henr⟩ | ⟨blob, p, -, rfl⟩
  · obtain ⟨i, hi, hch⟩ := hchanged.findInc hi'
    exact hchange id i i' hi hch (hs id i hi)
  · rcases henr.findInc hi' with ⟨rfl, rfl⟩ | ⟨-, hi⟩
    · exact hnew inc now henr
    · exact hs id i' hi
  · obtain ⟨i, -, rfl, rfl⟩ := restored_findInc hi'
    exact hload i

/-! ## What never changes -/

/-- The identity of a record: its own name, its engine and its boot. -/
structure SameIdentity (i i' : EngineIncarnation) : Prop where
  incarnationId : i'.incarnationId = i.incarnationId
  engineId : i'.engineId = i.engineId
  workerId : i'.workerId = i.workerId
  workerBoot : i'.workerBoot = i.workerBoot

theorem SameStanding.sameIdentity {i i' : EngineIncarnation} (h : SameStanding i i') :
    SameIdentity i i' := by
  rw [h.eq]
  exact ⟨rfl, rfl, rfl, rfl⟩

/-- No change touches the identity of a record. -/
theorem IncChange.sameIdentity {id : EngineIncarnationId} {i i' : EngineIncarnation}
    (h : IncChange s op id i i') : SameIdentity i i' := by
  cases h with
  | quiet h => exact h.sameIdentity
  | revalidated h =>
    obtain ⟨h₁, h₂, h₃, h₄⟩ := h.sameIdentity
    exact ⟨h₁, h₂, h₃, h₄⟩
  | fenced => unfold fenceInc; split <;> exact ⟨rfl, rfl, rfl, rfl⟩
  | demoted => unfold demoteForEpoch; split <;> exact ⟨rfl, rfl, rfl, rfl⟩
  | started => unfold confirmStart; split <;> exact ⟨rfl, rfl, rfl, rfl⟩
  | _ => exact ⟨rfl, rfl, rfl, rfl⟩

/-- Every record is stored under its own name. -/
def KeyedById (s : Impl) : Prop := ∀ id i, s.findInc id = some i → i.incarnationId = id

theorem keyedById_new (opts : RuntimeOptions) : KeyedById (Impl.new opts) := by
  intro id i hi
  simp [Impl.findInc, Impl.new] at hi

theorem Transition.keyedById (h : Transition s op r s') (hs : KeyedById s) : KeyedById s' :=
  h.forall_inc (fun _ _ _ _ hch hid => hch.sameIdentity.incarnationId.trans hid)
    (fun _ _ _ => rfl) (fun _ => rfl) hs

end EngineResidency.Runtime
