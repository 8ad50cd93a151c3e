-- SUMMARY: When the identities that the runtime assigns are fresh, also across recoveries.
import EngineResidency.Base.Counter
import EngineResidency.Runtime.Incarnation

/-!
# Assigned identities

The runtime assigns identities of nine kinds, each from a counter of its own. The
counters are not saved. A recovery sets eight of them to a constant and leaves the
one for profiles as it is, whatever the recovered records are called; uses, plans,
attempts, activations, permits and drains survive a recovery in the same runtime.
`withinCounter` is the check that a recovery leaves out, for each kind by itself.
-/

namespace EngineResidency.Runtime

/-- The kinds of identities that the runtime assigns. -/
inductive IdKind where
  | incarnation | evidence | use | plan | attempt | activation | replacement | permit | profile
  deriving DecidableEq, Repr

/-- The counter behind the identities of a kind. -/
def counter (s : Impl) : IdKind → UInt64
  | .incarnation => s.idInc
  | .evidence => s.idEvid
  | .use => s.idUse
  | .plan => s.idPlan
  | .attempt => s.idAttempt
  | .activation => s.idActivation
  | .replacement => s.idRepl
  | .permit => s.idPermit
  | .profile => s.idProfile

/-- The identities that a table has entries for. -/
def rawKeys {t : IdTag} {V : Type} (m : UMap (Identity t) V) : List UInt64 :=
  m.keys.map Identity.raw

/-- The identities of a kind that the state keeps something under. An incarnation owns
its record and its entries in the tables of evidence, of attempts and of drains. -/
def present (s : Impl) : IdKind → List UInt64
  | .incarnation =>
    rawKeys s.incarnations ++ rawKeys s.evidence ++ rawKeys s.activeAttempt ++ rawKeys s.drains
  | .evidence => s.evidence.values.flatten.map (·.evidenceId.raw)
  | .use => rawKeys s.activeUses
  | .plan => rawKeys s.plans
  | .attempt => rawKeys s.attempts
  | .activation => rawKeys s.activations
  | .replacement => rawKeys s.replacementPlans
  | .permit => rawKeys s.permits
  | .profile => rawKeys s.profiles

/-- The kind of identity that an operation takes from its counter. -/
def Op.counts : Op → Option IdKind
  | .registerIncarnation .. => some .incarnation
  | .publishComponent .. => some .evidence
  | .acquireServingUse .. => some .use
  | .createPreparationPlan .. => some .plan
  | .beginPreparation _ => some .attempt
  | .activate .. => some .activation
  | .beginReplacement _ => some .replacement
  | .issueRegistrationPermit .. => some .permit
  | .defineProfile profile => if profile.profileId.isValid then none else some .profile
  | _ => none

/-- The identity that a reply carries. -/
def Reply.identity : Reply → Option UInt64
  | .incarnation i => some i.incarnationId.raw
  | .evidence e => some e.evidenceId.raw
  | .token t => some t.useId.raw
  | .plan p => some p.planId.raw
  | .attempt a => some a.attemptId.raw
  | .activation a => some a.activationId.raw
  | .replacement p => some p.replacementId.raw
  | .permit p => some p.permitId.raw
  | .profile p => some p.profileId.raw
  | _ => none

/-- What a recovery sets a counter to. -/
def resumedCounter (s : Impl) : IdKind → UInt64
  | .profile => s.idProfile
  | _ => kResumedCounter

/-- The identities that a recovery brings in or leaves in the state. -/
def recovered (s : Impl) (p : PersistentState) : IdKind → List UInt64
  | .incarnation =>
    p.incarnations.map (·.incarnationId.raw) ++ p.evidence.map (·.incarnationId.raw) ++
      rawKeys s.activeAttempt ++ rawKeys s.drains
  | .evidence => p.evidence.map (·.evidenceId.raw)
  | .replacement => p.replacements.map (·.replacementId.raw)
  | .profile => p.profiles.map (·.profileId.raw)
  | kind => present s kind

/-- The counter of a kind does not run out, a recovery finds no identity of the kind above the
counter it resumes from, and a profile that is defined under a name of its own is not above the
counter of profiles. -/
def withinCounter (kind : IdKind) (s : Impl) : Op → Bool
  | .load blob =>
    match Persistence.deserializePersistentState blob with
    | .error _ => true
    | .ok p => (recovered s p kind).all fun raw =>
      raw.toNat ≤ (resumedCounter s kind).toNat + 1
  | .defineProfile profile =>
    kind ≠ .profile ||
      if profile.profileId.isValid then profile.profileId.raw.toNat ≤ s.idProfile.toNat + 1
      else s.idProfile.toNat + 2 < 2 ^ 64
  | op => op.counts ≠ some kind || (counter s kind).toNat + 2 < 2 ^ 64

variable {s s' : Impl} {op : Op} {r : Except Err Reply} {kind : IdKind}

theorem withinCounter_counts (h : withinCounter kind s op = true) (hop : op.counts = some kind) :
    (counter s kind).toNat + 2 < 2 ^ 64 := by
  cases op with
  | defineProfile profile =>
    simp only [Op.counts] at hop
    split at hop
    · cases hop
    · rename_i hvalid
      cases hop
      simpa [withinCounter, hvalid, counter] using h
  | load => cases hop
  | _ => simpa [withinCounter, hop] using h

theorem withinCounter_profile {profile : ReadinessProfile}
    (h : withinCounter .profile s (.defineProfile profile) = true)
    (hvalid : profile.profileId.isValid = true) :
    profile.profileId.raw.toNat ≤ s.idProfile.toNat + 1 := by
  simpa [withinCounter, hvalid] using h

theorem withinCounter_load {blob : Str} {p : PersistentState}
    (h : withinCounter kind s (.load blob) = true)
    (hblob : Persistence.deserializePersistentState blob = .ok p) :
    Covers (resumedCounter s kind) (recovered s p kind) := by
  simpa [withinCounter, hblob, Covers] using h

/-! ## Identities in use after a step -/

theorem mem_rawKeys {t : IdTag} {V : Type} {m : UMap (Identity t) V} {raw : UInt64} :
    raw ∈ rawKeys m ↔ ⟨raw⟩ ∈ m := by
  simp only [rawKeys, List.mem_map, AList.mem_keys]
  constructor
  · rintro ⟨⟨x⟩, hx, rfl⟩
    exact hx
  · exact fun h => ⟨⟨raw⟩, h, rfl⟩

theorem rawKeys_insert_subset {t : IdTag} {V : Type} {m : UMap (Identity t) V} {k : Identity t}
    {v : V} : rawKeys (m.insert k v) ⊆ k.raw :: rawKeys m := by
  intro raw h
  rw [mem_rawKeys, AList.mem_insert] at h
  rcases h with rfl | h
  · exact List.mem_cons_self
  · exact List.mem_cons_of_mem _ (mem_rawKeys.mpr h)

theorem rawKeys_erase_subset {t : IdTag} {V : Type} {m : UMap (Identity t) V} {k : Identity t} :
    rawKeys (m.erase k) ⊆ rawKeys m := by
  intro raw h
  rw [mem_rawKeys, AList.mem_erase] at h
  exact mem_rawKeys.mpr h.2

@[simp] theorem rawKeys_mapEntries {t : IdTag} {V : Type} {m : UMap (Identity t) V}
    {f : Identity t → V → V} : rawKeys (m.mapEntries f) = rawKeys m := by
  simp [rawKeys, AList.keys, AList.mapEntries, List.keys, Sigma.map, Function.comp_def]

@[simp] theorem rawKeys_modify {t : IdTag} {V : Type} {m : UMap (Identity t) V} {k : Identity t}
    {f : V → V} : rawKeys (m.modify k f) = rawKeys m :=
  rawKeys_mapEntries

/-- What a step does to the identities of a kind and to their counter. -/
inductive Issued (s : Impl) (op : Op) (s' : Impl) (kind : IdKind) : Prop
  | kept (hcounter : counter s' kind = counter s kind) (hsub : present s' kind ⊆ present s kind)
  | counted (hop : op.counts = some kind) (hcounter : counter s' kind = counter s kind + 1)
    (hsub : present s' kind ⊆ (counter s kind + 1 + 1) :: present s kind)
  | named {profile : ReadinessProfile} (hop : op = .defineProfile profile)
    (hkind : kind = .profile) (hvalid : profile.profileId.isValid = true)
    (hcounter : s'.idProfile = s.idProfile)
    (hsub : present s' .profile ⊆ profile.profileId.raw :: present s .profile)
  | recovered {blob : Str} {p : PersistentState} (hop : op = .load blob)
    (hblob : Persistence.deserializePersistentState blob = .ok p)
    (hcounter : counter s' kind = resumedCounter s kind)
    (hsub : present s' kind ⊆ recovered s p kind)

/-- A step within the counter of a kind keeps the identities of this kind covered. -/
theorem Issued.covers (h : Issued s op s' kind) (hop : withinCounter kind s op = true)
    (hs : Covers (counter s kind) (present s kind)) :
    Covers (counter s' kind) (present s' kind) := by
  cases h with
  | kept hcounter hsub =>
    rw [hcounter]
    exact hs.subset hsub
  | counted hcounts hcounter hsub =>
    rw [hcounter]
    exact hs.count (withinCounter_counts hop hcounts) hsub
  | named hdef hkind hvalid hcounter hsub =>
    subst hdef hkind
    simp only [counter, hcounter]
    exact hs.cons (withinCounter_profile hop hvalid) hsub
  | recovered hload hblob hcounter hsub =>
    subst hload
    rw [hcounter]
    exact (withinCounter_load hop hblob).subset hsub

/-- The tables that an incarnation owns entries of. -/
theorem present_incarnation_subset {l : List UInt64} (hincarnations : rawKeys s.incarnations ⊆ l)
    (hevidence : rawKeys s.evidence ⊆ l) (hattempt : rawKeys s.activeAttempt ⊆ l)
    (hdrains : rawKeys s.drains ⊆ l) : present s .incarnation ⊆ l :=
  List.append_subset.mpr ⟨List.append_subset.mpr ⟨List.append_subset.mpr
    ⟨hincarnations, hevidence⟩, hattempt⟩, hdrains⟩

theorem incarnations_subset (s : Impl) : rawKeys s.incarnations ⊆ present s .incarnation := by
  intro raw h
  simp [present, h]

theorem evidence_subset (s : Impl) : rawKeys s.evidence ⊆ present s .incarnation := by
  intro raw h
  simp [present, h]

theorem activeAttempt_subset (s : Impl) : rawKeys s.activeAttempt ⊆ present s .incarnation := by
  intro raw h
  simp [present, h]

theorem drains_subset (s : Impl) : rawKeys s.drains ⊆ present s .incarnation := by
  intro raw h
  simp [present, h]

theorem mem_present_of_findInc {id : EngineIncarnationId} {i : EngineIncarnation}
    (h : s.findInc id = some i) : id.raw ∈ present s .incarnation :=
  incarnations_subset s (mem_rawKeys.mpr (AList.mem_of_lookup h))

/-- A new entry of an incarnation that is there already. -/
theorem insert_subset_present {V : Type} {m : UMap EngineIncarnationId V}
    {id : EngineIncarnationId} {i : EngineIncarnation} {v : V} (h : s.findInc id = some i)
    (hm : rawKeys m ⊆ present s .incarnation) :
    rawKeys (m.insert id v) ⊆ present s .incarnation :=
  List.Subset.trans rawKeys_insert_subset (List.cons_subset.mpr ⟨mem_present_of_findInc h, hm⟩)

theorem touchDrain_subset {id : EngineIncarnationId} {i : EngineIncarnation}
    (h : s.findInc id = some i) : rawKeys (s.touchDrain id).drains ⊆ present s .incarnation := by
  simp only [Impl.touchDrain]
  split
  · exact drains_subset s
  · exact insert_subset_present h (drains_subset s)

theorem fenceOldDrain_subset (id : EngineIncarnationId) (hkeyed : KeyedById s) :
    rawKeys (fenceOldDrain id s) ⊆ present s .incarnation := by
  unfold fenceOldDrain
  split
  · exact drains_subset s
  · rename_i old hold
    rw [hkeyed id old hold]
    simp only [Impl.modifyDrain, rawKeys_modify]
    exact touchDrain_subset hold

/-! ### Evidence -/

/-- The identities of the evidence in a table. -/
theorem mem_present_evidence {raw : UInt64} :
    raw ∈ present s .evidence ↔
      ∃ id l, s.evidence.lookup id = some l ∧ ∃ e ∈ l, e.evidenceId.raw = raw := by
  simp only [present, List.mem_map, List.mem_flatten, AList.mem_values]
  constructor
  · rintro ⟨e, ⟨l, ⟨id, hl⟩, he⟩, rfl⟩
    exact ⟨id, l, hl, e, he, rfl⟩
  · rintro ⟨id, l, hl, e, he, rfl⟩
    exact ⟨e, ⟨l, ⟨id, hl⟩, he⟩, rfl⟩

theorem storeEvidence_subset (ev : ComponentEvidence) :
    present (storeEvidence ev s) .evidence ⊆ ev.evidenceId.raw :: present s .evidence := by
  intro raw h
  obtain ⟨id, l, hl, e, he, rfl⟩ := mem_present_evidence.mp h
  have hl' : (s.evidence.insert ev.incarnationId (s.evidenceFor ev.incarnationId ++ [ev])).lookup id
      = some l := hl
  rw [AList.lookup_insert'] at hl'
  split at hl'
  · cases hl'
    rcases List.mem_append.mp he with he | he
    · refine List.mem_cons_of_mem _ (mem_present_evidence.mpr ?_)
      cases hfor : s.evidence.lookup ev.incarnationId with
      | none => simp [Impl.evidenceFor, hfor] at he
      | some l₀ => exact ⟨_, l₀, hfor, e, by simpa [Impl.evidenceFor, hfor] using he, rfl⟩
    · rw [List.mem_singleton.mp he]
      exact List.mem_cons_self
  · exact List.mem_cons_of_mem _ (mem_present_evidence.mpr ⟨id, l, hl', e, he, rfl⟩)

theorem invalidateEvidence_subset (id : EngineIncarnationId) (reason : Str) :
    present (invalidateEvidence id reason s) .evidence ⊆ present s .evidence := by
  intro raw h
  obtain ⟨k, l, hl, e, he, rfl⟩ := mem_present_evidence.mp h
  have hl' : (s.evidence.modify id (List.map (invalidatedEvidence reason))).lookup k = some l := hl
  rw [AList.lookup_modify] at hl'
  split at hl'
  · obtain ⟨l₀, hl₀, rfl⟩ := Option.map_eq_some_iff.mp hl'
    obtain ⟨e₀, he₀, rfl⟩ := List.mem_map.mp he
    exact mem_present_evidence.mpr ⟨id, l₀, hl₀, e₀, he₀, rfl⟩
  · exact mem_present_evidence.mpr ⟨k, l, hl', e, he, rfl⟩

/-! ### Recovery -/

theorem rawKeys_foldl_insert {t : IdTag} {V A : Type} {key : A → Identity t}
    {val : UMap (Identity t) V → A → V} {l : List A} :
    rawKeys (l.foldl (fun m x => m.insert (key x) (val m x)) ∅) ⊆ l.map fun x => (key x).raw := by
  intro raw h
  rcases AList.mem_foldl_insert (mem_rawKeys.mp h) with ⟨x, hx, hk⟩ | h
  · exact List.mem_map.mpr ⟨x, hx, by rw [hk]⟩
  · exact absurd h (AList.notMem_empty _)

theorem restored_evidence_subset {l : List ComponentEvidence}
    {m : UMap EngineIncarnationId (List ComponentEvidence)} {id : EngineIncarnationId}
    {es : List ComponentEvidence}
    (h : (l.foldl (fun m e => m.insert e.incarnationId
      ((m.lookup e.incarnationId).getD [] ++ [demoteEvidence e])) m).lookup id = some es)
    {e : ComponentEvidence} (he : e ∈ es) :
    (∃ e₀ ∈ l, e = demoteEvidence e₀) ∨ ∃ id₀ es₀, m.lookup id₀ = some es₀ ∧ e ∈ es₀ := by
  induction l generalizing m with
  | nil => exact .inr ⟨id, es, h, he⟩
  | cons e₁ l ih =>
    rcases ih h with ⟨e₀, he₀, heq⟩ | ⟨id₀, es₀, hm, he₀⟩
    · exact .inl ⟨e₀, List.mem_cons_of_mem e₁ he₀, heq⟩
    · rw [AList.lookup_insert'] at hm
      split at hm
      · cases hm
        rcases List.mem_append.mp he₀ with he₀ | he₀
        · cases hl : m.lookup e₁.incarnationId with
          | none => simp [hl] at he₀
          | some es₁ => exact .inr ⟨_, es₁, hl, by simpa [hl] using he₀⟩
        · exact .inl ⟨e₁, List.mem_cons_self, List.mem_singleton.mp he₀⟩
      · exact .inr ⟨id₀, es₀, hm, he₀⟩

theorem restored_subset (p : PersistentState) (kind : IdKind) :
    present (restored s p) kind ⊆ recovered s p kind := by
  cases kind with
  | incarnation =>
    refine present_incarnation_subset ?_ ?_ ?_ ?_
    · exact List.Subset.trans rawKeys_foldl_insert fun raw h => by simp [recovered, h]
    · exact List.Subset.trans rawKeys_foldl_insert fun raw h => by simp [recovered, h]
    · exact fun raw h => by simp only [recovered, List.mem_append]; exact .inl (.inr h)
    · exact fun raw h => by simp only [recovered, List.mem_append]; exact .inr h
  | evidence =>
    intro raw h
    obtain ⟨id, l, hl, e, he, rfl⟩ := mem_present_evidence.mp h
    rcases restored_evidence_subset hl he with ⟨e₀, he₀, rfl⟩ | ⟨id₀, es₀, hm, -⟩
    · exact List.mem_map.mpr ⟨e₀, he₀, rfl⟩
    · simp at hm
  | replacement => exact rawKeys_foldl_insert
  | profile => exact rawKeys_foldl_insert
  | _ => exact List.Subset.refl _

/-! ## One step, kind by kind -/

theorem Transition.evidence_keys (h : Transition s op r s') (hload : ¬ op.IsLoad) :
    rawKeys s'.evidence ⊆ present s .incarnation := by
  cases h with
  | publishComponent hinc => exact insert_subset_present hinc (evidence_subset s)
  | invalidateExhausted | invalidateIncarnationComponents =>
    simp only [invalidateEvidence, Impl.modifyInc, rawKeys_modify]
    exact evidence_subset s
  | load => exact absurd trivial hload
  | _ => exact evidence_subset s

theorem Transition.activeAttempt_keys (h : Transition s op r s') :
    rawKeys s'.activeAttempt ⊆ present s .incarnation := by
  cases h with
  | beginPreparation hplan hepoch hinc => exact insert_subset_present hinc (activeAttempt_subset s)
  | completePreparation | completePreparationFailed | cancelPreparation | rollbackPreparation =>
    exact List.Subset.trans rawKeys_erase_subset (activeAttempt_subset s)
  | _ => exact activeAttempt_subset s

theorem Transition.drains_keys (h : Transition s op r s') (hkeyed : KeyedById s) :
    rawKeys s'.drains ⊆ present s .incarnation := by
  cases h with
  | releaseServingUse | acknowledgeBackendCleanup =>
    simp only [settle, Impl.modifyUse, Impl.modifyDrain, rawKeys_modify]
    exact drains_subset s
  | requestDrainExhausted hinc => exact touchDrain_subset hinc
  | requestDrain hinc =>
    simp only [beginDrain, Impl.modifyInc, Impl.modifyDrain, rawKeys_modify]
    exact touchDrain_subset hinc
  | commitCutover => exact fenceOldDrain_subset _ hkeyed
  | _ => exact drains_subset s

theorem Transition.issued_incarnation (h : Transition s op r s') (hkeyed : KeyedById s)
    (hload : ¬ op.IsLoad) : Issued s op s' .incarnation := by
  have hevidence := h.evidence_keys hload
  have hattempt := h.activeAttempt_keys
  have hdrains := h.drains_keys hkeyed
  rcases h.incarnations with ⟨hcounter, f, heq, -⟩ | ⟨inc, now, henr⟩ | ⟨blob, p, rfl, -⟩
  · refine .kept hcounter (present_incarnation_subset ?_ hevidence hattempt hdrains)
    rw [heq, rawKeys_mapEntries]
    exact incarnations_subset s
  · obtain ⟨permit, rfl⟩ := henr.op_eq
    refine .counted rfl henr.idInc (present_incarnation_subset ?_
      (List.subset_cons_of_subset _ hevidence) (List.subset_cons_of_subset _ hattempt)
      (List.subset_cons_of_subset _ hdrains))
    rw [henr.incarnations]
    exact List.Subset.trans rawKeys_insert_subset
      (List.cons_subset_cons _ (incarnations_subset s))
  · exact absurd trivial hload

theorem Transition.issued_evidence (h : Transition s op r s') (hload : ¬ op.IsLoad) :
    Issued s op s' .evidence := by
  cases h with
  | publishComponent => exact .counted rfl rfl (storeEvidence_subset _)
  | invalidateExhausted | invalidateIncarnationComponents =>
    exact .kept rfl (invalidateEvidence_subset _ _)
  | load => exact absurd trivial hload
  | _ => exact .kept rfl (List.Subset.refl _)

/-- The kinds whose identities are the keys of one table, in which nothing but the counter
brings an entry. -/
def IdKind.Tabled : IdKind → Prop
  | .incarnation | .evidence | .profile => False
  | _ => True

theorem Transition.issued_tabled (h : Transition s op r s') (hload : ¬ op.IsLoad)
    (hkind : kind.Tabled) : Issued s op s' kind := by
  cases kind with
  | incarnation | evidence | profile => exact absurd hkind id
  | _ =>
    cases h with
    | load => exact absurd trivial hload
    -- These write to one table under the next identity of its counter, and leave the others.
    | issueRegistrationPermit | beginPreparation | activate | acquireServingUse |
      beginReplacement =>
      first
      | exact .counted rfl rfl rawKeys_insert_subset
      | exact .kept rfl (List.Subset.refl _)
    | createPreparationPlan hinc hcurrent hprofile hroom hengine hplan =>
      subst hplan
      first
      | exact .counted rfl rfl rawKeys_insert_subset
      | exact .kept rfl (List.Subset.refl _)
    -- These change entries under the keys that are there.
    | registerIncarnation | stepPreparation | completePreparationExhausted |
      completePreparation | completePreparationFailed | cancelPreparation |
      rollbackPreparation | releaseServingUseUnderflow | releaseServingUse | commitCutover |
      retireOld =>
      exact .kept rfl (by
        simp [present, enroll, storeCompletion, endAttempt, settle, cutover, Impl.modifyAttempt,
          Impl.modifyUse, Impl.modifyDrain, Impl.modifyReplacement, Impl.modifyInc])
    | _ => exact .kept rfl (List.Subset.refl _)

/-- A profile takes its identity from the counter, or brings it along. -/
theorem issued_defineProfile {profile : ReadinessProfile}
    (hcounter : s'.idProfile = (countProfile profile s).idProfile)
    (hsub : present s' .profile ⊆
      (completedProfile (countProfile profile s) profile).profileId.raw :: present s .profile) :
    Issued s (.defineProfile profile) s' .profile := by
  cases hvalid : profile.profileId.isValid with
  | true =>
    refine .named rfl rfl hvalid ?_ ?_
    · simpa [countProfile, hvalid] using hcounter
    · simpa [completedProfile, hvalid] using hsub
  | false =>
    refine .counted (by simp [Op.counts, hvalid]) ?_ ?_
    · simpa [countProfile, hvalid, counter] using hcounter
    · simpa [completedProfile, countProfile, hvalid, counter] using hsub

theorem Transition.issued_profile (h : Transition s op r s') (hload : ¬ op.IsLoad) :
    Issued s op s' .profile := by
  cases h with
  | defineProfileRefused =>
    exact issued_defineProfile rfl fun raw h => List.mem_cons_of_mem _ h
  | defineProfile hengine hstored =>
    subst hstored
    exact issued_defineProfile rfl rawKeys_insert_subset
  | load => exact absurd trivial hload
  | _ => exact .kept rfl (List.Subset.refl _)

theorem Transition.issued (h : Transition s op r s') (hkeyed : KeyedById s) (kind : IdKind) :
    Issued s op s' kind := by
  by_cases hload : op.IsLoad
  · cases h with
    | refused => exact .kept rfl (List.Subset.refl _)
    | load hblob =>
      refine .recovered rfl hblob ?_ (restored_subset _ kind)
      cases kind <;> rfl
    | _ => exact absurd hload id
  · cases kind with
    | incarnation => exact h.issued_incarnation hkeyed hload
    | evidence => exact h.issued_evidence hload
    | profile => exact h.issued_profile hload
    | _ => exact h.issued_tabled hload trivial

theorem covers_new (opts : RuntimeOptions) (kind : IdKind) :
    Covers (counter (Impl.new opts) kind) (present (Impl.new opts) kind) := by
  intro raw h
  cases kind <;> cases h

/-- What a runtime saves after a run, or nothing. -/
def savedBlob (ops : List Op) : Str :=
  match serialize (machine.exec (Impl.new {}) ops) with
  | .ok blob => blob
  | .error _ => []

def sampleRegister (w : WorkerId) : Op :=
  .registerIncarnation { engineId := ⟨1⟩, workerId := w, workerBoot := ⟨1⟩ }
    { permitId := ⟨1000002⟩ } 0

/-- What a runtime saves that knows one engine and nothing else. -/
def sampleBlob : Str := savedBlob [.defineEngine { engineId := ⟨1⟩ }]

end EngineResidency.Runtime
