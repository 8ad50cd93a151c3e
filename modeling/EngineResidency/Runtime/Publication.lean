-- SUMMARY: Which publication decides, and when it is the last one.
import EngineResidency.Readiness.Selection
import EngineResidency.Runtime.Evidence
import EngineResidency.Runtime.Identity

/-!
# Publications

A publication stamps its record with a fresh identity, with the first generation and with a
reading of the clock. Records of one incarnation are therefore compared by their readings
alone, and of two records with one reading the older is selected. The last publication
decides exactly when no two publications of a category share a reading.
-/

namespace EngineResidency.Runtime

variable {s s' : Impl} {op : Op} {r : Except Err Reply} {id : EngineIncarnationId}

/-! ## Publications of a run -/

/-- A record as it was published: an invalidation writes its state and its reason over. -/
def asPublished (e : ComponentEvidence) : ComponentEvidence :=
  { e with state := .unknown, invalidationReason := [] }

/-- Whatever is asked for, what is selected is what was published last for it. -/
def LastDecides (opts : RuntimeOptions) (ops : List Op) : Prop :=
  ∀ id category subject evidenceNamespace,
    (bestEvidence ((machine.exec (Impl.new opts) ops).evidenceFor id) category subject
      evidenceNamespace).map asPublished =
    ((publishedFor id (Impl.new opts) ops).filter
      (·.isSelected category subject evidenceNamespace)).getLast?.map asPublished

/-- The readings of the clock that publications have taken. -/
def Op.reading : Op → Option DurationNs
  | .publishComponent _ now => some now
  | _ => none

/-- A publication that is accepted takes a reading that no record of its incarnation and
category has taken. -/
def ownReading (s : Impl) : Op → Prop
  | .publishComponent ev now =>
    (machine.result s (.publishComponent ev now)).isOk = true →
      ∀ e ∈ s.evidenceFor ev.incarnationId, e.category = ev.category → e.observedAtNs ≠ now
  | _ => True

instance (s : Impl) (op : Op) : Decidable (ownReading s op) :=
  match op with
  | .publishComponent ev now => inferInstanceAs (Decidable (
      (machine.result s (.publishComponent ev now)).isOk = true →
        ∀ e ∈ s.evidenceFor ev.incarnationId, e.category = ev.category → e.observedAtNs ≠ now))
  | .defineEngine .. | .updateEngineConfig .. | .defineProfile .. | .issueRegistrationPermit ..
  | .registerIncarnation .. | .markRunning .. | .revalidate .. | .fenceWorker .. | .advanceEpoch
  | .createPreparationPlan .. | .beginPreparation .. | .stepPreparation ..
  | .completePreparation .. | .cancelPreparation .. | .rollbackPreparation .. | .activate ..
  | .acquireServingUse .. | .releaseServingUse .. | .requestDrain ..
  | .acknowledgeBackendCleanup .. | .beginReplacement .. | .commitCutover .. | .retireOld ..
  | .invalidateIncarnationComponents .. | .aggregateRecoveryCost .. | .load .. => isTrue trivial

/-! ## One step -/

/-- What an operation other than a recovery does to the evidence, and what it publishes. -/
inductive Publishes (s : Impl) (op : Op) : Prop
  | kept (h : (machine.next s op).evidence = s.evidence)
    (hcounter : (machine.next s op).idEvid = s.idEvid)
    (hnone : ∀ id, returnedEvidence id (op, machine.result s op) = none) (hown : ownReading s op)
  | voided {key : EngineIncarnationId} {reason : Str}
    (h : (machine.next s op).evidence = s.evidence.modify key (List.map (invalidatedEvidence reason)))
    (hcounter : (machine.next s op).idEvid = s.idEvid)
    (hsub : present (machine.next s op) .evidence ⊆ present s .evidence)
    (hnone : ∀ id, returnedEvidence id (op, machine.result s op) = none) (hown : ownReading s op)
  | published {ev : ComponentEvidence} {now : DurationNs} (hop : op = .publishComponent ev now)
    (hr : machine.result s op = .ok (.evidence (stampedEvidence s ev now)))
    (hroom : s.evidenceTotal < s.opts.maxComponentEvidence.toNat)
    (h : machine.next s op = storeEvidence (stampedEvidence s ev now) s)

theorem step_publishes (s : Impl) (hload : ¬ op.IsLoad) : Publishes s op := by
  have h := step_transition s op
  generalize hr : machine.result s op = r at h
  generalize hs : machine.next s op = s' at h
  cases h with
  | publishComponent _ _ _ _ _ hroom => exact .published rfl hr hroom hs
  | invalidateExhausted | invalidateIncarnationComponents =>
    refine .voided (by rw [hs]; rfl) (by rw [hs]; rfl) ?_ (fun _ => rfl) trivial
    rw [hs]
    exact invalidateEvidence_subset _ _
  | refused =>
    refine .kept (by rw [hs]) (by rw [hs]) (fun id => ?_) ?_
    · rw [hr]
      cases op <;> rfl
    · cases op with
      | publishComponent ev now =>
        intro hok
        rw [hr] at hok
        cases hok
      | _ => trivial
  | load => exact absurd trivial hload
  | _ => exact .kept (by rw [hs]; rfl) (by rw [hs]; rfl) (fun _ => rfl) trivial

/-! ## What load-free runs keep -/

/-- The number of records, the counter and the identities of the records agree. -/
structure EvidenceNumbered (s : Impl) : Prop where
  total : s.evidenceTotal = s.idEvid.toNat
  covers : Covers s.idEvid (present s .evidence)

theorem evidenceTotal_congr (h : s'.evidence = s.evidence) : s'.evidenceTotal = s.evidenceTotal := by
  rw [Impl.evidenceTotal, h, Impl.evidenceTotal]

theorem evidenceTotal_void {key : EngineIncarnationId} {reason : Str}
    (h : s'.evidence = s.evidence.modify key (List.map (invalidatedEvidence reason))) :
    s'.evidenceTotal = s.evidenceTotal := by
  rw [Impl.evidenceTotal, h, Impl.evidenceTotal]
  simp only [AList.values, AList.modify, AList.mapEntries, List.map_map]
  refine congrArg List.sum (List.map_congr_left fun x _ => ?_)
  simp only [Function.comp_apply, Sigma.map]
  split
  · exact List.length_map _
  · rfl

theorem evidenceTotal_push (key : EngineIncarnationId) (e : ComponentEvidence) :
    (s.pushEvidence key e).evidenceTotal = s.evidenceTotal + 1 := by
  rw [Impl.evidenceTotal, Impl.pushEvidence, AList.values_insert, Impl.evidenceTotal]
  cases hlookup : s.evidence.lookup key with
  | none =>
    rw [AList.erase_of_lookup_none hlookup]
    simp [Impl.evidenceFor, hlookup, Nat.add_comm]
  | some es =>
    rw [((AList.values_perm_erase hlookup).map List.length).sum_nat]
    simp [Impl.evidenceFor, hlookup]
    omega

theorem EvidenceNumbered.room (hs : EvidenceNumbered s)
    (hroom : s.evidenceTotal < s.opts.maxComponentEvidence.toNat) : s.idEvid.toNat + 2 < 2 ^ 64 := by
  have hbound : s.opts.maxComponentEvidence.toNat < 2 ^ 32 := UInt32.toNat_lt _
  rw [hs.total] at hroom
  omega

theorem EvidenceNumbered.next (hs : EvidenceNumbered s) (hload : ¬ op.IsLoad) : EvidenceNumbered (machine.next s op) := by
  cases step_publishes s hload with
  | kept h hcounter =>
    refine ⟨by rw [evidenceTotal_congr h, hcounter, hs.total], ?_⟩
    rw [hcounter, present, h]
    exact hs.covers
  | voided h hcounter hsub =>
    refine ⟨by rw [evidenceTotal_void h, hcounter, hs.total], ?_⟩
    rw [hcounter]
    exact hs.covers.subset hsub
  | published hop hr hroom h =>
    rw [h]
    refine ⟨?_, hs.covers.count (hs.room hroom) (storeEvidence_subset _)⟩
    exact (evidenceTotal_push _ _).trans
      ((congrArg (· + 1) hs.total).trans (Covers.toNat_count (hs.room hroom)).symm)

/-- The evidence of an incarnation is what was published for it, in that order. -/
structure Chronicled (s : Impl) (published : EngineIncarnationId → List ComponentEvidence)
    (readings : List DurationNs) : Prop where
  numbered : EvidenceNumbered s
  recorded : ∀ id, (s.evidenceFor id).map asPublished = (published id).map asPublished
  stamped : ∀ id, ∀ e ∈ s.evidenceFor id, e.evidenceGeneration = ⟨1⟩ ∧ e.observedAtNs ∈ readings
  nodup : ∀ id, ((s.evidenceFor id).map (·.evidenceId)).Nodup

theorem mem_present_of_evidenceFor {e : ComponentEvidence} (he : e ∈ s.evidenceFor id) :
    e.evidenceId.raw ∈ present s .evidence := by
  rw [Impl.evidenceFor] at he
  cases hlookup : s.evidence.lookup id with
  | none => simp [hlookup] at he
  | some es => exact mem_present_evidence.mpr ⟨id, es, hlookup, e, by simpa [hlookup] using he, rfl⟩

/-- A publication does not give out an identity twice. -/
theorem EvidenceNumbered.fresh (hs : EvidenceNumbered s) {ev : ComponentEvidence} {now : DurationNs}
    (hroom : s.evidenceTotal < s.opts.maxComponentEvidence.toNat) {e : ComponentEvidence}
    (he : e ∈ s.evidenceFor id) : e.evidenceId ≠ (stampedEvidence s ev now).evidenceId := by
  intro heq
  refine hs.covers.fresh (hs.room hroom) ?_
  have hmem := mem_present_of_evidenceFor he
  rw [heq] at hmem
  exact hmem

/-- One operation: the evidence is what it was, or some of it has been voided, or one record has been
published. -/
theorem Chronicled.next {published : EngineIncarnationId → List ComponentEvidence}
    {readings : List DurationNs} (hs : Chronicled s published readings) (hload : ¬ op.IsLoad) :
    Chronicled (machine.next s op)
      (fun id => published id ++ (returnedEvidence id (op, machine.result s op)).toList)
      (readings ++ op.reading.toList) := by
  have hnumbered := hs.numbered.next hload
  -- In each case: what is recorded, where its readings are from, and that no number is used twice.
  cases step_publishes s hload with
  | kept h hcounter hnone hown =>
    refine ⟨hnumbered, fun id => ?_, fun id e he => ?_, fun id => ?_⟩
    · rw [evidenceFor_congr h, hnone, Option.toList_none, List.append_nil]
      exact hs.recorded id
    · rw [evidenceFor_congr h] at he
      exact (hs.stamped id e he).imp_right (List.mem_append_left _)
    · rw [evidenceFor_congr h]
      exact hs.nodup id
  | voided h hcounter hsub hnone hown =>
    refine ⟨hnumbered, fun id => ?_, fun id e he => ?_, fun id => ?_⟩
    · -- Voiding writes the state and the reason; the record is recorded as the same one.
      rw [evidenceFor_void h, hnone, Option.toList_none, List.append_nil, ← hs.recorded id]
      split
      · rw [List.map_map]
        rfl
      · rfl
    · rw [evidenceFor_void h] at he
      split at he
      · obtain ⟨e₀, he₀, rfl⟩ := List.mem_map.mp he
        exact (hs.stamped id e₀ he₀).imp_right (List.mem_append_left _)
      · exact (hs.stamped id e he).imp_right (List.mem_append_left _)
    · rw [evidenceFor_void h]
      split
      · rw [List.map_map]
        exact hs.nodup id
      · exact hs.nodup id
  | @published ev now hop hr hroom h =>
    have hfor : ∀ id, (machine.next s op).evidenceFor id = if id = ev.incarnationId then
        s.evidenceFor id ++ [stampedEvidence s ev now] else s.evidenceFor id :=
      fun id => evidenceFor_push (by rw [h]; rfl)
    refine ⟨hnumbered, fun id => ?_, fun id e he => ?_, fun id => ?_⟩
    · rw [hfor, hr, hop]
      split
      · rename_i hid
        simp [returnedEvidence, stampedEvidence, hid, hs.recorded]
      · rename_i hid
        simp [returnedEvidence, stampedEvidence, Ne.symm hid, hs.recorded]
    · rw [hfor] at he
      split at he
      · rcases List.mem_append.mp he with he | he
        · exact (hs.stamped id e he).imp_right (List.mem_append_left _)
        · -- The record is stamped with the reading of this very operation.
          cases List.mem_singleton.mp he
          refine ⟨rfl, List.mem_append_right _ ?_⟩
          rw [hop]
          exact List.mem_singleton_self now
      · exact (hs.stamped id e he).imp_right (List.mem_append_left _)
    · rw [hfor]
      split
      · rw [List.map_append, List.nodup_append]
        refine ⟨hs.nodup id, List.nodup_singleton _, ?_⟩
        -- The number of a new record is above all that are in use.
        intro a ha b hb hab
        obtain ⟨e, he, rfl⟩ := List.mem_map.mp ha
        rw [List.map_singleton, List.mem_singleton] at hb
        exact hs.numbered.fresh hroom he (hab.trans hb)
      · exact hs.nodup id

/-! ## Whole runs -/

/-- The last record that is asked for is the one that is selected. -/
def Latest (s : Impl) : Prop :=
  ∀ id category subject evidenceNamespace,
    bestEvidence (s.evidenceFor id) category subject evidenceNamespace =
      ((s.evidenceFor id).filter (·.isSelected category subject evidenceNamespace)).getLast?

section Published

variable {published : EngineIncarnationId → List ComponentEvidence} {readings : List DurationNs}
  {ev : ComponentEvidence} {now : DurationNs}

theorem evidenceFor_published (id : EngineIncarnationId) :
    (storeEvidence (stampedEvidence s ev now) s).evidenceFor id =
      if id = ev.incarnationId then s.evidenceFor id ++ [stampedEvidence s ev now]
      else s.evidenceFor id :=
  evidenceFor_push rfl

/-- Asked for the category alone, the selection stays with a record of the same reading. -/
theorem Chronicled.masks (hs : Chronicled s published readings)
    (hroom : s.evidenceTotal < s.opts.maxComponentEvidence.toNat) {e : ComponentEvidence}
    (he : e ∈ s.evidenceFor ev.incarnationId) (hcategory : e.category = ev.category)
    (hreading : e.observedAtNs = now) : ¬ Latest (storeEvidence (stampedEvidence s ev now) s) := by
  intro h
  have hnew : (stampedEvidence s ev now).isSelected ev.category [] [] = true := by
    simp [ComponentEvidence.isSelected, stampedEvidence]
  have hold : e.isSelected ev.category [] [] = true := by
    simp [ComponentEvidence.isSelected, hcategory]
  have hlast := h ev.incarnationId ev.category [] []
  rw [evidenceFor_published, if_pos rfl, bestEvidence_concat, keepBest_eq, if_pos hnew,
    List.filter_append, List.filter_cons_of_pos hnew, List.filter_nil, List.getLast?_concat] at hlast
  cases hb : bestEvidence (s.evidenceFor ev.incarnationId) ev.category [] [] with
  | none =>
    rw [bestEvidence_eq_none_iff.mp hb e he] at hold
    cases hold
  | some b =>
    have hrecency : (stampedEvidence s ev now).recency = e.recency := by
      rw [ComponentEvidence.recency, ComponentEvidence.recency, (hs.stamped _ e he).1, hreading]
      rfl
    have hle : e.recency ≤ b.recency := recency_le_of_bestEvidence hb he hold
    simp only [hb, hrecency, if_neg (not_lt_of_ge hle)] at hlast
    cases hlast
    exact hs.numbered.fresh hroom (bestEvidence_mem hb).1 rfl

/-- A record with a reading of its own is the most recent one of its category. -/
theorem Chronicled.latest_of_own (hs : Chronicled s published readings) (hlatest : Latest s)
    (hclock : ∀ t ∈ readings, t ≤ now)
    (hown : ∀ e ∈ s.evidenceFor ev.incarnationId, e.category = ev.category → e.observedAtNs ≠ now) :
    Latest (storeEvidence (stampedEvidence s ev now) s) := by
  intro id category subject evidenceNamespace
  rw [evidenceFor_published]
  split
  case isFalse => exact hlatest id category subject evidenceNamespace
  rename_i hid
  rw [bestEvidence_concat, keepBest_eq, List.filter_append]
  split
  case isFalse hother =>
    rw [List.filter_cons_of_neg hother, List.filter_nil, List.append_nil]
    exact hlatest id category subject evidenceNamespace
  rename_i hnew
  rw [List.filter_cons_of_pos hnew, List.filter_nil, List.getLast?_concat]
  cases hb : bestEvidence (s.evidenceFor id) category subject evidenceNamespace with
  | none => rfl
  | some b =>
    obtain ⟨hmem, hcategory, -⟩ := bestEvidence_mem hb
    obtain ⟨hgeneration, hreading⟩ := hs.stamped id b hmem
    have hsame : ev.category = category := (of_decide_eq_true hnew).1
    have hne : b.observedAtNs ≠ now := hown b (hid ▸ hmem) (hcategory.trans hsame.symm)
    have hlt : b.recency < (stampedEvidence s ev now).recency :=
      recency_lt_iff.mpr (.inr ⟨hgeneration.symm, UInt64.lt_of_le_of_ne (hclock _ hreading) hne⟩)
    simp only [if_pos hlt]

end Published

theorem isSelected_invalidated (reason : Str) (category : ComponentCategory)
    (subject evidenceNamespace : Str) (e : ComponentEvidence) :
    (invalidatedEvidence reason e).isSelected category subject evidenceNamespace =
      e.isSelected category subject evidenceNamespace := rfl

theorem Latest.congr (h : ∀ id, s'.evidenceFor id = s.evidenceFor id) (hs : Latest s) :
    Latest s' := by
  intro id category subject evidenceNamespace
  rw [h]
  exact hs id category subject evidenceNamespace

/-- An invalidation rewrites records, and does not select others. -/
theorem Latest.voided {key : EngineIncarnationId} {reason : Str} (hs : Latest s)
    (h : s'.evidence = s.evidence.modify key (List.map (invalidatedEvidence reason))) :
    Latest s' := by
  intro id category subject evidenceNamespace
  rw [evidenceFor_void h]
  split
  · rw [bestEvidence_map (isSelected_invalidated reason category subject evidenceNamespace)
      fun _ => rfl, hs id, List.filter_map, List.getLast?_map]
    rfl
  · exact hs id category subject evidenceNamespace

/-- One operation keeps the last record selected exactly when a publication takes a reading of
its own. -/
theorem Chronicled.latest_next {published : EngineIncarnationId → List ComponentEvidence}
    {readings : List DurationNs} (hs : Chronicled s published readings) (hload : ¬ op.IsLoad)
    (hclock : ∀ t ∈ readings, ∀ now ∈ op.reading, t ≤ now) (hlatest : Latest s) :
    Latest (machine.next s op) ↔ ownReading s op := by
  cases step_publishes s hload with
  | kept h hcounter hnone hown =>
    exact iff_of_true (hlatest.congr fun _ => evidenceFor_congr h) hown
  | voided h hcounter hsub hnone hown => exact iff_of_true (hlatest.voided h) hown
  | @published ev now hop hr hroom h =>
    subst hop
    rw [h]
    simp only [ownReading, hr]
    constructor
    · intro hnext _ e he hcategory hreading
      exact hs.masks hroom he hcategory hreading hnext
    · intro hown
      exact hs.latest_of_own hlatest (fun t ht => hclock t ht now rfl) (hown rfl)

theorem publishedFor_concat (s : Impl) (ops : List Op) (op : Op) :
    publishedFor id s (ops ++ [op]) = publishedFor id s ops ++
      (returnedEvidence id (op, machine.result (machine.exec s ops) op)).toList := by
  rw [publishedFor, Machine.trace_append, List.filterMap_append]
  refine congrArg _ ?_
  simp only [Machine.trace, List.filterMap_cons, List.filterMap_nil]
  cases returnedEvidence id (op, machine.result (machine.exec s ops) op) <;> rfl

theorem chronicled_exec (opts : RuntimeOptions) (ops : List Op) (hload : ∀ op ∈ ops, ¬ op.IsLoad) :
    Chronicled (machine.exec (Impl.new opts) ops) (fun id => publishedFor id (Impl.new opts) ops)
      (ops.filterMap Op.reading) := by
  induction ops using List.reverseRecOn with
  | nil =>
    refine ⟨⟨rfl, covers_new opts .evidence⟩, fun _ => rfl, fun id e he => ?_, fun _ => ?_⟩
    · cases he
    · exact List.nodup_nil
  | append_singleton ops op ih =>
    have hops := ih fun op' h => hload op' (List.mem_append_left _ h)
    have hnext := hops.next (hload op (List.mem_append_right _ (List.mem_singleton_self op)))
    have hreadings : (ops ++ [op]).filterMap Op.reading =
        ops.filterMap Op.reading ++ op.reading.toList := by
      rw [List.filterMap_append]
      cases h : op.reading <;> simp [h]
    rw [Machine.exec_append, hreadings]
    simp only [publishedFor_concat]
    exact hnext

/-- Two records of an incarnation that were published alike are one record. -/
theorem Chronicled.eq_of_asPublished {published : EngineIncarnationId → List ComponentEvidence}
    {readings : List DurationNs} (hs : Chronicled s published readings) {e e' : ComponentEvidence}
    (he : e ∈ s.evidenceFor id) (he' : e' ∈ s.evidenceFor id) (h : asPublished e = asPublished e') :
    e = e' := by
  have hid : (asPublished e).evidenceId = (asPublished e').evidenceId := congrArg _ h
  exact List.inj_on_of_nodup_map (hs.nodup id) he he' hid

theorem Chronicled.lastDecides_iff {opts : RuntimeOptions} {ops : List Op}
    {readings : List DurationNs}
    (hs : Chronicled (machine.exec (Impl.new opts) ops)
      (fun id => publishedFor id (Impl.new opts) ops) readings) :
    LastDecides opts ops ↔ Latest (machine.exec (Impl.new opts) ops) := by
  refine forall_congr' fun id => forall_congr' fun category => forall_congr' fun subject =>
    forall_congr' fun evidenceNamespace => ?_
  generalize hselected : ComponentEvidence.isSelected category subject evidenceNamespace = p
  have hp : p ∘ asPublished = p := by
    rw [← hselected]
    rfl
  have hlast : ((publishedFor id (Impl.new opts) ops).filter p).getLast?.map asPublished =
      (((machine.exec (Impl.new opts) ops).evidenceFor id).filter p).getLast?.map asPublished := by
    have hrecorded := congrArg (fun l => (l.filter p).getLast?) (hs.recorded id)
    simp only [List.filter_map, List.getLast?_map, hp] at hrecorded
    exact hrecorded.symm
  rw [hlast]
  constructor
  · intro h
    cases hb : bestEvidence ((machine.exec (Impl.new opts) ops).evidenceFor id) category subject
      evidenceNamespace with
    | none =>
      rw [hb, Option.map_none, eq_comm, Option.map_eq_none_iff] at h
      exact h.symm
    | some b =>
      rw [hb, Option.map_some, eq_comm, Option.map_eq_some_iff] at h
      obtain ⟨e, he, hpublished⟩ := h
      have hmem := (List.mem_filter.mp (List.mem_of_getLast? he)).1
      rw [he, hs.eq_of_asPublished hmem (bestEvidence_mem hb).1 hpublished]
  · intro h
    rw [h]

/-- In a run without recoveries under a clock that does not go back, the record published last
decides, whatever is asked for and wherever the run stops, if and only if every publication
takes a reading of its own. -/
theorem last_publication_decides_iff (opts : RuntimeOptions) (ops : List Op)
    (hload : ∀ op ∈ ops, ¬ op.IsLoad) (hclock : (ops.filterMap Op.reading).Pairwise (· ≤ ·)) :
    (∀ before, before <+: ops → LastDecides opts before) ↔
      machine.Along ownReading (Impl.new opts) ops := by
  have hlatest : (∀ before, before <+: ops → LastDecides opts before) ↔
      ∀ before, before <+: ops → Latest (machine.exec (Impl.new opts) before) :=
    forall_congr' fun before => forall_congr' fun hbegins =>
      (chronicled_exec opts before fun op hop => hload op (hbegins.subset hop)).lastDecides_iff
  rw [hlatest]
  clear hlatest
  induction ops using List.reverseRecOn with
  | nil =>
    refine iff_of_true (fun before hbegins => ?_) trivial
    rw [List.prefix_nil.mp hbegins]
    exact fun _ _ _ _ => rfl
  | append_singleton ops op ih =>
    have hloads : ∀ op ∈ ops, ¬ op.IsLoad := fun op' h => hload op' (List.mem_append_left _ h)
    have hlast : ¬ op.IsLoad := hload op (List.mem_append_right _ (List.mem_singleton_self op))
    rw [List.filterMap_append, List.pairwise_append] at hclock
    obtain ⟨hearlier, -, hnow⟩ := hclock
    have hstep : Latest (machine.exec (Impl.new opts) ops) →
        (Latest (machine.exec (Impl.new opts) (ops ++ [op])) ↔
          ownReading (machine.exec (Impl.new opts) ops) op) := by
      intro hs
      rw [Machine.exec_append]
      refine (chronicled_exec opts ops hloads).latest_next hlast (fun t ht now hreading => ?_) hs
      refine hnow t ht now (List.mem_filterMap.mpr ⟨op, List.mem_singleton_self op, hreading⟩)
    have hops := ih hloads hearlier
    rw [Machine.along_append]
    constructor
    · intro h
      have hbefore : ∀ before, before <+: ops → Latest (machine.exec (Impl.new opts) before) :=
        fun before hbegins => h before (hbegins.trans (List.prefix_append ops [op]))
      exact ⟨hops.mp hbefore,
        (hstep (hbefore ops (List.prefix_refl ops))).mp (h _ (List.prefix_refl _)), trivial⟩
    · rintro ⟨hrun, hown, -⟩ before hbegins
      have hbefore := hops.mpr hrun
      rcases List.prefix_concat_iff.mp hbegins with rfl | hbegins
      · exact (hstep (hbefore ops (List.prefix_refl ops))).mpr hown
      · exact hbefore before hbegins

/-- Publish that the backend of the sample incarnation is in a state. -/
def sampleReport (state : ComponentState) (now : DurationNs) : Op :=
  .publishComponent
    { category := .backend, state, incarnationId := ⟨2⟩, coordinatorEpoch := ⟨1⟩ } now

/-- A failure that is published at a later reading decides. -/
theorem last_publication_decides_sample :
    LastDecides {} (sampleStart ++ [sampleReport .verified 5, sampleReport .failed 6]) := by
  refine (last_publication_decides_iff {} _ (by decide) (by decide)).mpr ?_ _ (List.prefix_refl _)
  decide +kernel

/-- A failure that is published at the reading of an earlier success does not decide. -/
theorem masked_publication :
    (∀ op ∈ sampleStart ++ [sampleReport .verified 5, sampleReport .failed 5], ¬ op.IsLoad) ∧
      ((sampleStart ++ [sampleReport .verified 5, sampleReport .failed 5]).filterMap
        Op.reading).Pairwise (· ≤ ·) ∧
      ¬ LastDecides {} (sampleStart ++ [sampleReport .verified 5, sampleReport .failed 5]) := by
  refine ⟨by decide, by decide, fun h => ?_⟩
  have hbackend := congrArg (Option.map (·.evidenceId)) (h ⟨2⟩ .backend [] [])
  exact absurd hbackend (by decide +kernel)

end EngineResidency.Runtime
