-- SUMMARY: Every registered incarnation has consumed one permit of its own, in every run without recoveries.
import EngineResidency.Runtime.Identity

/-!
# Registration permits

A permit is consumed by the registration that it admits, and the consumption is written
down twice: in the permit and in a set. `registrations` reads off a run which permit has
admitted which incarnation; `Paired` says that these pairs are a one-to-one correspondence
between the consumed permits and the registered incarnations, and every step keeps it.
-/

namespace EngineResidency.Runtime

/-! ## Registrations of a run -/

/-- The permit that an operation has consumed and the incarnation it has registered. -/
def registration : Op × Except Err Reply → Option (RegistrationPermitId × EngineIncarnationId)
  | (.registerIncarnation _ permit _, .ok (.incarnation i)) =>
    some (permit.permitId, i.incarnationId)
  | _ => none

/-- The registrations that a run has admitted, in order. -/
def registrations (s : Impl) (ops : List Op) : List (RegistrationPermitId × EngineIncarnationId) :=
  (machine.trace s ops).filterMap registration

/-- The permit is there, and its flag is set. -/
def Consumed (s : Impl) (q : RegistrationPermitId) : Prop :=
  ∃ p, s.permits.lookup q = some p ∧ p.consumed = true

/-- The permit and the incarnation are of one boot of one worker, and of one epoch. -/
def Fits (s : Impl) (q : RegistrationPermitId) (id : EngineIncarnationId) : Prop :=
  ∃ p i, s.permits.lookup q = some p ∧ s.findInc id = some i ∧ p.workerId = i.workerId ∧
    p.workerBoot = i.workerBoot ∧ p.epoch = i.coordinatorEpoch

variable {s s' : Impl} {op : Op} {r : Except Err Reply}

/-! ## One step -/

/-- No change moves a record to another epoch. -/
theorem IncChange.coordinatorEpoch {id : EngineIncarnationId} {i i' : EngineIncarnation}
    (h : IncChange s op id i i') : i'.coordinatorEpoch = i.coordinatorEpoch := by
  cases h with
  | quiet h => rw [h.eq]
  | revalidated h =>
    rw [h.eq]
    rfl
  | fenced => unfold fenceInc; split <;> rfl
  | demoted => unfold demoteForEpoch; split <;> rfl
  | started => unfold confirmStart; split <;> rfl
  | _ => rfl

/-- What an operation does to the permits and the incarnations. -/
inductive PermitStep (s : Impl) (op : Op) (r : Except Err Reply) (s' : Impl) : Prop
  | kept (hincs : IncsChanged s op s') (hpermits : s'.permits = s.permits)
    (hconsumed : s'.consumed = s.consumed) (hcounter : s'.idPermit = s.idPermit)
    (hopts : s'.opts = s.opts) (hnone : registration (op, r) = none)
  | issued {w : WorkerId} {b : WorkerBootId}
    (hroom : s.permits.size < s.opts.maxRegistrationPermits.toNat)
    (hnext : s' = storePermit (nextPermit s w b) s) (hnone : registration (op, r) = none)
  | registered {inc : EngineIncarnation} {permit p : RegistrationPermit} {now : DurationNs}
    (hpermit : s.permits.lookup permit.permitId = some p) (hspent : p.consumed = false)
    (hworker : p.workerId = inc.workerId) (hboot : p.workerBoot = inc.workerBoot)
    (hepoch : p.epoch = s.authority.epoch)
    (hroom : s.incarnations.size < s.opts.maxIncarnations.toNat)
    (hnext : s' = enroll (registered s inc now) permit.permitId s)
    (hpair : registration (op, r) =
      some (permit.permitId, (registered s inc now).incarnationId))

theorem Transition.permitStep (h : Transition s op r s') (hload : ¬ op.IsLoad) :
    PermitStep s op r s' := by
  have hincs := h.incarnations
  cases h with
  | refused =>
    refine .kept (.refl rfl rfl) rfl rfl rfl rfl ?_
    unfold registration
    split
    · rename_i heq
      cases heq
    · rfl
  | issueRegistrationPermit _ _ hroom => exact .issued hroom rfl rfl
  | registerIncarnation hpermit hspent hworker hboot hepoch _ _ _ hroom =>
    exact .registered hpermit hspent hworker hboot hepoch hroom rfl rfl
  | load => exact absurd trivial hload
  | _ =>
    refine .kept (hincs.resolve_right ?_) rfl rfl rfl rfl rfl
    rintro (⟨inc, now, henrolled⟩ | ⟨blob, p, heq, -⟩)
    · obtain ⟨permit, heq⟩ := henrolled.op_eq
      cases heq
    · cases heq

/-! ## The counters -/

/-- The counters behind the identities of permits and incarnations have counted the tables,
which are within their bounds. -/
structure Counted (s : Impl) : Prop where
  incarnations : s.idInc.toNat = s.incarnations.size
  permits : s.idPermit.toNat = s.permits.size
  coversIncarnations : Covers s.idInc (rawKeys s.incarnations)
  coversPermits : Covers s.idPermit (rawKeys s.permits)
  maxIncarnations : s.incarnations.size ≤ s.opts.maxIncarnations.toNat
  maxPermits : s.permits.size ≤ s.opts.maxRegistrationPermits.toNat

theorem counted_new (opts : RuntimeOptions) : Counted (Impl.new opts) :=
  ⟨rfl, rfl, nofun, nofun, Nat.zero_le _, Nat.zero_le _⟩

theorem not_mem_of_fresh {t : IdTag} {V : Type} {m : UMap (Identity t) V} {k : Identity t}
    (h : k.raw ∉ rawKeys m) : m.lookup k = none :=
  AList.lookup_eq_none.mpr fun hmem => h (mem_rawKeys.mpr hmem)

/-- A table that is bounded by an option has room for one more identity. -/
theorem room_of_lt {c : UInt64} {bound : UInt32} {n : Nat} (hcount : c.toNat = n)
    (hroom : n < bound.toNat) : c.toNat + 2 < 2 ^ 64 := by
  have := bound.toNat_lt
  omega

theorem Counted.nextPermit (hs : Counted s)
    (hroom : s.permits.size < s.opts.maxRegistrationPermits.toNat) :
    s.permits.lookup ⟨s.idPermit + 1 + 1⟩ = none :=
  not_mem_of_fresh (hs.coversPermits.fresh (room_of_lt hs.permits hroom))

theorem Counted.nextInc (hs : Counted s)
    (hroom : s.incarnations.size < s.opts.maxIncarnations.toNat) :
    s.findInc ⟨s.idInc + 1 + 1⟩ = none :=
  not_mem_of_fresh (hs.coversIncarnations.fresh (room_of_lt hs.incarnations hroom))

theorem PermitStep.counted (h : PermitStep s op r s') (hs : Counted s) : Counted s' := by
  cases h with
  | kept hincs hpermits _ hcounter hopts =>
    obtain ⟨hid, f, heq, -⟩ := hincs
    refine ⟨?_, ?_, ?_, ?_, ?_, ?_⟩
    · rw [hid, heq, AList.size_mapEntries]
      exact hs.incarnations
    · rw [hcounter, hpermits]
      exact hs.permits
    · rw [hid, heq, rawKeys_mapEntries]
      exact hs.coversIncarnations
    · rw [hcounter, hpermits]
      exact hs.coversPermits
    · rw [heq, AList.size_mapEntries, hopts]
      exact hs.maxIncarnations
    · rw [hpermits, hopts]
      exact hs.maxPermits
  | @issued w b hroom hnext =>
    subst hnext
    have hcap := room_of_lt hs.permits hroom
    have hsize : (storePermit (Runtime.nextPermit s w b) s).permits.size = s.permits.size + 1 :=
      AList.size_insert_of_not_mem (hs.nextPermit hroom)
    refine ⟨hs.incarnations, ?_, hs.coversIncarnations, ?_, hs.maxIncarnations, ?_⟩
    · rw [hsize, ← hs.permits]
      exact Covers.toNat_count hcap
    · exact hs.coversPermits.count hcap rawKeys_insert_subset
    · rw [hsize]
      exact hroom
  | @registered inc permit p now _ _ _ _ _ hroom hnext =>
    subst hnext
    have hcap := room_of_lt hs.incarnations hroom
    have hsize : (enroll (Runtime.registered s inc now) permit.permitId s).incarnations.size =
        s.incarnations.size + 1 := AList.size_insert_of_not_mem (hs.nextInc hroom)
    refine ⟨?_, ?_, ?_, ?_, ?_, ?_⟩
    · rw [hsize, ← hs.incarnations]
      exact Covers.toNat_count hcap
    · exact hs.permits.trans (AList.size_mapEntries _ _).symm
    · exact hs.coversIncarnations.count hcap rawKeys_insert_subset
    · simp only [enroll, rawKeys_modify]
      exact hs.coversPermits
    · rw [hsize]
      exact hroom
    · exact (AList.size_mapEntries _ _).trans_le hs.maxPermits

/-! ## The correspondence -/

/-- The pairs are a one-to-one correspondence between the consumed permits and the
registered incarnations. -/
structure Paired (pairs : List (RegistrationPermitId × EngineIncarnationId)) (s : Impl) : Prop where
  permits : (pairs.map Prod.fst).Nodup
  incarnations : (pairs.map Prod.snd).Nodup
  spent : ∀ q, q ∈ pairs.map Prod.fst ↔ Consumed s q
  enrolled : ∀ id, id ∈ pairs.map Prod.snd ↔ (s.findInc id).isSome = true
  fits : ∀ q id, (q, id) ∈ pairs → Fits s q id
  consumed : ∀ q, q ∈ s.consumed ↔ Consumed s q

theorem paired_new (opts : RuntimeOptions) : Paired [] (Impl.new opts) := by
  have hnone : ∀ q, ¬ Consumed (Impl.new opts) q := by
    rintro q ⟨p, hp, -⟩
    simp [Impl.new] at hp
  refine ⟨.nil, .nil, fun q => ?_, fun id => ?_, fun q id hpair => ?_, fun q => ?_⟩
  · exact ⟨fun h => absurd h List.not_mem_nil, fun h => absurd h (hnone q)⟩
  · simp [Impl.findInc, Impl.new]
  · exact absurd hpair List.not_mem_nil
  · exact ⟨fun h => absurd h (Finset.notMem_empty q), fun h => absurd h (hnone q)⟩

variable {pairs : List (RegistrationPermitId × EngineIncarnationId)}

/-- A step that changes records in place and no permit. -/
theorem Paired.keep (hs : Paired pairs s) (hincs : IncsChanged s op s')
    (hpermits : s'.permits = s.permits) (hconsumed : s'.consumed = s.consumed) :
    Paired pairs s' := by
  have hsame : ∀ q, Consumed s' q ↔ Consumed s q := fun q => by
    unfold Consumed
    rw [hpermits]
  refine ⟨hs.permits, hs.incarnations, fun q => (hs.spent q).trans (hsame q).symm, fun id => ?_,
    fun q id hmem => ?_, fun q => ?_⟩
  · rw [hs.enrolled id]
    obtain ⟨-, f, heq, -⟩ := hincs
    simp only [Impl.findInc, heq, AList.lookup_mapEntries, Option.isSome_map]
  · obtain ⟨p, i, hp, hi, hworker, hboot, hepoch⟩ := hs.fits q id hmem
    obtain ⟨i', hi', hchange⟩ := hincs.findInc_next hi
    have hid := hchange.sameIdentity
    refine ⟨p, i', hpermits ▸ hp, hi', ?_, ?_, ?_⟩
    · rw [hid.workerId, hworker]
    · rw [hid.workerBoot, hboot]
    · rw [hchange.coordinatorEpoch, hepoch]
  · rw [hconsumed, hs.consumed q, hsame q]

/-- A permit that is issued is not consumed yet. -/
theorem Paired.issue {w : WorkerId} {b : WorkerBootId} (hs : Paired pairs s)
    (hfresh : s.permits.lookup ⟨s.idPermit + 1 + 1⟩ = none) :
    Paired pairs (storePermit (Runtime.nextPermit s w b) s) := by
  have hlookup : ∀ q, (storePermit (Runtime.nextPermit s w b) s).permits.lookup q =
      if q = ⟨s.idPermit + 1 + 1⟩ then some (Runtime.nextPermit s w b) else s.permits.lookup q :=
    fun q => AList.lookup_insert' _ _ _ _
  have hsame : ∀ q, Consumed (storePermit (Runtime.nextPermit s w b) s) q ↔ Consumed s q :=
    fun q => by
      unfold Consumed
      rw [hlookup]
      split
      · rename_i hq
        subst hq
        rw [hfresh]
        constructor
        · rintro ⟨p, hp, hconsumed⟩
          cases hp
          cases hconsumed
        · rintro ⟨p, hp, -⟩
          cases hp
      · rfl
  refine ⟨hs.permits, hs.incarnations, fun q => (hs.spent q).trans (hsame q).symm, hs.enrolled,
    fun q id hmem => ?_, fun q => (hs.consumed q).trans (hsame q).symm⟩
  obtain ⟨p, i, hp, hrest⟩ := hs.fits q id hmem
  refine ⟨p, i, ?_, hrest⟩
  rw [hlookup, if_neg]
  · exact hp
  · rintro rfl
    rw [hfresh] at hp
    cases hp

section Enroll

variable {inc : EngineIncarnation} {q : RegistrationPermitId}

theorem enroll_permits (k : RegistrationPermitId) :
    (Runtime.enroll inc q s).permits.lookup k =
      if k = q then (s.permits.lookup k).map fun p => { p with consumed := true }
      else s.permits.lookup k := by
  refine (AList.lookup_modify q k _ s.permits).trans ?_
  split
  · rename_i hk
    rw [hk]
  · rfl

theorem enroll_findInc (id : EngineIncarnationId) :
    (Runtime.enroll inc q s).findInc id =
      if id = inc.incarnationId then some inc else s.findInc id :=
  AList.lookup_insert' _ _ _ _

theorem consumed_enroll {p : RegistrationPermit} (hpermit : s.permits.lookup q = some p)
    (k : RegistrationPermitId) : Consumed (Runtime.enroll inc q s) k ↔ k = q ∨ Consumed s k := by
  unfold Consumed
  rw [enroll_permits]
  by_cases hk : k = q
  · subst hk
    simp [hpermit]
  · simp [hk]

end Enroll

/-- A registration consumes a permit that was not consumed, for a new incarnation. -/
theorem Paired.enroll {inc : EngineIncarnation} {q : RegistrationPermitId} {p : RegistrationPermit}
    {now : DurationNs} (hs : Paired pairs s) (hpermit : s.permits.lookup q = some p)
    (hspent : p.consumed = false) (hworker : p.workerId = inc.workerId)
    (hboot : p.workerBoot = inc.workerBoot) (hepoch : p.epoch = s.authority.epoch)
    (hfresh : s.findInc ⟨s.idInc + 1 + 1⟩ = none) :
    Paired (pairs ++ [(q, (registered s inc now).incarnationId)])
      (Runtime.enroll (registered s inc now) q s) := by
  have hunused : q ∉ pairs.map Prod.fst := fun hmem => by
    obtain ⟨p', hp', hflag⟩ := (hs.spent q).mp hmem
    cases hpermit.symm.trans hp'
    rw [hspent] at hflag
    cases hflag
  have hnew : (registered s inc now).incarnationId ∉ pairs.map Prod.snd := fun hmem => by
    have hsome := (hs.enrolled _).mp hmem
    rw [show s.findInc (registered s inc now).incarnationId = none from hfresh] at hsome
    cases hsome
  refine ⟨?_, ?_, fun k => ?_, fun id => ?_, fun k id hmem => ?_, fun k => ?_⟩
  · rw [List.map_append, List.map_singleton, ← List.concat_eq_append]
    exact hs.permits.concat hunused
  · rw [List.map_append, List.map_singleton, ← List.concat_eq_append]
    exact hs.incarnations.concat hnew
  · rw [consumed_enroll hpermit, ← hs.spent k]
    simp [or_comm]
  · rw [enroll_findInc]
    split
    · rename_i hid
      simp [hid]
    · rename_i hid
      rw [← hs.enrolled id]
      simp [hid]
  · rcases List.mem_append.mp hmem with hold | hnew
    · obtain ⟨p', i, hp', hi, hrest⟩ := hs.fits k id hold
      have hk : k ≠ q := fun hk => hunused (hk ▸ List.mem_map_of_mem hold)
      have hid : id ≠ (registered s inc now).incarnationId := fun hid =>
        hnew (hid ▸ List.mem_map_of_mem hold)
      refine ⟨p', i, ?_, ?_, hrest⟩
      · rw [enroll_permits, if_neg hk]
        exact hp'
      · rw [enroll_findInc, if_neg hid]
        exact hi
    · cases List.mem_singleton.mp hnew
      refine ⟨{ p with consumed := true }, registered s inc now, ?_, ?_, hworker, hboot, hepoch⟩
      · rw [enroll_permits, if_pos rfl, hpermit]
        rfl
      · rw [enroll_findInc, if_pos rfl]
  · rw [consumed_enroll hpermit, ← hs.consumed k]
    exact Finset.mem_insert

/-- Every step keeps the correspondence, and adds the pair of a registration to it. -/
theorem PermitStep.paired (h : PermitStep s op r s') (hcounted : Counted s)
    (hs : Paired pairs s) : Paired (pairs ++ (registration (op, r)).toList) s' := by
  cases h with
  | kept hincs hpermits hconsumed _ _ hnone =>
    rw [hnone, Option.toList_none, List.append_nil]
    exact hs.keep hincs hpermits hconsumed
  | issued hroom hnext hnone =>
    subst hnext
    rw [hnone, Option.toList_none, List.append_nil]
    exact hs.issue (hcounted.nextPermit hroom)
  | registered hpermit hspent hworker hboot hepoch hroom hnext hpair =>
    subst hnext
    rw [hpair]
    exact hs.enroll hpermit hspent hworker hboot hepoch (hcounted.nextInc hroom)

/-! ## Whole runs -/

theorem registrations_concat (s : Impl) (ops : List Op) (op : Op) :
    registrations s (ops ++ [op]) =
      registrations s ops ++
        (registration (op, machine.result (machine.exec s ops) op)).toList := by
  simp only [registrations, Machine.trace_append, List.filterMap_append]
  rfl

/-- The pairs of a run are a correspondence in every state of it. -/
theorem paired_exec (opts : RuntimeOptions) {ops : List Op} (hload : ∀ op ∈ ops, ¬ op.IsLoad) :
    Counted (machine.exec (Impl.new opts) ops) ∧
      Paired (registrations (Impl.new opts) ops) (machine.exec (Impl.new opts) ops) := by
  induction ops using List.reverseRecOn with
  | nil => exact ⟨counted_new opts, paired_new opts⟩
  | append_singleton ops op ih =>
    obtain ⟨hcounted, hpaired⟩ := ih fun op hop => hload op (List.mem_append_left _ hop)
    have hop : ¬ op.IsLoad := hload op (List.mem_append_right _ (List.mem_singleton_self op))
    have hstep := (step_transition (machine.exec (Impl.new opts) ops) op).permitStep hop
    rw [registrations_concat, Machine.exec_append]
    exact ⟨hstep.counted hcounted, hstep.paired hcounted hpaired⟩

/-- What is promised of the permits and the incarnations in a state, where `pairs` are the
registrations that have been admitted. -/
structure PermitDiscipline (pairs : List (RegistrationPermitId × EngineIncarnationId)) (s : Impl) :
    Prop where
  /-- Every consumed permit has registered one incarnation, and every incarnation was
  registered with one permit. -/
  permits : ∀ q, Consumed s q → ∃! id, (q, id) ∈ pairs
  incarnations : ∀ id, (s.findInc id).isSome = true → ∃! q, (q, id) ∈ pairs
  matching : ∀ q id, (q, id) ∈ pairs → Consumed s q ∧ Fits s q id
  consumed : ∀ q, q ∈ s.consumed ↔ Consumed s q
  /-- No permit was used for two registrations. -/
  once : (pairs.map Prod.fst).Nodup
  maxIncarnations : s.incarnations.size ≤ s.opts.maxIncarnations.toNat
  maxPermits : s.permits.size ≤ s.opts.maxRegistrationPermits.toNat

theorem Paired.discipline (hs : Paired pairs s) (hcounted : Counted s) :
    PermitDiscipline pairs s where
  permits q hq := by
    obtain ⟨⟨q', id⟩, hmem, rfl⟩ := List.mem_map.mp ((hs.spent q).mpr hq)
    refine ⟨id, hmem, fun id' hmem' => ?_⟩
    exact congrArg Prod.snd (List.inj_on_of_nodup_map hs.permits hmem' hmem rfl)
  incarnations id hid := by
    obtain ⟨⟨q, id'⟩, hmem, rfl⟩ := List.mem_map.mp ((hs.enrolled id).mpr hid)
    refine ⟨q, hmem, fun q' hmem' => ?_⟩
    exact congrArg Prod.fst (List.inj_on_of_nodup_map hs.incarnations hmem' hmem rfl)
  matching q id hmem := ⟨(hs.spent q).mp (List.mem_map_of_mem hmem), hs.fits q id hmem⟩
  consumed := hs.consumed
  once := hs.permits
  maxIncarnations := hcounted.maxIncarnations
  maxPermits := hcounted.maxPermits

/-- In every run without recoveries, the registered incarnations and the consumed permits
correspond one to one, within their bounds, and no incarnation disappears. -/
theorem permit_discipline (opts : RuntimeOptions) (ops : List Op)
    (hload : ∀ op ∈ ops, ¬ op.IsLoad) :
    PermitDiscipline (registrations (Impl.new opts) ops) (machine.exec (Impl.new opts) ops) ∧
      ∀ before after, ops = before ++ after → ∀ id,
        ((machine.exec (Impl.new opts) before).findInc id).isSome = true →
          ((machine.exec (Impl.new opts) ops).findInc id).isSome = true := by
  obtain ⟨hcounted, hpaired⟩ := paired_exec opts hload
  refine ⟨hpaired.discipline hcounted, ?_⟩
  rintro before after rfl id hid
  obtain ⟨-, hbefore⟩ := paired_exec opts fun op hop => hload op (List.mem_append_left after hop)
  rw [← hpaired.enrolled id, registrations, Machine.trace_append, List.filterMap_append,
    List.map_append]
  exact List.mem_append_left _ ((hbefore.enrolled id).mpr hid)

/-- A registration with the second permit of the sample. -/
def sampleSecond (w : WorkerId) : Op :=
  .registerIncarnation { engineId := ⟨1⟩, workerId := w, workerBoot := ⟨1⟩ } { permitId := ⟨3⟩ } 0

/-- Two workers register with their permits. -/
def sampleTwoPermits : List Op :=
  sampleStart ++ [.issueRegistrationPermit ⟨2⟩ ⟨1⟩, sampleSecond ⟨2⟩]

/-- The second permit is refused when it is used again. -/
theorem permit_discipline_sample :
    registrations (Impl.new {}) (sampleTwoPermits ++ [sampleSecond ⟨2⟩]) =
        [(⟨2⟩, ⟨2⟩), (⟨3⟩, ⟨3⟩)] ∧
      (machine.result (machine.exec (Impl.new {}) sampleTwoPermits) (sampleSecond ⟨2⟩)).isOk =
        false ∧
      PermitDiscipline (registrations (Impl.new {}) (sampleTwoPermits ++ [sampleSecond ⟨2⟩]))
        (machine.exec (Impl.new {}) (sampleTwoPermits ++ [sampleSecond ⟨2⟩])) :=
  ⟨by decide, by decide, (permit_discipline {} _ (by decide)).1⟩

end EngineResidency.Runtime
