-- SUMMARY: When a lost or retired incarnation stays dead.
import EngineResidency.Base.Counter
import EngineResidency.Runtime.Incarnation

/-!
# Dead incarnations

A fenced boot leaves its incarnations lost, a replacement leaves the old one retired.
Most operations refuse such an incarnation through their checks of the lifecycle.
Three operations write the lifecycle without one: `markRunning`, `revalidate` and
`requestDrain`. `sparesDead` is the check they would need; with it, dead incarnations
stay dead in every run without a recovery.
-/

namespace EngineResidency.Runtime

variable {s s' : Impl} {op : Op} {r : Except Err Reply} {id : EngineIncarnationId}

/-- The worker boot of the incarnation was fenced, or it was replaced. -/
def isGone (i : EngineIncarnation) : Bool :=
  i.state.lifecycle == .lost || i.state.lifecycle == .retired

/-- The check that `markRunning`, `revalidate` and `requestDrain` leave out. -/
def sparesDead (s : Impl) : Op → Bool
  | .markRunning id _ | .revalidate id | .requestDrain id =>
    (s.findInc id).all fun i => !isGone i
  | _ => true

theorem SameStanding.isGone {i i' : EngineIncarnation} (h : SameStanding i i') :
    isGone i' = isGone i := by
  rw [h.eq]
  rfl

/-! ## One step -/

theorem not_gone_of_running {i : EngineIncarnation} (h : i.state.lifecycle = .running) :
    isGone i = false := by
  simp [isGone, h]

/-- A dead incarnation is dead after every operation that spares it, and none makes it
current. -/
theorem IncChange.gone {i i' : EngineIncarnation} (h : IncChange s op id i i')
    (hi : s.findInc id = some i) (hop : sparesDead s op = true) (hgone : isGone i = true)
    (hcur : i.isCurrent = false) : isGone i' = true ∧ i'.isCurrent = false := by
  cases h with
  | quiet h =>
    rw [h.isGone]
    exact ⟨hgone, by rw [h.eq]; exact hcur⟩
  | running => simp [sparesDead, hi, hgone] at hop
  | revalidated => simp [sparesDead, hi, hgone] at hop
  | draining => simp [sparesDead, hi, hgone] at hop
  | fenced =>
    unfold fenceInc
    split
    · exact ⟨rfl, rfl⟩
    · exact ⟨hgone, hcur⟩
  | demoted =>
    unfold demoteForEpoch
    split
    · rename_i hrunning
      rw [not_gone_of_running hrunning] at hgone
      cases hgone
    · exact ⟨hgone, hcur⟩
  | started =>
    unfold confirmStart
    split
    · rename_i hstart
      have hstarting : i.state.lifecycle = .starting := hstart.2
      simp [isGone, hstarting] at hgone
    · exact ⟨hgone, hcur⟩
  | activated _ _ hrunning | promoted _ hrunning =>
    rw [not_gone_of_running hrunning] at hgone
    cases hgone
  | superseded => exact ⟨hgone, rfl⟩
  | retired => exact ⟨rfl, rfl⟩

/-- A dead incarnation is not current. -/
def DeadNotCurrent (s : Impl) : Prop :=
  ∀ id i, s.findInc id = some i → isGone i = true → i.isCurrent = false

theorem Transition.deadNotCurrent (h : Transition s op r s') (hs : DeadNotCurrent s) :
    DeadNotCurrent s' := by
  refine h.forall_inc (fun id i i' hi hch hP => ?_) (fun inc now _ hgone => ?_) (fun _ _ => rfl) hs
  · cases hch with
    | quiet h => rw [h.isGone, h.eq]; exact hP
    | running => exact fun hgone => absurd hgone (by simp [isGone, Runtime.running])
    | revalidated h =>
      rw [h.isGone]
      exact fun hgone => absurd hgone (by simp [isGone, Runtime.revalidated])
    | draining => exact fun hgone => absurd hgone (by simp [isGone, Runtime.draining])
    | fenced =>
      unfold fenceInc
      split
      · exact fun _ => rfl
      · exact hP
    | demoted =>
      unfold demoteForEpoch
      split
      · exact fun _ => rfl
      · exact hP
    | started =>
      unfold confirmStart
      split
      · exact fun hgone => absurd hgone (by simp [isGone])
      · exact hP
    | activated _ _ hrunning =>
      exact fun hgone => absurd hgone (by simp [isGone, Runtime.activated, hrunning])
    | promoted => exact fun hgone => absurd hgone (by simp [isGone, Runtime.promoted])
    | superseded | retired => exact fun _ => rfl
  · simp [isGone, registered] at hgone

/-! ## Identities of a run without recovery -/

/-- The counter behind the identities counts the records, and every identity lies
below the ones to come. -/
structure Numbered (s : Impl) : Prop where
  counter : s.idInc.toNat = s.incarnations.size
  below : ∀ id i, s.findInc id = some i → id.raw.toNat ≤ s.idInc.toNat + 1

theorem numbered_new (opts : RuntimeOptions) : Numbered (Impl.new opts) :=
  ⟨rfl, fun id i hi => by simp [Impl.findInc, Impl.new] at hi⟩

theorem Enrolled.toNat_id {inc : EngineIncarnation} {now : DurationNs}
    (h : Enrolled s op s' inc now) (hs : Numbered s) :
    (registered s inc now).incarnationId.raw.toNat = s.idInc.toNat + 2 ∧
      s'.idInc.toNat = s.idInc.toNat + 1 := by
  have hmax := s.opts.maxIncarnations.toNat_lt
  have hroom := h.room
  have hcounter := hs.counter
  have hone : (1 : UInt64).toNat = 1 := rfl
  simp only [registered, h.idInc, UInt64.toNat_add, hone]
  omega

/-- A registration takes an identity that no record has. -/
theorem Enrolled.fresh {inc : EngineIncarnation} {now : DurationNs}
    (h : Enrolled s op s' inc now) (hs : Numbered s) :
    s.findInc (registered s inc now).incarnationId = none := by
  cases hi : s.findInc (registered s inc now).incarnationId with
  | none => rfl
  | some i =>
    have hle := hs.below _ i hi
    have hid := (h.toNat_id hs).1
    omega

theorem Transition.numbered (h : Transition s op r s') (hload : ¬ op.IsLoad) (hs : Numbered s) :
    Numbered s' := by
  rcases h.incarnations with hch | ⟨inc, now, henr⟩ | ⟨blob, p, rfl, -⟩
  · have hid : s'.idInc = s.idInc := hch.1
    refine ⟨?_, fun id i' hi' => ?_⟩
    · obtain ⟨-, f, heq, -⟩ := hch
      rw [hid, heq, AList.size_mapEntries]
      exact hs.counter
    · obtain ⟨i, hi, -⟩ := hch.findInc hi'
      rw [hid]
      exact hs.below id i hi
  · obtain ⟨hval, hnext⟩ := henr.toNat_id hs
    refine ⟨?_, fun id i' hi' => ?_⟩
    · rw [henr.incarnations, AList.size_insert_of_not_mem (henr.fresh hs), hnext, hs.counter]
    · rcases henr.findInc hi' with ⟨rfl, -⟩ | ⟨-, hi⟩
      · omega
      · have := hs.below id i' hi
        omega
  · exact absurd trivial hload

/-! ## Identities since a recovery -/

/-- Since the counter behind the identities stood at `base`, it has only counted
registrations: the record of each is still there, so they are fewer than the records. -/
structure NumberedSince (base : Nat) (s : Impl) : Prop where
  resumed : base ≤ kResumedCounter.toNat
  base_le : base ≤ s.idInc.toNat
  bounded : s.idInc.toNat ≤ kResumedCounter.toNat + 2 ^ 32
  given : ∀ raw : UInt64, base + 1 < raw.toNat → raw.toNat ≤ s.idInc.toNat + 1 →
    ∃ i, s.findInc ⟨raw⟩ = some i

variable {base : Nat}

theorem numberedSince_self (h : s.idInc.toNat ≤ kResumedCounter.toNat) :
    NumberedSince s.idInc.toNat s :=
  ⟨h, Nat.le_refl _, Nat.le_add_right_of_le h, fun raw hlow hhigh => by omega⟩

theorem NumberedSince.room (h : NumberedSince base s) : s.idInc.toNat + 2 < 2 ^ 64 := by
  have hbounded := h.bounded
  have hresumed : kResumedCounter.toNat = 1000000 := rfl
  omega

/-- The registrations since the counter stood at `base` are records of their own. -/
theorem NumberedSince.sub_le_size (h : NumberedSince base s) :
    s.idInc.toNat - base ≤ s.incarnations.size := by
  have hroom := h.room
  have hval : ∀ n < s.idInc.toNat - base, (UInt64.ofNat (base + 2 + n)).toNat = base + 2 + n :=
    fun n hn => UInt64.toNat_ofNat_of_lt' (by simp only [UInt64.size]; omega)
  have hnodup : ((List.range (s.idInc.toNat - base)).map fun n =>
      (⟨UInt64.ofNat (base + 2 + n)⟩ : EngineIncarnationId)).Nodup := by
    refine List.Nodup.map_on (fun n hn m hm heq => ?_) List.nodup_range
    have hn := hval n (List.mem_range.mp hn)
    have hm := hval m (List.mem_range.mp hm)
    rw [(Identity.mk.inj heq : UInt64.ofNat _ = _), hm] at hn
    omega
  have hsub : (List.range (s.idInc.toNat - base)).map (fun n =>
      (⟨UInt64.ofNat (base + 2 + n)⟩ : EngineIncarnationId)) ⊆ s.incarnations.keys := by
    intro id hid
    obtain ⟨n, hn, rfl⟩ := List.mem_map.mp hid
    have hn := List.mem_range.mp hn
    have hn' := hval n hn
    obtain ⟨i, hi⟩ := h.given (UInt64.ofNat (base + 2 + n)) (by omega) (by omega)
    exact AList.lookup_isSome.mp (Option.isSome_of_eq_some hi)
  have hlength := (hnodup.subperm hsub).length_le
  rw [List.length_map, List.length_range] at hlength
  simpa [AList.size, AList.keys, List.keys] using hlength

theorem Enrolled.toNat_since {inc : EngineIncarnation} {now : DurationNs}
    (h : Enrolled s op s' inc now) (hs : NumberedSince base s) :
    (registered s inc now).incarnationId.raw.toNat = s.idInc.toNat + 2 ∧
      s'.idInc.toNat = s.idInc.toNat + 1 := by
  refine ⟨Covers.toNat_next hs.room, ?_⟩
  rw [h.idInc]
  exact Covers.toNat_count hs.room

/-- A registration gives out the next identity. -/
theorem Transition.registered_id {inc stored : EngineIncarnation} {permit : RegistrationPermit}
    {now : DurationNs}
    (h : Transition s (.registerIncarnation inc permit now) (.ok (.incarnation stored)) s')
    (hs : NumberedSince base s) :
    stored.incarnationId.raw.toNat = s.idInc.toNat + 2 ∧ s'.idInc.toNat = s.idInc.toNat + 1 := by
  cases h with
  | registerIncarnation => exact ⟨Covers.toNat_next hs.room, Covers.toNat_count hs.room⟩

theorem Transition.numberedSince (h : Transition s op r s') (hload : ¬ op.IsLoad)
    (hs : NumberedSince base s) : NumberedSince base s' ∧ s.idInc.toNat ≤ s'.idInc.toNat := by
  rcases h.incarnations with hch | ⟨inc, now, henr⟩ | ⟨blob, p, rfl, -⟩
  · have hid : s'.idInc = s.idInc := hch.1
    refine ⟨⟨hs.resumed, hid ▸ hs.base_le, hid ▸ hs.bounded, fun raw hlow hhigh => ?_⟩, hid ▸ Nat.le_refl _⟩
    rw [hid] at hhigh
    obtain ⟨i, hi⟩ := hs.given raw hlow hhigh
    obtain ⟨i', hi', -⟩ := hch.findInc_next hi
    exact ⟨i', hi'⟩
  · obtain ⟨hval, hnext⟩ := henr.toNat_since hs
    have hbase := hs.base_le
    refine ⟨⟨hs.resumed, by omega, ?_, fun raw hlow hhigh => ?_⟩, by omega⟩
    · have hresumed := hs.resumed
      have hsize := hs.sub_le_size
      have hroom := henr.room
      have hmax := s.opts.maxIncarnations.toNat_lt
      omega
    · simp only [Impl.findInc, henr.incarnations, AList.lookup_insert']
      split
      · exact ⟨_, rfl⟩
      · rename_i hother
        have hne : raw.toNat ≠ s.idInc.toNat + 2 := fun heq =>
          hother (congrArg Identity.mk (UInt64.toNat_inj.mp (heq.trans hval.symm)))
        exact hs.given raw hlow (by omega)
  · exact absurd trivial hload

/-- Without a recovery, every record survives every operation, changed in place. -/
theorem Transition.findInc_next {i : EngineIncarnation} (h : Transition s op r s')
    (hload : ¬ op.IsLoad) (hs : Numbered s) (hi : s.findInc id = some i) :
    ∃ i', s'.findInc id = some i' ∧ IncChange s op id i i' := by
  rcases h.incarnations with hch | ⟨inc, now, henr⟩ | ⟨blob, p, rfl, -⟩
  · exact hch.findInc_next hi
  · have hne : id ≠ (registered s inc now).incarnationId := by
      rintro rfl
      rw [henr.fresh hs] at hi
      cases hi
    refine ⟨i, ?_, .quiet (.refl i)⟩
    simp only [Impl.findInc, henr.incarnations]
    exact (AList.lookup_insert_ne hne).trans hi
  · exact absurd trivial hload

/-- A dead incarnation through one operation that spares it. -/
theorem Transition.gone {i : EngineIncarnation} (h : Transition s op r s') (hload : ¬ op.IsLoad)
    (hop : sparesDead s op = true) (hs : Numbered s) (hi : s.findInc id = some i)
    (hgone : isGone i = true) (hcur : i.isCurrent = false) :
    ∃ i', s'.findInc id = some i' ∧ isGone i' = true ∧ i'.isCurrent = false := by
  obtain ⟨i', hi', hchange⟩ := h.findInc_next hload hs hi
  exact ⟨i', hi', hchange.gone hi hop hgone hcur⟩

/-! ## Whole runs -/

/-- After the operations `ops`, the incarnation is neither running nor draining nor
current, and admits no use. -/
def StaysDead (s : Impl) (id : EngineIncarnationId) (ops : List Op) : Prop :=
  ∃ i, (machine.exec s ops).findInc id = some i ∧
    i.state.lifecycle ≠ .running ∧ i.state.lifecycle ≠ .draining ∧ i.isCurrent = false ∧
    ∀ wanted now admittedAt, wanted.incarnationId = id →
      ∃ e, machine.result (machine.exec s ops) (.acquireServingUse wanted now admittedAt) = .error e

theorem gone_exec {ops : List Op} {i : EngineIncarnation} (hs : Numbered s)
    (hload : ∀ op ∈ ops, ¬ op.IsLoad)
    (hrun : machine.Along (fun s op => sparesDead s op = true) s ops)
    (hi : s.findInc id = some i) (hgone : isGone i = true) (hcur : i.isCurrent = false) :
    ∃ i', (machine.exec s ops).findInc id = some i' ∧ isGone i' = true ∧
      i'.isCurrent = false := by
  induction ops generalizing s i with
  | nil => exact ⟨i, hi, hgone, hcur⟩
  | cons op ops ih =>
    have hop : ¬ op.IsLoad := hload op List.mem_cons_self
    have h := step_transition s op
    obtain ⟨i₁, hi₁, hgone₁, hcur₁⟩ := h.gone hop hrun.1 hs hi hgone hcur
    exact ih (h.numbered hop hs) (fun o ho => hload o (List.mem_cons_of_mem op ho)) hrun.2 hi₁
      hgone₁ hcur₁

/-- What a dead incarnation cannot do. -/
theorem staysDead_of_gone {ops : List Op} {i : EngineIncarnation}
    (hi : (machine.exec s ops).findInc id = some i) (hgone : isGone i = true)
    (hcur : i.isCurrent = false) : StaysDead s id ops := by
  refine ⟨i, hi, ?_, ?_, hcur, ?_⟩
  · intro hrunning
    simp [isGone, hrunning] at hgone
  · intro hdraining
    simp [isGone, hdraining] at hgone
  · rintro wanted now admittedAt rfl
    cases hres : machine.result (machine.exec s ops) (.acquireServingUse wanted now admittedAt) with
    | error e => exact ⟨e, rfl⟩
    | ok reply =>
      obtain ⟨inc, profile, engine, hadm⟩ := acquireServingUse_ok hres
      have heq : inc = i := Option.some.inj (hadm.found.symm.trans hi)
      rw [← heq, hadm.current] at hcur
      cases hcur

/-- In every run without a recovery whose steps spare dead incarnations, a lost or
retired incarnation stays dead. -/
theorem dead_stays_dead (opts : RuntimeOptions) (os₁ os₂ : List Op)
    (hload : ∀ op ∈ os₁ ++ os₂, ¬ op.IsLoad)
    (hrun : machine.Along (fun s op => sparesDead s op = true) (Impl.new opts) (os₁ ++ os₂))
    {id : EngineIncarnationId} {i : EngineIncarnation}
    (hi : (machine.exec (Impl.new opts) os₁).findInc id = some i)
    (hdead : i.state.lifecycle = .lost ∨ i.state.lifecycle = .retired) :
    StaysDead (machine.exec (Impl.new opts) os₁) id os₂ := by
  obtain ⟨hrun₁, hrun₂⟩ := Machine.along_append.mp hrun
  have hinv : Numbered (machine.exec (Impl.new opts) os₁) ∧
      DeadNotCurrent (machine.exec (Impl.new opts) os₁) := by
    refine Machine.exec_invariant (C := fun _ op => ¬ op.IsLoad)
      (I := fun s => Numbered s ∧ DeadNotCurrent s) ⟨numbered_new opts, ?_⟩ ?_
      fun s op hs hop => ⟨(step_transition s op).numbered hop hs.1,
        (step_transition s op).deadNotCurrent hs.2⟩
    · intro id i hi
      simp [Impl.findInc, Impl.new] at hi
    · exact Machine.along_of_mem fun op hop _ => hload op (List.mem_append_left os₂ hop)
  have hgone : isGone i = true := by rcases hdead with h | h <;> simp [isGone, h]
  obtain ⟨i', hi', hgone', hcur'⟩ := gone_exec hinv.1
    (fun op hop => hload op (List.mem_append_right os₁ hop)) hrun₂ hi hgone (hinv.2 id i hi hgone)
  exact staysDead_of_gone hi' hgone' hcur'

theorem dead_stays_dead_sample :
    StaysDead (machine.exec (Impl.new {}) (sampleStart ++ [.fenceWorker ⟨1⟩ ⟨1⟩])) ⟨2⟩
      [.advanceEpoch, .fenceWorker ⟨1⟩ ⟨1⟩] := by
  obtain ⟨i, hi, hlost⟩ : ∃ i, (machine.exec (Impl.new {})
      (sampleStart ++ [.fenceWorker ⟨1⟩ ⟨1⟩])).findInc ⟨2⟩ = some i ∧
        i.state.lifecycle = .lost := ⟨_, rfl, rfl⟩
  exact dead_stays_dead {} _ _ (by decide) (by decide) hi (.inl hlost)

/-- Each of the three operations brings a lost incarnation back: the first two make it
running, the second also current and able to take on a use, the third draining. -/
theorem dead_incarnation_revived :
    (∃ i, (machine.exec (Impl.new {}) (sampleStart ++ [.fenceWorker ⟨1⟩ ⟨1⟩])).findInc ⟨2⟩ = some i ∧
      i.state.lifecycle = .lost) ∧
    ¬ StaysDead (machine.exec (Impl.new {}) (sampleStart ++ [.fenceWorker ⟨1⟩ ⟨1⟩])) ⟨2⟩
      [.markRunning ⟨2⟩ 0] ∧
    ¬ StaysDead (machine.exec (Impl.new {}) (sampleStart ++ [.fenceWorker ⟨1⟩ ⟨1⟩])) ⟨2⟩
      [.revalidate ⟨2⟩] ∧
    ¬ StaysDead (machine.exec (Impl.new {}) (sampleStart ++ [.fenceWorker ⟨1⟩ ⟨1⟩])) ⟨2⟩
      [.requestDrain ⟨2⟩] := by
  refine ⟨⟨_, rfl, rfl⟩, ?_, ?_, ?_⟩
  · rintro ⟨i, hi, hrunning, -⟩
    cases hi
    exact hrunning rfl
  · rintro ⟨i, hi, hrunning, -⟩
    cases hi
    exact hrunning rfl
  · rintro ⟨i, hi, -, hdraining, -⟩
    cases hi
    exact hdraining rfl

end EngineResidency.Runtime
