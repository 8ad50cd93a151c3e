-- SUMMARY: A drain fence is permanent, and a drained incarnation holds no unreleased use.
import EngineResidency.Runtime.Incarnation
import EngineResidency.Runtime.ServingUse

/-!
# Drains

A drain keeps new work out of an incarnation. Three operations compute its phase by
counting the uses that remain, each on its own; the count is a 32-bit number, which
`UseBound` shows to be exact. No operation takes the fence of a drain away again, not
even one that makes the drained incarnation current or running once more.
-/

namespace EngineResidency.Runtime

open Impl (holds)

variable {s s' : Impl} {op : Op} {r : Except Err Reply} {id : EngineIncarnationId}

/-! ## Counting the uses of an incarnation -/

theorem count_holds_le (s : Impl) (id : EngineIncarnationId) :
    s.activeUses.count (holds id) ≤ s.activeUses.count unreleased :=
  AList.count_le_count _ fun u hu => by
    simp only [holds, Bool.and_eq_true] at hu
    exact hu.2

/-- The 32-bit count is zero only if no use remains. -/
theorem remainingUses_eq_zero (hs : UseBound s) :
    s.remainingUses id = 0 ↔ s.activeUses.count (holds id) = 0 := by
  have hle := count_holds_le s id
  have hmax := s.opts.maxActiveUses.toNat_lt
  have hcount := hs.count_le
  have hbound := hs.le_max
  rw [← UInt32.toNat_inj]
  simp only [Impl.remainingUses, UInt32.toNat_ofNat', UInt32.toNat_zero]
  omega

theorem count_holds_closed {k : ServingUseId} (outcome : WorkOutcome) (detail : Str)
    (now : DurationNs) (s : Impl) (id : EngineIncarnationId) :
    (s.activeUses.modify k (closed outcome detail now)).count (holds id) ≤
      s.activeUses.count (holds id) := by
  cases hu : s.activeUses.lookup k with
  | none =>
    have hsame : s.activeUses.modify k (closed outcome detail now) = s.activeUses :=
      AList.modify_of_lookup_none hu
    rw [hsame]
  | some u =>
    have h := AList.count_modify (holds id) (closed outcome detail now) hu
    simp only [holds, closed, Bool.not_true, Bool.and_false, Bool.false_eq_true, if_false] at h ⊢
    omega

/-- The uses of an incarnation that admits nothing never increase. -/
theorem Transition.count_holds (h : Transition s op r s') (hkeyed : KeyedById s)
    (hfenced : s.admissionFenced id = true) :
    s'.activeUses.count (holds id) ≤ s.activeUses.count (holds id) := by
  cases h with
  | @acquireServingUse wanted now admittedAt inc profile engine hinc hcurrent hrunning hdrain =>
    have hne : id ≠ wanted.incarnationId := by
      rintro rfl
      rw [hfenced] at hdrain
      cases hdrain
    have hnot : holds id (admittedUse s wanted inc admittedAt) = false := by
      have hid := hkeyed _ inc hinc
      simp [holds, admittedUse, hid, Ne.symm hne]
    have hle := AList.count_insert_le (holds id) s.activeUses
      (admittedUse s wanted inc admittedAt).useId (admittedUse s wanted inc admittedAt)
    rw [hnot] at hle
    exact hle
  | @releaseServingUseUnderflow token outcome detail now =>
    exact count_holds_closed outcome detail now s id
  | @releaseServingUse token outcome detail now =>
    exact count_holds_closed outcome detail now s id
  | _ => exact Nat.le_refl _

/-! ## Changes of a drain -/

/-- What an operation can do to the drain of an incarnation, in terms of the uses that
remain after it. -/
inductive DrainChange (remaining : UInt32) : Option DrainState → DrainState → Prop
  | same {d : DrainState} : DrainChange remaining (some d) d
  | created : DrainChange remaining none {}
  | settled {d : DrainState} : DrainChange remaining (some d) (settleDrain remaining d)
  | requested {o : Option DrainState} {gen : DrainGeneration} {n : UInt32} :
    DrainChange remaining o (requested gen n (o.getD {}))
  | acknowledged {d : DrainState} : DrainChange remaining (some d) (acknowledged remaining d)
  | fenced {o : Option DrainState} :
    DrainChange remaining o { o.getD {} with admissionFenced := true }

/-- The drain of an incarnation before and after an operation. -/
def DrainChanged (s s' : Impl) (id : EngineIncarnationId) : Prop :=
  (s.drains.lookup id = none ∧ s'.drains.lookup id = none) ∨
    ∃ d, s'.drains.lookup id = some d ∧
      DrainChange (s'.remainingUses id) (s.drains.lookup id) d

theorem DrainChanged.some {d d' : DrainState} (hd : s.drains.lookup id = some d)
    (hch : DrainChange (s'.remainingUses id) (some d) d') (hd' : s'.drains.lookup id = some d') :
    DrainChanged s s' id :=
  .inr ⟨d', hd', hd ▸ hch⟩

theorem DrainChanged.same (h : s'.drains.lookup id = s.drains.lookup id) :
    DrainChanged s s' id := by
  cases hd : s.drains.lookup id with
  | none => exact .inl ⟨hd, h.trans hd⟩
  | some d => exact .inr ⟨d, h.trans hd, hd ▸ .same⟩

theorem lookup_touchDrain (s : Impl) (k id : EngineIncarnationId) :
    (s.touchDrain k).drains.lookup id =
      if id = k then some ((s.drains.lookup k).getD {}) else s.drains.lookup id := by
  unfold Impl.touchDrain
  cases hd : s.drains.lookup k with
  | none => simp [AList.lookup_insert']
  | some d =>
    by_cases hid : id = k
    · subst hid
      simp [hd]
    · simp [hid]

theorem Transition.drainChanged (h : Transition s op r s') (id : EngineIncarnationId) :
    DrainChanged s s' id := by
  cases h with
  | @releaseServingUse token outcome detail now use huse hopen hinc hcount =>
    by_cases hid : id = token.incarnationId
    · subst hid
      cases hd : s.drains.lookup token.incarnationId with
      | none => exact .inl ⟨hd, by simp [settle, Impl.modifyDrain, Impl.modifyUse, hd]⟩
      | some d =>
        refine .some hd .settled ?_
        simp only [settle, Impl.modifyDrain, Impl.modifyUse, AList.lookup_modify_self, hd]
        rfl
    · exact .same (AList.lookup_modify_ne _ _ hid)
  | @requestDrainExhausted k inc e hinc =>
    by_cases hid : id = k
    · subst hid
      cases hd : s.drains.lookup id with
      | none => exact .inr ⟨{}, by simp [lookup_touchDrain, hd], hd ▸ .created⟩
      | some d => exact .same (by simp [lookup_touchDrain, hd])
    · exact .same (by simp [lookup_touchDrain, hid])
  | @requestDrain k inc gen hinc hgen =>
    by_cases hid : id = k
    · subst hid
      refine .inr ⟨requested gen ((s.touchDrain id).remainingUses id)
        ((s.drains.lookup id).getD {}), ?_, .requested⟩
      simp only [beginDrain, Impl.modifyDrain, Impl.modifyInc, AList.lookup_modify_self,
        lookup_touchDrain]
      rfl
    · refine .same ?_
      simp only [beginDrain, Impl.modifyDrain, Impl.modifyInc]
      rw [AList.lookup_modify_ne _ _ hid, lookup_touchDrain, if_neg hid]
  | @acknowledgeBackendCleanup k d hdrain =>
    by_cases hid : id = k
    · subst hid
      refine .some hdrain .acknowledged ?_
      simp only [Impl.modifyDrain, AList.lookup_modify_self, hdrain]
      rfl
    · exact .same (AList.lookup_modify_ne _ _ hid)
  | @commitCutover rid p cand hplan hphase hcand hrunning =>
    cases hold : s.findInc p.oldIncarnation with
    | none =>
      refine .same ?_
      simp only [Impl.modifyReplacement, cutover, fenceOldDrain, hold]
    | some old =>
      by_cases hid : id = old.incarnationId
      · subst hid
        refine .inr ⟨_, ?_, .fenced⟩
        simp only [Impl.modifyReplacement, cutover, fenceOldDrain, hold, Impl.modifyDrain,
          AList.lookup_modify_self, lookup_touchDrain]
        rfl
      · refine .same ?_
        simp only [Impl.modifyReplacement, cutover, fenceOldDrain, hold, Impl.modifyDrain]
        rw [AList.lookup_modify_ne _ _ hid, lookup_touchDrain, if_neg hid]
  | _ => exact .same rfl

/-! ## The fence is permanent -/

theorem DrainChange.admissionFenced {n : UInt32} {d d' : DrainState}
    (h : DrainChange n (some d) d') (hd : d.admissionFenced = true) : d'.admissionFenced = true := by
  cases h with
  | same => exact hd
  | settled =>
    unfold settleDrain
    split <;> exact hd
  | requested => rfl
  | acknowledged => exact hd
  | fenced => rfl

/-- No operation opens the admission of a fenced incarnation again. -/
theorem Transition.admissionFenced (h : Transition s op r s') (hs : s.admissionFenced id = true) :
    s'.admissionFenced id = true := by
  unfold Impl.admissionFenced at hs ⊢
  cases hd : s.drains.lookup id with
  | none => simp [hd] at hs
  | some d =>
    rw [hd] at hs
    rcases h.drainChanged id with ⟨hnone, -⟩ | ⟨d', hd', hch⟩
    · rw [hd] at hnone
      cases hnone
    · rw [hd] at hch
      rw [hd']
      exact hch.admissionFenced hs

/-- The operation starts to keep new work out of an incarnation: it requests a drain,
or it cuts over from the incarnation, whose record is there. -/
def FencesAdmission (s : Impl) (id : EngineIncarnationId) : Op → Prop
  | .requestDrain k => k = id
  | .commitCutover rid =>
    ∃ p old, s.replacementPlans.lookup rid = some p ∧ p.oldIncarnation = id ∧
      s.findInc id = some old
  | _ => False

theorem Transition.fencesAdmission {reply : Reply} (h : Transition s op (.ok reply) s')
    (hkeyed : KeyedById s) (hop : FencesAdmission s id op) : s'.admissionFenced id = true := by
  cases h with
  | @requestDrain k inc gen hinc hgen =>
    cases hop
    simp only [Impl.admissionFenced, beginDrain, Impl.modifyDrain, Impl.modifyInc,
      AList.lookup_modify_self, lookup_touchDrain]
    rfl
  | @commitCutover rid p cand hplan hphase hcand hrunning =>
    obtain ⟨q, old, hq, rfl, hold⟩ := hop
    rw [hplan] at hq
    cases hq
    have hid := hkeyed _ old hold
    simp only [Impl.admissionFenced, Impl.modifyReplacement, cutover, fenceOldDrain, hold,
      Impl.modifyDrain, hid, AList.lookup_modify_self, lookup_touchDrain]
    rfl
  | _ => exact False.elim hop

/-! ## Drained incarnations hold nothing -/

/-- A drain that is complete has kept new work out, was acknowledged by the backend,
and no unreleased use is bound to its incarnation. -/
def DrainedSound (s : Impl) : Prop :=
  ∀ id d, s.drains.lookup id = some d → d.phase = .drained →
    d.admissionFenced = true ∧ d.backendCleanupAck = true ∧ s.activeUses.count (holds id) = 0

theorem drainedSound_new (opts : RuntimeOptions) : DrainedSound (Impl.new opts) := by
  intro id d hd
  simp [Impl.new] at hd

theorem DrainChange.drained {n : UInt32} {o : Option DrainState} {d' : DrainState}
    (h : DrainChange n o d') (hd' : d'.phase = .drained) :
    (∃ d, o = some d ∧ d.phase = .drained ∧
      (d.admissionFenced = true → d'.admissionFenced = true) ∧
      (d.backendCleanupAck = true → d'.backendCleanupAck = true)) ∨
    (n = 0 ∧ d'.admissionFenced = true ∧ d'.backendCleanupAck = true) := by
  cases h with
  | same => exact .inl ⟨d', rfl, hd', fun h => h, fun h => h⟩
  | created => cases hd'
  | @settled d =>
    unfold settleDrain at hd' ⊢
    split at hd' <;> rename_i hcond
    · by_cases hack : d.backendCleanupAck = true
      · simp [hcond, hack]
      · simp [hack] at hd'
    · simp only [hcond, if_false]
      exact .inl ⟨d, rfl, hd', fun h => h, fun h => h⟩
  | @requested _ gen m =>
    unfold Runtime.requested at hd'
    split at hd' <;> cases hd'
  | @acknowledged d =>
    by_cases hcond : d.admissionFenced = true ∧ n = 0
    · exact .inr ⟨hcond.2, hcond.1, rfl⟩
    · unfold Runtime.acknowledged at hd'
      simp only [hcond, if_false] at hd'
      exact .inl ⟨d, rfl, hd', fun h => h, fun _ => rfl⟩
  | @fenced =>
    cases o with
    | none => cases hd'
    | some d => exact .inl ⟨d, rfl, hd', fun _ => rfl, fun h => h⟩

theorem Transition.drainedSound (h : Transition s op r s') (hkeyed : KeyedById s)
    (hbound : UseBound s) (hs : DrainedSound s) : DrainedSound s' := by
  intro id d' hd' hphase
  rcases h.drainChanged id with ⟨-, hnone⟩ | ⟨d'', hd'', hch⟩
  · rw [hd'] at hnone
    cases hnone
  · have heq : d'' = d' := Option.some.inj (hd''.symm.trans hd')
    subst heq
    rcases hch.drained hphase with ⟨d, hd, hdrained, hfence, hack⟩ | ⟨hzero, hfence, hack⟩
    · obtain ⟨h₁, h₂, h₃⟩ := hs id d hd hdrained
      have hfenced : s.admissionFenced id = true := by simp [Impl.admissionFenced, hd, h₁]
      have hle := h.count_holds hkeyed hfenced
      exact ⟨hfence h₁, hack h₂, by omega⟩
    · exact ⟨hfence, hack, (remainingUses_eq_zero (h.useBound hbound)).mp hzero⟩

/-! ## Acknowledgements -/

/-- The cleanup of an incarnation has been acknowledged. -/
def acknowledgedFor (s : Impl) (id : EngineIncarnationId) : Bool :=
  (s.drains.lookup id).any DrainState.backendCleanupAck

theorem acknowledgedFor_modify {k : EngineIncarnationId} {f : DrainState → DrainState}
    (hf : ∀ d, (f d).backendCleanupAck = d.backendCleanupAck)
    (hdrains : s'.drains = s.drains.modify k f) :
    acknowledgedFor s' id = acknowledgedFor s id := by
  rw [acknowledgedFor, acknowledgedFor, hdrains, AList.modify, AList.lookup_mapEntries]
  cases s.drains.lookup id with
  | none => rfl
  | some d =>
    change (if id = k then f d else d).backendCleanupAck = d.backendCleanupAck
    split
    · exact hf d
    · rfl

theorem acknowledgedFor_touchDrain (s : Impl) (k id : EngineIncarnationId) :
    acknowledgedFor (s.touchDrain k) id = acknowledgedFor s id := by
  rw [acknowledgedFor, lookup_touchDrain, acknowledgedFor]
  split
  · rename_i hid
    rw [hid]
    cases s.drains.lookup k <;> rfl
  · rfl

/-- Only an acknowledgement acknowledges. -/
theorem Transition.acknowledgedFor (h : Transition s op r s') (id : EngineIncarnationId) :
    op = .acknowledgeBackendCleanup id ∨
      Runtime.acknowledgedFor s' id = Runtime.acknowledgedFor s id := by
  cases h with
  | releaseServingUse =>
    refine .inr (acknowledgedFor_modify (fun d => ?_) rfl)
    unfold settleDrain
    split <;> rfl
  | requestDrainExhausted => exact .inr (acknowledgedFor_touchDrain _ _ _)
  | @requestDrain k inc gen =>
    refine .inr (.trans ?_ (acknowledgedFor_touchDrain s k id))
    exact acknowledgedFor_modify (f := requested gen _) (fun _ => rfl) rfl
  | @acknowledgeBackendCleanup k =>
    by_cases hid : id = k
    · exact .inl (by rw [hid])
    · refine .inr ?_
      rw [Runtime.acknowledgedFor, Impl.modifyDrain, AList.lookup_modify_ne _ _ hid]
      rfl
  | @commitCutover rid p cand =>
    refine .inr ?_
    cases hold : s.findInc p.oldIncarnation with
    | none => simp [Runtime.acknowledgedFor, Impl.modifyReplacement, cutover, fenceOldDrain, hold]
    | some old =>
      refine .trans ?_ (acknowledgedFor_touchDrain s old.incarnationId id)
      refine acknowledgedFor_modify (k := old.incarnationId)
        (f := fun d => { d with admissionFenced := true }) (fun _ => rfl) ?_
      simp only [Impl.modifyReplacement, cutover, fenceOldDrain, hold, Impl.modifyDrain]
  | _ => exact .inr rfl

/-- A complete drain is acknowledged. -/
theorem DrainedSound.acknowledged (hs : DrainedSound s)
    (hdrained : (drainState s id).phase = .drained) : acknowledgedFor s id = true := by
  unfold drainState at hdrained
  unfold acknowledgedFor
  cases hd : s.drains.lookup id with
  | none =>
    rw [hd] at hdrained
    cases hdrained
  | some d =>
    rw [hd] at hdrained
    exact (hs id d hd hdrained).2.1

/-! ## Whole runs -/

/-- What every run maintains about drains. -/
structure DrainInv (s : Impl) : Prop where
  keyed : KeyedById s
  bound : UseBound s
  sound : DrainedSound s

theorem DrainInv.next (hs : DrainInv s) (op : Op) : DrainInv (machine.next s op) :=
  have h := step_transition s op
  ⟨h.keyedById hs.keyed, h.useBound hs.bound, h.drainedSound hs.keyed hs.bound hs.sound⟩

theorem drainInv_exec (hs : DrainInv s) (ops : List Op) : DrainInv (machine.exec s ops) :=
  Machine.exec_always hs (fun _ op h => h.next op) ops

theorem drainInv_new (opts : RuntimeOptions) : DrainInv (Impl.new opts) :=
  ⟨keyedById_new opts, useBound_new opts, drainedSound_new opts⟩

/-- A run from a fenced incarnation keeps the fence and adds no use. -/
theorem admissionFenced_exec (hkeyed : KeyedById s) (hs : s.admissionFenced id = true)
    (ops : List Op) :
    (machine.exec s ops).admissionFenced id = true ∧
      (machine.exec s ops).activeUses.count (holds id) ≤ s.activeUses.count (holds id) := by
  induction ops generalizing s with
  | nil => exact ⟨hs, Nat.le_refl _⟩
  | cons op ops ih =>
    have h := step_transition s op
    obtain ⟨hfenced, hle⟩ := ih (h.keyedById hkeyed) (h.admissionFenced hs)
    exact ⟨hfenced, Nat.le_trans hle (h.count_holds hkeyed hs)⟩

theorem acquire_refused_of_fenced {wanted : ServingUseToken} {now admittedAt : DurationNs}
    (hs : s.admissionFenced wanted.incarnationId = true) :
    ∃ e, machine.result s (.acquireServingUse wanted now admittedAt) = .error e := by
  cases hres : machine.result s (.acquireServingUse wanted now admittedAt) with
  | error e => exact ⟨e, rfl⟩
  | ok reply =>
    obtain ⟨inc, profile, engine, hadm⟩ := acquireServingUse_ok hres
    exact absurd hs (by simp [hadm.undrained])

/-- In every state of every run a complete drain is sound. Once a drain of an incarnation
has been requested, or a cutover has replaced it, every later acquisition on it is
refused, and the number of its unreleased uses never increases. -/
theorem drain_fence_permanent (opts : RuntimeOptions) (ops : List Op) :
    let s := machine.exec (Impl.new opts) ops
    DrainedSound s ∧
    ∀ op id reply, FencesAdmission s id op → machine.result s op = .ok reply → ∀ os₁ os₂,
      let s₁ := machine.exec (machine.next s op) os₁
      (∀ wanted now admittedAt, wanted.incarnationId = id →
        ∃ e, machine.result s₁ (.acquireServingUse wanted now admittedAt) = .error e) ∧
      (machine.exec s₁ os₂).activeUses.count (holds id) ≤ s₁.activeUses.count (holds id) := by
  intro s
  have hinv : DrainInv s := drainInv_exec (drainInv_new opts) ops
  refine ⟨hinv.sound, fun op id reply hop hok os₁ os₂ => ?_⟩
  have hstep := step_transition s op
  rw [hok] at hstep
  have hfenced := hstep.fencesAdmission hinv.keyed hop
  have hnext := hinv.next op
  have hlater := (admissionFenced_exec hnext.keyed hfenced os₁).1
  refine ⟨?_, (admissionFenced_exec (drainInv_exec hnext os₁).keyed hlater os₂).2⟩
  rintro wanted now admittedAt rfl
  exact acquire_refused_of_fenced hlater

/-- A drained incarnation that is revalidated is running and current again, and still
admits nothing. -/
theorem drain_fence_permanent_sample :
    ∃ e, machine.result (machine.exec (Impl.new {})
      (sampleStart ++ [.requestDrain ⟨2⟩, .revalidate ⟨2⟩])) sampleAcquire = .error e :=
  ((drain_fence_permanent {} sampleStart).2 (.requestDrain ⟨2⟩) ⟨2⟩ .done rfl rfl
    [.revalidate ⟨2⟩] []).1 sampleWanted 0 0 rfl

end EngineResidency.Runtime
