-- SUMMARY: When an exclusive slot has one live holder at most.
import EngineResidency.Runtime.Currency
import EngineResidency.Runtime.Lifecycle

/-!
# Exclusive slots

Which incarnation holds a slot is kept in the slot table and in the activation flags.
An activation asks the table, takes over from a holder that is dead or has to
revalidate, and leaves the flag of that holder alone; an epoch change empties the table
and leaves all flags alone. So an incarnation that comes back, by `revalidate` or
`markRunning`, may still be active under a slot that another one has taken, and one that
has come back to an emptied table does not stand in the way of the next activation.
`takesFreeSlot` is the check these three leave out.

The slot of an incarnation is the one that its last successful activation named, which
the state does not keep; it is read off the trace of the run.
-/

namespace EngineResidency.Runtime

variable {s s' : Impl} {op : Op} {r : Except Err Reply} {id : EngineIncarnationId}
  {x : EngineSlotId} {tr : List (Op × Except Err Reply)}

/-- The slot that a successful activation of the incarnation has named. -/
def activatedSlot (id : EngineIncarnationId) : Op × Except Err Reply → Option EngineSlotId
  | (.activate req _, .ok _) => if req.incarnationId = id then some req.slotId else none
  | _ => none

/-- The slot that the last successful activation of the incarnation has named. -/
def lastSlot (id : EngineIncarnationId) (tr : List (Op × Except Err Reply)) :
    Option EngineSlotId :=
  (tr.filterMap (activatedSlot id)).getLast?

/-- The incarnation is active, running, not fenced and in its nominal state. -/
def isActiveLive (i : EngineIncarnation) : Bool :=
  i.state.activation == .active && i.state.lifecycle == .running && i.state.health != .fenced &&
    i.state.registration != .fenced && i.state.recovery == .nominal

/-- The incarnation is alive and active under the slot. -/
def HoldsSlot (tr : List (Op × Except Err Reply)) (s : Impl) (id : EngineIncarnationId)
    (x : EngineSlotId) : Prop :=
  (∃ i, s.findInc id = some i ∧ isActiveLive i = true) ∧ lastSlot id tr = some x

/-- No valid slot has two holders. -/
def ExclusiveSlots (tr : List (Op × Except Err Reply)) (s : Impl) : Prop :=
  ∀ x : EngineSlotId, x.isValid = true →
    ∀ id id', HoldsSlot tr s id x → HoldsSlot tr s id' x → id = id'

/-- No incarnation but `id` holds the slot. -/
def slotFreeFor (tr : List (Op × Except Err Reply)) (s : Impl) (id : EngineIncarnationId)
    (x : EngineSlotId) : Bool :=
  s.incarnations.entries.all fun e =>
    e.1 == id || !(isActiveLive e.2 && lastSlot e.1 tr == some x)

/-- An operation that leaves an incarnation alive and active under a valid slot finds no
other holder of the slot. -/
def takesFreeSlot (tr : List (Op × Except Err Reply)) (s : Impl) : Op → Bool
  | .activate req now => (s.findInc req.incarnationId).all fun i =>
    !(mayActivate s req i now && isActiveLive (activated i) && req.slotId.isValid) ||
      slotFreeFor tr s req.incarnationId req.slotId
  | .revalidate id => (s.findInc id).all fun i =>
    !isActiveLive (revalidated i) ||
      (lastSlot id tr).all fun x => !x.isValid || slotFreeFor tr s id x
  | .markRunning id now => (s.findInc id).all fun i =>
    !isActiveLive (running now i) ||
      (lastSlot id tr).all fun x => !x.isValid || slotFreeFor tr s id x
  | _ => true

/-! ## Slots along a run -/

theorem lastSlot_append (id : EngineIncarnationId) (tr : List (Op × Except Err Reply))
    (step : Op × Except Err Reply) :
    lastSlot id (tr ++ [step]) = (activatedSlot id step).or (lastSlot id tr) := by
  unfold lastSlot
  rw [List.filterMap_append]
  cases h : activatedSlot id step with
  | none => simp [h]
  | some y => simp [h]

theorem slotFreeFor_iff : slotFreeFor tr s id x = true ↔
    ∀ k, HoldsSlot tr s k x → k = id := by
  simp only [slotFreeFor, List.all_eq_true, Bool.or_eq_true, beq_iff_eq, Bool.not_eq_true',
    Bool.and_eq_false_iff, beq_eq_false_iff_ne]
  constructor
  · rintro h k ⟨⟨i, hi, hlive⟩, hslot⟩
    rcases h ⟨k, i⟩ (AList.lookup_eq_some_iff.mp hi) with hk | hdead | hother
    · exact hk
    · rw [hlive] at hdead
      cases hdead
    · exact absurd hslot hother
  · rintro h ⟨k, i⟩ hmem
    by_cases hlive : isActiveLive i = true
    · by_cases hslot : lastSlot k tr = some x
      · exact .inl (h k ⟨⟨i, AList.lookup_eq_some_iff.mpr hmem, hlive⟩, hslot⟩)
      · exact .inr (.inr hslot)
    · exact .inr (.inl (Bool.eq_false_iff.mpr hlive))

/-- An incarnation with a slot has been started. -/
def SlotsStarted (tr : List (Op × Except Err Reply)) (s : Impl) : Prop :=
  ∀ id x, lastSlot id tr = some x →
    ∃ i, s.findInc id = some i ∧ i.state.lifecycle ≠ .starting

/-! ## One step -/

/-- No change takes an incarnation back to its start. -/
theorem IncChange.not_starting {i i' : EngineIncarnation} (h : IncChange s op id i i')
    (hi : i.state.lifecycle ≠ .starting) : i'.state.lifecycle ≠ .starting := by
  cases h with
  | quiet h =>
    rw [h.eq]
    exact hi
  | revalidated h =>
    rw [h.eq]
    exact nofun
  | running | draining | promoted | retired => exact nofun
  | fenced =>
    unfold fenceInc
    split
    · exact nofun
    · exact hi
  | demoted =>
    unfold demoteForEpoch
    split
    · exact hi
    · exact hi
  | started =>
    unfold confirmStart
    split
    · exact nofun
    · exact hi
  | activated | superseded => exact hi

/-- How an incarnation comes to be alive and active other than by an activation. -/
theorem IncChange.isActiveLive {i i' : EngineIncarnation} (h : IncChange s op id i i')
    (hop : ∀ req now, op ≠ .activate req now) (hlive : isActiveLive i' = true) :
    isActiveLive i = true ∨ (∃ now, op = .markRunning id now ∧ i' = Runtime.running now i) ∨
      (op = .revalidate id ∧ Runtime.isActiveLive (Runtime.revalidated i) = true) ∨
      i.state.lifecycle = .starting := by
  cases h with
  | quiet h =>
    rw [h.eq] at hlive
    exact .inl hlive
  | running => exact .inr (.inl ⟨_, rfl, rfl⟩)
  | revalidated h =>
    rw [h.eq] at hlive
    exact .inr (.inr (.inl ⟨rfl, hlive⟩))
  | fenced =>
    revert hlive
    unfold fenceInc
    split
    · exact fun hlive => nomatch hlive
    · exact .inl
  | demoted =>
    revert hlive
    unfold demoteForEpoch
    split
    · intro hlive
      simp [Runtime.isActiveLive] at hlive
    · exact .inl
  | started =>
    revert hlive
    unfold confirmStart
    split
    · -- Evidence starts only what has never run.
      rename_i hstart
      exact fun _ => .inr (.inr (.inr hstart.2))
    · exact .inl
  | activated => exact absurd rfl (hop _ _)
  | draining | superseded | promoted => cases hlive
  | retired => simp [Runtime.isActiveLive, Runtime.retired] at hlive

/-- The operation leaves an incarnation alive and active under a slot. -/
inductive TakesSlot (tr : List (Op × Except Err Reply)) (s : Impl) :
    Op → EngineIncarnationId → EngineSlotId → Prop
  | activate {req : ActivationRequest} {now : DurationNs} {i : EngineIncarnation}
    (hi : s.findInc req.incarnationId = some i) (hmay : mayActivate s req i now = true)
    (hlive : isActiveLive (activated i) = true) :
    TakesSlot tr s (.activate req now) req.incarnationId req.slotId
  | revalidate {id : EngineIncarnationId} {i : EngineIncarnation} {x : EngineSlotId}
    (hi : s.findInc id = some i) (hlive : isActiveLive (revalidated i) = true)
    (hslot : lastSlot id tr = some x) : TakesSlot tr s (.revalidate id) id x
  | markRunning {id : EngineIncarnationId} {now : DurationNs} {i : EngineIncarnation}
    {x : EngineSlotId} (hi : s.findInc id = some i) (hlive : isActiveLive (running now i) = true)
    (hslot : lastSlot id tr = some x) : TakesSlot tr s (.markRunning id now) id x

theorem TakesSlot.free (h : TakesSlot tr s op id x) (hop : takesFreeSlot tr s op = true)
    (hvalid : x.isValid = true) : ∀ k, HoldsSlot tr s k x → k = id := by
  refine slotFreeFor_iff.mp ?_
  cases h with
  | activate hi hmay hlive => simpa [takesFreeSlot, hi, hmay, hlive, hvalid] using hop
  | revalidate hi hlive hslot => simpa [takesFreeSlot, hi, hlive, hslot, hvalid] using hop
  | markRunning hi hlive hslot => simpa [takesFreeSlot, hi, hlive, hslot, hvalid] using hop

/-- An operation leaves one incarnation at most alive and active under a slot. -/
theorem TakesSlot.unique {id' : EngineIncarnationId} {y : EngineSlotId}
    (h : TakesSlot tr s op id x) (h' : TakesSlot tr s op id' y) : id = id' := by
  cases h with
  | activate => cases h' with | activate => rfl
  | revalidate => cases h' with | revalidate => rfl
  | markRunning => cases h' with | markRunning => rfl

theorem activatedSlot_error (id : EngineIncarnationId) (op : Op) (e : Err) :
    activatedSlot id (op, .error e) = none := by
  cases op <;> rfl

/-- A holder of a slot has held it before, or the operation has made it one. -/
theorem Transition.holdsSlot (h : Transition s op r s') (hload : ¬ op.IsLoad) (hs : Numbered s)
    (hstarted : SlotsStarted tr s) (hholds : HoldsSlot (tr ++ [(op, r)]) s' id x) :
    HoldsSlot tr s id x ∨ TakesSlot tr s op id x := by
  obtain ⟨⟨i', hi', hlive⟩, hslot⟩ := hholds
  rw [lastSlot_append] at hslot
  have hincs := h.incarnations
  cases h with
  | refused =>
    rw [activatedSlot_error, Option.none_or] at hslot
    exact .inl ⟨⟨i', hi', hlive⟩, hslot⟩
  | @activate req now inc hauthority hinc hhealth hregistration hrunning hgen hgate hfree =>
    -- The activated incarnation takes the slot of the request; the others are left alone.
    by_cases hid : req.incarnationId = id
    · subst hid
      have hi : i' = activated inc := by
        rw [Impl.findInc] at hinc
        simp only [Impl.findInc, grantActivation, Impl.modifyInc, AList.lookup_modify_self,
          hinc] at hi'
        exact (Option.some.inj hi').symm
      have hx : x = req.slotId := by
        simp only [activatedSlot, if_pos, Option.some_or] at hslot
        exact (Option.some.inj hslot).symm
      rw [hi] at hlive
      rw [hx]
      exact .inr (.activate hinc
        (mayActivate_eq_true hauthority hhealth hregistration hrunning hgen hgate hfree) hlive)
    · simp only [activatedSlot, if_neg hid, Option.none_or] at hslot
      simp only [Impl.findInc, grantActivation, Impl.modifyInc,
        AList.lookup_modify_ne _ _ (Ne.symm hid)] at hi'
      exact .inl ⟨⟨i', hi', hlive⟩, hslot⟩
  | load => exact absurd trivial hload
  | _ =>
    -- No other operation names a slot, so the record alone can have changed.
    have hslot : lastSlot id tr = some x := hslot
    obtain ⟨i, hi, hlater⟩ := hstarted id x hslot
    rcases hincs with hchanged | ⟨inc, now, henr⟩ | ⟨blob, p, hload', -⟩
    · obtain ⟨i₀, hi₀, hchange⟩ := hchanged.findInc hi'
      cases hi.symm.trans hi₀
      rcases hchange.isActiveLive (by simp) hlive with hold | ⟨now, hop, rfl⟩ | ⟨hop, hlive⟩ | hstart
      · exact .inl ⟨⟨i, hi, hold⟩, hslot⟩
      · rw [hop]
        exact .inr (.markRunning hi hlive hslot)
      · rw [hop]
        exact .inr (.revalidate hi hlive hslot)
      · exact absurd hstart hlater
    · rcases henr.findInc hi' with ⟨rfl, -⟩ | ⟨-, hi'⟩
      · -- A new identity has no slot yet.
        rw [henr.fresh hs] at hi
        cases hi
      · exact .inl ⟨⟨i', hi', hlive⟩, hslot⟩
    · cases hload'

theorem Transition.slotsStarted (h : Transition s op r s') (hload : ¬ op.IsLoad)
    (hs : Numbered s) (hstarted : SlotsStarted tr s) : SlotsStarted (tr ++ [(op, r)]) s' := by
  intro id x hslot
  rw [lastSlot_append] at hslot
  cases hnew : activatedSlot id (op, r) with
  | none =>
    rw [hnew, Option.none_or] at hslot
    obtain ⟨i, hi, hlater⟩ := hstarted id x hslot
    obtain ⟨i', hi', hchange⟩ := h.findInc_next hload hs hi
    exact ⟨i', hi', hchange.not_starting hlater⟩
  | some y =>
    cases h with
    | refused => rw [activatedSlot_error] at hnew; cases hnew
    | @activate req now inc hauthority hinc hhealth hregistration hrunning =>
      simp only [activatedSlot] at hnew
      split at hnew
      · rename_i hid
        subst hid
        refine ⟨activated inc, ?_, ?_⟩
        · rw [Impl.findInc] at hinc
          simp [Impl.findInc, grantActivation, Impl.modifyInc, hinc]
        · simp [activated, hrunning]
      · cases hnew
    | _ => cases hnew

/-- One step that takes only free slots. -/
theorem Transition.exclusiveSlots (h : Transition s op r s') (hload : ¬ op.IsLoad)
    (hop : takesFreeSlot tr s op = true) (hs : Numbered s) (hstarted : SlotsStarted tr s)
    (hexclusive : ExclusiveSlots tr s) : ExclusiveSlots (tr ++ [(op, r)]) s' := by
  intro x hvalid id id' hholds hholds'
  rcases h.holdsSlot hload hs hstarted hholds with hold | htakes
  · rcases h.holdsSlot hload hs hstarted hholds' with hold' | htakes'
    · exact hexclusive x hvalid id id' hold hold'
    · exact htakes'.free hop hvalid id hold
  · rcases h.holdsSlot hload hs hstarted hholds' with hold' | htakes'
    · exact (htakes.free hop hvalid id' hold').symm
    · exact htakes.unique htakes'

/-! ## Whole runs -/

/-- What a run without a recovery keeps, together with its trace. -/
structure SlotInvariant (st : Impl × List (Op × Except Err Reply)) : Prop where
  numbered : Numbered st.1
  started : SlotsStarted st.2 st.1
  exclusive : ExclusiveSlots st.2 st.1

theorem slotInvariant_new (opts : RuntimeOptions) : SlotInvariant (Impl.new opts, []) where
  numbered := numbered_new opts
  started _ _ hslot := nomatch hslot
  exclusive _ _ _ _ hholds := nomatch hholds.2

/-- In every run without a recovery whose steps take only free slots, every valid slot has
one live holder at most. -/
theorem exclusive_slots (opts : RuntimeOptions) (ops : List Op)
    (hload : ∀ op ∈ ops, ¬ op.IsLoad)
    (hrun : machine.recording.Along (fun st op => takesFreeSlot st.2 st.1 op = true)
      (Impl.new opts, []) ops) :
    ExclusiveSlots (machine.trace (Impl.new opts) ops) (machine.exec (Impl.new opts) ops) := by
  have hboth : machine.recording.Along
      (fun st op => takesFreeSlot st.2 st.1 op = true ∧ ¬ op.IsLoad) (Impl.new opts, []) ops :=
    Machine.along_and hrun (Machine.along_of_mem fun op hop _ => hload op hop)
  have hinv := Machine.exec_invariant (slotInvariant_new opts) hboth fun st op hst hop =>
    have h := step_transition st.1 op
    SlotInvariant.mk (h.numbered hop.2 hst.numbered)
      (h.slotsStarted hop.2 hst.numbered hst.started)
      (h.exclusiveSlots hop.2 hop.1 hst.numbered hst.started hst.exclusive)
  rw [Machine.exec_recording, List.nil_append] at hinv
  exact hinv.exclusive

/-- Activate an incarnation under the first slot. -/
def sampleActivate (id : EngineIncarnationId) (gen : ReadinessGeneration)
    (authority : AuthorityGeneration) : Op :=
  .activate
    { incarnationId := id, readinessGeneration := gen, callerAuthority := authority, slotId := ⟨1⟩ } 0

/-- The candidate takes the slot over from a fenced holder. -/
theorem exclusive_slots_sample :
    ExclusiveSlots
      (machine.trace (Impl.new {}) (sampleCandidate ++
        [sampleActivate ⟨2⟩ ⟨1⟩ ⟨1⟩, .fenceWorker ⟨1⟩ ⟨1⟩, sampleActivate ⟨3⟩ ⟨1⟩ ⟨1⟩]))
      (machine.exec (Impl.new {}) (sampleCandidate ++
        [sampleActivate ⟨2⟩ ⟨1⟩ ⟨1⟩, .fenceWorker ⟨1⟩ ⟨1⟩, sampleActivate ⟨3⟩ ⟨1⟩ ⟨1⟩])) :=
  exclusive_slots {} _ (by decide) (by decide)

/-- After an epoch change the candidate takes the slot, and the holder of before comes back
under it; so does a holder that was retired in between. -/
theorem two_slot_holders :
    ¬ ExclusiveSlots
      (machine.trace (Impl.new {}) (sampleCandidate ++ [sampleActivate ⟨2⟩ ⟨1⟩ ⟨1⟩, .advanceEpoch,
        .revalidate ⟨3⟩, sampleActivate ⟨3⟩ ⟨2⟩ ⟨2⟩, .revalidate ⟨2⟩]))
      (machine.exec (Impl.new {}) (sampleCandidate ++ [sampleActivate ⟨2⟩ ⟨1⟩ ⟨1⟩, .advanceEpoch,
        .revalidate ⟨3⟩, sampleActivate ⟨3⟩ ⟨2⟩ ⟨2⟩, .revalidate ⟨2⟩])) ∧
    ¬ ExclusiveSlots
      (machine.trace (Impl.new {}) (sampleCandidate ++ [sampleActivate ⟨2⟩ ⟨1⟩ ⟨1⟩,
        .beginReplacement sampleReplacement, .retireOld ⟨2⟩, sampleActivate ⟨3⟩ ⟨1⟩ ⟨1⟩,
        .markRunning ⟨2⟩ 0]))
      (machine.exec (Impl.new {}) (sampleCandidate ++ [sampleActivate ⟨2⟩ ⟨1⟩ ⟨1⟩,
        .beginReplacement sampleReplacement, .retireOld ⟨2⟩, sampleActivate ⟨3⟩ ⟨1⟩ ⟨1⟩,
        .markRunning ⟨2⟩ 0])) := by
  refine ⟨fun h => ?_, fun h => ?_⟩
  · have heq := h ⟨1⟩ rfl ⟨2⟩ ⟨3⟩ ⟨⟨_, rfl, rfl⟩, rfl⟩ ⟨⟨_, rfl, rfl⟩, rfl⟩
    cases heq
  · have heq := h ⟨1⟩ rfl ⟨2⟩ ⟨3⟩ ⟨⟨_, rfl, rfl⟩, rfl⟩ ⟨⟨_, rfl, rfl⟩, rfl⟩
    cases heq

end EngineResidency.Runtime
