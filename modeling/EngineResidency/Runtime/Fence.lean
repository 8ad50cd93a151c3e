-- SUMMARY: What a fenced worker boot is kept from, and the operations that keep it so.
import EngineResidency.Runtime.Incarnation

/-!
# Fenced boots

Fencing a boot records it and takes its incarnations out of service. No operation
forgets the record. The incarnations are kept out by their registration state, which
only `revalidate` and a recovery reset, and `markRunning` writes the lifecycle without
reading it; every other operation respects the fence.
-/

namespace EngineResidency.Runtime

variable {s s' : Impl} {op : Op} {r : Except Err Reply} {w : WorkerId} {b : WorkerBootId}

/-- The operation neither recovers a state nor overrides the fence of an incarnation. -/
def respectsFence : Op → Bool
  | .markRunning _ _ | .revalidate _ | .load _ => false
  | _ => true

/-- The record belongs to a boot. -/
def ofBoot (w : WorkerId) (b : WorkerBootId) (i : EngineIncarnation) : Prop :=
  i.workerId = w ∧ i.workerBoot = b

/-- Out of service, and kept there by the registration state. -/
structure FencedRecord (i : EngineIncarnation) : Prop where
  registration : i.state.registration = .fenced
  notCurrent : i.isCurrent = false
  notRunning : i.state.lifecycle ≠ .running

/-- The boot is fenced, and so is every record of it. -/
structure FencedOut (w : WorkerId) (b : WorkerBootId) (s : Impl) : Prop where
  boot : s.bootFenced w b = true
  records : ∀ id i, s.findInc id = some i → ofBoot w b i → FencedRecord i

/-! ## One step -/

theorem bootFenced_fenceBoot (s : Impl) : (fenceBoot w b s).bootFenced w b = true := by
  simp [Impl.bootFenced, fenceBoot]

theorem bootFenced_fenceBoot_of_fenced {w' : WorkerId} {b' : WorkerBootId}
    (h : s.bootFenced w b = true) : (fenceBoot w' b' s).bootFenced w b = true := by
  simp only [Impl.bootFenced, fenceBoot, AList.lookup_insert'] at h ⊢
  split at h
  · rename_i boots hboots
    split
    · rename_i boots' hboots'
      split at hboots'
      · rename_i heq
        subst heq
        cases hboots'
        simp [hboots, of_decide_eq_true h]
      · rw [hboots] at hboots'
        cases hboots'
        exact h
    · rename_i hnone
      split at hnone
      · cases hnone
      · rw [hboots] at hnone
        cases hnone
  · cases h

/-- No operation forgets that a boot was fenced. -/
theorem Transition.bootFenced (h : Transition s op r s') (hs : s.bootFenced w b = true) :
    s'.bootFenced w b = true := by
  cases h with
  | fenceWorker => exact bootFenced_fenceBoot_of_fenced hs
  | _ => exact hs

theorem fencedRecord_fenceInc {i : EngineIncarnation} (h : ofBoot w b i) :
    FencedRecord (fenceInc w b i) := by
  unfold fenceInc
  split
  · exact ⟨rfl, rfl, nofun⟩
  · rename_i hother
    exact absurd h hother

/-- A fenced record stays fenced through every change that respects the fence. -/
theorem IncChange.fencedRecord {id : EngineIncarnationId} {i i' : EngineIncarnation}
    (h : IncChange s op id i i') (hop : respectsFence op = true) (hi : FencedRecord i) :
    FencedRecord i' := by
  cases h with
  | quiet h =>
    rw [h.eq]
    exact ⟨hi.registration, hi.notCurrent, hi.notRunning⟩
  | running => cases hop
  | revalidated => cases hop
  | fenced =>
    unfold fenceInc
    split
    · exact ⟨rfl, rfl, nofun⟩
    · exact hi
  | demoted =>
    unfold demoteForEpoch
    rw [if_neg hi.notRunning]
    exact hi
  | started hregistration => exact absurd hi.registration hregistration
  | activated _ hregistration => exact absurd hi.registration hregistration
  | draining => exact ⟨hi.registration, hi.notCurrent, nofun⟩
  | superseded => exact ⟨hi.registration, rfl, hi.notRunning⟩
  | promoted _ hrunning => exact absurd hrunning hi.notRunning
  | retired => exact ⟨hi.registration, rfl, nofun⟩

/-- Fencing a boot fences it and its records. -/
theorem fencedOut_fenceWorker (s : Impl) (w : WorkerId) (b : WorkerBootId) :
    FencedOut w b (machine.next s (.fenceWorker w b)) := by
  refine ⟨bootFenced_fenceBoot s, fun id i' hi' hboot => ?_⟩
  have hi' : (s.incarnations.mapVal (fenceInc w b)).lookup id = some i' := hi'
  rw [AList.lookup_mapVal, Option.map_eq_some_iff] at hi'
  obtain ⟨i, -, rfl⟩ := hi'
  have hchange : IncChange s (.fenceWorker w b) id i (fenceInc w b i) := .fenced
  have hsame := hchange.sameIdentity
  exact fencedRecord_fenceInc ⟨hsame.workerId ▸ hboot.1, hsame.workerBoot ▸ hboot.2⟩

/-- A fenced boot stays fenced out. -/
theorem Transition.fencedOut (h : Transition s op r s') (hop : respectsFence op = true)
    (hs : FencedOut w b s) : FencedOut w b s' := by
  refine ⟨h.bootFenced hs.boot, fun id i' hi' hboot => ?_⟩
  rcases h.incarnations with hch | ⟨inc, now, henr⟩ | ⟨blob, p, rfl, -⟩
  · obtain ⟨i, hi, hchange⟩ := hch.findInc hi'
    have hsame := hchange.sameIdentity
    have hold : ofBoot w b i := ⟨hsame.workerId ▸ hboot.1, hsame.workerBoot ▸ hboot.2⟩
    exact hchange.fencedRecord hop (hs.records id i hi hold)
  · rcases henr.findInc hi' with ⟨-, rfl⟩ | ⟨-, hi⟩
    · -- The boot of a registered record was not fenced.
      have hopen := henr.boot
      obtain ⟨hw, hb⟩ : inc.workerId = w ∧ inc.workerBoot = b := hboot
      rw [hw, hb, hs.boot] at hopen
      cases hopen
    · exact hs.records id i' hi hboot
  · cases hop

/-! ## What a fenced boot is refused -/

/-- The operations that admit a boot or an incarnation of it. -/
inductive AdmitsBoot (s : Impl) (w : WorkerId) (b : WorkerBootId) : Op → Prop
  | permit : AdmitsBoot s w b (.issueRegistrationPermit w b)
  | registration {inc : EngineIncarnation} {permit : RegistrationPermit} {now : DurationNs}
    (hboot : ofBoot w b inc) : AdmitsBoot s w b (.registerIncarnation inc permit now)
  | evidence {ev : ComponentEvidence} {now : DurationNs} {i : EngineIncarnation}
    (hi : s.findInc ev.incarnationId = some i) (hboot : ofBoot w b i) :
    AdmitsBoot s w b (.publishComponent ev now)
  | activation {req : ActivationRequest} {now : DurationNs} {i : EngineIncarnation}
    (hi : s.findInc req.incarnationId = some i) (hboot : ofBoot w b i) :
    AdmitsBoot s w b (.activate req now)
  | use {wanted : ServingUseToken} {now admittedAt : DurationNs} {i : EngineIncarnation}
    (hi : s.findInc wanted.incarnationId = some i) (hboot : ofBoot w b i) :
    AdmitsBoot s w b (.acquireServingUse wanted now admittedAt)

theorem Transition.refused_of_fencedOut (h : Transition s op r s') (hs : FencedOut w b s)
    (hadmits : AdmitsBoot s w b op) : ∃ e, r = .error e := by
  cases h with
  | refused => exact ⟨_, rfl⟩
  | issueRegistrationPermit _ hfenced =>
    cases hadmits with
    | permit => exact absurd hs.boot (Bool.eq_false_iff.mp hfenced)
  | registerIncarnation _ _ _ _ _ hfenced =>
    cases hadmits with
    | registration hboot =>
      rw [hboot.1, hboot.2, hs.boot] at hfenced
      cases hfenced
  | publishComponent hinc hregistration =>
    cases hadmits with
    | evidence hi hboot =>
      obtain rfl := Option.some.inj (hi.symm.trans hinc)
      exact absurd (hs.records _ _ hi hboot).registration hregistration
  | activate _ hinc _ hregistration =>
    cases hadmits with
    | activation hi hboot =>
      obtain rfl := Option.some.inj (hi.symm.trans hinc)
      exact absurd (hs.records _ _ hi hboot).registration hregistration
  | acquireServingUse hinc hcurrent =>
    cases hadmits with
    | use hi hboot =>
      obtain rfl := Option.some.inj (hi.symm.trans hinc)
      rw [(hs.records _ _ hi hboot).notCurrent] at hcurrent
      cases hcurrent
  | _ => cases hadmits

end EngineResidency.Runtime
