-- SUMMARY: What is left of a fenced boot after a coordinator restart.
import EngineResidency.Runtime.Fence
import EngineResidency.Runtime.Identity

/-!
# Fences across a restart

The set of fenced boots is not saved. A restarted runtime knows the incarnations of a
fenced boot, but neither issuing a permit nor registering looks at them: a permit is
refused for a boot that is fenced in this runtime or has no number, and a registration
needs a permit. So after a restart only a boot that never had a permit is kept out.
-/

namespace EngineResidency.Runtime

open EStateM

variable {s s' : Impl} {op : Op} {r : Except Err Reply} {w : WorkerId} {b : WorkerBootId}

/-- Neither a permit nor a registration is granted to the boot. -/
structure RejectsBoot (s : Impl) (w : WorkerId) (b : WorkerBootId) : Prop where
  permit : ∃ e, machine.result s (.issueRegistrationPermit w b) = .error e
  registration : ∀ inc permit now, ofBoot w b inc →
    ∃ e, machine.result s (.registerIncarnation inc permit now) = .error e

/-- A fresh runtime that has recovered the blob and entered a new epoch. -/
def restarted (opts : RuntimeOptions) (blob : Str) : Impl :=
  machine.exec (Impl.new opts) [.load blob, .advanceEpoch]

/-! ## Boots that are never admitted -/

/-- The boot has no number, or no permits are issued at all. -/
def neverPermitted (opts : RuntimeOptions) (b : WorkerBootId) : Bool :=
  b.isBefore ⟨1⟩ || opts.maxRegistrationPermits == 0

/-- No permit is for a boot without a number, and there is none where none may be issued. -/
structure PermitsSound (s : Impl) : Prop where
  numbered : s.permits.All fun p => p.workerBoot.isBefore ⟨1⟩ = false
  none : s.opts.maxRegistrationPermits = 0 → s.permits = ∅

theorem Transition.permitsSound (h : Transition s op r s') (hs : PermitsSound s) :
    PermitsSound s' := by
  cases h with
  | issueRegistrationPermit hboot _ hroom =>
    refine ⟨hs.numbered.insert hboot, fun hzero => ?_⟩
    have hzero : s.opts.maxRegistrationPermits = 0 := hzero
    rw [hzero] at hroom
    exact absurd hroom (Nat.not_lt_zero _)
  | registerIncarnation hpermit =>
    refine ⟨hs.numbered.modify fun p hp => hp, fun hzero => ?_⟩
    rw [hs.none hzero] at hpermit
    simp at hpermit
  | _ => exact ⟨hs.numbered, hs.none⟩

theorem Transition.opts_eq (h : Transition s op r s') : s'.opts = s.opts := by
  cases h <;> rfl

theorem PermitsSound.rejectsBoot (hs : PermitsSound s) (h : neverPermitted s.opts b = true) :
    RejectsBoot s w b := by
  rw [neverPermitted, Bool.or_eq_true, beq_iff_eq] at h
  refine ⟨?_, fun inc permit now hboot => ?_⟩
  · have hstep := step_transition s (.issueRegistrationPermit w b)
    generalize machine.result s _ = r at hstep ⊢
    generalize machine.next s _ = s' at hstep
    cases hstep with
    | refused => exact ⟨_, rfl⟩
    | issueRegistrationPermit hnumbered _ hroom =>
      rcases h with h | h
      · rw [h] at hnumbered
        cases hnumbered
      · rw [h] at hroom
        exact absurd hroom (Nat.not_lt_zero _)
  · have hstep := step_transition s (.registerIncarnation inc permit now)
    generalize machine.result s _ = r at hstep ⊢
    generalize machine.next s _ = s' at hstep
    cases hstep with
    | refused => exact ⟨_, rfl⟩
    | @registerIncarnation _ _ p _ _ hpermit _ _ hown =>
      rcases h with h | h
      · have hnumbered : p.workerBoot.isBefore ⟨1⟩ = false := hs.numbered _ p hpermit
        rw [hown, hboot.2, h] at hnumbered
        cases hnumbered
      · rw [hs.none h] at hpermit
        simp at hpermit

/-! ## After a restart -/

/-- A permit is issued to any boot that has a number and is not fenced, while there is
room. -/
theorem issueRegistrationPermit_ok (hboot : b.isBefore ⟨1⟩ = false)
    (hfenced : s.bootFenced w b = false)
    (hroom : s.permits.size < s.opts.maxRegistrationPermits.toNat) :
    machine.result s (.issueRegistrationPermit w b) = .ok (.permit (nextPermit s w b)) := by
  have hwp : wp (step (.issueRegistrationPermit w b))
      (fun r _ => r = .ok (.permit (nextPermit s w b))) s := by
    refine wp_map (wp_get (wp_passes (by simp [hboot]) ?_))
    refine wp_passes (by simp [hfenced]) (wp_passes (Nat.not_le.mpr hroom) ?_)
    exact wp_modify (wp_pure rfl)
  exact wp_iff.mp hwp

/-- A restart brings back no permit and no fence. -/
theorem restarted_eq (opts : RuntimeOptions) (blob : Str) :
    (restarted opts blob).permits = ∅ ∧ (restarted opts blob).fenced = ∅ ∧
      (restarted opts blob).opts = opts := by
  have hload := step_transition (Impl.new opts) (.load blob)
  have hadvance := step_transition (machine.next (Impl.new opts) (.load blob)) .advanceEpoch
  have heq : restarted opts blob =
      machine.next (machine.next (Impl.new opts) (.load blob)) .advanceEpoch := rfl
  rw [heq]
  generalize machine.result (Impl.new opts) (.load blob) = r₁ at hload
  generalize machine.next (Impl.new opts) (.load blob) = t at hload hadvance
  generalize machine.result t .advanceEpoch = r₂ at hadvance
  generalize machine.next t .advanceEpoch = t' at hadvance
  have ht : t.permits = ∅ ∧ t.fenced = ∅ ∧ t.opts = opts := by
    cases hload with
    | refused => exact ⟨rfl, rfl, rfl⟩
    | load => exact ⟨rfl, rfl, rfl⟩
  cases hadvance with
  | refused => exact ht
  | advanceEpochExhausted => exact ht
  | advanceEpoch => exact ht

/-- What a reachable runtime with a fenced boot saves keeps the boot out after a restart
exactly when the boot could never be admitted anyway. -/
theorem fence_survives_restart_iff (opts opts' : RuntimeOptions) (ops : List Op) {w : WorkerId}
    {b : WorkerBootId} {blob : Str}
    (_hfenced : (machine.exec (Impl.new opts) ops).bootFenced w b = true)
    (_hblob : serialize (machine.exec (Impl.new opts) ops) = .ok blob) :
    (∀ os, RejectsBoot (machine.exec (restarted opts' blob) os) w b) ↔
      neverPermitted opts' b = true := by
  obtain ⟨hpermits, hfence, hopts⟩ := restarted_eq opts' blob
  constructor
  · -- Nothing that a restart brings back keeps a numbered boot from getting a permit.
    intro h
    by_contra hnever
    rw [neverPermitted, Bool.not_eq_true, Bool.or_eq_false_iff, beq_eq_false_iff_ne] at hnever
    obtain ⟨e, he⟩ := (h []).permit
    rw [Machine.exec_nil, issueRegistrationPermit_ok hnever.1] at he
    · cases he
    · simp [Impl.bootFenced, hfence]
    · have hpos : opts'.maxRegistrationPermits.toNat ≠ 0 :=
        fun hzero => hnever.2 (UInt32.toNat_inj.mp hzero)
      rw [hpermits, hopts]
      exact Nat.pos_of_ne_zero hpos
  · intro h os
    have hinv : PermitsSound (machine.exec (restarted opts' blob) os) ∧
        (machine.exec (restarted opts' blob) os).opts = opts' := by
      refine Machine.exec_always (I := fun s => PermitsSound s ∧ s.opts = opts')
        ⟨⟨?_, fun _ => hpermits⟩, hopts⟩ (fun s op hs => ?_) os
      · rw [hpermits]
        exact .empty
      · have h := step_transition s op
        exact ⟨h.permitsSound hs.1, h.opts_eq.trans hs.2⟩
    refine hinv.1.rejectsBoot ?_
    rw [hinv.2]
    exact h

theorem serialize_savedBlob {ops : List Op}
    (h : (serialize (machine.exec (Impl.new {}) ops)).isOk = true) :
    serialize (machine.exec (Impl.new {}) ops) = .ok (savedBlob ops) := by
  unfold savedBlob
  cases hres : serialize (machine.exec (Impl.new {}) ops) with
  | ok blob => rfl
  | error e => rw [hres] at h; cases h

/-- A runtime has fenced the boot without a number. -/
def sampleFencedZero : List Op := [.defineEngine { engineId := ⟨1⟩ }, .fenceWorker ⟨1⟩ ⟨0⟩]

/-- The boot without a number stays out. -/
theorem fence_survives_restart_sample :
    (machine.exec (Impl.new {}) sampleFencedZero).bootFenced ⟨1⟩ ⟨0⟩ = true ∧
      ∀ os, RejectsBoot (machine.exec (restarted {} (savedBlob sampleFencedZero)) os) ⟨1⟩ ⟨0⟩ := by
  have hfenced : (machine.exec (Impl.new {}) sampleFencedZero).bootFenced ⟨1⟩ ⟨0⟩ = true := by decide
  exact ⟨hfenced, (fence_survives_restart_iff {} {} sampleFencedZero hfenced
    (serialize_savedBlob (by decide +kernel))).mpr rfl⟩

/-- What the sample runtime saves after its incarnation's boot has been fenced. -/
def sampleFencedBlob : Str := savedBlob (sampleStart ++ [.fenceWorker ⟨1⟩ ⟨1⟩])

/-- After a restart, the fenced boot is issued a permit and registers under it. -/
theorem fence_lost_in_restart :
    (machine.exec (Impl.new {}) (sampleStart ++ [.fenceWorker ⟨1⟩ ⟨1⟩])).bootFenced ⟨1⟩ ⟨1⟩ = true ∧
    serialize (machine.exec (Impl.new {}) (sampleStart ++ [.fenceWorker ⟨1⟩ ⟨1⟩])) =
      .ok sampleFencedBlob ∧
    ¬ RejectsBoot (restarted {} sampleFencedBlob) ⟨1⟩ ⟨1⟩ ∧
    (machine.result (machine.exec (restarted {} sampleFencedBlob)
        [.issueRegistrationPermit ⟨1⟩ ⟨1⟩])
      (.registerIncarnation { engineId := ⟨1⟩, workerId := ⟨1⟩, workerBoot := ⟨1⟩ }
        { permitId := ⟨1000002⟩ } 0)).isOk = true := by
  refine ⟨by decide, serialize_savedBlob (by decide +kernel), fun h => ?_, by decide +kernel⟩
  obtain ⟨e, he⟩ := h.permit
  have hok : (machine.result (restarted {} sampleFencedBlob)
      (.issueRegistrationPermit ⟨1⟩ ⟨1⟩)).isOk = true := by decide +kernel
  rw [he] at hok
  cases hok

end EngineResidency.Runtime
