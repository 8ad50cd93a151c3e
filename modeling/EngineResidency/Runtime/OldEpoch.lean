-- SUMMARY: What is left to objects of an earlier epoch once the epoch has been raised.
import EngineResidency.Runtime.Currency
import EngineResidency.Runtime.Identity

/-!
# Objects of an earlier epoch

Permits, plans, attempts, evidence and replacements carry the epoch they were issued
under. Six of the seven operations that put such an object into effect compare its epoch
with the current one; `commitCutover` does not. The comparison protects as long as the
epoch does not go back, which only a recovery can make it do. `respectsEpoch` is what
these two leave out.
-/

namespace EngineResidency.Runtime

open EStateM

variable {s s' : Impl} {op : Op} {r : Except Err Reply} {epoch : CoordinatorEpoch}

/-- The operation is given an object that was issued or stamped before the epoch. -/
def GivenBefore (epoch : CoordinatorEpoch) (s : Impl) : Op → Prop
  | .registerIncarnation _ permit _ =>
    ∃ p, s.permits.lookup permit.permitId = some p ∧ p.epoch.isBefore epoch = true
  | .beginPreparation plan =>
    ∃ p, s.plans.lookup plan.planId = some p ∧ p.epoch.isBefore epoch = true
  | .stepPreparation attemptId | .completePreparation attemptId _ =>
    ∃ a, s.attempts.lookup attemptId = some a ∧ a.epoch.isBefore epoch = true
  | .publishComponent ev _ => ev.coordinatorEpoch.isBefore epoch = true
  | .beginReplacement plan => plan.epoch.isBefore epoch = true
  | .commitCutover rid =>
    ∃ p, s.replacementPlans.lookup rid = some p ∧ p.epoch.isBefore epoch = true
  | _ => False

/-- The operation throws and leaves the incarnations unchanged. -/
def Inert (s : Impl) (op : Op) : Prop :=
  (∃ e, machine.result s op = .error e) ∧ (machine.next s op).incarnations = s.incarnations

/-- A recovery does not go back behind the epoch, and a cutover that passes its checks is
not of a plan from before it. -/
def respectsEpoch (epoch : CoordinatorEpoch) (s : Impl) : Op → Bool
  | .load blob =>
    match Persistence.deserializePersistentState blob with
    | .ok p => epoch.isAtOrBefore ⟨orFirst p.coordinatorEpoch⟩
    | .error _ => true
  | .commitCutover rid =>
    (s.replacementPlans.lookup rid).all fun p =>
      !p.epoch.isBefore epoch || (s.findInc p.candidateIncarnation).all fun cand =>
        !mayCutOver p cand
  | _ => true

/-! ## One step -/

theorem isBefore_iff {t : GenTag} {g g' : Generation t} :
    g.isBefore g' = true ↔ g.raw.toNat < g'.raw.toNat := by
  rw [Generation.isBefore, decide_eq_true_eq, UInt64.lt_iff_toNat_lt]

theorem isAtOrBefore_iff {t : GenTag} {g g' : Generation t} :
    g.isAtOrBefore g' = true ↔ g.raw.toNat ≤ g'.raw.toNat := by
  rw [Generation.isAtOrBefore, decide_eq_true_eq, UInt64.le_iff_toNat_le]

/-- The epoch goes back only in a recovery. -/
theorem Transition.isAtOrBefore_epoch (h : Transition s op r s')
    (hop : respectsEpoch epoch s op = true) (hs : epoch.isAtOrBefore s.authority.epoch = true) :
    epoch.isAtOrBefore s'.authority.epoch = true := by
  cases h with
  | advanceEpochExhausted hepoch | advanceEpoch hepoch =>
    have hle := isAtOrBefore_iff.mp hs
    have hnext := Generation.next_ok hepoch
    exact isAtOrBefore_iff.mpr (hnext ▸ Nat.le_succ_of_le hle)
  | load hblob =>
    simp only [respectsEpoch, hblob] at hop
    exact hop
  | _ => exact hs

/-- What was issued before the epoch was not issued under the current one. -/
theorem ne_of_isBefore {other : CoordinatorEpoch} (hold : other.isBefore epoch = true)
    (hs : epoch.isAtOrBefore s.authority.epoch = true) : other ≠ s.authority.epoch := by
  rintro rfl
  have hlt := isBefore_iff.mp hold
  have hle := isAtOrBefore_iff.mp hs
  omega

/-- An operation that is given an object from before the epoch refuses it. -/
theorem Transition.inert (h : Transition s op r s') (hop : respectsEpoch epoch s op = true)
    (hs : epoch.isAtOrBefore s.authority.epoch = true) (hold : GivenBefore epoch s op) :
    (∃ e, r = .error e) ∧ s'.incarnations = s.incarnations := by
  cases h with
  | refused => exact ⟨⟨_, rfl⟩, rfl⟩
  | registerIncarnation hpermit _ _ _ hepoch =>
    obtain ⟨p, hp, hold⟩ := hold
    cases hp.symm.trans hpermit
    exact absurd hepoch (ne_of_isBefore hold hs)
  | publishComponent _ _ _ _ hepoch => exact absurd hepoch (ne_of_isBefore hold hs)
  | beginPreparation hplan hepoch =>
    obtain ⟨p, hp, hold⟩ := hold
    cases hp.symm.trans hplan
    exact absurd hepoch (ne_of_isBefore hold hs)
  | stepPreparation hattempt _ hepoch =>
    obtain ⟨a, ha, hold⟩ := hold
    cases ha.symm.trans hattempt
    exact absurd hepoch (ne_of_isBefore hold hs)
  | completePreparationExhausted hattempt _ _ _ hcompletes
  | completePreparation hattempt _ _ _ _ _ _ _ hcompletes
  | completePreparationFailed hattempt _ _ _ _ hcompletes =>
    obtain ⟨a, ha, hold⟩ := hold
    cases ha.symm.trans hattempt
    exact absurd hcompletes.epoch (ne_of_isBefore hold hs)
  | beginReplacement hepoch => exact absurd hepoch (ne_of_isBefore hold hs)
  | commitCutover hplan hphase hcand hrunning =>
    -- The one operation that does not compare epochs: the condition keeps the plan out.
    obtain ⟨p, hp, hold⟩ := hold
    cases hp.symm.trans hplan
    simp [respectsEpoch, hplan, hold, hcand, mayCutOver, hphase, hrunning] at hop
  | _ => exact hold.elim

/-! ## Whole runs -/

/-- An epoch change raises the epoch, also when it throws afterwards. -/
theorem epoch_advanceEpoch (h : s.authority.epoch.next = .ok epoch) :
    (machine.next s .advanceEpoch).authority.epoch = epoch := by
  have hwp : wp (step .advanceEpoch) (fun _ s' => s'.authority.epoch = epoch) s := by
    refine wp_map (wp_get ?_)
    rw [h]
    refine wp_unwrap nofun fun _ hok => ?_
    cases hok
    exact wp_modify (wp_unwrap (fun _ _ => rfl) fun _ _ => wp_modify (wp_pure rfl))
  exact wp_iff.mp hwp

/-- Once an epoch change has raised the epoch, an operation at the end of a run that
respects it refuses every object from before. -/
theorem old_epoch_inert (opts : RuntimeOptions) (os₁ os₂ : List Op) (op : Op)
    {epoch : CoordinatorEpoch}
    (hraised : (machine.exec (Impl.new opts) os₁).authority.epoch.next = .ok epoch)
    (hrun : machine.Along (fun s op => respectsEpoch epoch s op = true)
      (machine.exec (Impl.new opts) (os₁ ++ [.advanceEpoch])) (os₂ ++ [op]))
    (hold : GivenBefore epoch (machine.exec (Impl.new opts) (os₁ ++ .advanceEpoch :: os₂)) op) :
    Inert (machine.exec (Impl.new opts) (os₁ ++ .advanceEpoch :: os₂)) op := by
  have heq : os₁ ++ .advanceEpoch :: os₂ = (os₁ ++ [.advanceEpoch]) ++ os₂ := by simp
  rw [heq, Machine.exec_append] at hold ⊢
  have hinit : epoch.isAtOrBefore
      (machine.exec (Impl.new opts) (os₁ ++ [.advanceEpoch])).authority.epoch = true := by
    rw [Machine.exec_append, Machine.exec_cons, Machine.exec_nil, epoch_advanceEpoch hraised]
    exact isAtOrBefore_iff.mpr (Nat.le_refl _)
  obtain ⟨hrun₂, hlast, -⟩ := Machine.along_append.mp hrun
  have hs := Machine.exec_invariant (I := fun s => epoch.isAtOrBefore s.authority.epoch = true)
    hinit hrun₂ fun s o hs ho => (step_transition s o).isAtOrBefore_epoch ho hs
  exact (step_transition _ op).inert hlast hs hold

/-- A registration under a permit of the first epoch, after the epoch has been raised. -/
theorem old_epoch_inert_sample :
    Inert (machine.exec (Impl.new {})
      ([.defineEngine { engineId := ⟨1⟩ }, .issueRegistrationPermit ⟨1⟩ ⟨1⟩] ++
        .advanceEpoch :: [.issueRegistrationPermit ⟨2⟩ ⟨1⟩]))
      (.registerIncarnation { engineId := ⟨1⟩, workerId := ⟨1⟩, workerBoot := ⟨1⟩ }
        { permitId := ⟨2⟩ } 0) :=
  old_epoch_inert {} [.defineEngine { engineId := ⟨1⟩ }, .issueRegistrationPermit ⟨1⟩ ⟨1⟩]
    [.issueRegistrationPermit ⟨2⟩ ⟨1⟩] _ rfl (by decide) ⟨_, rfl, rfl⟩

/-- What a runtime saves that has begun a replacement in the first epoch. -/
def sampleReplacementBlob : Str :=
  savedBlob (sampleCandidate ++ [.beginReplacement sampleReplacement])

/-- The epoch change after `os₁` raises the epoch, and the operation after `os₂` puts an
object from before into effect. -/
def TakesEffect (os₁ os₂ : List Op) (op : Op) : Prop :=
  ∃ epoch, (machine.exec (Impl.new {}) os₁).authority.epoch.next = .ok epoch ∧
    GivenBefore epoch (machine.exec (Impl.new {}) (os₁ ++ .advanceEpoch :: os₂)) op ∧
    ¬ Inert (machine.exec (Impl.new {}) (os₁ ++ .advanceEpoch :: os₂)) op

theorem not_inert_of_isOk (h : (machine.result s op).isOk = true) : ¬ Inert s op := by
  rintro ⟨⟨e, he⟩, -⟩
  rw [he] at h
  cases h

/-- A cutover of a plan from before the epoch change takes effect, also when the plan was
recovered; and after a recovery of the first epoch a permit of that epoch does. -/
theorem old_epoch_takes_effect :
    TakesEffect (sampleCandidate ++ [.beginReplacement sampleReplacement]) []
      (.commitCutover ⟨2⟩) ∧
    TakesEffect [.load sampleReplacementBlob] [] (.commitCutover ⟨2⟩) ∧
    TakesEffect [.issueRegistrationPermit ⟨2⟩ ⟨1⟩] [.load sampleBlob]
      (.registerIncarnation { engineId := ⟨1⟩, workerId := ⟨2⟩, workerBoot := ⟨1⟩ }
        { permitId := ⟨2⟩ } 0) := by
  have hplan : ((machine.exec (Impl.new {}) [.load sampleReplacementBlob,
      .advanceEpoch]).replacementPlans.lookup ⟨2⟩).any (fun p => p.epoch.isBefore ⟨2⟩) = true := by
    decide +kernel
  have hpermit : ((machine.exec (Impl.new {}) [.issueRegistrationPermit ⟨2⟩ ⟨1⟩, .advanceEpoch,
      .load sampleBlob]).permits.lookup ⟨2⟩).any (fun p => p.epoch.isBefore ⟨2⟩) = true := by
    decide +kernel
  refine ⟨⟨⟨2⟩, rfl, ⟨_, rfl, rfl⟩, not_inert_of_isOk rfl⟩, ⟨⟨2⟩, ?_, ?_, not_inert_of_isOk ?_⟩,
    ⟨⟨2⟩, rfl, ?_, not_inert_of_isOk ?_⟩⟩
  · have hepoch : (machine.exec (Impl.new {}) [.load sampleReplacementBlob]).authority.epoch = ⟨1⟩ := by
      decide +kernel
    rw [hepoch]
    rfl
  · exact (Option.any_eq_true _ _).mp hplan
  · decide +kernel
  · exact (Option.any_eq_true _ _).mp hpermit
  · decide +kernel

end EngineResidency.Runtime
