-- SUMMARY: Readiness generations count on, and what names a superseded one is refused for good.
import EngineResidency.Runtime.Lifecycle

/-!
# Superseded readiness generations

A configuration change, an invalidation, a revalidation and a published preparation
count the readiness generation of an incarnation on. Whoever uses or activates the
incarnation names the generation it relies on, and both operations compare it for
equality. Without a recovery no operation lowers a generation and no registration
takes an identity again, so a generation that was superseded stays refused.
-/

namespace EngineResidency.Runtime

variable {s s' : Impl} {op : Op} {r : Except Err Reply} {id : EngineIncarnationId}

/-! ## One step -/

theorem KeepsOrCounts.le {i i' : EngineIncarnation} (h : KeepsOrCounts i i') :
    i.readinessGeneration.raw.toNat ≤ i'.readinessGeneration.raw.toNat := by
  rcases h with h | h
  · rw [h]
  · have := Generation.next_ok h
    omega

theorem KeepsOrCounts.refl (i : EngineIncarnation) : KeepsOrCounts i i := .inl rfl

/-- The records after an operation are the records before it, and their generations
have been kept or counted on. -/
def IncsCounted (s s' : Impl) : Prop :=
  s.incarnations.Rewrites (fun _ => KeepsOrCounts) s'.incarnations

/-- A write of one record that leaves its generation alone. -/
theorem IncsCounted.modify {id : EngineIncarnationId} {f : EngineIncarnation → EngineIncarnation}
    (hf : ∀ i, (f i).readinessGeneration = i.readinessGeneration) :
    IncsCounted s (s.modifyInc id f) :=
  AList.Rewrites.modify (fun _ i => KeepsOrCounts.refl i) fun i _ => .inl (hf i)

/-- Two writes of one record, the second of which counts its generation on. -/
theorem IncsCounted.count {inc : EngineIncarnation} {f g : EngineIncarnation → EngineIncarnation}
    (hinc : s.findInc id = some inc)
    (hg : ∀ i, inc.readinessGeneration.next = .ok (g (f i)).readinessGeneration) :
    IncsCounted s ((s.modifyInc id f).modifyInc id g) := by
  simp only [IncsCounted, Impl.modifyInc, AList.modify_modify]
  refine .modify (fun _ i => KeepsOrCounts.refl i) fun i hi => ?_
  cases hi.symm.trans hinc
  exact .inr (hg _)

theorem fenceInc_readinessGeneration (w : WorkerId) (b : WorkerBootId) (i : EngineIncarnation) :
    (fenceInc w b i).readinessGeneration = i.readinessGeneration := by
  unfold fenceInc
  split
  · rfl
  · rfl

theorem demoteForEpoch_readinessGeneration (i : EngineIncarnation) :
    (demoteForEpoch i).readinessGeneration = i.readinessGeneration := by
  unfold demoteForEpoch
  split
  · rfl
  · rfl

theorem confirmStart_readinessGeneration (category : ComponentCategory) (i : EngineIncarnation) :
    (confirmStart category i).readinessGeneration = i.readinessGeneration := by
  unfold confirmStart
  split
  · rfl
  · rfl

/-- What an operation does to the generations. A registration adds a record, and a
recovery replaces them all. -/
theorem Transition.incsCounted (h : Transition s op r s') :
    IncsCounted s s' ∨ (∃ inc now, Enrolled s op s' inc now) ∨ op.IsLoad := by
  cases h with
  | updateEngineConfig hr hf hengine hlater hgen => exact .inl ⟨_, rfl, hgen⟩
  | registerIncarnation hpermit hspent hworker hboot hepoch hfenced hengine hdup hroom =>
    exact .inr (.inl ⟨_, _, ⟨_, rfl⟩, hfenced, hroom, rfl, rfl⟩)
  | markRunning | revalidateExhausted | createPreparationPlan | beginPreparation
  | completePreparationExhausted | completePreparationFailed | activate | acquireServingUse
  | requestDrain | retireOld | invalidateExhausted =>
    exact .inl (IncsCounted.modify (s := s) fun _ => rfl)
  | revalidate hinc hgen => exact .inl (IncsCounted.count hinc fun _ => hgen)
  | fenceWorker => exact .inl (.mapVal fun _ i _ => .inl (fenceInc_readinessGeneration _ _ i))
  | advanceEpoch => exact .inl (.mapVal fun _ i _ => .inl (demoteForEpoch_readinessGeneration i))
  | publishComponent =>
    exact .inl (IncsCounted.modify (s := s) fun _ => confirmStart_readinessGeneration _ _)
  | completePreparation _ _ _ _ hinc _ _ hgen => exact .inl (IncsCounted.count hinc fun _ => hgen)
  | commitCutover =>
    have hkeep : ∀ f : EngineIncarnation → EngineIncarnation,
        (∀ i, (f i).readinessGeneration = i.readinessGeneration) →
        ∀ (m : UMap EngineIncarnationId EngineIncarnation) (id : EngineIncarnationId), AList.Rewrites
          (fun _ i i' => i'.readinessGeneration = i.readinessGeneration) m (m.modify id f) := by
      intro f hf m id
      exact .modify (fun _ _ => rfl) fun i _ => hf i
    refine .inl (.trans (hkeep superseded (fun _ => rfl) _ _) (hkeep promoted (fun _ => rfl) _ _) ?_)
    exact fun _ _ _ _ h₁ h₂ => .inl (h₂.trans h₁)
  | invalidateIncarnationComponents hinc hgen => exact .inl (IncsCounted.count hinc fun _ => hgen)
  | load => exact .inr (.inr trivial)
  | _ => exact .inl (.refl _ fun _ => .refl)

/-- No operation but a recovery lowers the generation of an incarnation. -/
theorem Transition.keepsOrCounts {i : EngineIncarnation} (h : Transition s op r s')
    (hload : ¬ op.IsLoad) (hs : Numbered s) (hi : s.findInc id = some i) :
    ∃ i', s'.findInc id = some i' ∧ KeepsOrCounts i i' := by
  rcases h.incsCounted with hcounted | ⟨inc, now, henr⟩ | hop
  · exact hcounted.next hi
  · have hne : id ≠ (registered s inc now).incarnationId := by
      rintro rfl
      rw [henr.fresh hs] at hi
      cases hi
    refine ⟨i, ?_, .refl i⟩
    simp only [Impl.findInc, henr.incarnations]
    exact (AList.lookup_insert_ne hne).trans hi
  · exact absurd hop hload

/-! ## What supersedes a generation -/

/-- The operation, having returned `reply`, has superseded the generation of the
incarnation `id` with record `i`. -/
def Supersedes (id : EngineIncarnationId) (i : EngineIncarnation) : Op → Reply → Prop
  | .updateEngineConfig engineId _, _ => i.engineId = engineId
  | .invalidateIncarnationComponents id' _, _ => id' = id
  | .revalidate id', _ => id' = id
  -- An attempt that fails keeps the flag of an earlier publication, but not the state.
  | .completePreparation _ _, .attempt a =>
    a.incarnationId = id ∧ a.publishedReady = true ∧ a.state = .prepared
  | _, _ => False

theorem findInc_modifyInc_modifyInc {i : EngineIncarnation}
    {f g : EngineIncarnation → EngineIncarnation} (hi : s.findInc id = some i) :
    ((s.modifyInc id f).modifyInc id g).findInc id = some (g (f i)) := by
  simp only [Impl.findInc] at hi
  simp [Impl.findInc, Impl.modifyInc, hi]

/-- A superseded generation is counted on. -/
theorem Transition.supersedes {i : EngineIncarnation} {reply : Reply}
    (h : Transition s op (.ok reply) s') (hi : s.findInc id = some i)
    (hsup : Supersedes id i op reply) :
    ∃ i', s'.findInc id = some i' ∧
      i.readinessGeneration.next = .ok i'.readinessGeneration := by
  generalize hr : (Except.ok reply : Except Err Reply) = r at h
  cases h with
  | @updateEngineConfig engineId newGen r f engine hok hf hengine hlater hgen hdone =>
    refine ⟨f id i, ?_, ?_⟩
    · rw [Impl.findInc] at hi ⊢
      simp [hi]
    · rcases hok with rfl | ⟨e, rfl⟩
      · exact hdone rfl id i hi hsup
      · cases hr
  | revalidate hinc hgen =>
    obtain rfl := hsup
    cases hi.symm.trans hinc
    exact ⟨_, findInc_modifyInc_modifyInc (s := s) hi, hgen⟩
  | completePreparation _ _ _ _ hinc _ _ hgen =>
    cases hr
    obtain ⟨hid, -, -⟩ := hsup
    rw [completedAttempt_incarnationId] at hid
    subst hid
    cases hi.symm.trans hinc
    exact ⟨_, findInc_modifyInc_modifyInc (s := s) hi, hgen⟩
  | completePreparationFailed _ _ _ _ hserves =>
    cases hr
    obtain ⟨-, -, hstate⟩ := hsup
    rw [completedAttempt_failed _ hserves] at hstate
    cases hstate
  | invalidateIncarnationComponents hinc hgen =>
    obtain rfl := hsup
    cases hi.symm.trans hinc
    exact ⟨_, findInc_modifyInc_modifyInc (s := s) hi, hgen⟩
  | refused | revalidateExhausted | completePreparationExhausted | invalidateExhausted => cases hr
  | _ => exact hsup.elim

/-! ## Whole runs -/

/-- No use and no activation that names a generation up to `g` is granted to the
incarnation. -/
structure RefusesUpTo (s : Impl) (id : EngineIncarnationId) (g : ReadinessGeneration) : Prop where
  use : ∀ wanted now admittedAt, wanted.incarnationId = id →
    wanted.readinessGeneration.isAtOrBefore g = true →
    ∃ e, machine.result s (.acquireServingUse wanted now admittedAt) = .error e
  activation : ∀ req now, req.incarnationId = id → req.readinessGeneration.isAtOrBefore g = true →
    ∃ e, machine.result s (.activate req now) = .error e

theorem refusesUpTo_of_lt {i : EngineIncarnation} {g : ReadinessGeneration}
    (hi : s.findInc id = some i) (hlt : g.raw.toNat < i.readinessGeneration.raw.toNat) :
    RefusesUpTo s id g := by
  have hne : ∀ gen : ReadinessGeneration, gen.isAtOrBefore g = true →
      gen ≠ i.readinessGeneration := by
    rintro gen hle rfl
    have hle : i.readinessGeneration.raw.toNat ≤ g.raw.toNat :=
      UInt64.le_iff_toNat_le.mp (of_decide_eq_true hle)
    omega
  refine ⟨fun wanted now admittedAt hid hle => ?_, fun req now hid hle => ?_⟩
  · subst hid
    have h := step_transition s (.acquireServingUse wanted now admittedAt)
    generalize machine.result s _ = r at h ⊢
    generalize machine.next s _ = s' at h
    cases h with
    | refused => exact ⟨_, rfl⟩
    | acquireServingUse hinc _ _ _ hgen =>
      cases hi.symm.trans hinc
      exact absurd hgen (hne _ hle)
  · subst hid
    have h := step_transition s (.activate req now)
    generalize machine.result s _ = r at h ⊢
    generalize machine.next s _ = s' at h
    cases h with
    | refused => exact ⟨_, rfl⟩
    | activate _ hinc _ _ _ hgen =>
      cases hi.symm.trans hinc
      exact absurd hgen.symm (hne _ hle)

theorem generation_exec {ops : List Op} {i : EngineIncarnation} (hs : Numbered s)
    (hload : ∀ op ∈ ops, ¬ op.IsLoad) (hi : s.findInc id = some i) :
    ∃ i', (machine.exec s ops).findInc id = some i' ∧
      i.readinessGeneration.raw.toNat ≤ i'.readinessGeneration.raw.toNat := by
  induction ops generalizing s i with
  | nil => exact ⟨i, hi, Nat.le_refl _⟩
  | cons op ops ih =>
    have hop : ¬ op.IsLoad := hload op List.mem_cons_self
    have h := step_transition s op
    obtain ⟨i₁, hi₁, hle₁⟩ := h.keepsOrCounts hop hs hi
    obtain ⟨i₂, hi₂, hle₂⟩ := ih (h.numbered hop hs)
      (fun o ho => hload o (List.mem_cons_of_mem op ho)) hi₁
    exact ⟨i₂, hi₂, Nat.le_trans hle₁.le hle₂⟩

theorem numbered_exec (opts : RuntimeOptions) {ops : List Op}
    (hload : ∀ op ∈ ops, ¬ op.IsLoad) : Numbered (machine.exec (Impl.new opts) ops) :=
  Machine.exec_invariant (C := fun _ op => ¬ op.IsLoad) (numbered_new opts)
    (Machine.along_of_mem fun op hop _ => hload op hop)
    fun s op hs hop => (step_transition s op).numbered hop hs

/-- In every run without a recovery, the readiness generation of an incarnation never
decreases, and once an operation has superseded it, no use and no activation that names
it or an earlier one is ever granted. -/
theorem superseded_generation_refused (opts : RuntimeOptions) (os₁ os₂ : List Op)
    (hload : ∀ op ∈ os₁ ++ os₂, ¬ op.IsLoad) {id : EngineIncarnationId} {i : EngineIncarnation}
    (hi : (machine.exec (Impl.new opts) os₁).findInc id = some i) :
    (∃ i', (machine.exec (Impl.new opts) (os₁ ++ os₂)).findInc id = some i' ∧
      i.readinessGeneration.raw ≤ i'.readinessGeneration.raw) ∧
    ∀ op reply os, os₂ = op :: os →
      machine.result (machine.exec (Impl.new opts) os₁) op = .ok reply →
      Supersedes id i op reply →
      RefusesUpTo (machine.exec (Impl.new opts) (os₁ ++ os₂)) id i.readinessGeneration := by
  have hs := numbered_exec opts fun op hop => hload op (List.mem_append_left os₂ hop)
  have hload₂ : ∀ op ∈ os₂, ¬ op.IsLoad := fun op hop => hload op (List.mem_append_right os₁ hop)
  rw [Machine.exec_append]
  generalize machine.exec (Impl.new opts) os₁ = s at hi hs ⊢
  refine ⟨?_, ?_⟩
  · obtain ⟨i', hi', hle⟩ := generation_exec hs hload₂ hi
    exact ⟨i', hi', UInt64.le_iff_toNat_le.mpr hle⟩
  · rintro op reply os rfl hres hsup
    have h := step_transition s op
    have hnumbered := h.numbered (hload₂ op List.mem_cons_self) hs
    rw [hres] at h
    obtain ⟨i₁, hi₁, hgen⟩ := h.supersedes hi hsup
    obtain ⟨i₂, hi₂, hle⟩ := generation_exec hnumbered
      (fun o ho => hload₂ o (List.mem_cons_of_mem op ho)) hi₁
    have hlt := Generation.next_ok hgen
    exact refusesUpTo_of_lt hi₂ (by omega)

theorem superseded_generation_refused_sample :
    RefusesUpTo (machine.exec (Impl.new {}) (sampleStart ++
      [.invalidateIncarnationComponents ⟨2⟩ [], .revalidate ⟨2⟩, .advanceEpoch])) ⟨2⟩ ⟨1⟩ := by
  obtain ⟨i, hi, hgen⟩ : ∃ i, (machine.exec (Impl.new {}) sampleStart).findInc ⟨2⟩ = some i ∧
    i.readinessGeneration = ⟨1⟩ := ⟨_, rfl, rfl⟩
  rw [← hgen]
  exact (superseded_generation_refused {} sampleStart _ (by decide) hi).2 _ .done _ rfl rfl rfl

end EngineResidency.Runtime
