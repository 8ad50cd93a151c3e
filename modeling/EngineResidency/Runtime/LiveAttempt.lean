-- SUMMARY: When an incarnation has one unfinished attempt at most, and the table of active attempts names it.
import EngineResidency.Base.LiveIndex
import EngineResidency.Runtime.Attempts

/-!
# The live attempt of an incarnation

An attempt begins only for an incarnation that the table of active attempts does not
name, and whatever ends an attempt takes the entry of its incarnation out of the table.
The entry may be that of another attempt by then: no operation compares the two.
`ErasesOwnEntry` is the check that a completion, a cancellation and a rollback leave out.
-/

namespace EngineResidency

/-- The attempt has not been cancelled, completed or rolled back. Each of these leaves a
mark that no operation takes away again. -/
structure PreparationAttempt.IsLive (a : PreparationAttempt) : Prop where
  uncancelled : a.cancelled = false
  incomplete : a.authorityRevalidated = false
  unfailed : a.failureStage = []

namespace Runtime

variable {s s' : Impl} {op : Op} {x : PreparationAttemptId} {a : PreparationAttempt}
  {plan : PreparationPlan} {outcome : ReadinessOutcome} {inc : EngineIncarnation}
  {incId : EngineIncarnationId}

/-- No incarnation has two live attempts, and the table of active attempts names the live
attempt of an incarnation exactly if there is one. -/
structure SingleLive (s : Impl) : Prop where
  unique : ∀ x y a b, s.attempts.lookup x = some a → s.attempts.lookup y = some b →
    a.IsLive → b.IsLive → a.incarnationId = b.incarnationId → x = y
  mapped : ∀ i x, s.activeAttempt.lookup i = some x ↔
    ∃ a, s.attempts.lookup x = some a ∧ a.incarnationId = i ∧ a.IsLive

/-- Whatever the incarnation of the attempt has in the table is the attempt itself. -/
def ErasesOwnEntry (s : Impl) (x : PreparationAttemptId) (a : PreparationAttempt) : Prop :=
  ∀ y, s.activeAttempt.lookup a.incarnationId = some y → y = x

/-- An attempt that begins takes no identity that the table names. An operation that ends an
attempt finds no other attempt in its entry, and a completion that throws after its writes
finds another one there or none. -/
def RespectsActive (s : Impl) : Op → Prop
  | .beginPreparation plan => Begins s plan →
    ∀ i, s.activeAttempt.lookup i ≠ some (nextAttempt s plan).attemptId
  | .completePreparation x now => ∀ a inc outcome, Finishes s x now a inc outcome →
    (outcome.serves ∧ exhausted inc.readinessGeneration →
      s.activeAttempt.lookup a.incarnationId ≠ some x) ∧
    (¬ (outcome.serves ∧ exhausted inc.readinessGeneration) → ErasesOwnEntry s x a)
  | .cancelPreparation x => ∀ a, s.attempts.lookup x = some a → a.publishedReady = false →
    ErasesOwnEntry s x a
  | .rollbackPreparation x => ∀ a, s.attempts.lookup x = some a → ErasesOwnEntry s x a
  | _ => True

/-! ## Marks -/

theorem isLive_nextAttempt : (nextAttempt s plan).IsLive := ⟨rfl, rfl, rfl⟩

theorem advanceAttempt_live : (advanceAttempt plan a).incarnationId = a.incarnationId ∧
    ((advanceAttempt plan a).IsLive ↔ a.IsLive) := by
  obtain ⟨n, descriptions, heq⟩ := advanceAttempt_eq plan a
  rw [heq]
  exact ⟨rfl, fun h => ⟨h.uncancelled, h.incomplete, h.unfailed⟩,
    fun h => ⟨h.uncancelled, h.incomplete, h.unfailed⟩⟩

theorem not_isLive_completedAttempt : ¬ (completedAttempt outcome a).IsLive := by
  intro h
  have hincomplete := h.incomplete
  unfold completedAttempt at hincomplete
  split at hincomplete <;> cases hincomplete

theorem not_isLive_cancelled : ¬ (cancelled a).IsLive := fun h => nomatch h.uncancelled

theorem not_isLive_rolledBack : ¬ (rolledBack a).IsLive := fun h => nomatch h.unfailed

/-! ## The table as an index -/

/-- The table of active attempts is an index of the live attempts by incarnation. -/
def ActiveIndexed (s : Impl) : Prop :=
  AList.Indexes PreparationAttempt.incarnationId PreparationAttempt.IsLive s.attempts s.activeAttempt

theorem singleLive_iff : SingleLive s ↔ ActiveIndexed s := by
  constructor
  · intro h
    exact h.mapped
  · intro h
    refine ⟨fun x y a b ha hb hlive hlive' hsame => ?_, h⟩
    exact AList.Indexes.unique h ha hb hlive hlive' hsame

theorem activeIndexed_new (opts : RuntimeOptions) : ActiveIndexed (Impl.new opts) := .empty

theorem completed_activeAttempt_of_exhausted (hserves : outcome.serves)
    (hgen : exhausted inc.readinessGeneration) :
    (completed x incId inc outcome s).activeAttempt = s.activeAttempt := by
  obtain ⟨e, hgen⟩ := hgen
  rw [completed, if_pos hserves, hgen]
  rfl

theorem completed_activeAttempt (h : ¬ (outcome.serves ∧ exhausted inc.readinessGeneration)) :
    (completed x incId inc outcome s).activeAttempt = s.activeAttempt.erase incId := by
  unfold completed
  by_cases hserves : outcome.serves
  · rw [if_pos hserves]
    cases hgen : inc.readinessGeneration.next with
    | error e => exact absurd ⟨hserves, e, hgen⟩ h
    | ok gen => rfl
  · rw [if_neg hserves]
    rfl

/-! ## One step -/

theorem ActiveIndexed.begin_iff (hs : ActiveIndexed s)
    (hfree : s.activeAttempt.lookup plan.incarnationId = none) :
    ActiveIndexed (storeAttempt (nextAttempt s plan) s) ↔
      ∀ i, s.activeAttempt.lookup i ≠ some (nextAttempt s plan).attemptId :=
  AList.Indexes.insert_iff (v := nextAttempt s plan) hs hfree isLive_nextAttempt

/-- What ends an attempt keeps the index right if and only if it erases its own entry. -/
theorem ActiveIndexed.end_iff {f : PreparationAttempt → PreparationAttempt}
    (hs : ActiveIndexed s) (ha : s.attempts.lookup x = some a) (hf : ¬ (f a).IsLive) :
    ActiveIndexed (endAttempt a.incarnationId (s.modifyAttempt x f)) ↔ ErasesOwnEntry s x a :=
  AList.Indexes.close_iff hs ha hf

theorem ActiveIndexed.complete_iff (hs : ActiveIndexed s)
    (ha : s.attempts.lookup x = some a) :
    ActiveIndexed (completed x a.incarnationId inc outcome s) ↔
      (outcome.serves ∧ exhausted inc.readinessGeneration →
        s.activeAttempt.lookup a.incarnationId ≠ some x) ∧
      (¬ (outcome.serves ∧ exhausted inc.readinessGeneration) → ErasesOwnEntry s x a) := by
  unfold ActiveIndexed
  rw [completed_attempts]
  have hover : ¬ (completedAttempt outcome a).IsLive := not_isLive_completedAttempt
  by_cases h : outcome.serves ∧ exhausted inc.readinessGeneration
  · rw [completed_activeAttempt_of_exhausted h.1 h.2]
    have hmark := AList.Indexes.mark_iff hs ha hover
    exact ⟨fun hnew => ⟨fun _ => hmark.mp hnew, fun hnot => absurd h hnot⟩,
      fun hcond => hmark.mpr (hcond.1 h)⟩
  · rw [completed_activeAttempt h]
    have hclose := AList.Indexes.close_iff hs ha hover
    exact ⟨fun hnew => ⟨fun hyes => absurd hyes h, fun _ => hclose.mp hnew⟩,
      fun hcond => hclose.mpr (hcond.2 h)⟩

theorem AttemptStep.activeIndexed (h : AttemptStep s op s') (hs : ActiveIndexed s)
    (hop : RespectsActive s op) : ActiveIndexed s' := by
  cases h with
  | refused => exact hs
  | other _ hattempts hactive =>
    unfold ActiveIndexed
    rw [hattempts, hactive]
    exact hs
  | planned => exact hs
  | begun hbegins => exact (hs.begin_iff hbegins.free).mpr (hop hbegins)
  | stepped ha => exact AList.Indexes.modify hs fun b _ => advanceAttempt_live
  | completed hfinishes => exact (hs.complete_iff hfinishes.attempt).mpr (hop _ _ _ hfinishes)
  | cancelled ha hopen => exact (hs.end_iff ha not_isLive_cancelled).mpr (hop _ ha hopen)
  | rolledBack ha => exact (hs.end_iff ha not_isLive_rolledBack).mpr (hop _ ha)

theorem respectsActive_of_next (hs : ActiveIndexed s) (h : ActiveIndexed (machine.next s op)) :
    RespectsActive s op := by
  cases op with
  | beginPreparation plan =>
    intro hbegins
    rw [beginPreparation_next hbegins] at h
    exact (hs.begin_iff hbegins.free).mp h
  | completePreparation x now =>
    intro a inc outcome hfinishes
    rw [completePreparation_next hfinishes] at h
    exact (hs.complete_iff hfinishes.attempt).mp h
  | cancelPreparation x =>
    intro a ha hopen
    rw [cancelPreparation_next ha hopen] at h
    exact (hs.end_iff ha not_isLive_cancelled).mp h
  | rollbackPreparation x =>
    intro a ha
    rw [rollbackPreparation_next ha] at h
    exact (hs.end_iff ha not_isLive_rolledBack).mp h
  | _ => trivial

/-! ## Whole runs -/

/-- In every state of a run the live attempts are the active ones if and only if no step of
the run ends an attempt while its incarnation has another one in the table, or reuses the
identity of one that is there. -/
theorem single_live_attempt_iff (opts : RuntimeOptions) (ops : List Op) :
    machine.Throughout SingleLive (Impl.new opts) ops ↔
      machine.Along RespectsActive (Impl.new opts) ops := by
  refine Machine.throughout_iff (I := fun _ => True) (A := fun _ => True)
    (singleLive_iff.mpr (activeIndexed_new opts)) trivial (fun _ _ => trivial)
    (fun _ _ _ _ => trivial) ?_
  intro s op _ _ hs
  rw [singleLive_iff] at hs ⊢
  constructor
  · intro h
    exact respectsActive_of_next hs h
  · intro h
    exact (attemptStep s op).activeIndexed hs h

/-- Cancel an attempt, begin another one for the same incarnation, and roll the first one
back. -/
def sampleRevisited : List Op :=
  sampleBegun ++ [.cancelPreparation ⟨2⟩, .beginPreparation samplePlan, .rollbackPreparation ⟨2⟩]

/-- The rollback of the old attempt clears the entry of the newer one. -/
theorem newer_attempt_cleared :
    ¬ machine.Throughout SingleLive (Impl.new {}) sampleRevisited := by
  intro h
  have hactive := ((h sampleRevisited (List.prefix_refl _)).mapped ⟨2⟩ ⟨3⟩).mpr
    ⟨_, rfl, rfl, rfl, rfl, rfl⟩
  cases hactive

end Runtime

end EngineResidency
