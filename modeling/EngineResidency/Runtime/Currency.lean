-- SUMMARY: When an engine has one authoritative incarnation at most.
import EngineResidency.Runtime.Incarnation

/-!
# The current incarnation of an engine

Authority over an engine is kept twice: as a flag of each incarnation and as a table
from engines to incarnations. A registration takes authority only when the engine has
no live holder. `revalidate`, `activate` and `commitCutover` take it without asking
whether another incarnation holds it; a cutover releases the one it names as old.
`solePromotion` is the check these three leave out.
-/

namespace EngineResidency.Runtime

variable {s s' : Impl} {op : Op} {r : Except Err Reply} {id : EngineIncarnationId}
  {inc : EngineIncarnation}

/-- At most one incarnation of an engine is current, and the table names it. -/
structure SoleAuthority (s : Impl) : Prop where
  unique : ∀ id i id' i', s.findInc id = some i → s.findInc id' = some i' →
    i.isCurrent = true → i'.isCurrent = true → i.engineId = i'.engineId → id = id'
  mapped : ∀ id i, s.findInc id = some i → i.isCurrent = true →
    s.currentByEngine.lookup i.engineId = some id

/-- Only the incarnations `ids` may be current for an engine. -/
def onlyCurrent (s : Impl) (engineId : EngineId) (ids : List EngineIncarnationId) : Bool :=
  s.incarnations.values.all fun i =>
    !(i.isCurrent && i.engineId == engineId) || ids.contains i.incarnationId

/-- An operation that gives an incarnation the authority finds no other incarnation
of its engine in the way. -/
def solePromotion (s : Impl) : Op → Bool
  | .revalidate id => (s.findInc id).all fun inc => onlyCurrent s inc.engineId [id]
  | .activate req now => (s.findInc req.incarnationId).all fun inc =>
    !mayActivate s req inc now || onlyCurrent s inc.engineId [req.incarnationId]
  | .commitCutover rid => (s.replacementPlans.lookup rid).all fun p =>
    (s.findInc p.candidateIncarnation).all fun cand =>
      !mayCutOver p cand ||
        onlyCurrent s cand.engineId [p.candidateIncarnation, p.oldIncarnation]
  | _ => true

theorem onlyCurrent_iff {engineId : EngineId} {ids : List EngineIncarnationId} :
    onlyCurrent s engineId ids = true ↔ ∀ id i, s.findInc id = some i → i.isCurrent = true →
      i.engineId = engineId → i.incarnationId ∈ ids := by
  simp only [onlyCurrent, List.all_eq_true, AList.mem_values, Bool.or_eq_true, Bool.not_eq_true',
    Bool.and_eq_false_iff, List.contains_iff_mem, beq_eq_false_iff_ne]
  constructor
  · intro h id i hi hcur hengine
    rcases h i ⟨id, hi⟩ with (hc | hc) | hmem
    · rw [hcur] at hc
      cases hc
    · exact absurd hengine hc
    · exact hmem
  · rintro h i ⟨id, hi⟩
    by_cases hcur : i.isCurrent = true
    · by_cases hengine : i.engineId = engineId
      · exact .inr (h id i hi hcur hengine)
      · exact .inl (.inr hengine)
    · exact .inl (.inl (Bool.eq_false_iff.mpr hcur))

/-! ## The invariant -/

/-- Every current incarnation is the one the table names, and it is alive. -/
def CurrentAlive (s : Impl) : Prop :=
  ∀ id i, s.findInc id = some i → i.isCurrent = true →
    s.currentByEngine.lookup i.engineId = some id ∧ i.state.lifecycle.isDead = false

theorem CurrentAlive.soleAuthority (h : CurrentAlive s) : SoleAuthority s where
  unique id i id' i' hi hi' hcur hcur' hengine := by
    have h₁ := (h id i hi hcur).1
    have h₂ := (h id' i' hi' hcur').1
    rw [hengine, h₂] at h₁
    exact (Option.some.inj h₁).symm
  mapped id i hi hcur := (h id i hi hcur).1

theorem currentAlive_new (opts : RuntimeOptions) : CurrentAlive (Impl.new opts) := by
  intro id i hi
  simp [Impl.findInc, Impl.new] at hi

/-- Authority moves to the incarnation `id`: every other incarnation of its engine has
lost it. -/
theorem CurrentAlive.promote (hs : CurrentAlive s) (hkey : inc.incarnationId = id)
    (htable : s'.currentByEngine = s.currentByEngine.insert inc.engineId inc.incarnationId)
    (hself : ∀ i', s'.findInc id = some i' →
      i'.engineId = inc.engineId ∧ i'.state.lifecycle.isDead = false)
    (hother : ∀ k i', k ≠ id → s'.findInc k = some i' → i'.isCurrent = true →
      s.findInc k = some i' ∧ i'.engineId ≠ inc.engineId) : CurrentAlive s' := by
  intro k i' hi' hcur
  rw [htable, hkey]
  by_cases hk : k = id
  · subst hk
    obtain ⟨hengine, halive⟩ := hself i' hi'
    rw [hengine, AList.lookup_insert]
    exact ⟨rfl, halive⟩
  · obtain ⟨hi, hengine⟩ := hother k i' hk hi' hcur
    rw [AList.lookup_insert_ne hengine]
    exact hs k i' hi hcur

/-- Promotion of one record in place. -/
theorem CurrentAlive.promote_modify {f : EngineIncarnation → EngineIncarnation}
    (hs : CurrentAlive s) (hkeyed : KeyedById s) (hinc : s.findInc id = some inc)
    (honly : onlyCurrent s inc.engineId [id] = true)
    (hincs : s'.incarnations = s.incarnations.modify id f)
    (htable : s'.currentByEngine = s.currentByEngine.insert inc.engineId inc.incarnationId)
    (hf : (f inc).engineId = inc.engineId ∧ (f inc).state.lifecycle.isDead = false) :
    CurrentAlive s' := by
  have hfind : ∀ k, s'.findInc k = if k = id then (s.findInc id).map f else s.findInc k := by
    intro k
    simp only [Impl.findInc, hincs, AList.lookup_modify]
  refine hs.promote (hkeyed id inc hinc) htable ?_ ?_
  · intro i' hi'
    rw [hfind, if_pos rfl, hinc] at hi'
    cases hi'
    exact hf
  · intro k i' hk hi' hcur
    rw [hfind, if_neg hk] at hi'
    refine ⟨hi', fun hengine => hk ?_⟩
    have hmem := onlyCurrent_iff.mp honly k i' hi' hcur hengine
    rw [hkeyed k i' hi', List.mem_singleton] at hmem
    exact hmem

/-! ## The four operations that give authority -/

theorem CurrentAlive.enroll {now : DurationNs} {permitId : RegistrationPermitId}
    (hs : CurrentAlive s) : CurrentAlive (enroll (registered s inc now) permitId s) := by
  intro k i' hi' hcur
  simp only [Impl.findInc, Runtime.enroll, AList.lookup_insert'] at hi'
  simp only [Runtime.enroll]
  split at hi'
  · rename_i hk
    cases hi'
    rw [if_pos hcur, AList.lookup_insert, hk]
    exact ⟨rfl, rfl⟩
  · obtain ⟨htable, halive⟩ := hs k i' hi' hcur
    refine ⟨?_, halive⟩
    split
    · rename_i hnew
      have hengine : i'.engineId ≠ (registered s inc now).engineId := by
        -- A live holder keeps the newcomer from becoming current.
        intro hengine
        have hlive : hasLiveCurrent s inc.engineId = true := by
          have htable' : s.currentByEngine.lookup inc.engineId = some k := hengine ▸ htable
          have hfind : s.findInc k = some i' := hi'
          simp [hasLiveCurrent, htable', hfind, halive]
        simp [registered, hlive] at hnew
      rw [AList.lookup_insert_ne hengine]
      exact htable
    · exact htable

theorem CurrentAlive.reinstate (hs : CurrentAlive s) (hkeyed : KeyedById s)
    (hinc : s.findInc id = some inc) (honly : onlyCurrent s inc.engineId [id] = true) :
    CurrentAlive (reinstate id inc s) :=
  hs.promote_modify hkeyed hinc honly rfl rfl ⟨rfl, rfl⟩

theorem CurrentAlive.grantActivation {a : ActivationRecord} (hs : CurrentAlive s)
    (hkeyed : KeyedById s) (hinc : s.findInc id = some inc)
    (honly : onlyCurrent s inc.engineId [id] = true)
    (hrunning : inc.state.lifecycle = .running) :
    CurrentAlive (grantActivation id inc a s) :=
  hs.promote_modify hkeyed hinc honly rfl rfl
    ⟨rfl, by simp [activated, ProcessLifecycle.isDead, hrunning]⟩

theorem CurrentAlive.cutover {p : ReplacementPlan} (hs : CurrentAlive s) (hkeyed : KeyedById s)
    (hcand : s.findInc p.candidateIncarnation = some inc)
    (honly : onlyCurrent s inc.engineId [p.candidateIncarnation, p.oldIncarnation] = true) :
    CurrentAlive (cutover p inc s) := by
  refine hs.promote (hkeyed _ inc hcand) rfl ?_ ?_
  · intro i' hi'
    simp only [Impl.findInc, Runtime.cutover, AList.lookup_modify_self, Option.map_eq_some_iff]
      at hi'
    obtain ⟨i₁, hi₁, rfl⟩ := hi'
    refine ⟨?_, rfl⟩
    rw [AList.lookup_modify] at hi₁
    split at hi₁
    · rename_i heq
      rw [← heq] at hi₁
      obtain ⟨i, hi, rfl⟩ := Option.map_eq_some_iff.mp hi₁
      exact congrArg (·.engineId) (Option.some.inj (hi.symm.trans hcand))
    · exact congrArg (·.engineId) (Option.some.inj (hi₁.symm.trans hcand))
  · intro k i' hk hi' hcur
    simp only [Impl.findInc, Runtime.cutover, AList.lookup_modify_ne _ _ hk, AList.lookup_modify]
      at hi'
    split at hi'
    · obtain ⟨i, -, rfl⟩ := Option.map_eq_some_iff.mp hi'
      cases hcur
    · rename_i hold
      refine ⟨hi', fun hengine => ?_⟩
      have hmem := onlyCurrent_iff.mp honly k i' hi' hcur hengine
      rw [hkeyed k i' hi'] at hmem
      simp [hk, hold] at hmem

/-! ## Every other operation -/

/-- The operation takes or resets authority. -/
def Op.MovesAuthority : Op → Prop
  | .registerIncarnation .. | .revalidate _ | .activate .. | .commitCutover _ | .load _ => True
  | _ => False

theorem Transition.currentByEngine (h : Transition s op r s') (hop : ¬ op.MovesAuthority) :
    s'.currentByEngine = s.currentByEngine := by
  cases h with
  | registerIncarnation | revalidateExhausted | revalidate | activate | commitCutover | load =>
    exact absurd trivial hop
  | _ => rfl

/-- A change that takes no authority makes no incarnation current, and kills none that
stays current. -/
theorem IncChange.current {i i' : EngineIncarnation} (h : IncChange s op id i i')
    (hop : ¬ op.MovesAuthority) (hcur : i'.isCurrent = true) :
    i.isCurrent = true ∧ (i.state.lifecycle.isDead = false → i'.state.lifecycle.isDead = false) := by
  cases h with
  | quiet h =>
    rw [h.eq] at hcur ⊢
    exact ⟨hcur, fun h => h⟩
  | running => exact ⟨hcur, fun _ => rfl⟩
  | draining => exact ⟨hcur, fun _ => rfl⟩
  | fenced =>
    revert hcur
    unfold fenceInc
    split
    · intro hcur
      cases hcur
    · exact fun hcur => ⟨hcur, fun h => h⟩
  | demoted =>
    revert hcur
    unfold demoteForEpoch
    split
    · intro hcur
      cases hcur
    · exact fun hcur => ⟨hcur, fun h => h⟩
  | started =>
    revert hcur
    unfold confirmStart
    split
    · exact fun hcur => ⟨hcur, fun _ => rfl⟩
    · exact fun hcur => ⟨hcur, fun h => h⟩
  | retired => cases hcur
  | revalidated | activated | superseded | promoted => exact absurd trivial hop

theorem Transition.currentAlive_of_not_moves (h : Transition s op r s')
    (hop : ¬ op.MovesAuthority) (hs : CurrentAlive s) : CurrentAlive s' := by
  intro id i' hi' hcur
  rw [h.currentByEngine hop]
  rcases h.incarnations with hch | ⟨inc, now, henr⟩ | ⟨blob, p, rfl, -⟩
  · obtain ⟨i, hi, hchange⟩ := hch.findInc hi'
    obtain ⟨hcur₀, halive⟩ := hchange.current hop hcur
    rw [hchange.sameIdentity.engineId]
    exact ⟨(hs id i hi hcur₀).1, halive (hs id i hi hcur₀).2⟩
  · obtain ⟨permit, rfl⟩ := henr.op_eq
    exact absurd trivial hop
  · exact absurd trivial hop

/-- One step whose promotions are sole. -/
theorem Transition.currentAlive (h : Transition s op r s') (hsole : solePromotion s op = true)
    (hkeyed : KeyedById s) (hs : CurrentAlive s) : CurrentAlive s' := by
  have hrest := h.currentAlive_of_not_moves
  cases h with
  | refused => exact hs
  | registerIncarnation => exact hs.enroll
  | revalidateExhausted hinc =>
    exact hs.reinstate hkeyed hinc (by simpa [solePromotion, hinc] using hsole)
  | @revalidate id inc gen hinc =>
    have honly : onlyCurrent s inc.engineId [id] = true := by
      simpa [solePromotion, hinc] using hsole
    refine hs.promote_modify (f := fun i => setReadiness gen (revalidated i)) hkeyed hinc honly ?_
      rfl ⟨rfl, rfl⟩
    simp only [Runtime.reinstate, Impl.modifyInc, AList.modify_modify]
  | @activate req now inc hauthority hinc hhealth hregistration hrunning hgen hgate hslot =>
    refine hs.grantActivation hkeyed hinc ?_ hrunning
    have hmay : mayActivate s req inc now = true :=
      mayActivate_eq_true hauthority hhealth hregistration hrunning hgen hgate hslot
    simpa [solePromotion, hinc, hmay] using hsole
  | commitCutover hplan hphase hcand hrunning =>
    refine (hs.cutover hkeyed hcand ?_ : CurrentAlive (cutover _ _ s))
    simpa [solePromotion, hplan, hcand, mayCutOver, hphase, hrunning] using hsole
  | load =>
    intro id i' hi' hcur
    obtain ⟨i, -, -, rfl⟩ := restored_findInc hi'
    cases hcur
  | _ => exact hrest (fun hmoves => hmoves) hs

/-- In every run whose promotions are sole, every engine has one authoritative
incarnation at most. -/
theorem sole_authority (opts : RuntimeOptions) (ops : List Op)
    (hrun : machine.Along (fun s op => solePromotion s op = true) (Impl.new opts) ops) :
    SoleAuthority (machine.exec (Impl.new opts) ops) := by
  have hinv : KeyedById (machine.exec (Impl.new opts) ops) ∧
      CurrentAlive (machine.exec (Impl.new opts) ops) :=
    Machine.exec_invariant (I := fun s => KeyedById s ∧ CurrentAlive s)
      ⟨keyedById_new opts, currentAlive_new opts⟩ hrun fun s op hs hop =>
        ⟨(step_transition s op).keyedById hs.1, (step_transition s op).currentAlive hop hs.1 hs.2⟩
  exact hinv.2.soleAuthority

/-- Start a second incarnation of the engine, which has a live holder: it becomes a
candidate. -/
def sampleCandidate : List Op :=
  sampleStart ++
    [.issueRegistrationPermit ⟨2⟩ ⟨1⟩,
     .registerIncarnation { engineId := ⟨1⟩, workerId := ⟨2⟩, workerBoot := ⟨1⟩ }
       { permitId := ⟨3⟩ } 0,
     .markRunning ⟨3⟩ 0]

/-- A replacement of the holder by the candidate. -/
def sampleReplacement : ReplacementPlan :=
  { oldIncarnation := ⟨2⟩, candidateIncarnation := ⟨3⟩, epoch := ⟨1⟩, authority := ⟨1⟩ }

theorem sole_authority_sample :
    SoleAuthority (machine.exec (Impl.new {})
      (sampleCandidate ++ [.beginReplacement sampleReplacement, .commitCutover ⟨2⟩])) :=
  sole_authority {} _ (by decide)

/-- Revalidating or activating the candidate leaves the engine with two current
incarnations; so does a cutover that names a third one as old. -/
theorem two_current_incarnations :
    ¬ SoleAuthority (machine.exec (Impl.new {}) (sampleCandidate ++ [.revalidate ⟨3⟩])) ∧
    ¬ SoleAuthority (machine.exec (Impl.new {}) (sampleCandidate ++
      [.activate { incarnationId := ⟨3⟩, readinessGeneration := ⟨1⟩, callerAuthority := ⟨1⟩ } 0])) ∧
    ¬ SoleAuthority (machine.exec (Impl.new {}) (sampleCandidate ++
      [.issueRegistrationPermit ⟨3⟩ ⟨1⟩,
       .registerIncarnation { engineId := ⟨1⟩, workerId := ⟨3⟩, workerBoot := ⟨1⟩ }
         { permitId := ⟨4⟩ } 0,
       .beginReplacement { sampleReplacement with oldIncarnation := ⟨4⟩ },
       .commitCutover ⟨2⟩])) := by
  refine ⟨fun h => ?_, fun h => ?_, fun h => ?_⟩ <;>
  · have heq := h.unique ⟨2⟩ _ ⟨3⟩ _ rfl rfl rfl rfl rfl
    cases heq

end EngineResidency.Runtime
