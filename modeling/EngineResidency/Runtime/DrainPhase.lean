-- SUMMARY: When the phase of a requested drain is what the open uses and the acknowledgement say.
import EngineResidency.Runtime.Atomicity
import EngineResidency.Runtime.Drain

/-!
# The phase of a drain

Once a drain has been requested, its phase is a function of two facts: whether uses are
still open, and whether the backend has acknowledged its cleanup. Three operations
compute the phase anew, and a request asks the first fact only. So a request that
follows an acknowledgement loses it. The phase also goes wrong when the last open use is
overwritten, by an admission that is given its identity again. `KeepsDrainPhase` is the
check that these two leave out.
-/

namespace EngineResidency.Runtime

open EStateM Impl

variable {s s' : Impl} {op : Op} {r : Except Err Reply} {id k : EngineIncarnationId}
  {wanted : ServingUseToken} {now admittedAt : DurationNs} {ops : List Op}
  {opts : RuntimeOptions}

/-- The phase of a drain that has been requested. -/
def expectedPhase (uses : Nat) (ack : Bool) : DrainPhase :=
  if 0 < uses then .activeUseRemaining
  else if ack then .drained
  else .backendCleanupPending

/-- The phase is the one that the open uses and the acknowledgement call for. -/
def PhaseExact (s : Impl) (id : EngineIncarnationId) : Prop :=
  (drainState s id).phase =
    expectedPhase (s.activeUses.count (holds id)) (drainState s id).backendCleanupAck

/-- A drain of the incarnation has been requested: its generation has been counted on. -/
def Requested (s : Impl) (id : EngineIncarnationId) : Prop :=
  (drainState s id).generation.isValid = true

/-- A request for a drain of the incarnation has succeeded in the run. -/
def DrainRequested (opts : RuntimeOptions) (ops : List Op) (id : EngineIncarnationId) : Prop :=
  ∃ before reply, before ++ [.requestDrain id] <+: ops ∧
    machine.result (machine.exec (Impl.new opts) before) (.requestDrain id) = .ok reply

/-- In every state of the run the phase of a requested drain is exact, and a drain that is
complete stays complete. -/
structure DrainNeverLost (opts : RuntimeOptions) (ops : List Op) : Prop where
  exact : ∀ before, before <+: ops → ∀ id, DrainRequested opts before id →
    PhaseExact (machine.exec (Impl.new opts) before) id
  drained : ∀ before after, before ++ after <+: ops → ∀ id, DrainRequested opts before id →
    (drainState (machine.exec (Impl.new opts) before) id).phase = .drained →
    (drainState (machine.exec (Impl.new opts) (before ++ after)) id).phase = .drained

/-- The checks of an admission. -/
structure Acquires (s : Impl) (wanted : ServingUseToken) (now : DurationNs)
    (inc : EngineIncarnation) : Prop where
  admissible : ∃ profile engine, Admissible s wanted now inc profile engine
  generation : wanted.readinessGeneration = inc.readinessGeneration
  room : s.activeUseCount.toNat < s.opts.maxActiveUses.toNat

/-- A request for a drain that finds no open use finds no acknowledgement. An admission does not
overwrite the last open use of an incarnation whose drain has been requested. -/
def KeepsDrainPhase (s : Impl) : Op → Prop
  | .requestDrain id => (s.findInc id).isSome = true → ¬ exhausted (drainState s id).generation →
    s.activeUses.count (holds id) = 0 → (drainState s id).backendCleanupAck = false
  | .acquireServingUse wanted now _ => ∀ inc, Acquires s wanted now inc → ∀ id u, Requested s id →
    s.activeUses.lookup (admittedToken s wanted).useId = some u → holds id u = true →
    1 < s.activeUses.count (holds id)
  | _ => True

theorem expectedPhase_of_pos {uses : Nat} {ack : Bool} (h : 0 < uses) :
    expectedPhase uses ack = .activeUseRemaining := if_pos h

theorem expectedPhase_zero {ack : Bool} :
    expectedPhase 0 ack = if ack then .drained else .backendCleanupPending := rfl

theorem expectedPhase_eq_drained {uses : Nat} {ack : Bool} :
    expectedPhase uses ack = .drained ↔ uses = 0 ∧ ack = true := by
  unfold expectedPhase
  split
  · rename_i huses
    exact ⟨nofun, fun h => absurd h.1 (Nat.ne_of_gt huses)⟩
  · rename_i huses
    cases ack with
    | false => exact ⟨nofun, fun h => nomatch h.2⟩
    | true => exact ⟨fun _ => ⟨Nat.eq_zero_of_not_pos huses, rfl⟩, fun _ => rfl⟩

/-! ## Reading a drain -/

theorem drainState_of_drains (h : s'.drains = s.drains) : drainState s' id = drainState s id := by
  rw [drainState, h]
  rfl

theorem drainState_touchDrain : drainState (s.touchDrain k) id = drainState s id := by
  unfold drainState
  rw [lookup_touchDrain]
  split
  · rename_i hid
    rw [hid]
    rfl
  · rfl

/-- The drain that is there is rewritten. -/
theorem drainState_modify_self {f : DrainState → DrainState} {d : DrainState}
    (hdrains : s'.drains = s.drains.modify id f) (hd : s.drains.lookup id = some d) :
    drainState s' id = f (drainState s id) := by
  unfold drainState
  rw [hdrains, AList.lookup_modify_self, hd]
  rfl

theorem drainState_modify_ne {f : DrainState → DrainState}
    (hdrains : s'.drains = s.drains.modify k f) (hid : id ≠ k) :
    drainState s' id = drainState s id := by
  unfold drainState
  rw [hdrains, AList.lookup_modify_ne _ _ hid]

/-- What a rewriting of a drain leaves alone. -/
theorem drainState_modify {β : Type} (g : DrainState → β) {f : DrainState → DrainState}
    (hf : ∀ d, g (f d) = g d) (hdrains : s'.drains = s.drains.modify k f) :
    g (drainState s' id) = g (drainState s id) := by
  by_cases hid : id = k
  · subst hid
    cases hd : s.drains.lookup id with
    | none =>
      unfold drainState
      rw [hdrains, AList.lookup_modify_self, hd]
      rfl
    | some d =>
      rw [drainState_modify_self hdrains hd, hf]
  · rw [drainState_modify_ne hdrains hid]

/-- A cutover writes the fence of a drain and nothing else. -/
theorem drainState_cutover {β : Type} (g : DrainState → β)
    (hg : ∀ d : DrainState, g { d with admissionFenced := true } = g d) (p : ReplacementPlan)
    (cand : EngineIncarnation) : g (drainState (cutover p cand s) id) = g (drainState s id) := by
  cases hold : s.findInc p.oldIncarnation with
  | none =>
    refine congrArg g (drainState_of_drains ?_)
    simp only [cutover, fenceOldDrain, hold]
  | some old =>
    refine .trans (drainState_modify (s := s.touchDrain old.incarnationId)
      (k := old.incarnationId) g hg ?_) (congrArg g drainState_touchDrain)
    simp only [cutover, fenceOldDrain, hold, Impl.modifyDrain]

theorem lookup_of_requested (h : Requested s id) : ∃ d, s.drains.lookup id = some d := by
  cases hd : s.drains.lookup id with
  | some d => exact ⟨d, rfl⟩
  | none =>
    unfold Requested drainState at h
    rw [hd] at h
    cases h

theorem admissionFenced_eq : s.admissionFenced id = (drainState s id).admissionFenced := by
  unfold Impl.admissionFenced drainState
  cases s.drains.lookup id <;> rfl

/-! ## Requests -/

theorem isValid_next {t : GenTag} {g g' : Generation t} (h : g.next = .ok g') :
    g'.isValid = true := by
  have hnext := Generation.next_ok h
  unfold Generation.isValid
  rw [bne_iff_ne]
  intro hzero
  rw [hzero] at hnext
  exact absurd hnext (Nat.succ_ne_zero _).symm

theorem drainState_beginDrain {gen : DrainGeneration} :
    drainState (beginDrain k gen (s.touchDrain k)) id =
      if id = k then Runtime.requested gen (s.remainingUses k) (drainState s k)
      else drainState s id := by
  by_cases hid : id = k
  · subst hid
    rw [if_pos rfl]
    unfold drainState
    simp only [beginDrain, Impl.modifyDrain, Impl.modifyInc, AList.lookup_modify_self,
      lookup_touchDrain]
    rfl
  · rw [if_neg hid, drainState_modify_ne rfl hid]
    exact drainState_touchDrain

/-- The generation of a drain is counted on by the requests that succeed, and by nothing else. -/
theorem Transition.requested_iff (h : Transition s op r s') :
    Requested s' id ↔ Requested s id ∨ (op = .requestDrain id ∧ ∃ reply, r = .ok reply) := by
  have hsame : (drainState s' id).generation = (drainState s id).generation →
      ¬ (op = .requestDrain id ∧ ∃ reply, r = .ok reply) →
      (Requested s' id ↔ Requested s id ∨ (op = .requestDrain id ∧ ∃ reply, r = .ok reply)) := by
    intro hgen hnot
    unfold Requested
    rw [hgen]
    exact ⟨.inl, fun h => h.resolve_right hnot⟩
  cases h with
  | refused =>
    refine hsame rfl ?_
    rintro ⟨-, reply, hr⟩
    cases hr
  | releaseServingUse =>
    refine hsame (drainState_modify DrainState.generation (fun d => ?_) rfl) fun h => nomatch h.1
    unfold settleDrain
    split <;> rfl
  | requestDrainExhausted =>
    refine hsame (congrArg DrainState.generation drainState_touchDrain) ?_
    rintro ⟨-, reply, hr⟩
    cases hr
  | @requestDrain k inc gen hinc hgen =>
    by_cases hid : id = k
    · subst hid
      refine ⟨fun _ => .inr ⟨rfl, _, rfl⟩, fun _ => ?_⟩
      unfold Requested
      rw [drainState_beginDrain, if_pos rfl]
      exact isValid_next hgen
    · refine hsame ?_ fun h => hid (Op.requestDrain.inj h.1).symm
      rw [drainState_beginDrain, if_neg hid]
  | acknowledgeBackendCleanup =>
    exact hsame (drainState_modify (f := acknowledged _) DrainState.generation (fun _ => rfl) rfl)
      fun h => nomatch h.1
  | @commitCutover rid p cand =>
    exact hsame (drainState_cutover DrainState.generation (fun _ => rfl) p cand)
      fun h => nomatch h.1
  | _ => exact hsame rfl fun h => nomatch h.1

theorem drainRequested_concat : DrainRequested opts (ops ++ [op]) id ↔
    DrainRequested opts ops id ∨ (op = .requestDrain id ∧
      ∃ reply, machine.result (machine.exec (Impl.new opts) ops) op = .ok reply) := by
  constructor
  · rintro ⟨before, reply, hbefore, hok⟩
    rcases List.prefix_concat_iff.mp hbefore with heq | hbefore
    · obtain ⟨rfl, hlast⟩ := List.append_inj' heq rfl
      cases hlast
      exact .inr ⟨rfl, reply, hok⟩
    · exact .inl ⟨before, reply, hbefore, hok⟩
  · rintro (⟨before, reply, hbefore, hok⟩ | ⟨rfl, reply, hok⟩)
    · exact ⟨before, reply, hbefore.trans (List.prefix_append ops [op]), hok⟩
    · exact ⟨ops, reply, List.prefix_refl _, hok⟩

/-- The generation of a drain tells whether a request has succeeded. -/
theorem drainRequested_iff :
    DrainRequested opts ops id ↔ Requested (machine.exec (Impl.new opts) ops) id := by
  induction ops using List.reverseRecOn with
  | nil =>
    constructor
    · rintro ⟨before, reply, hbefore, -⟩
      simp at hbefore
    · intro h
      cases h
  | append_singleton ops op ih =>
    rw [drainRequested_concat, ih, Machine.exec_concat]
    exact (step_transition _ op).requested_iff.symm

/-- What every run maintains about requested drains. -/
structure RequestInv (s : Impl) : Prop extends DrainInv s where
  fenced : ∀ id, Requested s id → s.admissionFenced id = true

theorem requestInv_new (opts : RuntimeOptions) : RequestInv (Impl.new opts) :=
  ⟨drainInv_new opts, fun _ h => nomatch h⟩

theorem RequestInv.next (hs : RequestInv s) (op : Op) : RequestInv (machine.next s op) := by
  refine ⟨hs.toDrainInv.next op, fun id hid => ?_⟩
  have h := step_transition s op
  rcases h.requested_iff.mp hid with hid | ⟨rfl, reply, hok⟩
  · exact h.admissionFenced (hs.fenced id hid)
  · rw [hok] at h
    exact h.fencesAdmission hs.keyed rfl

/-! ## One step -/

/-- The phase of every requested drain is exact. -/
def PhasesExact (s : Impl) : Prop := ∀ id, Requested s id → PhaseExact s id

/-- The open uses of an incarnation when a use of another one is stored. -/
theorem count_holds_storeUse {use : ActiveUse} (hnot : holds id use = false) :
    (storeUse k use s).activeUses.count (holds id) +
      (if (s.activeUses.lookup use.useId).any (holds id) then 1 else 0) =
      s.activeUses.count (holds id) := by
  change (s.activeUses.insert use.useId use).count (holds id) + _ = _
  rw [AList.count_insert, hnot]
  cases hu : s.activeUses.lookup use.useId with
  | none =>
    rw [AList.erase_of_lookup_none hu]
    rfl
  | some u => exact AList.count_erase (holds id) hu

/-- An admission keeps the phase of a drain if and only if it does not overwrite the last open
use. -/
theorem phaseExact_storeUse_iff {use : ActiveUse} (hs : PhaseExact s id)
    (hnot : holds id use = false) :
    PhaseExact (storeUse k use s) id ↔ ∀ u, s.activeUses.lookup use.useId = some u →
      holds id u = true → 1 < s.activeUses.count (holds id) := by
  have hcount := count_holds_storeUse (s := s) (k := k) hnot
  have hsame : drainState (storeUse k use s) id = drainState s id := rfl
  unfold PhaseExact at hs ⊢
  rw [hsame, hs]
  cases hu : s.activeUses.lookup use.useId with
  | none =>
    rw [hu] at hcount
    have hcount : (storeUse k use s).activeUses.count (holds id) = s.activeUses.count (holds id) :=
      hcount
    rw [hcount]
    exact ⟨fun _ => nofun, fun _ => rfl⟩
  | some u =>
    rw [hu] at hcount
    by_cases hheld : holds id u = true
    · simp only [Option.any_some, hheld, if_true] at hcount
      have hpos : 0 < s.activeUses.count (holds id) := by omega
      rw [expectedPhase_of_pos hpos]
      constructor
      · rintro hphase v hv -
        by_contra hlast
        have hzero : (storeUse k use s).activeUses.count (holds id) = 0 := by omega
        rw [hzero, expectedPhase_zero] at hphase
        split at hphase <;> cases hphase
      · intro hmore
        have hmore := hmore u rfl hheld
        exact (expectedPhase_of_pos (by omega)).symm
    · simp only [Option.any_some, hheld] at hcount
      have hcount : (storeUse k use s).activeUses.count (holds id) =
        s.activeUses.count (holds id) := hcount
      rw [hcount]
      refine ⟨fun _ v hv hholds => ?_, fun _ => rfl⟩
      cases hv
      exact absurd hholds hheld

/-- A request keeps the phase of a drain exact if and only if it does not lose an
acknowledgement. -/
theorem phaseExact_beginDrain_iff (hbound : UseBound s) {gen : DrainGeneration} :
    PhaseExact (beginDrain id gen (s.touchDrain id)) id ↔
      (s.activeUses.count (holds id) = 0 → (drainState s id).backendCleanupAck = false) := by
  unfold PhaseExact
  rw [drainState_beginDrain, if_pos rfl]
  change (if s.remainingUses id = 0 then DrainPhase.backendCleanupPending
    else .activeUseRemaining) = expectedPhase (s.activeUses.count (holds id))
      (drainState s id).backendCleanupAck ↔ _
  by_cases hzero : s.activeUses.count (holds id) = 0
  · rw [if_pos ((remainingUses_eq_zero hbound).mpr hzero), hzero, expectedPhase_zero]
    cases (drainState s id).backendCleanupAck with
    | false => exact ⟨fun _ _ => rfl, fun _ => rfl⟩
    | true => exact ⟨nofun, fun h => nomatch h rfl⟩
  · rw [if_neg fun h => hzero ((remainingUses_eq_zero hbound).mp h),
      expectedPhase_of_pos (Nat.pos_of_ne_zero hzero)]
    exact ⟨fun _ h => absurd h hzero, fun _ => rfl⟩

/-- A step that changes neither the phase, nor the acknowledgement, nor the open uses. -/
theorem PhaseExact.same (hs : PhaseExact s id)
    (hphase : (drainState s' id).phase = (drainState s id).phase)
    (hack : (drainState s' id).backendCleanupAck = (drainState s id).backendCleanupAck)
    (huses : s'.activeUses.count (holds id) = s.activeUses.count (holds id)) :
    PhaseExact s' id := by
  unfold PhaseExact
  rw [hphase, hack, huses]
  exact hs

/-- A release closes one open use, of its own incarnation. -/
theorem count_holds_release {token : ServingUseToken} {outcome : WorkOutcome} {detail : Str}
    {use : ActiveUse} (huse : s.activeUses.lookup token.useId = some use)
    (hopen : use.released = false) (hinc : use.incarnationId = token.incarnationId) :
    (s.activeUses.modify token.useId (closed outcome detail now)).count (holds id) +
      (if token.incarnationId = id then 1 else 0) = s.activeUses.count (holds id) := by
  have h := AList.count_modify (holds id) (closed outcome detail now) huse
  simpa [holds, closed, hopen, hinc] using h

/-- A release keeps the phase exact. -/
theorem phaseExact_settle {token : ServingUseToken} {outcome : WorkOutcome} {detail : Str}
    {use : ActiveUse} (hinv : RequestInv s) (hid : Requested s id) (hs : PhaseExact s id)
    (huse : s.activeUses.lookup token.useId = some use) (hopen : use.released = false)
    (hinc : use.incarnationId = token.incarnationId)
    (hbound : UseBound (settle token.incarnationId
      (s.modifyUse token.useId (closed outcome detail now)))) :
    PhaseExact (settle token.incarnationId (s.modifyUse token.useId (closed outcome detail now)))
      id := by
  have hcount : (s.activeUses.modify token.useId (closed outcome detail now)).count (holds id) +
      (if token.incarnationId = id then 1 else 0) = s.activeUses.count (holds id) :=
    count_holds_release huse hopen hinc
  by_cases hk : token.incarnationId = id
  · subst hk
    rw [if_pos rfl] at hcount
    obtain ⟨d, hd⟩ := lookup_of_requested hid
    have hfenced : (drainState s token.incarnationId).admissionFenced = true := by
      rw [← admissionFenced_eq]
      exact hinv.fenced _ hid
    have hpos : 0 < s.activeUses.count (holds token.incarnationId) := by omega
    have hzero := @remainingUses_eq_zero _ token.incarnationId hbound
    unfold PhaseExact at hs ⊢
    rw [expectedPhase_of_pos hpos] at hs
    rw [drainState_modify_self (s := s) rfl hd]
    unfold settleDrain
    by_cases hlast : s.activeUses.count (holds token.incarnationId) = 1
    · -- The last open use has been released.
      have hnone : (settle token.incarnationId
          (s.modifyUse token.useId (closed outcome detail now))).activeUses.count
          (holds token.incarnationId) = 0 := by
        change (s.activeUses.modify token.useId _).count (holds token.incarnationId) = 0
        omega
      rw [hnone, if_pos ⟨hfenced, hzero.mpr hnone⟩, expectedPhase_zero]
    · have hmore : 0 < (settle token.incarnationId
          (s.modifyUse token.useId (closed outcome detail now))).activeUses.count
          (holds token.incarnationId) := by
        change 0 < (s.activeUses.modify token.useId _).count (holds token.incarnationId)
        omega
      rw [if_neg fun h => Nat.ne_of_gt hmore (hzero.mp h.2), expectedPhase_of_pos hmore]
      exact hs
  · rw [if_neg hk] at hcount
    have hother : drainState (settle token.incarnationId
        (s.modifyUse token.useId (closed outcome detail now))) id = drainState s id :=
      drainState_modify_ne rfl (Ne.symm hk)
    exact hs.same (congrArg DrainState.phase hother)
      (congrArg DrainState.backendCleanupAck hother) hcount

/-- An acknowledgement keeps the phase exact. -/
theorem phaseExact_acknowledge (hinv : RequestInv s) (hid : Requested s id)
    (hs : PhaseExact s id) :
    PhaseExact (s.modifyDrain k (acknowledged (s.remainingUses k))) id := by
  by_cases hk : id = k
  · subst hk
    obtain ⟨d, hd⟩ := lookup_of_requested hid
    have hfenced : (drainState s id).admissionFenced = true := by
      rw [← admissionFenced_eq]
      exact hinv.fenced _ hid
    have hzero := @remainingUses_eq_zero _ id hinv.bound
    unfold PhaseExact at hs ⊢
    rw [drainState_modify_self (s := s) rfl hd]
    change (if (drainState s id).admissionFenced ∧ s.remainingUses id = 0 then DrainPhase.drained
      else (drainState s id).phase) = expectedPhase (s.activeUses.count (holds id)) true
    by_cases hnone : s.activeUses.count (holds id) = 0
    · rw [if_pos ⟨hfenced, hzero.mpr hnone⟩, hnone]
      rfl
    · rw [if_neg fun h => hnone (hzero.mp h.2), hs]
      rw [expectedPhase_of_pos (Nat.pos_of_ne_zero hnone),
        expectedPhase_of_pos (Nat.pos_of_ne_zero hnone)]
  · have hother : drainState (s.modifyDrain k (acknowledged (s.remainingUses k))) id =
        drainState s id := drainState_modify_ne rfl hk
    exact hs.same (congrArg DrainState.phase hother)
      (congrArg DrainState.backendCleanupAck hother) rfl

theorem Transition.phasesExact (h : Transition s op r s') (hinv : RequestInv s)
    (hs : PhasesExact s) (hop : KeepsDrainPhase s op) : PhasesExact s' := by
  intro id hid
  have hbound := h.useBound hinv.bound
  have hbefore := h.requested_iff.mp hid
  cases h with
  | @acquireServingUse wanted now admittedAt inc profile engine hinc hcurrent hrunning hdrain hgen
      hprofile hengine hready hroom =>
    have hid : Requested s id := hid
    have hne : inc.incarnationId ≠ id := by
      rw [hinv.keyed _ inc hinc]
      rintro rfl
      rw [hinv.fenced _ hid] at hdrain
      cases hdrain
    refine (phaseExact_storeUse_iff (hs id hid) (by simp [holds, admittedUse, hne])).mpr ?_
    intro u hu hheld
    have hadmissible : Admissible s wanted now inc profile engine :=
      ⟨hinc, hcurrent, hrunning, hdrain, hprofile, hengine, hready⟩
    exact hop inc ⟨⟨profile, engine, hadmissible⟩, hgen, hroom⟩ id u hid hu hheld
  | releaseServingUseUnderflow huse hopen _ hcount =>
    exact absurd hcount (hinv.bound.count_ne_zero huse hopen)
  | releaseServingUse huse hopen hinc =>
    have hid := hbefore.resolve_right (by simp)
    exact phaseExact_settle hinv hid (hs id hid) huse hopen hinc hbound
  | requestDrainExhausted =>
    unfold Requested at hid
    rw [drainState_touchDrain] at hid
    exact (hs id hid).same (congrArg DrainState.phase drainState_touchDrain)
      (congrArg DrainState.backendCleanupAck drainState_touchDrain) rfl
  | @requestDrain k inc gen hinc hgen =>
    by_cases hk : id = k
    · subst hk
      have hnext : ¬ exhausted (drainState s id).generation := by
        rintro ⟨e, he⟩
        cases hgen.symm.trans he
      exact (phaseExact_beginDrain_iff hinv.bound).mpr (hop (by rw [hinc]; rfl) hnext)
    · have hid := hbefore.resolve_right fun h => hk (Op.requestDrain.inj h.1).symm
      have hother : drainState (beginDrain k gen (s.touchDrain k)) id = drainState s id := by
        rw [drainState_beginDrain, if_neg hk]
      exact (hs id hid).same (congrArg DrainState.phase hother)
        (congrArg DrainState.backendCleanupAck hother) rfl
  | acknowledgeBackendCleanup =>
    have hid := hbefore.resolve_right (by simp)
    exact phaseExact_acknowledge hinv hid (hs id hid)
  | @commitCutover rid p cand =>
    have hid := hbefore.resolve_right (by simp)
    exact (hs id hid).same (drainState_cutover DrainState.phase (fun _ => rfl) p cand)
      (drainState_cutover DrainState.backendCleanupAck (fun _ => rfl) p cand) rfl
  | _ => exact hs id hid

theorem requestDrain_next {inc : EngineIncarnation} {gen : DrainGeneration}
    (hinc : s.findInc id = some inc) (hgen : (drainState s id).generation.next = .ok gen) :
    machine.next s (.requestDrain id) = beginDrain id gen (s.touchDrain id) := by
  have hwp : wp (step (.requestDrain id)) (fun _ s' =>
      s' = beginDrain id gen (s.touchDrain id)) s := by
    refine wp_map (wp_get (wp_found_of_eq hinc (wp_modify (wp_unwrap (fun e he => ?_)
      fun gen' hgen' => ?_))))
    · cases hgen.symm.trans he
    · cases hgen.symm.trans hgen'
      exact wp_modify (wp_pure rfl)
  exact wp_iff.mp hwp

theorem acquireServingUse_next {inc : EngineIncarnation} (h : Acquires s wanted now inc) :
    machine.next s (.acquireServingUse wanted now admittedAt) =
      storeUse wanted.incarnationId (admittedUse s wanted inc admittedAt) s := by
  obtain ⟨profile, engine, hadm⟩ := h.admissible
  have hwp : wp (step (.acquireServingUse wanted now admittedAt)) (fun _ s' =>
      s' = storeUse wanted.incarnationId (admittedUse s wanted inc admittedAt) s) s := by
    refine wp_map (wp_get (wp_found_of_eq hadm.found ?_))
    refine wp_passes (by simp [hadm.current]) (wp_passes (not_not_intro hadm.running) ?_)
    refine wp_passes (by simp [hadm.undrained]) (wp_passes (not_not_intro h.generation) ?_)
    refine wp_found_of_eq hadm.profiled (wp_found_of_eq hadm.defined ?_)
    refine wp_passes (not_not_intro hadm.ready) (wp_passes (Nat.not_le.mpr h.room) ?_)
    exact wp_modify (wp_pure rfl)
  exact wp_iff.mp hwp

/-- A step that keeps the phases exact meets the condition. -/
theorem keepsDrainPhase_of_next (hinv : RequestInv s) (hs : PhasesExact s)
    (h : PhasesExact (machine.next s op)) : KeepsDrainPhase s op := by
  cases op with
  | requestDrain id =>
    intro hfound hnext
    obtain ⟨inc, hinc⟩ := Option.isSome_iff_exists.mp hfound
    cases hgen : (drainState s id).generation.next with
    | error e => exact absurd ⟨e, hgen⟩ hnext
    | ok gen =>
      rw [requestDrain_next hinc hgen] at h
      refine (phaseExact_beginDrain_iff hinv.bound).mp (h id ?_)
      unfold Requested
      rw [drainState_beginDrain, if_pos rfl]
      exact isValid_next hgen
  | acquireServingUse wanted now admittedAt =>
    intro inc hacquires id u hid hu hheld
    obtain ⟨profile, engine, hadm⟩ := hacquires.admissible
    rw [acquireServingUse_next hacquires] at h
    have hne : inc.incarnationId ≠ id := by
      rw [hinv.keyed _ inc hadm.found]
      intro heq
      have hundrained := hadm.undrained
      rw [heq, hinv.fenced id hid] at hundrained
      cases hundrained
    have hnot : holds id (admittedUse s wanted inc admittedAt) = false := by
      simp [holds, admittedUse, hne]
    exact (phaseExact_storeUse_iff (hs id hid) hnot).mp (h id hid) u hu hheld
  | _ => trivial

/-! ## Whole runs -/

theorem DrainChange.backendCleanupAck {n : UInt32} {d d' : DrainState}
    (h : DrainChange n (some d) d') (hd : d.backendCleanupAck = true) :
    d'.backendCleanupAck = true := by
  cases h with
  | same | requested | fenced => exact hd
  | settled =>
    unfold settleDrain
    split <;> exact hd
  | acknowledged => rfl

/-- An acknowledgement is never taken back. -/
theorem acknowledged_exec (hs : (drainState s id).backendCleanupAck = true) (ops : List Op) :
    (drainState (machine.exec s ops) id).backendCleanupAck = true := by
  refine Machine.exec_always (I := fun s => (drainState s id).backendCleanupAck = true) hs ?_ ops
  intro s op hs
  unfold drainState at hs ⊢
  cases hd : s.drains.lookup id with
  | none =>
    rw [hd] at hs
    cases hs
  | some d =>
    rw [hd] at hs
    rcases (step_transition s op).drainChanged id with ⟨hnone, -⟩ | ⟨d', hd', hchange⟩
    · rw [hd] at hnone
      cases hnone
    · rw [hd] at hchange
      rw [hd']
      exact hchange.backendCleanupAck hs

theorem requestInv_exec (opts : RuntimeOptions) (ops : List Op) :
    RequestInv (machine.exec (Impl.new opts) ops) :=
  Machine.exec_always (requestInv_new opts) (fun _ op h => h.next op) ops

theorem drainRequested_mono {ops' : List Op} (h : DrainRequested opts ops id) (hops : ops <+: ops') :
    DrainRequested opts ops' id := by
  obtain ⟨before, reply, hbefore, hok⟩ := h
  exact ⟨before, reply, hbefore.trans hops, hok⟩

/-- If the phases are exact, a complete drain stays complete: nothing is admitted any more, and
the acknowledgement stays. -/
theorem drained_of_exact (hexact : ∀ before, before <+: ops → ∀ id, DrainRequested opts before id →
      PhaseExact (machine.exec (Impl.new opts) before) id) {before after : List Op}
    (hwhole : before ++ after <+: ops) (hid : DrainRequested opts before id)
    (hdrained : (drainState (machine.exec (Impl.new opts) before) id).phase = .drained) :
    (drainState (machine.exec (Impl.new opts) (before ++ after)) id).phase = .drained := by
  have hinv := requestInv_exec opts before
  have hphase := hexact before ((List.prefix_append before after).trans hwhole) id hid
  unfold PhaseExact at hphase
  rw [hdrained] at hphase
  obtain ⟨hnone, hack⟩ := expectedPhase_eq_drained.mp hphase.symm
  have hlater := hexact (before ++ after) hwhole id
    (drainRequested_mono hid (List.prefix_append before after))
  unfold PhaseExact at hlater
  rw [hlater, expectedPhase_eq_drained, Machine.exec_append]
  have hfenced := hinv.fenced id (drainRequested_iff.mp hid)
  have hle := (admissionFenced_exec hinv.keyed hfenced after).2
  exact ⟨by omega, acknowledged_exec hack after⟩

/-- The phase of every requested drain is exact throughout a run, and no drain moves back from
DRAINED, if and only if no request of the run loses an acknowledgement and no admission
overwrites the last open use of a drained incarnation. -/
theorem drain_never_lost_iff (opts : RuntimeOptions) (ops : List Op) :
    DrainNeverLost opts ops ↔ machine.Along KeepsDrainPhase (Impl.new opts) ops := by
  have hthroughout : DrainNeverLost opts ops ↔ machine.Throughout PhasesExact (Impl.new opts) ops := by
    constructor
    · intro h before hbefore id hid
      exact h.exact before hbefore id (drainRequested_iff.mpr hid)
    · intro h
      have hexact : ∀ before, before <+: ops → ∀ id, DrainRequested opts before id →
          PhaseExact (machine.exec (Impl.new opts) before) id := by
        intro before hbefore id hid
        exact h before hbefore id (drainRequested_iff.mp hid)
      exact ⟨hexact, fun before after hwhole id hid => drained_of_exact hexact hwhole hid⟩
  rw [hthroughout]
  refine Machine.throughout_iff (A := fun _ => True) (fun _ h => nomatch h) (requestInv_new opts)
    (fun _ _ => trivial) (fun _ op _ hs => hs.next op) ?_
  intro s op _ hinv hs
  constructor
  · intro h
    exact keepsDrainPhase_of_next hinv hs h
  · intro h
    exact (step_transition s op).phasesExact hinv hs h

/-- A drain that is requested again after it is complete falls back to waiting for the
acknowledgement that it has had. -/
theorem drained_regresses : ¬ DrainNeverLost {} (sampleStart ++
    [.requestDrain ⟨2⟩, .acknowledgeBackendCleanup ⟨2⟩, .requestDrain ⟨2⟩]) := by
  intro h
  have hback := h.drained (sampleStart ++ [.requestDrain ⟨2⟩, .acknowledgeBackendCleanup ⟨2⟩])
    [.requestDrain ⟨2⟩] (List.prefix_refl _) ⟨2⟩ ⟨sampleStart, .done, ⟨_, rfl⟩, rfl⟩ rfl
  cases hback

end EngineResidency.Runtime
