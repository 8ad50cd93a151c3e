-- SUMMARY: Exact accounting of serving uses over whole runs.
import EngineResidency.Runtime.Transition

/-!
# Accounting of serving uses

The runtime keeps a record for every admitted use and, apart from it, a counter of
the uses that are not released. `UseBound` relates the two in every run. A recovery
resets the counter behind the use identities, so a run that recovers after an
admission may overwrite a record; in a run that does not, `UseAccounts` makes the
relation exact and every record permanent.
-/

namespace EngineResidency.Runtime

open EStateM

/-- The use is admitted and not released. -/
def unreleased (u : ActiveUse) : Bool := !u.released

variable {s s' : Impl} {op : Op} {r : Except Err Reply}

/-! ## The bound of every run -/

/-- The counter is never below the number of unreleased uses, and never above the
configured maximum. -/
structure UseBound (s : Impl) : Prop where
  count_le : s.activeUses.count unreleased ≤ s.activeUseCount.toNat
  le_max : s.activeUseCount.toNat ≤ s.opts.maxActiveUses.toNat

theorem useBound_new (opts : RuntimeOptions) : UseBound (Impl.new opts) :=
  ⟨Nat.le_refl 0, Nat.zero_le _⟩

/-- The counter is not zero while a use is open. -/
theorem UseBound.count_ne_zero (hs : UseBound s) {id : ServingUseId} {use : ActiveUse}
    (huse : s.activeUses.lookup id = some use) (hopen : use.released = false) :
    s.activeUseCount ≠ 0 := by
  intro hzero
  have hpos := AList.count_pos_of_lookup huse (p := unreleased) (by simp [unreleased, hopen])
  have hle := hs.count_le
  rw [hzero] at hle
  exact absurd (Nat.lt_of_lt_of_le hpos hle) (Nat.lt_irrefl _)

/-- Below its maximum, the counter does not wrap around. -/
theorem toNat_succ_of_room {c : UInt64} {m : UInt32} (h : c.toNat < m.toNat) :
    (c + 1).toNat = c.toNat + 1 := by
  have hlt := m.toNat_lt
  have hone : (1 : UInt64).toNat = 1 := rfl
  rw [UInt64.toNat_add, hone]
  omega

theorem toNat_pred_of_ne_zero {c : UInt64} (h : c ≠ 0) : (c - 1).toNat + 1 = c.toNat := by
  have hpos : c.toNat ≠ 0 := fun hzero => h (UInt64.toNat_inj.mp hzero)
  have hone : (1 : UInt64).toNat = 1 := rfl
  have hle : (1 : UInt64) ≤ c := UInt64.le_iff_toNat_le.mpr (by omega)
  rw [UInt64.toNat_sub_of_le _ _ hle]
  omega

/-- Closing an open use takes one from the number of unreleased uses. -/
theorem count_closed {id : ServingUseId} {use : ActiveUse} (outcome : WorkOutcome) (detail : Str)
    (now : DurationNs) (huse : s.activeUses.lookup id = some use) (hopen : use.released = false) :
    (s.activeUses.modify id (closed outcome detail now)).count unreleased + 1 =
      s.activeUses.count unreleased := by
  have h := AList.count_modify unreleased (closed outcome detail now) huse
  simpa [unreleased, closed, hopen] using h

theorem Transition.useBound (h : Transition s op r s') (hs : UseBound s) : UseBound s' := by
  obtain ⟨hcount, hmax⟩ := hs
  cases h with
  | acquireServingUse hinc hcurrent hrunning hdrain hgen hprofile hengine hready hroom =>
    have hle := AList.count_insert_le unreleased s.activeUses
    refine ⟨?_, ?_⟩
    · simp only [storeUse, toNat_succ_of_room hroom]
      refine Nat.le_trans (hle _ _) (Nat.add_le_add hcount ?_)
      split <;> omega
    · simp only [storeUse, toNat_succ_of_room hroom]
      exact hroom
  | @releaseServingUseUnderflow token outcome detail now use e huse hopen hinc hzero =>
    have hclosed := count_closed outcome detail now huse hopen
    exact ⟨by simp only [Impl.modifyUse]; omega, hmax⟩
  | @releaseServingUse token outcome detail now use huse hopen hinc hne =>
    have hclosed := count_closed outcome detail now huse hopen
    have hpred := toNat_pred_of_ne_zero hne
    exact ⟨by simp only [settle, Impl.modifyDrain, Impl.modifyUse]; omega,
      by simp only [settle, Impl.modifyDrain, Impl.modifyUse]; omega⟩
  | _ => exact ⟨hcount, hmax⟩

/-! ## Open uses -/

/-- A use that is open after an operation was admitted by it, or was open before. -/
theorem Transition.openUse {x : ServingUseId} {u : ActiveUse} (h : Transition s op r s')
    (hu : s'.activeUses.lookup x = some u) (hopen : u.released = false) :
    (∃ wanted now admittedAt t inc, op = .acquireServingUse wanted now admittedAt ∧
      r = .ok (.token t) ∧ t.useId = x ∧ s.findInc wanted.incarnationId = some inc ∧
      u.incarnationId = inc.incarnationId) ∨
    (s.activeUses.lookup x = some u ∧ ∀ t, r = .ok (.token t) → t.useId ≠ x) := by
  cases h with
  | @acquireServingUse wanted now admittedAt inc _ _ hinc =>
    simp only [storeUse, Impl.modifyInc, AList.lookup_insert'] at hu
    split at hu
    · rename_i hx
      cases hu
      exact .inl ⟨wanted, now, admittedAt, _, inc, rfl, rfl, hx.symm, hinc, rfl⟩
    · rename_i hx
      refine .inr ⟨hu, fun t ht => ?_⟩
      cases ht
      exact fun heq => hx heq.symm
  | updateEngineConfig hr =>
    refine .inr ⟨hu, ?_⟩
    rcases hr with rfl | ⟨e, rfl⟩ <;> simp
  | @releaseServingUse token outcome detail now
  | @releaseServingUseUnderflow token outcome detail now =>
    refine .inr ⟨?_, by simp⟩
    have hu : (s.activeUses.modify token.useId (closed outcome detail now)).lookup x = some u := hu
    rw [AList.lookup_modify] at hu
    split at hu
    · obtain ⟨use, -, rfl⟩ := Option.map_eq_some_iff.mp hu
      cases hopen
    · exact hu
  | _ => exact .inr ⟨hu, by simp⟩

/-- The record of an admission is open and bound to the incarnation. -/
theorem Transition.admits {wanted t : ServingUseToken} {now admittedAt : DurationNs}
    (h : Transition s (.acquireServingUse wanted now admittedAt) (.ok (.token t)) s') :
    ∃ u inc, s'.activeUses.lookup t.useId = some u ∧ u.released = false ∧
      s.findInc wanted.incarnationId = some inc ∧ u.incarnationId = inc.incarnationId := by
  cases h with
  | acquireServingUse hinc => exact ⟨_, _, AList.lookup_insert _, rfl, hinc, rfl⟩

section Release

variable {token : ServingUseToken} {outcome : WorkOutcome} {detail : Str} {now : DurationNs}
  {use : ActiveUse}

/-- What a release does that names the incarnation of an open use. The use is closed before
the counter is looked at. -/
theorem releaseServingUse_spec (outcome : WorkOutcome) (detail : Str) (now : DurationNs)
    (huse : s.activeUses.lookup token.useId = some use) (hopen : use.released = false)
    (hinc : use.incarnationId = token.incarnationId) :
    (s.activeUseCount ≠ 0 →
      machine.result s (.releaseServingUse token outcome detail now) = .ok .done) ∧
    (machine.next s (.releaseServingUse token outcome detail now)).activeUses.lookup token.useId =
      some (closed outcome detail now use) := by
  have hclosed : (s.activeUses.modify token.useId (closed outcome detail now)).lookup token.useId =
      some (closed outcome detail now use) := by simp [huse]
  have hwp : wp (step (.releaseServingUse token outcome detail now)) (fun r s' =>
      (s.activeUseCount ≠ 0 → r = .ok .done) ∧
      s'.activeUses.lookup token.useId = some (closed outcome detail now use)) s := by
    refine wp_map (wp_get (wp_found_of_eq huse ?_))
    refine wp_passes (by simp [hopen]) (wp_passes (not_not_intro hinc) ?_)
    refine wp_modify (wp_rejectIf (fun hzero => ⟨fun hne => absurd hzero hne, hclosed⟩) fun _ => ?_)
    exact wp_modify (wp_pure ⟨fun _ => rfl, hclosed⟩)
  exact wp_iff.mp hwp

/-- A release that names the incarnation of an open use closes it. -/
theorem releaseServingUse_closes {u : ActiveUse}
    (huse : s.activeUses.lookup token.useId = some use) (hopen : use.released = false)
    (hinc : use.incarnationId = token.incarnationId)
    (hu : (machine.next s (.releaseServingUse token outcome detail now)).activeUses.lookup
      token.useId = some u) : u.released = true := by
  have hnext := (releaseServingUse_spec outcome detail now huse hopen hinc).2
  rw [Option.some.inj (hu.symm.trans hnext)]
  rfl

/-- A release that names the incarnation of an open use succeeds. -/
theorem releaseServingUse_open (hs : UseBound s)
    (huse : s.activeUses.lookup token.useId = some use) (hopen : use.released = false)
    (hinc : use.incarnationId = token.incarnationId) :
    machine.result s (.releaseServingUse token outcome detail now) = .ok .done ∧
      (machine.next s (.releaseServingUse token outcome detail now)).activeUses.lookup token.useId =
        some (closed outcome detail now use) := by
  obtain ⟨hresult, hnext⟩ := releaseServingUse_spec outcome detail now huse hopen hinc
  exact ⟨hresult (hs.count_ne_zero huse hopen), hnext⟩

end Release

/-! ## Exact accounts -/

/-- The token an operation has returned, if it has returned one. -/
def returnedToken : Op × Except Err Reply → Option ServingUseToken
  | (_, .ok (.token t)) => some t
  | _ => none

/-- The tokens that a run returns, in order: its successful acquisitions. -/
def acquisitions (s : Impl) (ops : List Op) : List ServingUseToken :=
  (machine.trace s ops).filterMap returnedToken

/-- Only an acquisition returns a token. -/
theorem Transition.acquires {t : ServingUseToken} (h : Transition s op r s')
    (htoken : returnedToken (op, r) = some t) :
    ∃ wanted now admittedAt, op = .acquireServingUse wanted now admittedAt := by
  cases h with
  | acquireServingUse => exact ⟨_, _, _, rfl⟩
  | updateEngineConfig hr => rcases hr with rfl | ⟨e, rfl⟩ <;> cases htoken
  | _ => cases htoken

/-- The counter is exact, and every record lies below the identities to come. -/
structure UseAccounts (s : Impl) : Prop where
  count_eq : s.activeUseCount.toNat = s.activeUses.count unreleased
  le_max : s.activeUseCount.toNat ≤ s.opts.maxActiveUses.toNat
  below : ∀ id u, s.activeUses.lookup id = some u → id.raw.toNat ≤ s.idUse.toNat + 1

/-- No use has been admitted so far. -/
structure Idle (s : Impl) : Prop where
  uses : s.activeUses = ∅
  count : s.activeUseCount = 0
  counter : s.idUse.toNat ≤ 1000000

theorem idle_new (opts : RuntimeOptions) : Idle (Impl.new opts) := ⟨rfl, rfl, Nat.zero_le _⟩

theorem Idle.accounts (h : Idle s) : UseAccounts s := by
  obtain ⟨huses, hcount, -⟩ := h
  refine ⟨by rw [huses, hcount]; rfl, by rw [hcount]; exact Nat.zero_le _, fun id u hu => ?_⟩
  rw [huses] at hu
  simp at hu

/-- An operation that admits nothing leaves an idle runtime idle. -/
theorem Transition.idle (h : Transition s op r s') (hs : Idle s)
    (hnone : returnedToken (op, r) = none) : Idle s' := by
  obtain ⟨huses, hcount, hcounter⟩ := hs
  cases h with
  | acquireServingUse => simp [returnedToken] at hnone
  | releaseServingUseUnderflow huse => simp [huses] at huse
  | releaseServingUse huse => simp [huses] at huse
  | load => exact ⟨huses, hcount, Nat.le_refl _⟩
  | _ => exact ⟨huses, hcount, hcounter⟩

/-- The identity counter moves with the admissions, unless a recovery resets it. -/
theorem Transition.idUse_eq (h : Transition s op r s') (hload : ¬ op.IsLoad)
    (hnone : returnedToken (op, r) = none) : s'.idUse = s.idUse := by
  cases h with
  | acquireServingUse => simp [returnedToken] at hnone
  | load => exact absurd trivial hload
  | _ => rfl

/-- An admission takes the next identity. -/
theorem Transition.idUse_succ {t : ServingUseToken} (h : Transition s op r s')
    (hsome : returnedToken (op, r) = some t) (hcap : s.idUse.toNat + 2 < 2 ^ 64) :
    s'.idUse.toNat = s.idUse.toNat + 1 ∧ t.useId.raw.toNat = s.idUse.toNat + 2 := by
  have hone : (1 : UInt64).toNat = 1 := rfl
  cases h with
  | acquireServingUse =>
    simp only [returnedToken, Option.some.injEq] at hsome
    subst hsome
    simp only [storeUse, admittedToken, UInt64.toNat_add, hone]
    omega
  | updateEngineConfig hr =>
    rcases hr with rfl | ⟨e, rfl⟩ <;> simp [returnedToken] at hsome
  | _ => simp [returnedToken] at hsome

/-- The identity of an admission is not in use. -/
theorem UseAccounts.fresh (h : UseAccounts s) (hcap : s.idUse.toNat + 2 < 2 ^ 64) :
    s.activeUses.lookup ⟨s.idUse + 1 + 1⟩ = none := by
  have hone : (1 : UInt64).toNat = 1 := rfl
  cases hu : s.activeUses.lookup ⟨s.idUse + 1 + 1⟩ with
  | none => rfl
  | some u =>
    have hle := h.below _ u hu
    simp only [UInt64.toNat_add, hone] at hle
    omega

theorem UseAccounts.bound (h : UseAccounts s) : UseBound s :=
  ⟨Nat.le_of_eq h.count_eq.symm, h.le_max⟩

theorem Transition.accounts (h : Transition s op r s') (hs : UseAccounts s) (hload : ¬ op.IsLoad)
    (hcap : s.idUse.toNat + 2 < 2 ^ 64) : UseAccounts s' := by
  have hfresh := hs.fresh hcap
  have hbound := hs.bound
  obtain ⟨hcount, hmax, hbelow⟩ := hs
  have hone : (1 : UInt64).toNat = 1 := rfl
  cases h with
  | @acquireServingUse wanted now admittedAt inc profile engine hinc hcurrent hrunning hdrain hgen
      hprofile hengine hready hroom =>
    have hcount' := AList.count_insert_of_lookup_none unreleased
      (admittedUse s wanted inc admittedAt) hfresh
    refine ⟨?_, ?_, fun id u hu => ?_⟩
    · simp only [storeUse, toNat_succ_of_room hroom]
      exact (hcount'.trans (by rw [← hcount]; rfl)).symm
    · simp only [storeUse, toNat_succ_of_room hroom]
      exact hroom
    · simp only [storeUse, UInt64.toNat_add, hone] at hu ⊢
      rw [AList.lookup_insert'] at hu
      split at hu
      · rename_i hid
        rw [hid]
        simp only [admittedUse, admittedToken, UInt64.toNat_add, hone]
        omega
      · have := hbelow id u hu
        omega
  | releaseServingUseUnderflow huse hopen _ hzero =>
    exact absurd hzero (hbound.count_ne_zero huse hopen)
  | @releaseServingUse token outcome detail now use huse hopen hinc hne =>
    have hclosed := count_closed outcome detail now huse hopen
    have hpred := toNat_pred_of_ne_zero hne
    refine ⟨?_, ?_, fun id u hu => ?_⟩
    · simp only [settle, Impl.modifyDrain, Impl.modifyUse]; omega
    · simp only [settle, Impl.modifyDrain, Impl.modifyUse]; omega
    · simp only [settle, Impl.modifyDrain, Impl.modifyUse, AList.lookup_modify] at hu ⊢
      split at hu
      · rename_i hid
        exact hid ▸ hbelow _ use huse
      · exact hbelow id u hu
  | load => exact absurd trivial hload
  | _ => exact ⟨hcount, hmax, hbelow⟩

/-! ## What is counted out -/

/-- The use that an operation has released, if it has released one. -/
def releasedUse : Op × Except Err Reply → Option ServingUseId
  | (.releaseServingUse token _ _ _, .ok _) => some token.useId
  | _ => none

theorem releasedUse_refused (op : Op) (e : Err) : releasedUse (op, .error e) = none := by
  cases op <;> rfl

/-- The use is there and released. -/
def isReleased (s : Impl) (id : ServingUseId) : Bool := (s.activeUses.lookup id).any (·.released)

/-- An admission counts a use in, and a release counts one out. -/
theorem Transition.counts (h : Transition s op r s') (hs : UseBound s) :
    s'.activeUseCount.toNat + (releasedUse (op, r)).toList.length =
      s.activeUseCount.toNat + (returnedToken (op, r)).toList.length := by
  cases h with
  | refused => rw [releasedUse_refused]; rfl
  | acquireServingUse _ _ _ _ _ _ _ _ hroom => exact toNat_succ_of_room hroom
  | releaseServingUseUnderflow huse hopen _ hzero =>
    exact absurd hzero (hs.count_ne_zero huse hopen)
  | releaseServingUse _ _ _ hne => exact toNat_pred_of_ne_zero hne
  | updateEngineConfig hr => rcases hr with rfl | ⟨e, rfl⟩ <;> rfl
  | _ => rfl

/-- A use is released by the release that counts it out, and by no other. -/
theorem Transition.isReleased (h : Transition s op r s') (hs : UseAccounts s)
    (hcap : s.idUse.toNat + 2 < 2 ^ 64) (id : ServingUseId) :
    (isReleased s' id).toNat = (isReleased s id).toNat + (releasedUse (op, r)).toList.count id := by
  cases h with
  | refused => rw [releasedUse_refused]; rfl
  | @acquireServingUse wanted now admittedAt inc =>
    refine congrArg Bool.toNat (Eq.trans ?_ rfl)
    simp only [Runtime.isReleased, storeUse]
    rw [AList.lookup_insert']
    split
    · rename_i heq
      have hfresh : s.activeUses.lookup id = none := heq ▸ hs.fresh hcap
      rw [hfresh]
      rfl
    · rfl
  | releaseServingUseUnderflow huse hopen _ hzero =>
    exact absurd hzero (hs.bound.count_ne_zero huse hopen)
  | @releaseServingUse token outcome detail now use huse hopen =>
    simp only [Runtime.isReleased, settle, Impl.modifyDrain, Impl.modifyUse, releasedUse]
    rw [AList.lookup_modify]
    by_cases heq : id = token.useId
    · subst heq
      simp [huse, hopen, closed]
    · rw [if_neg heq]
      simp [Ne.symm heq]
  | updateEngineConfig hr => rcases hr with rfl | ⟨e, rfl⟩ <;> rfl
  | _ => rfl

/-! ## Records are permanent -/

/-- What the operations `ops` may do to the record of a use: close it once, by a
release that names its own incarnation. -/
structure UseKept (ops : List Op) (id : ServingUseId) (u u' : ActiveUse) : Prop where
  /-- The bindings of the use are those of its admission. -/
  bindings : u' =
    { u with
      released := u'.released
      outcome := u'.outcome
      releasedAtNs := u'.releasedAtNs
      detail := u'.detail }
  /-- A released use never changes again. -/
  final : u.released = true → u' = u
  released_by : u'.released ≠ u.released → ∃ token outcome detail now,
    Op.releaseServingUse token outcome detail now ∈ ops ∧ token.useId = id ∧
      token.incarnationId = u.incarnationId

theorem UseKept.refl {ops : List Op} {id : ServingUseId} (u : ActiveUse) : UseKept ops id u u :=
  ⟨rfl, fun _ => rfl, fun h => absurd rfl h⟩

theorem UseKept.cons {ops : List Op} {id : ServingUseId} {u₁ u₂ u₃ : ActiveUse}
    (h₁ : UseKept [op] id u₁ u₂) (h₂ : UseKept ops id u₂ u₃) : UseKept (op :: ops) id u₁ u₃ := by
  refine ⟨by rw [h₂.bindings, h₁.bindings], fun hrel => ?_, fun hne => ?_⟩
  · have h := h₁.final hrel
    subst h
    exact h₂.final hrel
  · by_cases hfirst : u₂.released = u₁.released
    · obtain ⟨token, outcome, detail, now, hmem, hid, hinc⟩ :=
        h₂.released_by (by rwa [hfirst])
      have hsame : u₂.incarnationId = u₁.incarnationId := by rw [h₁.bindings]
      exact ⟨token, outcome, detail, now, List.mem_cons_of_mem _ hmem, hid, hinc.trans hsame⟩
    · obtain ⟨token, outcome, detail, now, hmem, hid, hinc⟩ := h₁.released_by hfirst
      rw [List.mem_singleton] at hmem
      exact ⟨token, outcome, detail, now, hmem ▸ List.mem_cons_self, hid, hinc⟩

/-- Closing the use that a release names. -/
theorem useKept_modify {token : ServingUseToken} {outcome : WorkOutcome} {detail : Str}
    {now : DurationNs} {use u : ActiveUse} {id : ServingUseId}
    (huse : s.activeUses.lookup token.useId = some use) (hopen : use.released = false)
    (hinc : use.incarnationId = token.incarnationId) (hu : s.activeUses.lookup id = some u) :
    ∃ u', (s.activeUses.modify token.useId (closed outcome detail now)).lookup id = some u' ∧
      UseKept [.releaseServingUse token outcome detail now] id u u' := by
  rw [AList.lookup_modify]
  by_cases hid : id = token.useId
  · subst hid
    rw [if_pos rfl, huse]
    have heq : u = use := Option.some.inj (hu.symm.trans huse)
    subst heq
    refine ⟨_, rfl, rfl, fun hrel => ?_, fun _ => ?_⟩
    · rw [hopen] at hrel
      cases hrel
    · exact ⟨token, outcome, detail, now, List.mem_singleton_self _, rfl, hinc.symm⟩
  · rw [if_neg hid]
    exact ⟨u, hu, .refl u⟩

theorem Transition.useKept {id : ServingUseId} {u : ActiveUse} (h : Transition s op r s')
    (hs : UseAccounts s) (hcap : s.idUse.toNat + 2 < 2 ^ 64)
    (hu : s.activeUses.lookup id = some u) :
    ∃ u', s'.activeUses.lookup id = some u' ∧ UseKept [op] id u u' := by
  cases h with
  | acquireServingUse =>
    have hne : id ≠ ⟨s.idUse + 1 + 1⟩ := by
      rintro rfl
      rw [hs.fresh hcap] at hu
      cases hu
    refine ⟨u, ?_, .refl u⟩
    simp only [storeUse]
    exact (AList.lookup_insert_ne hne).trans hu
  | releaseServingUseUnderflow huse hopen hinc => exact useKept_modify huse hopen hinc hu
  | releaseServingUse huse hopen hinc => exact useKept_modify huse hopen hinc hu
  | _ => exact ⟨u, hu, .refl u⟩

/-! ## Whole runs -/

theorem acquisitions_cons (s : Impl) (op : Op) (ops : List Op) :
    acquisitions s (op :: ops) =
      (returnedToken (op, machine.result s op)).toList ++ acquisitions (machine.next s op) ops := by
  simp only [acquisitions, Machine.trace, List.filterMap_cons]
  cases returnedToken (op, machine.result s op) <;> rfl

theorem acquisitions_append (s : Impl) (os₁ os₂ : List Op) :
    acquisitions s (os₁ ++ os₂) = acquisitions s os₁ ++ acquisitions (machine.exec s os₁) os₂ := by
  simp only [acquisitions, Machine.trace_append, List.filterMap_append]

/-- A run without an admission stays idle. -/
theorem idle_exec {ops : List Op} (hs : Idle s) (hnone : acquisitions s ops = []) :
    Idle (machine.exec s ops) := by
  induction ops generalizing s with
  | nil => exact hs
  | cons op ops ih =>
    rw [acquisitions_cons, List.append_eq_nil_iff, Option.toList_eq_nil_iff] at hnone
    exact ih ((step_transition s op).idle hs hnone.1) hnone.2

/-- What a run from exact accounts does: the accounts stay exact, it returns new
identities only, and it keeps the record of every use. -/
structure AccountedRun (s : Impl) (ops : List Op) : Prop where
  accounts : UseAccounts (machine.exec s ops)
  counter : (machine.exec s ops).idUse.toNat = s.idUse.toNat + (acquisitions s ops).length
  above : ∀ t ∈ acquisitions s ops, s.idUse.toNat + 1 < t.useId.raw.toNat
  nodup : ((acquisitions s ops).map ServingUseToken.useId).Nodup
  kept : ∀ id u, s.activeUses.lookup id = some u →
    ∃ u', (machine.exec s ops).activeUses.lookup id = some u' ∧ UseKept ops id u u'

/-- The identities of a run, given those of its rest. -/
theorem acquisitions_fresh {ops : List Op} (hop : ¬ op.IsLoad) (hcap : s.idUse.toNat + 2 < 2 ^ 64)
    (hrest : AccountedRun (machine.next s op) ops) :
    (∀ t ∈ acquisitions s (op :: ops), s.idUse.toNat + 1 < t.useId.raw.toNat) ∧
      ((acquisitions s (op :: ops)).map ServingUseToken.useId).Nodup := by
  have hstep := step_transition s op
  rw [acquisitions_cons]
  cases htok : returnedToken (op, machine.result s op) with
  | none =>
    have habove := hrest.above
    rw [hstep.idUse_eq hop htok] at habove
    exact ⟨by simpa using habove, by simpa using hrest.nodup⟩
  | some t₀ =>
    obtain ⟨hid, hval⟩ := hstep.idUse_succ htok hcap
    have habove : ∀ t ∈ acquisitions (machine.next s op) ops,
        s.idUse.toNat + 2 < t.useId.raw.toNat := fun t ht => by
      have := hrest.above t ht
      omega
    simp only [Option.toList_some, List.singleton_append, List.mem_cons, List.map_cons,
      List.nodup_cons]
    refine ⟨?_, ?_, hrest.nodup⟩
    · rintro t (rfl | ht)
      · omega
      · have := habove t ht
        omega
    · intro hmem
      obtain ⟨t, ht, heq⟩ := List.mem_map.mp hmem
      have := habove t ht
      rw [heq] at this
      omega

theorem accountedRun {ops : List Op} (hs : UseAccounts s) (hload : ∀ op ∈ ops, ¬ op.IsLoad)
    (hcap : s.idUse.toNat + (acquisitions s ops).length + 2 < 2 ^ 64) : AccountedRun s ops := by
  induction ops generalizing s with
  | nil =>
    exact ⟨hs, rfl, by simp [acquisitions, Machine.trace], List.nodup_nil,
      fun id u hu => ⟨u, hu, .refl u⟩⟩
  | cons op ops ih =>
    have hstep := step_transition s op
    have hop : ¬ op.IsLoad := hload op List.mem_cons_self
    have hroom : s.idUse.toNat + 2 < 2 ^ 64 := by omega
    have hcounter : (machine.next s op).idUse.toNat +
        (acquisitions (machine.next s op) ops).length =
          s.idUse.toNat + (acquisitions s (op :: ops)).length := by
      rw [acquisitions_cons]
      cases htok : returnedToken (op, machine.result s op) with
      | none => simp [hstep.idUse_eq hop htok]
      | some t =>
        have hid := (hstep.idUse_succ htok hroom).1
        simp only [Option.toList_some, List.singleton_append, List.length_cons]
        omega
    have hrest := ih (hstep.accounts hs hop hroom)
      (fun o ho => hload o (List.mem_cons_of_mem op ho)) (by omega)
    obtain ⟨habove, hnodup⟩ := acquisitions_fresh hop hroom hrest
    refine ⟨hrest.accounts, hrest.counter.trans hcounter, habove, hnodup, fun id u hu => ?_⟩
    obtain ⟨u₁, hu₁, hkept₁⟩ := hstep.useKept hs hroom hu
    obtain ⟨u₂, hu₂, hkept₂⟩ := hrest.kept id u₁ hu₁
    exact ⟨u₂, hu₂, hkept₁.cons hkept₂⟩

/-- The rest of an accounted run, from any point of it. -/
theorem accountedRun_suffix {os₁ os₂ : List Op} (hs : UseAccounts s)
    (hload : ∀ op ∈ os₁ ++ os₂, ¬ op.IsLoad)
    (hcap : s.idUse.toNat + (acquisitions s (os₁ ++ os₂)).length + 2 < 2 ^ 64) :
    AccountedRun (machine.exec s os₁) os₂ := by
  rw [acquisitions_append, List.length_append] at hcap
  have hfirst := accountedRun hs (fun op hop => hload op (List.mem_append_left os₂ hop)) (by omega)
  have hcounter := hfirst.counter
  exact accountedRun hfirst.accounts (fun op hop => hload op (List.mem_append_right os₁ hop))
    (by omega)

/-- The throw that reports more releases than admissions. -/
def useUnderflow : Err := domainError .invalidState "active use underflow"

/-- A release that reports an underflow has found an open use and a zero counter. -/
theorem release_underflow {token : ServingUseToken} {outcome : WorkOutcome} {detail : Str}
    {now : DurationNs}
    (h : machine.result s (.releaseServingUse token outcome detail now) = .error useUnderflow) :
    s.activeUseCount = 0 ∧
      ∃ use, s.activeUses.lookup token.useId = some use ∧ use.released = false := by
  have hwp : wp (releaseServingUse token outcome detail now)
      (fun r _ => r.map (fun _ => Reply.done) = .error useUnderflow → s.activeUseCount = 0 ∧
        ∃ use, s.activeUses.lookup token.useId = some use ∧ use.released = false) s := by
    refine wp_get ?_
    refine wp_found (fun _ hr => absurd hr (by simp [Except.map, useUnderflow, domainError]))
      fun use huse => ?_
    refine wp_rejectIf (fun _ hr => absurd hr (by simp [Except.map, useUnderflow, domainError]))
      fun hopen => ?_
    refine wp_rejectIf (fun _ hr => absurd hr (by simp [Except.map, useUnderflow, domainError]))
      fun _ => ?_
    refine wp_modify ?_
    refine wp_rejectIf (fun hzero _ => ⟨hzero, use, huse, by simpa using hopen⟩) fun _ => ?_
    exact wp_modify (wp_pure fun hr => by simp [Except.map] at hr)
  have hstep : wp (step (.releaseServingUse token outcome detail now))
      (fun r _ => r = .error useUnderflow → s.activeUseCount = 0 ∧
        ∃ use, s.activeUses.lookup token.useId = some use ∧ use.released = false) s :=
    wp_map hwp
  exact wp_iff.mp hstep h

/-! ## Tables that fit in memory -/

/-- The records of uses are no more than a `std::map` can hold. -/
def UsesFit (s : Impl) : Prop := s.activeUses.size < 2 ^ 63

/-- Records of uses are never removed. -/
theorem Transition.uses_size (h : Transition s op r s') : s.activeUses.size ≤ s'.activeUses.size := by
  cases h with
  | acquireServingUse => exact AList.size_le_size_insert _ _ _
  | releaseServingUseUnderflow => exact (AList.size_mapEntries _ _).ge
  | releaseServingUse => exact (AList.size_mapEntries _ _).ge
  | _ => exact Nat.le_refl _

/-- Every admission has left a record of its own. -/
structure UsesNumbered (s : Impl) : Prop where
  accounts : UseAccounts s
  idUse_eq : s.idUse.toNat = s.activeUses.size

theorem UsesNumbered.fresh (h : UsesNumbered s) (hfit : UsesFit s) :
    s.activeUses.lookup ⟨s.idUse + 1 + 1⟩ = none := by
  apply h.accounts.fresh
  have := h.idUse_eq
  unfold UsesFit at hfit
  omega

/-- The identity counter and the table of records grow together. -/
theorem Transition.idUse_size (h : Transition s op r s') (hload : ¬ op.IsLoad)
    (hs : UseAccounts s) (hcap : s.idUse.toNat + 2 < 2 ^ 64) :
    s'.idUse.toNat + s.activeUses.size = s.idUse.toNat + s'.activeUses.size := by
  cases h with
  | acquireServingUse =>
    have hone : (1 : UInt64).toNat = 1 := rfl
    simp only [storeUse, admittedUse, admittedToken, UInt64.toNat_add, hone,
      AList.size_insert_of_not_mem (hs.fresh hcap)]
    omega
  | releaseServingUseUnderflow => exact congrArg _ (AList.size_mapEntries _ _).symm
  | releaseServingUse => exact congrArg _ (AList.size_mapEntries _ _).symm
  | load => exact absurd trivial hload
  | _ => rfl

theorem Transition.usesNumbered (h : Transition s op r s') (hs : UsesNumbered s)
    (hload : ¬ op.IsLoad) (hfit : UsesFit s) : UsesNumbered s' := by
  have heq := hs.idUse_eq
  have hcap : s.idUse.toNat + 2 < 2 ^ 64 := by
    unfold UsesFit at hfit
    omega
  have hsize := h.idUse_size hload hs.accounts hcap
  exact ⟨h.accounts hs.accounts hload hcap, by omega⟩

/-- A table that fits has fitted all along. -/
theorem usesNumbered_exec (opts : RuntimeOptions) {ops : List Op} (hload : ∀ op ∈ ops, ¬ op.IsLoad)
    (hfit : UsesFit (machine.exec (Impl.new opts) ops)) :
    UsesNumbered (machine.exec (Impl.new opts) ops) := by
  refine machine.exec_invariant (C := fun _ op => ¬ op.IsLoad)
    (I := fun s => UsesFit s → UsesNumbered s) (fun _ => ⟨(idle_new opts).accounts, rfl⟩)
    (Machine.along_of_mem fun op hop _ => hload op hop) (fun s op hs hop hfit => ?_) hfit
  have htrans := step_transition s op
  have hbefore : UsesFit s := lt_of_le_of_lt htrans.uses_size hfit
  exact htrans.usesNumbered (hs hbefore) hop hbefore

/-- Exact accounting. A run from a new runtime may recover a saved state only before
its first admission, and admits fewer than `2 ^ 63` uses. Then the counter equals the
number of unreleased uses and stays within its maximum, the identities it has returned
are distinct, a record is closed at most once, by a release that names its own
incarnation, and keeps its bindings for good, and the underflow is not reached. -/
theorem serving_use_accounting (opts : RuntimeOptions) (os₁ os₂ : List Op)
    (hidle : acquisitions (Impl.new opts) os₁ = []) (hload : ∀ op ∈ os₂, ¬ op.IsLoad)
    (hcap : (acquisitions (Impl.new opts) (os₁ ++ os₂)).length < 2 ^ 63) :
    let s := machine.exec (Impl.new opts) (os₁ ++ os₂)
    s.activeUseCount.toNat = s.activeUses.count unreleased ∧
    s.activeUseCount.toNat ≤ s.opts.maxActiveUses.toNat ∧
    ((acquisitions (Impl.new opts) (os₁ ++ os₂)).map ServingUseToken.useId).Nodup ∧
    (∀ before after, os₁ ++ os₂ = before ++ after →
      ∀ id u, (machine.exec (Impl.new opts) before).activeUses.lookup id = some u →
        ∃ u', s.activeUses.lookup id = some u' ∧ UseKept after id u u') ∧
    (∀ token outcome detail now,
      machine.result s (.releaseServingUse token outcome detail now) ≠ .error useUnderflow) := by
  intro s
  have hstart : Idle (machine.exec (Impl.new opts) os₁) := idle_exec (idle_new opts) hidle
  have hsame : acquisitions (Impl.new opts) (os₁ ++ os₂) =
      acquisitions (machine.exec (Impl.new opts) os₁) os₂ := by
    rw [acquisitions_append, hidle, List.nil_append]
  have hs : s = machine.exec (machine.exec (Impl.new opts) os₁) os₂ :=
    machine.exec_append (Impl.new opts) os₁ os₂
  have hcounter := hstart.counter
  rw [hsame] at hcap ⊢
  have hroom : (machine.exec (Impl.new opts) os₁).idUse.toNat +
      (acquisitions (machine.exec (Impl.new opts) os₁) os₂).length + 2 < 2 ^ 64 := by omega
  have hrun := accountedRun hstart.accounts hload hroom
  have haccounts : UseAccounts s := hs ▸ hrun.accounts
  refine ⟨haccounts.count_eq, haccounts.le_max, hrun.nodup, ?_, ?_⟩
  · intro before after hsplit id u hu
    rcases List.append_eq_append_iff.mp hsplit with ⟨mid, rfl, rfl⟩ | ⟨mid, rfl, rfl⟩
    · rw [Machine.exec_append] at hu
      have hkept := (accountedRun_suffix hstart.accounts hload hroom).kept id u hu
      rwa [← Machine.exec_append, ← hs] at hkept
    · -- Nothing has been admitted before the split.
      rw [acquisitions_append, List.append_eq_nil_iff] at hidle
      rw [(idle_exec (idle_new opts) hidle.1).uses] at hu
      simp at hu
  · intro token outcome detail now hres
    obtain ⟨hzero, use, huse, hopen⟩ := release_underflow hres
    exact haccounts.bound.count_ne_zero huse hopen hzero

theorem serving_use_accounting_sample :
    (acquisitions (Impl.new {}) (sampleStart ++ [sampleAcquire, sampleRelease])).length = 1 ∧
      (machine.exec (Impl.new {})
        (sampleStart ++ [sampleAcquire, sampleRelease])).activeUseCount.toNat =
      (machine.exec (Impl.new {})
        (sampleStart ++ [sampleAcquire, sampleRelease])).activeUses.count unreleased := by
  have hload : ∀ op ∈ [sampleAcquire, sampleRelease], ¬ op.IsLoad := by decide
  have hone : (acquisitions (Impl.new {})
      (sampleStart ++ [sampleAcquire, sampleRelease])).length = 1 := by decide
  exact ⟨hone, (serving_use_accounting {} sampleStart [sampleAcquire, sampleRelease] (by decide)
    hload (by rw [hone]; decide)).1⟩

end EngineResidency.Runtime
