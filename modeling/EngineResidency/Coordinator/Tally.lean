-- SUMMARY: Which serving uses the threads of the coordinator acquire and release, over whole runs.
import EngineResidency.Coordinator.Cleanup
import EngineResidency.Coordinator.Commands

/-!
# A tally of serving uses

The log of a run tells which uses its threads have acquired, for which incarnation, and
which releases they have asked for. As long as the table of uses fits in memory no identity
is given out twice, and a use is released if and only if a release was asked for that names
it and its incarnation. So what a thread does is enough to tell whether its uses are
released, whatever the other threads do.
-/

namespace EngineResidency.Coordinator

open EngineResidency.Runtime

/-! ## The tally -/

/-- The use that a step has acquired. -/
def acquiredBy : Deed → Option ServingUseId
  | ⟨.call _, .ok (.token t)⟩ => some t.useId
  | _ => none

/-- The use that a step has released, and counted out. -/
def countedOutBy : Deed → Option ServingUseId
  | ⟨.call (.releaseServingUse token _ _), .ok _⟩ => some token.useId
  | _ => none

/-- The step acquires the use for the incarnation. -/
def Acquires (x : ServingUseId) (id : EngineIncarnationId) (e : Deed) : Prop :=
  ∃ wanted t, e = ⟨.call (.acquireServingUse wanted), .ok (.token t)⟩ ∧ t.useId = x ∧
    wanted.incarnationId = id

/-- The step asks for the release of the use of the incarnation, whatever the answer. -/
def Releases (x : ServingUseId) (id : EngineIncarnationId) (e : Deed) : Prop :=
  ∃ token outcome detail r, e = ⟨.call (.releaseServingUse token outcome detail), r⟩ ∧
    token.useId = x ∧ token.incarnationId = id

/-- What holds of the steps `D` of a run and the runtime. -/
structure Tallied (D : List Deed) (s : Impl) : Prop where
  keyed : KeyedById s
  accounts : UseAccounts s
  counter : s.idUse.toNat ≤ s.activeUses.size + 1000000
  /-- A use is released if its release was asked for since it was acquired. -/
  acquired : ∀ pre e post x id, D = pre ++ e :: post → Acquires x id e →
    ∃ u, s.activeUses.lookup x = some u ∧ u.incarnationId = id ∧
      (u.released = true ↔ ∃ e' ∈ post, Releases x id e')
  released : ∀ x, (D.filterMap countedOutBy).count x = (isReleased s x).toNat
  total : s.activeUseCount.toNat + (D.filterMap countedOutBy).length =
    (D.filterMap acquiredBy).length

section Tally

variable {D : List Deed} {s : Impl} {x : ServingUseId} {id : EngineIncarnationId}

theorem Tallied.room (htally : Tallied D s) (hfit : UsesFit s) : s.idUse.toNat + 2 < 2 ^ 64 := by
  have hcounter := htally.counter
  unfold UsesFit at hfit
  omega

/-- An action that is no call leaves the tally as it is. -/
theorem Tallied.act (htally : Tallied D s) {a : Action} (ha : ∀ c, a ≠ .call c) (r : a.Res) :
    Tallied (D ++ [⟨a, r⟩]) s := by
  have hnone : acquiredBy ⟨a, r⟩ = none ∧ countedOutBy ⟨a, r⟩ = none := by
    cases a with
    | call c => exact absurd rfl (ha c)
    | _ => exact ⟨rfl, rfl⟩
  refine ⟨htally.keyed, htally.accounts, htally.counter, fun pre e post x id hsplit hacq => ?_,
    fun x => ?_, ?_⟩
  · rcases List.concat_split hsplit with ⟨-, rfl, -⟩ | ⟨rest, rfl, hD⟩
    · obtain ⟨wanted, t, heq, -⟩ := hacq
      cases heq
      exact absurd rfl (ha _)
    · obtain ⟨u, hu, hid, hreleased⟩ := htally.acquired pre e rest x id hD hacq
      refine ⟨u, hu, hid, hreleased.trans ?_⟩
      simp only [List.mem_append, List.mem_singleton]
      constructor
      · rintro ⟨e', he', hreleases⟩
        exact ⟨e', .inl he', hreleases⟩
      · rintro ⟨e', he' | rfl, hreleases⟩
        · exact ⟨e', he', hreleases⟩
        · obtain ⟨token, outcome, detail, r', heq, -⟩ := hreleases
          cases heq
          exact absurd rfl (ha _)
  · rw [List.filterMap_concat, hnone.2, Option.toList_none, List.append_nil]
    exact htally.released x
  · rw [List.filterMap_concat, List.filterMap_concat, hnone.1, hnone.2, Option.toList_none, List.append_nil,
      List.append_nil]
    exact htally.total

/-! ### Calls -/

variable {c : Call} {now admittedAt : DurationNs}

theorem acquiredBy_call (c : Call) (r : Except Err Reply) (now admittedAt : DurationNs) :
    acquiredBy ⟨.call c, r⟩ = (returnedToken (c.op now admittedAt, r)).map (·.useId) := by
  rcases r with e | reply
  · rfl
  · cases reply <;> rfl

theorem countedOutBy_call (c : Call) (r : Except Err Reply) (now admittedAt : DurationNs) :
    countedOutBy ⟨.call c, r⟩ = releasedUse (c.op now admittedAt, r) := by
  rcases r with e | reply
  · cases c <;> rfl
  · cases c <;> rfl

/-- A release that names a use and its incarnation releases it, if it is not released. -/
theorem released_of_releases {u u' : ActiveUse} {r : Except Err Reply}
    (hu : s.activeUses.lookup x = some u) (hid : u.incarnationId = id)
    (hu' : (machine.next s (c.op now admittedAt)).activeUses.lookup x = some u')
    (hfinal : u.released = true → u' = u) (hreleases : Releases x id ⟨.call c, r⟩) :
    u'.released = true := by
  obtain ⟨token, outcome, detail, r', heq, rfl, rfl⟩ := hreleases
  cases heq
  cases hreleased : u.released with
  | true => rw [hfinal hreleased, hreleased]
  | false => exact releaseServingUse_closes hu hreleased hid hu'

/-- A call keeps the tally. -/
theorem Tallied.call (htally : Tallied D s) (hfit : UsesFit s) (c : Call)
    (now admittedAt : DurationNs) :
    Tallied (D ++ [⟨.call c, machine.result s (c.op now admittedAt)⟩])
      (machine.next s (c.op now admittedAt)) := by
  have h := step_transition s (c.op now admittedAt)
  have hcap := htally.room hfit
  have hload := c.not_isLoad now admittedAt
  refine ⟨h.keyedById htally.keyed, h.accounts htally.accounts hload hcap, ?_,
    fun pre e post x id hsplit hacq => ?_, fun x => ?_, ?_⟩
  · have hsize := h.idUse_size hload htally.accounts hcap
    have hcounter := htally.counter
    omega
  · rcases List.concat_split hsplit with ⟨-, rfl, rfl⟩ | ⟨rest, rfl, hD⟩
    · obtain ⟨wanted, t, heq, rfl, rfl⟩ := hacq
      obtain ⟨hc, hr⟩ := Sigma.mk.inj heq
      cases hc
      rw [eq_of_heq hr] at h
      obtain ⟨u, inc, hu, hopen, hinc, hid⟩ := h.admits
      refine ⟨u, hu, hid.trans (htally.keyed _ inc hinc), ?_⟩
      rw [hopen]
      simp
    · obtain ⟨u, hu, hid, hreleased⟩ := htally.acquired pre e rest x id hD hacq
      obtain ⟨u', hu', hkept⟩ := h.useKept htally.accounts hcap hu
      have hid' : u'.incarnationId = id := by rw [hkept.bindings]; exact hid
      refine ⟨u', hu', hid', fun hclosed => ?_, ?_⟩
      · cases hbefore : u.released with
        | true =>
          obtain ⟨e', he', hreleases⟩ := hreleased.mp hbefore
          exact ⟨e', List.mem_append_left _ he', hreleases⟩
        | false =>
          obtain ⟨token, outcome, detail, now', hop, htoken, hinc⟩ :=
            hkept.released_by (by rw [hclosed, hbefore]; nofun)
          refine ⟨_, List.mem_append_right _ (List.mem_singleton_self _), ?_⟩
          cases c with
          | releaseServingUse token' outcome' detail' =>
            cases List.mem_singleton.mp hop
            exact ⟨token, outcome, detail, _, rfl, htoken, hinc.trans hid⟩
          | _ => cases List.mem_singleton.mp hop
      · rintro ⟨e', he', hreleases⟩
        rcases List.mem_append.mp he' with hold | hnew
        · have hbefore := hreleased.mpr ⟨e', hold, hreleases⟩
          rw [hkept.final hbefore, hbefore]
        · rw [List.mem_singleton.mp hnew] at hreleases
          exact released_of_releases hu hid hu' hkept.final hreleases
  · rw [List.filterMap_concat, List.count_append, htally.released x, countedOutBy_call c _ now admittedAt]
    exact (h.isReleased htally.accounts hcap x).symm
  · have hcounts := h.counts htally.accounts.bound
    have htotal := htally.total
    rw [List.filterMap_concat, List.filterMap_concat, List.length_append, List.length_append,
      countedOutBy_call c _ now admittedAt, acquiredBy_call c _ now admittedAt, Option.toList_map,
      List.length_map]
    omega

/-- Without an admission there is nothing to tally. -/
theorem Tallied.of_idle (hidle : Idle s) (hkeyed : KeyedById s) : Tallied [] s := by
  refine ⟨hkeyed, hidle.accounts, ?_, fun pre e post x id hsplit => ?_, fun x => ?_, ?_⟩
  · exact Nat.le_trans hidle.counter (Nat.le_add_left _ _)
  · cases pre <;> cases hsplit
  · simp [isReleased, hidle.uses]
  · simp [hidle.count]

end Tally

/-! ### What a thread owes -/

section Owed

variable {D h : List Deed} {s : Impl} {x : ServingUseId} {id : EngineIncarnationId}

/-- The use was acquired for the incarnation, and its release was asked for since. -/
def ReleaseAsked (D : List Deed) (x : ServingUseId) (id : EngineIncarnationId) : Prop :=
  ∃ pre e post, D = pre ++ e :: post ∧ Acquires x id e ∧ ∃ e' ∈ post, Releases x id e'

theorem ReleaseAsked.append (hasked : ReleaseAsked D x id) (es : List Deed) :
    ReleaseAsked (D ++ es) x id := by
  obtain ⟨pre, e, post, rfl, hacq, e', he', hreleases⟩ := hasked
  exact ⟨pre, e, post ++ es, by simp, hacq, e', List.mem_append_left es he', hreleases⟩

theorem ReleaseAsked.of_sublist (hasked : ReleaseAsked h x id) (hsub : h.Sublist D) :
    ReleaseAsked D x id := by
  obtain ⟨pre, e, post, rfl, hacq, e', he', hreleases⟩ := hasked
  obtain ⟨D₁, D₂, rfl, -, hrest⟩ := List.append_sublist_iff.mp hsub
  obtain ⟨D₃, D₄, rfl, he, hpost⟩ := List.cons_sublist_iff.mp hrest
  obtain ⟨before, after, rfl⟩ := List.append_of_mem he
  exact ⟨D₁ ++ before, e, after ++ D₄, by simp, hacq, e',
    List.mem_append_right after (hpost.mem he'), hreleases⟩

/-- A use whose release was asked for is released. -/
theorem Tallied.isReleased (htally : Tallied D s) (hasked : ReleaseAsked D x id) :
    isReleased s x = true := by
  obtain ⟨pre, e, post, hD, hacq, hreleases⟩ := hasked
  obtain ⟨u, hu, -, hreleased⟩ := htally.acquired pre e post x id hD hacq
  simp [Runtime.isReleased, hu, hreleased.mpr hreleases]

/-- What a thread has acquired and does not owe, it has asked to release. -/
theorem releaseAsked_of_not_owed {e : Deed} (he : e ∈ h) (hacq : Acquires x id e)
    (howed : (x, id) ∉ owed h) : ReleaseAsked h x id := by
  obtain ⟨pre, post, rfl⟩ := List.append_of_mem he
  refine ⟨pre, e, post, rfl, hacq, ?_⟩
  by_contra hnone
  refine howed ?_
  clear howed he
  induction post using List.reverseRecOn with
  | nil =>
    obtain ⟨wanted, t, rfl, rfl, rfl⟩ := hacq
    rw [owed_append]
    exact List.mem_append_right _ (List.mem_singleton_self _)
  | append_singleton post e' ih =>
    rw [← List.cons_append, ← List.append_assoc]
    obtain ⟨a, r⟩ := e'
    refine mem_owed_append (ih fun ⟨e', he', hreleases⟩ => ?_) fun token outcome detail heq huse => ?_
    · exact hnone ⟨e', List.mem_append_left _ he', hreleases⟩
    · subst heq
      obtain ⟨hx, hid⟩ := Prod.mk.inj huse
      exact hnone ⟨_, List.mem_append_right _ (List.mem_singleton_self _),
        token, outcome, detail, r, rfl, hx.symm, hid.symm⟩

end Owed

/-! ## Runs -/

section Runs

variable {st st' : Traces} {sc : Sched Input}

theorem deeds_acted {tid : Nat} {l : Loop} {a : Action} {r : a.Res} {pool : Pool SessionShared Action
    Action.Res Loop} {rounds : List (Round Action Action.Res Loop)} :
    deeds { pool := pool, rounds := rounds, log := st.log ++ [⟨tid, l, a, r⟩] } =
      deeds st ++ [⟨a, r⟩] := by
  simp [deeds]

/-- Every action keeps the tally. -/
theorem Tallied.perform {D : List Deed} {input : Input} {s s' : SessionShared} {a : Action}
    {r : a.Res} (htally : UsesFit s.runtime → Tallied D s.runtime)
    (hperform : performAlive input s a = some (r, s')) (hfit : UsesFit s'.runtime) :
    Tallied (D ++ [⟨a, r⟩]) s'.runtime := by
  by_cases hcall : ∃ c, a = .call c
  · obtain ⟨c, rfl⟩ := hcall
    obtain ⟨hr, hnext⟩ := performAlive_call hperform
    have hsize := (step_transition s.runtime (c.op input.now input.admittedAt)).uses_size
    have hbefore : UsesFit s.runtime := Nat.lt_of_le_of_lt hsize (hnext ▸ hfit)
    rw [hr, hnext]
    exact (htally hbefore).call hbefore c input.now input.admittedAt
  · have hother : ∀ c, a ≠ .call c := fun c heq => hcall ⟨c, heq⟩
    rcases performAlive_runtime hperform with hsame | ⟨c, heq, -⟩
    · rw [hsame] at hfit ⊢
      exact (htally hfit).act hother r
    · exact absurd heq (hother c)

theorem Tallied.turn (h : Turns st sc st')
    (htally : UsesFit st.pool.shared.runtime → Tallied (deeds st) st.pool.shared.runtime)
    (hfit : UsesFit st'.pool.shared.runtime) : Tallied (deeds st') st'.pool.shared.runtime := by
  cases h with
  | blocked | spawned | looped => exact htally hfit
  | acted _ _ _ hperform => exact deeds_acted ▸ Tallied.perform htally hperform hfit

theorem idle_startup (state : Option Str) : Idle (startup state) := by
  refine startup_invariant (idle_new {}) (fun s op hop hs => ?_) state
  have h := step_transition s op
  refine h.idle hs ?_
  cases htoken : returnedToken (op, machine.result s op) with
  | none => rfl
  | some t =>
    obtain ⟨wanted, now, admittedAt, rfl⟩ := h.acquires htoken
    rcases hop with hseed | hload | heq
    · simp [seedReferenceEngine] at hseed
    · exact hload.elim
    · cases heq

/-- The uses of every run whose table of uses fits are tallied. -/
theorem exec_tallied (state : Option Str) (scs : List (Sched Input))
    (hfit : UsesFit (coordinator.traced.exec (tracing state) scs).pool.shared.runtime) :
    Tallied (deeds (coordinator.traced.exec (tracing state) scs))
      (coordinator.traced.exec (tracing state) scs).pool.shared.runtime := by
  have hinit : UsesFit (tracing state).pool.shared.runtime →
      Tallied (deeds (tracing state)) (tracing state).pool.shared.runtime := fun _ =>
    .of_idle (idle_startup state) (drainInv_startup state).keyed
  exact (System.exec_outlined (I := fun st => UsesFit st.pool.shared.runtime →
    Tallied (deeds st) st.pool.shared.runtime) outline_runSession hinit Machine.along_true
    fun _ _ _ _ hturn _ htally => Tallied.turn hturn htally).2 hfit

end Runs

end EngineResidency.Coordinator
