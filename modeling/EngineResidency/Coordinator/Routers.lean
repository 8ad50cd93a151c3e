-- SUMMARY: Which thread dispatches a router, and which router an incarnation has.
import EngineResidency.Coordinator.Outline
import EngineResidency.Coordinator.Projection
import EngineResidency.Runtime.Lifecycle

/-!
# Routers and their dispatchers

A thread becomes the dispatcher of a router by making it take its socket, which works
once: a router that has lost its socket is dead. And a session makes a router for an
incarnation that it has just registered, whose identity is not given out again. So a
router has one dispatcher, and an incarnation one router, in every interleaving.
-/

namespace EngineResidency.Coordinator

open EngineResidency.Runtime

/-- A run of the coordinator with the rounds of its threads and the log of their steps. -/
abbrev Traces := Traced SessionShared Action Action.Res Loop

/-- An entry of the log. -/
abbrev Entry := Logged Action Action.Res Loop

/-- The coordinator before its first connection, with nothing logged. -/
def tracing (state : Option Str) : Traces := System.tracedInitial { runtime := startup state }

/-- A turn of the coordinator whose threads are at places of their outlines. -/
abbrev Turns (st : Traces) (sc : Sched Input) (st' : Traces) : Prop :=
  System.Advances coordinator Guarantee Settled st sc st'

variable {st st' : Traces} {sc : Sched Input} {input : Input} {s s' : SessionShared}

/-! ## The registry under a turn -/

/-- The registry an action leaves behind. -/
theorem performAlive_registry {a : Action} {r : a.Res} (h : performAlive input s a = some (r, s')) :
    (s'.registry = s.registry ∧ ∀ ready f, a ≠ .locked ready f) ∨
      ∃ ready f, (⟨a, r⟩ : Deed) = ⟨.locked ready f, s.registry⟩ ∧ s'.registry = f s.registry := by
  cases a with
  | locked ready f =>
    simp only [performAlive, perform, Option.ite_none_right_eq_some,
      Option.ite_none_left_eq_some, Option.some.injEq] at h
    obtain ⟨-, -, heq⟩ := h
    cases heq
    exact .inr ⟨ready, f, rfl, rfl⟩
  | await ticket =>
    simp only [performAlive, perform] at h
    split at h
    · cases h
    · split at h
      · cases h
        exact .inl ⟨rfl, by simp⟩
      · obtain ⟨rep, -, heq⟩ := Option.map_eq_some_iff.mp h
        cases heq
        exact .inl ⟨rfl, by simp⟩
  | call c | query q | recv | send m | abort =>
    unfold performAlive at h
    split at h
    · cases h
    · cases h
      exact .inl ⟨rfl, by simp⟩

/-- A critical section among the steps of a round was there before, or it has just been
entered. -/
theorem locked_mem_append {a : Action} {r : a.Res} (h : performAlive input s a = some (r, s'))
    {steps : List Deed} {ready : Registry → Bool} {f : Registry → Registry} {g : Registry}
    (hmem : (⟨.locked ready f, g⟩ : Deed) ∈ steps ++ [⟨a, r⟩]) :
    (⟨.locked ready f, g⟩ : Deed) ∈ steps ∨ (g = s.registry ∧ s'.registry = f g) := by
  rcases List.mem_append.mp hmem with hold | hnew
  · exact .inl hold
  · have hdeed := List.mem_singleton.mp hnew
    rcases performAlive_registry h with ⟨-, hother⟩ | ⟨ready', f', heq, hnext⟩
    · cases hdeed
      exact absurd rfl (hother ready f)
    · rw [heq] at hdeed
      cases hdeed
      exact .inr ⟨rfl, hnext⟩

namespace Registry

variable {g g' : Registry} {rid : Nat}

/-- Every router of `g` is in `g'`, and was kept. -/
def Extends (g g' : Registry) : Prop :=
  ∀ rid r, g.routers.lookup rid = some r → ∃ r', g'.routers.lookup rid = some r' ∧ r.Kept r'

theorem Extends.refl (g : Registry) : g.Extends g := fun _ r hr => ⟨r, hr, .refl r⟩

theorem Steady.extends (h : g.Steady g') : g.Extends g' := fun _ _ hr => h.routers.next hr

theorem Steady.numbered (h : g.Steady g') (hnumbered : g.Numbered) : g'.Numbered := by
  intro rid r' hr'
  obtain ⟨r, hr, -⟩ := h.routers.prev hr'
  exact h.nextRouter ▸ hnumbered rid r hr

theorem lookup_bindSession (sid : UInt64) (inc : EngineIncarnation) (g : Registry) (rid : Nat) :
    (bindSession sid inc g).routers.lookup rid =
      if rid = g.nextRouter then
        some { sessionId := sid
               workerId := inc.workerId
               workerBoot := inc.workerBoot
               incarnation := inc.incarnationId
               engineId := inc.engineId }
      else g.routers.lookup rid :=
  AList.lookup_insert' ..

theorem numbered_bindSession {sid : UInt64} {inc : EngineIncarnation} (hnumbered : g.Numbered) :
    (bindSession sid inc g).Numbered := by
  intro rid r hr
  rw [lookup_bindSession] at hr
  split at hr
  · rename_i heq
    exact heq ▸ Nat.lt_succ_self _
  · exact Nat.lt_succ_of_lt (hnumbered rid r hr)

theorem extends_bindSession {sid : UInt64} {inc : EngineIncarnation} (hnumbered : g.Numbered) :
    g.Extends (bindSession sid inc g) := by
  intro rid r hr
  have hne : rid ≠ g.nextRouter := Nat.ne_of_lt (hnumbered rid r hr)
  exact ⟨r, (lookup_bindSession ..).trans ((if_neg hne).trans hr), .refl r⟩

/-- The router is there and bound to the incarnation. -/
def Binds (g : Registry) (rid : Nat) (id : EngineIncarnationId) : Prop :=
  ∃ r, g.routers.lookup rid = some r ∧ r.incarnation = id

theorem Extends.binds (h : g.Extends g') {id : EngineIncarnationId} (hbinds : g.Binds rid id) :
    g'.Binds rid id := by
  obtain ⟨r, hr, rfl⟩ := hbinds
  obtain ⟨r', hr', hkept⟩ := h rid r hr
  exact ⟨r', hr', hkept.incarnation⟩

theorem Extends.spent (h : g.Extends g') (hspent : g.Spent rid) : g'.Spent rid := by
  obtain ⟨r, hr, hspent⟩ := hspent
  obtain ⟨r', hr', hkept⟩ := h rid r hr
  exact ⟨r', hr', hkept.spent hspent⟩

theorem Extends.dead (h : g.Extends g') (hdead : g.Dead rid) : g'.Dead rid := by
  obtain ⟨r, hr, hdead⟩ := hdead
  obtain ⟨r', hr', hkept⟩ := h rid r hr
  exact ⟨r', hr', hkept.dead hdead⟩

end Registry

/-! ## One dispatcher for a router -/

/-- The thread is the dispatcher of the router, or about to become it. -/
def Holds (rd : Round Action Action.Res Loop) (rid : Nat) : Prop :=
  (∃ s, rd.start = .dispatch s rid) ∨ Adopted rd.steps rid

/-- What a run keeps of the routers: one that a thread has seen is still bound as it was,
one that has a dispatcher takes no other, and is dead once that has killed it. -/
structure Routed (st : Traces) : Prop where
  numbered : st.pool.shared.registry.Numbered
  seen : ∀ (tid : Nat) rd, st.rounds[tid]? = some rd → ∀ rid id, SeenBound rd.steps rid id →
    st.pool.shared.registry.Binds rid id
  spent : ∀ (tid : Nat) rd, st.rounds[tid]? = some rd → ∀ rid, Holds rd rid →
    st.pool.shared.registry.Spent rid
  killed : ∀ (tid : Nat) rd, st.rounds[tid]? = some rd →
    Relies rd.start rd.steps st.pool.shared.registry
  unique : ∀ (tid tid' : Nat) rd rd' rid, st.rounds[tid]? = some rd →
    st.rounds[tid']? = some rd' → Holds rd rid → Holds rd' rid → tid = tid'

theorem routed_tracing (state : Option Str) : Routed (tracing state) :=
  ⟨nofun, nofun, nofun, nofun, nofun⟩

/-- No turn takes a router away, or brings one back to life. -/
theorem Routed.extends (hst : Routed st) (h : Turns st sc st') :
    st'.pool.shared.registry.Numbered ∧
      st.pool.shared.registry.Extends st'.pool.shared.registry := by
  have hkept : ∀ {g : Registry}, g = st.pool.shared.registry →
      g.Numbered ∧ st.pool.shared.registry.Extends g := by
    rintro _ rfl
    exact ⟨hst.numbered, .refl _⟩
  rcases h.shared with hsame | ⟨tid, input, a, r, rd, -, hround, hguarantee, hperform⟩
  · exact hkept (congrArg SessionShared.registry hsame)
  · rcases performAlive_registry hperform with ⟨hsame, -⟩ | ⟨ready, f, hdeed, hnext⟩
    · exact hkept hsame
    · cases hdeed
      rw [hnext]
      rcases hguarantee.steady (hst.killed tid rd hround) with hsteady | ⟨sid, inc, -, heq⟩
      · exact ⟨hsteady.numbered hst.numbered, hsteady.extends⟩
      · rw [heq]
        exact ⟨Registry.numbered_bindSession hst.numbered,
          Registry.extends_bindSession hst.numbered⟩

theorem not_seenBound_nil {rid : Nat} {id : EngineIncarnationId} : ¬ SeenBound [] rid id := by
  rintro ⟨_, _, _, _, hmem, -⟩
  cases hmem

theorem not_adopted_nil {rid : Nat} : ¬ Adopted [] rid := by
  rintro ⟨_, _, _, hmem, -⟩
  cases hmem

theorem not_killed_nil {rid : Nat} : ¬ Killed [] rid := by
  rintro ⟨_, _, _, hmem, -⟩
  cases hmem

/-- Who holds a router has held it before, or has just made it take its socket. -/
theorem Holds.before (h : Turns st sc st') {tid rid : Nat} {rd' : Round Action Action.Res Loop}
    (hround' : st'.rounds[tid]? = some rd') (hholds : Holds rd' rid) :
    (∃ rd, st.rounds[tid]? = some rd ∧ Holds rd rid) ∨
      (¬ st.pool.shared.registry.Spent rid ∧ st'.pool.shared.registry.Spent rid ∧
        ∃ input, sc = .move tid input) := by
  rcases h.round hround' with
    hold | ⟨hnil, hbegun⟩ | ⟨input, a, k, r, rd, rfl, -, hround, -, hperform, rfl, -⟩
  · exact .inl ⟨rd', hold, hholds⟩
  · rcases hholds with ⟨s, hstart⟩ | hadopted
    · rcases hbegun with hfirst | ⟨rd, hround, hend⟩
      · cases hfirst.symm.trans hstart
      · exact .inl ⟨rd, hround, hend.adopted s rid (congrArg some hstart)⟩
    · rw [hnil] at hadopted
      exact absurd hadopted not_adopted_nil
  · rcases hholds with hstart | ⟨ready, f, g, hmem, hbefore, hafter⟩
    · exact .inl ⟨rd, hround, .inl hstart⟩
    · rcases locked_mem_append hperform hmem with hold | ⟨rfl, hnext⟩
      · exact .inl ⟨rd, hround, .inr ⟨ready, f, g, hold, hbefore, hafter⟩⟩
      · exact .inr ⟨hbefore, hnext ▸ hafter, input, rfl⟩

/-- A router that was seen is still there. -/
theorem Routed.sees (hst : Routed st) (h : Turns st sc st') {tid : Nat}
    {rd' : Round Action Action.Res Loop} (hround' : st'.rounds[tid]? = some rd') {rid : Nat}
    {id : EngineIncarnationId} (hseen : SeenBound rd'.steps rid id) :
    st'.pool.shared.registry.Binds rid id := by
  obtain ⟨-, hext⟩ := hst.extends h
  refine hext.binds ?_
  rcases h.round hround' with
    hold | ⟨hnil, -⟩ | ⟨input, a, k, r, rd, rfl, -, hround, -, hperform, rfl, -⟩
  · exact hst.seen tid rd' hold rid id hseen
  · rw [hnil] at hseen
    exact absurd hseen not_seenBound_nil
  · obtain ⟨ready, f, g, r', hmem, hbound⟩ := hseen
    rcases locked_mem_append hperform hmem with hold | ⟨rfl, -⟩
    · exact hst.seen tid rd hround rid id ⟨ready, f, g, r', hold, hbound⟩
    · exact ⟨r', hbound⟩

/-- What a thread relies on is kept by the turns of all threads. -/
theorem Routed.relies (hst : Routed st) (h : Turns st sc st') {tid : Nat}
    {rd' : Round Action Action.Res Loop} (hround' : st'.rounds[tid]? = some rd') :
    Relies rd'.start rd'.steps st'.pool.shared.registry := by
  obtain ⟨-, hext⟩ := hst.extends h
  intro s rid hstart hkilled
  rcases h.round hround' with
    hold | ⟨hnil, -⟩ | ⟨input, a, k, r, rd, rfl, -, hround, -, hperform, rfl, -⟩
  · exact hext.dead (hst.killed tid rd' hold s rid hstart hkilled)
  · rw [hnil] at hkilled
    exact absurd hkilled not_killed_nil
  · obtain ⟨ready, f, g, hmem, hdead⟩ := hkilled
    rcases locked_mem_append hperform hmem with hold | ⟨rfl, hnext⟩
    · exact hext.dead (hst.killed tid rd hround s rid hstart ⟨ready, f, g, hold, hdead⟩)
    · obtain ⟨r, hr, -⟩ := hext.spent (hst.spent tid rd hround rid (.inl ⟨s, hstart⟩))
      exact ⟨r, hr, hdead r (hnext ▸ hr)⟩

theorem Routed.advance (hst : Routed st) (h : Turns st sc st') : Routed st' := by
  obtain ⟨hnumbered, hext⟩ := hst.extends h
  refine ⟨hnumbered, fun tid rd' hround' rid id hseen => hst.sees h hround' hseen, ?_,
    fun tid rd' hround' => hst.relies h hround', ?_⟩
  · intro tid rd' hround' rid hholds
    rcases hholds.before h hround' with ⟨rd, hround, hheld⟩ | ⟨-, hspent, -⟩
    · exact hext.spent (hst.spent tid rd hround rid hheld)
    · exact hspent
  · intro tid tid' rd₁' rd₂' rid hround₁' hround₂' hholds₁ hholds₂
    rcases hholds₁.before h hround₁' with ⟨rd₁, hround₁, hheld₁⟩ | ⟨hfree₁, -, input₁, hmove₁⟩
    · rcases hholds₂.before h hround₂' with ⟨rd₂, hround₂, hheld₂⟩ | ⟨hfree₂, -⟩
      · exact hst.unique tid tid' rd₁ rd₂ rid hround₁ hround₂ hheld₁ hheld₂
      · exact absurd (hst.spent tid rd₁ hround₁ rid hheld₁) hfree₂
    · rcases hholds₂.before h hround₂' with ⟨rd₂, hround₂, hheld₂⟩ | ⟨-, -, input₂, hmove₂⟩
      · exact absurd (hst.spent tid' rd₂ hround₂ rid hheld₂) hfree₁
      · cases hmove₁.symm.trans hmove₂
        rfl

/-! ## One router for an incarnation -/

/-- A router, or a thread that is about to make one. -/
inductive Claimant where
  | router (rid : Nat)
  | thread (tid : Nat)

/-- The router is bound to the incarnation, or the thread has just registered it. -/
def Claims (st : Traces) (id : EngineIncarnationId) : Claimant → Prop
  | .router rid => st.pool.shared.registry.Binds rid id
  | .thread tid => ∃ rd inc, st.rounds[tid]? = some rd ∧ JustRegistered rd.steps inc ∧
    inc.incarnationId = id

/-- What a run keeps of the incarnations: each has at most one router, and no identity
that has been given out is given out again. -/
structure Registered (base : Nat) (st : Traces) : Prop where
  routed : Routed st
  numbered : NumberedSince base st.pool.shared.runtime
  below : ∀ c id, Claims st id c → id.raw.toNat ≤ st.pool.shared.runtime.idInc.toNat + 1
  unique : ∀ c c' id, Claims st id c → Claims st id c' → c = c'

variable {base : Nat} {id : EngineIncarnationId}

theorem numberedSince_advance (h : Turns st sc st')
    (hs : NumberedSince base st.pool.shared.runtime) :
    NumberedSince base st'.pool.shared.runtime ∧
      st.pool.shared.runtime.idInc.toNat ≤ st'.pool.shared.runtime.idInc.toNat := by
  rcases h.shared with hsame | ⟨tid, input, a, r, rd, -, -, -, hperform⟩
  · rw [hsame]
    exact ⟨hs, Nat.le_refl _⟩
  · rcases performAlive_runtime hperform with hsame | ⟨c, -, hnext⟩
    · rw [hsame]
      exact ⟨hs, Nat.le_refl _⟩
    · rw [hnext]
      exact (step_transition _ _).numberedSince (c.not_isLoad _ _) hs

theorem not_justRegistered_nil {inc : EngineIncarnation} : ¬ JustRegistered [] inc := by
  rintro ⟨before, worker, permit, heq⟩
  simp at heq

theorem justRegistered_concat {h : List Deed} {e : Deed} {inc : EngineIncarnation}
    (hjust : JustRegistered (h ++ [e]) inc) :
    ∃ worker permit, e = ⟨.call (.registerIncarnation worker permit), .ok (.incarnation inc)⟩ := by
  obtain ⟨before, worker, permit, heq⟩ := hjust
  exact ⟨worker, permit, List.singleton_inj.mp (List.append_inj' heq rfl).2⟩

/-- The turn gives out the identity, to this thread. -/
def GivenOut (st : Traces) (sc : Sched Input) (st' : Traces) (id : EngineIncarnationId)
    (c : Claimant) : Prop :=
  ∃ tid input, sc = .move tid input ∧ c = .thread tid ∧
    id.raw.toNat = st.pool.shared.runtime.idInc.toNat + 2 ∧
    st'.pool.shared.runtime.idInc.toNat = st.pool.shared.runtime.idInc.toNat + 1

theorem Claims.of_thread (h : Turns st sc st')
    (hnumbered : NumberedSince base st.pool.shared.runtime) {tid : Nat}
    (hclaims : Claims st' id (.thread tid)) :
    Claims st id (.thread tid) ∨ GivenOut st sc st' id (.thread tid) := by
  obtain ⟨rd', inc, hround', hjust, rfl⟩ := hclaims
  rcases h.round hround' with
    hold | ⟨hnil, -⟩ | ⟨input, a, k, r, rd, rfl, -, hround, -, hperform, rfl, -⟩
  · exact .inl ⟨rd', inc, hold, hjust, rfl⟩
  · rw [hnil] at hjust
    exact absurd hjust not_justRegistered_nil
  · obtain ⟨worker, permit, hdeed⟩ := justRegistered_concat hjust
    cases hdeed
    obtain ⟨hr, hnext⟩ := performAlive_call hperform
    have hstep := step_transition st.pool.shared.runtime
      ((Call.registerIncarnation worker permit).op input.now input.admittedAt)
    rw [← hr, ← hnext] at hstep
    exact .inr ⟨tid, input, rfl, rfl, hstep.registered_id hnumbered⟩

/-- Every claim after a turn is given out by it, or has come down from one claim before
it: from the same claimant, or from the thread that has made the router. -/
theorem exists_heir (h : Turns st sc st') (hst : Routed st)
    (hnumbered : NumberedSince base st.pool.shared.runtime) :
    ∃ heir : Claimant → Claimant, ∀ c id, Claims st' id c →
      (∃ c₀, Claims st id c₀ ∧ c = heir c₀) ∨ GivenOut st sc st' id c := by
  -- Unless a router is made, every claimant keeps its own claims.
  have hkept : (∀ rid id, st'.pool.shared.registry.Binds rid id →
      st.pool.shared.registry.Binds rid id) → ∃ heir : Claimant → Claimant, ∀ c id,
      Claims st' id c → (∃ c₀, Claims st id c₀ ∧ c = heir c₀) ∨ GivenOut st sc st' id c := by
    intro hbinds
    refine ⟨fun c => c, fun c id hclaims => ?_⟩
    cases c with
    | router rid => exact .inl ⟨.router rid, hbinds rid id hclaims, rfl⟩
    | thread tid => exact (hclaims.of_thread h hnumbered).imp_left fun hold => ⟨.thread tid, hold, rfl⟩
  have hthread := fun tid id (hclaims : Claims st' id (.thread tid)) =>
    hclaims.of_thread h hnumbered
  cases h with
  | blocked => exact hkept fun _ _ hbinds => hbinds
  | spawned => exact hkept fun _ _ hbinds => hbinds
  | looped => exact hkept fun _ _ hbinds => hbinds
  | @acted tid input a k r s rd _ hround hguarantee hperform =>
    rcases performAlive_registry hperform with ⟨hsame, -⟩ | ⟨ready, f, hdeed, hnext⟩
    · exact hkept fun _ _ ⟨r, hr, hid⟩ => ⟨r, hsame ▸ hr, hid⟩
    cases hdeed
    rcases hguarantee.steady (hst.killed tid rd hround) with hsteady | ⟨sid, inc, hjust, heq⟩
    · refine hkept fun rid id ⟨r', hr', hid⟩ => ?_
      obtain ⟨r, hr, hkept⟩ := hsteady.routers.prev (hnext ▸ hr')
      exact ⟨r, hr, hkept.incarnation.symm.trans hid⟩
    · -- The claim of the thread goes over to the router.
      refine ⟨fun c => match c with
        | .thread t => if t = tid then .router st.pool.shared.registry.nextRouter else .thread t
        | .router rid => .router rid, fun c id hclaims => ?_⟩
      cases c with
      | router rid =>
        obtain ⟨r', hr', hid⟩ := hclaims
        simp only [hnext, heq, Registry.lookup_bindSession] at hr'
        split at hr'
        · rename_i hrid
          cases hr'
          exact .inl ⟨.thread tid, ⟨rd, inc, hround, hjust, hid⟩, by simp [hrid]⟩
        · exact .inl ⟨.router rid, ⟨r', hr', hid⟩, rfl⟩
      | thread tid' =>
        have hne : tid' ≠ tid := by
          rintro rfl
          obtain ⟨rd', inc', hround', hjust', -⟩ := hclaims
          rcases List.getElem?_set_cases hround' with ⟨-, rfl⟩ | ⟨hne, -⟩
          · obtain ⟨worker, permit, hdeed⟩ := justRegistered_concat hjust'
            cases hdeed
          · exact hne rfl
        exact (hthread tid' id hclaims).imp_left fun hold => ⟨.thread tid', hold, by simp [hne]⟩

theorem Registered.advance (hst : Registered base st) (h : Turns st sc st') :
    Registered base st' := by
  obtain ⟨hnumbered, hle⟩ := numberedSince_advance h hst.numbered
  obtain ⟨heir, hheir⟩ := exists_heir h hst.routed hst.numbered
  refine ⟨hst.routed.advance h, hnumbered, fun c id hclaims => ?_, ?_⟩
  · rcases hheir c id hclaims with ⟨c₀, hold, -⟩ | ⟨tid, input, -, -, hid, hnext⟩
    · exact Nat.le_trans (hst.below c₀ id hold) (Nat.succ_le_succ hle)
    · omega
  · intro c c' id hclaims hclaims'
    rcases hheir c id hclaims with ⟨c₀, hold, hc⟩ | ⟨tid, input, hmove, hc, hid, -⟩
    · have hbelow := hst.below c₀ id hold
      rcases hheir c' id hclaims' with ⟨c₀', hold', hc'⟩ | ⟨tid', input', -, -, hid', -⟩
      · rw [hc, hc', hst.unique c₀ c₀' id hold hold']
      · omega
    · rcases hheir c' id hclaims' with ⟨c₀', hold', -⟩ | ⟨tid', input', hmove', hc', -⟩
      · have hbelow := hst.below c₀' id hold'
        omega
      · cases hmove.symm.trans hmove'
        rw [hc, hc']

theorem idInc_startup (state : Option Str) :
    (startup state).idInc.toNat ≤ kResumedCounter.toNat := by
  refine startup_invariant (I := fun s => s.idInc.toNat ≤ kResumedCounter.toNat)
    (Nat.zero_le _) ?_ state
  intro s op hop hs
  rcases (step_transition s op).incarnations with hch | ⟨inc, now, henr⟩ | ⟨blob, p, -, heq⟩
  · exact hch.1 ▸ hs
  · obtain ⟨permit, rfl⟩ := henr.op_eq
    rcases hop with hseed | hload | heq
    · simp [seedReferenceEngine] at hseed
    · exact hload.elim
    · cases heq
  · rw [heq]
    exact Nat.le_refl _

theorem registered_tracing (state : Option Str) :
    Registered (startup state).idInc.toNat (tracing state) := by
  have hnone : ∀ c id, ¬ Claims (tracing state) id c := by
    intro c id hclaims
    cases c with
    | router rid =>
      obtain ⟨_, hr, -⟩ := hclaims
      cases hr
    | thread tid =>
      obtain ⟨_, _, hround, -⟩ := hclaims
      cases hround
  exact ⟨routed_tracing state, numberedSince_self (idInc_startup state),
    fun c id hclaims => absurd hclaims (hnone c id),
    fun c _ id hclaims => absurd hclaims (hnone c id)⟩

end EngineResidency.Coordinator
