-- SUMMARY: Whether an acknowledged cleanup was confirmed by the worker, and whether a forwarded drain finds the uses closed.
import EngineResidency.Coordinator.Routers
import EngineResidency.Runtime.Drain

/-!
# Cleanup of a worker

A dispatcher forwards a drain, reads one frame and acknowledges the cleanup, whatever
the frame says. The frame need not be an answer to the drain at all: a worker that has
sent more than was asked leaves frames behind, and nothing compares their command
identity. And a drain is forwarded without a look at the uses of the incarnation; what is
closed by then are the uses of routed executions, since the one dispatcher of the
incarnation's one router has acquired them itself.
-/

namespace EngineResidency.Coordinator

open EngineResidency.Runtime

variable {st st' : Traces} {sc : Sched Input} {input : Input} {s s' : SessionShared}

/-! ## Answers to a drain -/

/-- The thread has forwarded a drain, and the next frame that it received was the answer
to it and no error. Which frames of the log answer what their thread has sent last, the
worker knows: `fresh` says it, and the coordinator cannot tell. -/
def Answered (fresh : Nat → Bool) (log : List Entry) (tid : Nat) (l : Loop) : Prop :=
  ∃ (pre mid post : List Entry) (d m : ProtocolMessage),
    log = pre ++ ⟨tid, l, .send d, true⟩ :: (mid ++ ⟨tid, l, .recv, some m⟩ :: post) ∧
      (∀ e ∈ mid, e.tid ≠ tid) ∧ d.type = .drain ∧ m.type ≠ .error ∧
      fresh (pre.length + 1 + mid.length) = true

theorem Answered.append {fresh : Nat → Bool} {log : List Entry} {tid : Nat} {l : Loop}
    (h : Answered fresh log tid l) (es : List Entry) : Answered fresh (log ++ es) tid l := by
  obtain ⟨pre, mid, post, d, m, rfl, hrest⟩ := h
  exact ⟨pre, mid, post ++ es, d, m, by simp, hrest⟩

/-- The worker of the incarnation has answered a drain. -/
def WorkerAnswered (fresh : Nat → Bool) (st : Traces) (id : EngineIncarnationId) : Prop :=
  ∃ tid s rid, st.pool.shared.registry.Binds rid id ∧ Answered fresh st.log tid (.dispatch s rid)

/-- The last step has forwarded a drain. -/
def drainForwarded (h : List Deed) : Bool :=
  match h.getLast? with
  | some ⟨.send d, true⟩ => d.type = .drain
  | _ => false

/-- A dispatcher that has forwarded a drain for an incarnation whose cleanup is not
acknowledged receives the answer to it, and no error, or it receives nothing. -/
def receivesAnswer (fresh : Nat → Bool) (st : Traces) : Sched Input → Bool
  | .spawn => true
  | .move tid input =>
    match System.pending st.pool (.move tid input), st.rounds[tid]?, input.message with
    | some .recv, some ⟨.dispatch _ rid, steps⟩, some m =>
      !drainForwarded steps || (m.type ≠ .error && fresh st.log.length) ||
        (st.pool.shared.registry.routers.lookup rid).any fun r =>
          acknowledgedFor st.pool.shared.runtime r.incarnation
    | _, _, _ => true

/-! ## Acknowledged cleanups -/

/-- What a run keeps whose dispatchers receive answers: a dispatcher that is about to
acknowledge has an answer, and so has every cleanup that is acknowledged. -/
structure Genuine (fresh : Nat → Bool) (st : Traces) : Prop where
  routers : Routed st
  answered : ∀ (tid : Nat) rd, st.rounds[tid]? = some rd → ∀ s rid id, rd.start = .dispatch s rid →
    SeenBound rd.steps rid id → DrainAnswered rd.steps → WorkerAnswered fresh st id
  acknowledged : ∀ id, acknowledgedFor st.pool.shared.runtime id = true →
    WorkerAnswered fresh st id

variable {fresh : Nat → Bool} {id : EngineIncarnationId}

theorem not_drainAnswered_nil : ¬ DrainAnswered [] := by
  rintro ⟨before, d, m, -, heq⟩
  simp at heq

theorem drainAnswered_concat {h : List Deed} {e : Deed} (hdrained : DrainAnswered (h ++ [e])) :
    ∃ before d m, d.type = .drain ∧ h = before ++ [⟨.send d, true⟩] ∧ e = ⟨.recv, some m⟩ := by
  obtain ⟨before, d, m, hdrain, heq⟩ := hdrained
  rw [List.append_cons before] at heq
  obtain ⟨hh, he⟩ := List.append_inj' heq rfl
  exact ⟨before, d, m, hdrain, hh, List.singleton_inj.mp he⟩

/-- An answer is last in the log of its thread. -/
theorem answered_of_received (hst : System.Outlined Guarantee Settled st) {tid : Nat}
    {rd : Round Action Action.Res Loop} (hround : st.rounds[tid]? = some rd) {before : List Deed}
    {d m : ProtocolMessage} (hsteps : rd.steps = before ++ [⟨.send d, true⟩])
    (hdrain : d.type = .drain) (hanswer : m.type ≠ .error) (hfresh : fresh st.log.length = true) :
    Answered fresh (st.log ++ [⟨tid, rd.start, .recv, some m⟩]) tid rd.start := by
  -- The drain is the last entry of the thread, so the entries after it are of others.
  obtain ⟨earlier, hlog⟩ := hst.log tid rd hround
  rw [hsteps, List.map_append, ← List.append_assoc] at hlog
  obtain ⟨pre, rest, hsplit, -, hrest⟩ := List.filter_eq_append_iff.mp hlog
  obtain ⟨pre', mid, rfl, -, -, hmid⟩ := List.filter_eq_cons_iff.mp hrest
  refine ⟨pre ++ pre', mid, [], d, m, by simp [hsplit], fun e he => ?_, hdrain, hanswer, ?_⟩
  · simpa using List.filter_eq_nil_iff.mp hmid e he
  · rw [hsplit] at hfresh
    simpa [Nat.add_assoc, Nat.add_comm 1] using hfresh

theorem WorkerAnswered.mono (h : WorkerAnswered fresh st id)
    (hext : st.pool.shared.registry.Extends st'.pool.shared.registry) {es : List Entry}
    (hlog : st'.log = st.log ++ es) : WorkerAnswered fresh st' id := by
  obtain ⟨tid, s, rid, hbinds, hanswered⟩ := h
  refine ⟨tid, s, rid, hext.binds hbinds, ?_⟩
  rw [hlog]
  exact hanswered.append es

theorem performAlive_recv {received : Option ProtocolMessage}
    (h : performAlive input s .recv = some (received, s')) : input.message = received ∧ s' = s := by
  unfold performAlive at h
  split at h
  · cases h
  · cases h
    exact ⟨rfl, rfl⟩

/-- The frame that a dispatcher takes for an answer is one, or nothing depends on it. -/
theorem Genuine.received (hgenuine : Genuine fresh st) (hst : System.Outlined Guarantee Settled st)
    {tid rid : Nat} {l : SessionLocal} {k : Option ProtocolMessage → Thread (Option Loop)}
    (hthread : st.pool.threads[tid]? = some (.act .recv k)) {before : List Deed}
    {d m : ProtocolMessage} (hdrain : d.type = .drain)
    (hround : st.rounds[tid]? = some ⟨.dispatch l rid, before ++ [⟨.send d, true⟩]⟩)
    (hmessage : input.message = some m)
    (hcond : receivesAnswer fresh st (.move tid input) = true)
    (hbinds : st.pool.shared.registry.Binds rid id) :
    WorkerAnswered fresh st id ∨
      Answered fresh (st.log ++ [⟨tid, .dispatch l rid, .recv, some m⟩]) tid (.dispatch l rid) := by
  obtain ⟨r, hr, rfl⟩ := hbinds
  simp only [receivesAnswer, System.pending, hthread, hround, hmessage, drainForwarded,
    List.getLast?_append, List.getLast?_singleton, Option.some_or, hdrain, decide_true,
    Bool.not_true, Bool.false_or, hr, Option.any_some, Bool.or_eq_true, Bool.and_eq_true,
    decide_eq_true_eq] at hcond
  rcases hcond with ⟨hanswer, hfresh⟩ | hack
  · exact .inr (answered_of_received hst hround rfl hdrain hanswer hfresh)
  · exact .inl (hgenuine.acknowledged _ hack)

theorem Genuine.advance (hgenuine : Genuine fresh st) (hst : System.Outlined Guarantee Settled st)
    (h : Turns st sc st')
    (hcond : receivesAnswer fresh st sc = true) : Genuine fresh st' := by
  have hrouters := hgenuine.routers.advance h
  have hext := (hgenuine.routers.extends h).2
  obtain ⟨es, hlog⟩ := h.log
  refine ⟨hrouters, ?_, ?_⟩
  · intro tid rd' hrd' l rid id hstart hseen hdrained
    rcases h.round hrd' with
      hold | ⟨hnil, -⟩ | ⟨input, a, k, r, rd, rfl, hthread, hround, -, hperform, rfl, hlog'⟩
    · exact (hgenuine.answered tid rd' hold l rid id hstart hseen hdrained).mono hext hlog
    · rw [hnil] at hdrained
      exact absurd hdrained not_drainAnswered_nil
    · -- The thread has just received the frame.
      have hbinds := hrouters.seen tid _ hrd' rid id hseen
      obtain ⟨before, d, m, hdrain, hsteps, he⟩ := drainAnswered_concat hdrained
      cases he
      obtain ⟨hmessage, hsame⟩ := performAlive_recv hperform
      obtain ⟨begun, steps⟩ := rd
      cases hstart
      cases hsteps
      rcases hgenuine.received hst hthread hdrain hround hmessage hcond (hsame ▸ hbinds) with h | h
      · exact h.mono hext hlog
      · exact ⟨tid, l, rid, hbinds, hlog' ▸ h⟩
  · intro id hack
    rcases h.shared with hsame | ⟨tid, input, a, r, rd, -, hround, hguarantee, hperform⟩
    · rw [hsame] at hack
      exact (hgenuine.acknowledged id hack).mono hext hlog
    rcases performAlive_runtime hperform with hsame | ⟨c, rfl, hnext⟩
    · rw [hsame] at hack
      exact (hgenuine.acknowledged id hack).mono hext hlog
    rw [hnext] at hack
    have hstep := step_transition st.pool.shared.runtime (c.op input.now input.admittedAt)
    rcases hstep.acknowledgedFor id with hop | hkept
    · cases c with
      | acknowledgeBackendCleanup k =>
        cases hop
        obtain ⟨l, rid, hstart, hseen, hdrained⟩ := hguarantee
        exact (hgenuine.answered tid rd hround l rid _ hstart hseen hdrained).mono hext hlog
      | _ => cases hop
    · rw [hkept] at hack
      exact (hgenuine.acknowledged id hack).mono hext hlog

/-! ## Whole runs -/

theorem acknowledgedFor_startup (state : Option Str) (id : EngineIncarnationId) :
    acknowledgedFor (startup state) id = false := by
  refine startup_invariant (I := fun s => acknowledgedFor s id = false) rfl ?_ state
  intro s op hop hs
  rcases (step_transition s op).acknowledgedFor id with rfl | hkept
  · rcases hop with hseed | hload | heq
    · simp [seedReferenceEngine] at hseed
    · exact hload.elim
    · cases heq
  · exact hkept.trans hs

theorem genuine_tracing (fresh : Nat → Bool) (state : Option Str) :
    Genuine fresh (tracing state) := by
  refine ⟨routed_tracing state, nofun, fun id hack => ?_⟩
  rw [tracing, System.tracedInitial, System.initial, acknowledgedFor_startup] at hack
  cases hack

theorem drainInv_startup (state : Option Str) : DrainInv (startup state) :=
  startup_invariant (drainInv_new {}) (fun _ op _ hs => hs.next op) state

theorem exec_drainInv (state : Option Str) (scs : List (Sched Input)) :
    DrainInv (coordinator.traced.exec (tracing state) scs).pool.shared.runtime := by
  rw [System.exec_traced_pool]
  refine exec_runtime (drainInv_startup state) Machine.along_true ?_
  intro pool tid input c _ _ hs
  exact hs.next _

/-- In every run whose dispatchers receive answers, no error and no frame left over, where
they wait for the answer to a drain, a cleanup is acknowledged, and a drain is complete,
only if the worker of the incarnation has answered a drain. -/
theorem cleanup_ack_genuine (state : Option Str) (fresh : Nat → Bool) (scs : List (Sched Input))
    (hrun : coordinator.traced.Along (fun st sc => receivesAnswer fresh st sc = true)
      (tracing state) scs) (id : EngineIncarnationId) :
    let st := coordinator.traced.exec (tracing state) scs
    acknowledgedFor st.pool.shared.runtime id = true ∨
        (Runtime.drainState st.pool.shared.runtime id).phase = .drained →
      WorkerAnswered fresh st id := by
  intro st h
  have hgenuine : Genuine fresh st :=
    (System.exec_outlined outline_runSession (genuine_tracing fresh state) hrun
      fun _ _ _ hst hadvance hcond hgenuine => hgenuine.advance hst hadvance hcond).2
  refine hgenuine.acknowledged id ?_
  rcases h with hack | hdrained
  · exact hack
  · exact (exec_drainInv state scs).sound.acknowledged hdrained

/-- The thread 0 registers a worker and becomes the dispatcher of its router. -/
def sampleReady : List (Sched Input) :=
  sampleRegister ++ [receives 0 .commandReady ""] ++ moves 0 6

/-- The thread 1 asks for a drain of the worker, and the thread 0 is about to forward
it. -/
def sampleDrain : List (Sched Input) :=
  [receives 1 .drain "target_incarnation=2\n"] ++ moves 1 5 ++ moves 0 1

/-- The worker sends a frame, and the thread 0 acknowledges the cleanup. -/
def sampleCleanup (type : MessageType) : List (Sched Input) :=
  sampleReady ++ [.spawn] ++ moves 1 2 ++ sampleDrain ++ moves 0 1 ++
    [receives 0 type "", .move 0 {}]

/-- The worker reports that it has drained. -/
theorem cleanup_ack_genuine_sample :
    WorkerAnswered (fun _ => true) (coordinator.traced.exec (tracing none)
      (sampleCleanup .drainResult)) ⟨2⟩ :=
  cleanup_ack_genuine none (fun _ => true) (sampleCleanup .drainResult) (by decide +kernel) ⟨2⟩
    (.inl (by decide +kernel))

/-- The entry is no frame from a worker, or one that reports an error. -/
def isErrorFrame : Entry → Bool
  | ⟨_, .dispatch _ _, .recv, some m⟩ => m.type = .error
  | _ => true

theorem not_workerAnswered (h : ∀ e ∈ st.log, isErrorFrame e = true) :
    ¬ WorkerAnswered fresh st id := by
  rintro ⟨tid, l, rid, -, pre, mid, post, d, m, hlog, -, -, hanswer, -⟩
  have hframe := h ⟨tid, .dispatch l rid, .recv, some m⟩ (by simp [hlog])
  exact hanswer (of_decide_eq_true hframe)

/-- The worker reports an error, and the drain is complete all the same. -/
theorem cleanup_acked_on_error :
    let st := coordinator.traced.exec (tracing none) (sampleCleanup .error)
    acknowledgedFor st.pool.shared.runtime ⟨2⟩ = true ∧
      (Runtime.drainState st.pool.shared.runtime ⟨2⟩).phase = .drained ∧
      ∀ fresh, ¬ WorkerAnswered fresh st ⟨2⟩ :=
  ⟨by decide +kernel, by decide +kernel, fun _ => not_workerAnswered (by decide +kernel)⟩

/-! ## Uses that a dispatcher owes -/

/-- The thread that admits a use with an entry of the log, and what its round started
from. -/
def admission (x : ServingUseId) : Entry → Option (Nat × Loop)
  | ⟨tid, l, .call (.acquireServingUse _), .ok (.token t)⟩ =>
    if t.useId = x then some (tid, l) else none
  | _ => none

/-- Who has admitted a use, the last time its identity was given out. -/
def admittedBy (log : List Entry) (x : ServingUseId) : Option (Nat × Loop) :=
  (log.filterMap (admission x)).getLast?

theorem admittedBy_append (log : List Entry) (e : Entry) (x : ServingUseId) :
    admittedBy (log ++ [e]) x = (admission x e).or (admittedBy log x) := by
  unfold admittedBy
  rw [List.filterMap_append, List.getLast?_append]
  cases h : admission x e <;> simp [h]

/-- The use is bound to the incarnation and not released. -/
def OpenUse (s : Impl) (id : EngineIncarnationId) (x : ServingUseId) : Prop :=
  ∃ u, s.activeUses.lookup x = some u ∧ u.incarnationId = id ∧ u.released = false

instance (s : Impl) (id : EngineIncarnationId) (x : ServingUseId) : Decidable (OpenUse s id x) :=
  decidable_of_iff ((s.activeUses.lookup x).any (Impl.holds id) = true) (by
    simp [OpenUse, Option.any_eq_true, Impl.holds])

variable {base : Nat}

/-- An open use that a dispatcher has admitted is one that it owes in its current round,
and it is bound to the incarnation of its router. -/
structure Owing (base : Nat) (st : Traces) : Prop where
  registered : Registered base st
  keyed : KeyedById st.pool.shared.runtime
  owes : ∀ x id, OpenUse st.pool.shared.runtime id x →
    ∀ tid l rid, admittedBy st.log x = some (tid, .dispatch l rid) →
      ∃ rd l rid, st.rounds[tid]? = some rd ∧ rd.start = .dispatch l rid ∧ (x, id) ∈ owed rd.steps
  bound : ∀ (tid : Nat) rd, st.rounds[tid]? = some rd → ∀ l rid, rd.start = .dispatch l rid →
    ∀ use ∈ owed rd.steps, SeenBound rd.steps rid use.2

/-- A call admits an open use, or it was open before and is not admitted anew. -/
theorem openUse_of_call {c : Call} {r : Except Err Reply} {x : ServingUseId}
    (hperform : performAlive input s (.call c) = some (r, s')) (hkeyed : KeyedById s.runtime)
    (hopen : OpenUse s'.runtime id x) :
    (∃ wanted t, c = .acquireServingUse wanted ∧ r = .ok (.token t) ∧ t.useId = x ∧
      wanted.incarnationId = id) ∨
    (OpenUse s.runtime id x ∧ (∀ t, r = .ok (.token t) → t.useId ≠ x) ∧
      ∀ token outcome detail, c = .releaseServingUse token outcome detail →
        (x, id) ≠ (token.useId, token.incarnationId)) := by
  obtain ⟨hr, hnext⟩ := performAlive_call hperform
  obtain ⟨u, hu, hid, hreleased⟩ := hopen
  have hstep := step_transition s.runtime (c.op input.now input.admittedAt)
  rw [← hr, ← hnext] at hstep
  rcases hstep.openUse hu hreleased with ⟨wanted, now, at_, t, inc, hop, hok, hx, hinc, huse⟩ | hkept
  · refine .inl ⟨wanted, t, ?_, hok, hx, ?_⟩
    · cases c with
      | acquireServingUse w =>
        cases hop
        rfl
      | _ => cases hop
    · rw [← hid, huse, hkeyed _ inc hinc]
  · refine .inr ⟨⟨u, hkept.1, hid, hreleased⟩, hkept.2, ?_⟩
    rintro token outcome detail rfl heq
    cases heq
    rw [hnext] at hu
    rw [releaseServingUse_closes hkept.1 hreleased hid hu] at hreleased
    cases hreleased

/-- What a thread owes it owes until it releases it. -/
theorem mem_owed_append {h : List Deed} {a : Action} {r : a.Res}
    {use : ServingUseId × EngineIncarnationId} (hmem : use ∈ owed h)
    (hkept : ∀ token outcome detail, a = .call (.releaseServingUse token outcome detail) →
      use ≠ (token.useId, token.incarnationId)) : use ∈ owed (h ++ [⟨a, r⟩]) := by
  rw [owed_append]
  unfold owedAfter
  split
  · exact List.mem_append_left _ hmem
  · rename_i token outcome detail res heq
    cases heq
    exact List.mem_filter.mpr ⟨hmem, decide_eq_true (hkept token outcome detail rfl)⟩
  · exact hmem

/-- What an action does to an open use and to what its thread owes: the use is admitted
and owed now, or it was open before, and still owed if it was. -/
theorem openUse_of_perform {a : Action} {r : a.Res} {x : ServingUseId}
    (hperform : performAlive input s a = some (r, s')) (hkeyed : KeyedById s.runtime)
    (hopen : OpenUse s'.runtime id x) (tid : Nat) (l : Loop) (h : List Deed) :
    (admission x ⟨tid, l, a, r⟩ = some (tid, l) ∧ (x, id) ∈ owed (h ++ [⟨a, r⟩])) ∨
      (OpenUse s.runtime id x ∧ admission x ⟨tid, l, a, r⟩ = none ∧
        ((x, id) ∈ owed h → (x, id) ∈ owed (h ++ [⟨a, r⟩]))) := by
  cases a with
  | call c =>
    rcases openUse_of_call hperform hkeyed hopen with
      ⟨wanted, t, rfl, rfl, rfl, rfl⟩ | ⟨hold, hother, hkept⟩
    · refine .inl ⟨if_pos rfl, ?_⟩
      rw [owed_append]
      exact List.mem_append_right _ (List.mem_singleton_self _)
    · refine .inr ⟨hold, ?_, fun hmem => mem_owed_append hmem ?_⟩
      · unfold admission
        split
        · rename_i heq
          cases heq
          exact if_neg (hother _ rfl)
        · rfl
      · intro token outcome detail heq
        cases heq
        exact hkept token outcome detail rfl
  | _ =>
    rcases performAlive_runtime hperform with hsame | ⟨c, heq, -⟩
    · rw [hsame] at hopen
      exact .inr ⟨hopen, rfl, fun hmem => mem_owed_append hmem nofun⟩
    · cases heq

/-- An open use was open before a turn, admitted by the same thread and still owed by it
if it was, or it is admitted and owed now. -/
theorem Owing.owes_next (howing : Owing base st) (h : Turns st sc st') {x : ServingUseId}
    (hopen : OpenUse st'.pool.shared.runtime id x) {tid : Nat} {l : SessionLocal} {rid : Nat}
    (hadmitted : admittedBy st'.log x = some (tid, .dispatch l rid)) :
    ∃ rd l rid, st'.rounds[tid]? = some rd ∧ rd.start = .dispatch l rid ∧
      (x, id) ∈ owed rd.steps := by
  cases h with
  | blocked => exact howing.owes x id hopen tid l rid hadmitted
  | spawned =>
    obtain ⟨rd, l, rid, hround, hrest⟩ := howing.owes x id hopen tid l rid hadmitted
    obtain ⟨hlt, -⟩ := List.getElem?_eq_some_iff.mp hround
    exact ⟨rd, l, rid, (List.getElem?_append_left hlt).trans hround, hrest⟩
  | @looped tid' _ _ rd hround hend =>
    obtain ⟨rd', l, rid, hround', hstart, howed⟩ := howing.owes x id hopen tid l rid hadmitted
    have hne : tid' ≠ tid := by
      rintro rfl
      -- A dispatcher owes nothing at the end of its round.
      obtain rfl := Option.some.inj (hround.symm.trans hround')
      rw [hend.owed l rid hstart] at howed
      cases howed
    exact ⟨rd', l, rid, (List.getElem?_set_ne hne).trans hround', hstart, howed⟩
  | @acted tid' _ a k r s rd hthread hround hguarantee hperform =>
    obtain ⟨hlt, -⟩ := List.getElem?_eq_some_iff.mp hround
    rw [admittedBy_append] at hadmitted
    rcases openUse_of_perform hperform howing.keyed hopen tid' rd.start rd.steps with
      ⟨hnow, howed⟩ | ⟨hold, hbefore, hkept⟩
    · -- The thread has just admitted the use.
      rw [hnow] at hadmitted
      obtain ⟨rfl, hstart⟩ := Prod.mk.inj (Option.some.inj hadmitted)
      exact ⟨_, l, rid, List.getElem?_set_self hlt, hstart, howed⟩
    · rw [hbefore, Option.none_or] at hadmitted
      obtain ⟨rd', l, rid, hround', hstart, howed⟩ := howing.owes x id hold tid l rid hadmitted
      by_cases hne : tid' = tid
      · subst hne
        obtain rfl := Option.some.inj (hround.symm.trans hround')
        exact ⟨_, l, rid, List.getElem?_set_self hlt, hstart, hkept howed⟩
      · exact ⟨rd', l, rid, (List.getElem?_set_ne hne).trans hround', hstart, howed⟩

/-- A dispatcher acquires uses of an incarnation that its router is bound to. -/
theorem Owing.bound_next (howing : Owing base st) (h : Turns st sc st') {tid : Nat}
    {rd' : Round Action Action.Res Loop} (hround' : st'.rounds[tid]? = some rd') {l : SessionLocal}
    {rid : Nat} (hstart : rd'.start = .dispatch l rid) {use : ServingUseId × EngineIncarnationId}
    (howed : use ∈ owed rd'.steps) : SeenBound rd'.steps rid use.2 := by
  rcases h.round hround' with
    hold | ⟨hnil, -⟩ | ⟨input, a, k, r, rd, -, -, hround, hguarantee, -, rfl, -⟩
  · exact howing.bound tid rd' hold l rid hstart use howed
  · rw [hnil] at howed
    cases howed
  · rw [owed_append] at howed
    rcases mem_owedAfter howed with hold | ⟨wanted, rfl, heq⟩
    · exact (howing.bound tid rd hround l rid hstart use hold).append _
    · rw [heq]
      exact (hguarantee l rid hstart).1.append _

theorem Owing.advance (howing : Owing base st) (h : Turns st sc st') : Owing base st' := by
  refine ⟨howing.registered.advance h, ?_, fun x id hopen tid l rid => howing.owes_next h hopen,
    fun tid rd' hround' l rid hstart use => howing.bound_next h hround' hstart⟩
  rcases h.shared with hsame | ⟨tid, input, a, r, rd, -, -, -, hperform⟩
  · exact hsame ▸ howing.keyed
  · rcases performAlive_runtime hperform with hsame | ⟨c, -, hnext⟩
    · exact hsame ▸ howing.keyed
    · exact hnext ▸ (step_transition _ _).keyedById howing.keyed

/-! ## Forwarded drains -/

/-- The thread is about to forward a drain to the worker of an incarnation, as the
dispatcher of its router. -/
def forwardsDrain (st : Traces) (tid : Nat) (id : EngineIncarnationId) : Bool :=
  match st.pool.threads[tid]?, st.rounds[tid]? with
  | some (.act (.send m) _), some ⟨.dispatch _ rid, _⟩ =>
    m.type = .drain && (st.pool.shared.registry.routers.lookup rid).any (·.incarnation = id)
  | _, _ => false

/-- Who forwards a drain is the dispatcher of a router of the incarnation, and owes
nothing. -/
theorem owed_of_forwardsDrain (hst : System.Outlined Guarantee Settled st) {tid : Nat}
    (h : forwardsDrain st tid id = true) :
    ∃ rd l rid, st.rounds[tid]? = some rd ∧ rd.start = .dispatch l rid ∧
      st.pool.shared.registry.Binds rid id ∧ owed rd.steps = [] := by
  unfold forwardsDrain at h
  split at h
  · rename_i m k l rid steps hthread hround
    simp only [Bool.and_eq_true, decide_eq_true_eq, Option.any_eq_true] at h
    obtain ⟨hdrain, hbinds⟩ := h
    obtain ⟨-, -, -, -, -, hnone⟩ := (hst.thread tid _ _ hthread hround).1 hdrain
    exact ⟨_, l, rid, hround, rfl, hbinds, hnone⟩
  · cases h

theorem owing_tracing (state : Option Str) :
    Owing (startup state).idInc.toNat (tracing state) :=
  ⟨registered_tracing state, (drainInv_startup state).keyed, nofun, nofun⟩

/-- When a drain is forwarded, no dispatcher has admitted an open use of the incarnation:
the incarnation has one router, that has one dispatcher, and that owes nothing. -/
theorem Owing.closed (howing : Owing base st) (hst : System.Outlined Guarantee Settled st)
    {tid : Nat} (hforwards : forwardsDrain st tid id = true) {x : ServingUseId}
    (hopen : OpenUse st.pool.shared.runtime id x) {tid' : Nat} {l' : SessionLocal} {rid' : Nat} :
    admittedBy st.log x ≠ some (tid', .dispatch l' rid') := by
  intro hby
  obtain ⟨rd, l, rid, hround, hstart, hbinds, hnone⟩ := owed_of_forwardsDrain hst hforwards
  obtain ⟨rd', l', rid', hround', hstart', howed⟩ := howing.owes x id hopen tid' l' rid' hby
  have hseen := howing.bound tid' rd' hround' l' rid' hstart' _ howed
  have hbinds' := howing.registered.routed.seen tid' rd' hround' rid' id hseen
  have hrouter : rid = rid' :=
    Claimant.router.inj (howing.registered.unique (.router rid) (.router rid') id hbinds hbinds')
  subst hrouter
  have htid : tid = tid' := howing.registered.routed.unique tid tid' rd rd' rid hround hround'
    (.inl ⟨l, hstart⟩) (.inl ⟨l', hstart'⟩)
  subst htid
  obtain rfl := Option.some.inj (hround.symm.trans hround')
  rw [hnone] at howed
  cases howed

/-- Whenever a drain is forwarded, in every interleaving: no use of the incarnation is
open if and only if every open one was admitted for a routed execution. Those are closed
by then, whoever has admitted them; the others, which sessions have admitted, nobody
looks at. -/
theorem drain_follows_closure_iff (state : Option Str) (scs : List (Sched Input)) {tid : Nat}
    {id : EngineIncarnationId}
    (hforwards : forwardsDrain (coordinator.traced.exec (tracing state) scs) tid id = true) :
    let st := coordinator.traced.exec (tracing state) scs
    (∀ x, ¬ OpenUse st.pool.shared.runtime id x) ↔
      ∀ x, OpenUse st.pool.shared.runtime id x →
        ∃ dispatcher l rid, admittedBy st.log x = some (dispatcher, .dispatch l rid) := by
  intro st
  obtain ⟨houtlined, howing⟩ : System.Outlined Guarantee Settled st ∧
      Owing (startup state).idInc.toNat st :=
    System.exec_outlined outline_runSession (owing_tracing state) Machine.along_true
      fun _ _ _ _ hadvance _ h => h.advance hadvance
  constructor
  · intro hclosed x hopen
    exact absurd hopen (hclosed x)
  · intro hadmitted x hopen
    obtain ⟨dispatcher, l, rid, hby⟩ := hadmitted x hopen
    exact howing.closed houtlined hforwards hopen hby

/-- The thread 0 registers a worker, publishes what the reference profile requires, and
becomes the dispatcher of its router. -/
def sampleServing : List (Sched Input) :=
  sampleRegister ++
    (["category=0\nstate=5\n", "category=1\nstate=4\n",
      "category=2\nstate=5\nsubject=reference-model\n", "category=4\nstate=4\nsubject=kv-main\n",
      "category=6\nstate=5\nsubject=er-reference-kernel\n",
      "category=7\nstate=5\nsubject=er-reference-graph\n",
      "category=13\nstate=5\nsubject=warmup\n"].flatMap fun payload =>
        receives 0 .publishComponent payload :: moves 0 7) ++
    [receives 0 .commandReady ""] ++ moves 0 6

/-- A controller has the thread 0 execute a command, and the thread acquires a use. -/
def sampleExecuting : List (Sched Input) :=
  sampleServing ++ [.spawn] ++ moves 1 2 ++ [receives 1 .execute "target_incarnation=2\n"] ++
    moves 1 3 ++ moves 0 4

/-- The worker answers, and so does the thread 0. -/
def sampleExecuted : List (Sched Input) :=
  moves 0 1 ++ [receives 0 .executionResult "cmd_id=0\n"] ++ moves 0 2

/-- After that execution, the thread 1 asks for a drain, which is forwarded. -/
def sampleExecutedDrain : List (Sched Input) :=
  sampleExecuting ++ sampleExecuted ++ moves 1 3 ++ moves 0 2 ++ sampleDrain

/-- A dispatcher has admitted the use, as a check. -/
def dispatcherAdmitted : Option (Nat × Loop) → Bool
  | some (_, .dispatch ..) => true
  | _ => false

theorem of_dispatcherAdmitted {admitted : Option (Nat × Loop)}
    (h : dispatcherAdmitted admitted = true) :
    ∃ dispatcher l rid, admitted = some (dispatcher, .dispatch l rid) := by
  unfold dispatcherAdmitted at h
  split at h
  · exact ⟨_, _, _, rfl⟩
  · cases h

/-- The one use was admitted for the routed execution. So it is closed when the drain is
forwarded. -/
theorem drain_follows_closure_sample :
    let st := coordinator.traced.exec (tracing none) sampleExecutedDrain
    forwardsDrain st 0 ⟨2⟩ = true ∧ st.pool.shared.runtime.activeUses.keys = [⟨2⟩] ∧
      ∀ x, ¬ OpenUse st.pool.shared.runtime ⟨2⟩ x := by
  obtain ⟨hforwards, hkeys, hadmitted⟩ :
      forwardsDrain (coordinator.traced.exec (tracing none) sampleExecutedDrain) 0 ⟨2⟩ = true ∧
      (coordinator.traced.exec (tracing none)
        sampleExecutedDrain).pool.shared.runtime.activeUses.keys = [⟨2⟩] ∧
      dispatcherAdmitted (admittedBy (coordinator.traced.exec (tracing none)
        sampleExecutedDrain).log ⟨2⟩) = true := by
    decide +kernel
  have hclosed := drain_follows_closure_iff none sampleExecutedDrain hforwards
  generalize coordinator.traced.exec (tracing none) sampleExecutedDrain = st
    at hforwards hkeys hadmitted hclosed ⊢
  refine ⟨hforwards, hkeys, hclosed.mpr ?_⟩
  rintro x ⟨u, hu, -⟩
  have hx := AList.mem_of_lookup hu
  rw [AList.mem_keys, hkeys, List.mem_singleton] at hx
  subst hx
  exact of_dispatcherAdmitted hadmitted

/-- The thread 1 acquires a use of the worker's incarnation and asks for its drain, which
is forwarded while the use is open. -/
theorem drain_precedes_closure :
    let st := coordinator.traced.exec (tracing none)
      (sampleServing ++ [.spawn] ++ moves 1 2 ++ [receives 1 .acquireUse "incarnation_id=2\n"] ++
        moves 1 5 ++ sampleDrain)
    forwardsDrain st 0 ⟨2⟩ = true ∧ OpenUse st.pool.shared.runtime ⟨2⟩ ⟨2⟩ := by
  decide +kernel

end EngineResidency.Coordinator
