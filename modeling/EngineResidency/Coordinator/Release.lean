-- SUMMARY: When a RELEASE_USE message closes the use it names.
import EngineResidency.Coordinator.Cleanup

/-!
# Releases over the wire

The runtime closes every open use whose incarnation is named, also while the incarnation
drains. The handler of RELEASE_USE asks first whether the incarnation is open for new
work, as the handlers of an admission do, and refuses the release when it is not.
-/

namespace EngineResidency.Coordinator

open EngineResidency.Runtime

variable {input : Input} {s s' : SessionShared} {i : EngineIncarnationId} {x : ServingUseId}

/-! ## Threads that move alone -/

section Alone

variable {A : Type} {Q : List Deed → A → SessionShared → Prop} {es : List Deed}

theorem performAlive_of_live (hlive : s.crashed = false) (a : Action) :
    performAlive input s a = perform input s a := by
  simp [performAlive, hlive]

theorem performAlive_send {m : ProtocolMessage} {r : Bool}
    (h : performAlive input s (.send m) = some (r, s')) : s' = s := by
  unfold performAlive at h
  split at h
  · cases h
  · cases h
    rfl

/-- A query whose answer does not depend on the clock. -/
theorem alone_query {q : Query} {answer : q.Res} {k : q.Res → Thread A} (hlive : s.crashed = false)
    (hanswer : ∀ now, q.answer s.runtime now = answer) :
    coordinator.Alone Q (Prog.perform (Action.query q) >>= k) es s ↔
      coordinator.Alone Q (k answer) (es ++ [⟨.query q, answer⟩]) s := by
  have hperform : ∀ input : Input,
      performAlive input s (.query q) = some (q.answer s.runtime input.now, s) :=
    fun input => performAlive_of_live hlive _
  constructor
  · intro h
    have h := h {} _ s (hperform {})
    rwa [hanswer] at h
  · intro h input r s' hreturns
    cases (hperform input).symm.trans hreturns
    rwa [hanswer]

theorem alone_incarnationIsFenced {k : Bool → Thread A} (hlive : s.crashed = false) :
    coordinator.Alone Q (incarnationIsFenced i >>= k) es s ↔
      coordinator.Alone Q (k (Runtime.incarnationIsFenced s.runtime i))
        (es ++ [⟨.query (.incarnationIsFenced i), Runtime.incarnationIsFenced s.runtime i⟩]) s :=
  alone_query hlive fun _ => rfl

theorem alone_drainState {k : DrainState → Thread A} (hlive : s.crashed = false) :
    coordinator.Alone Q (drainState i >>= k) es s ↔
      coordinator.Alone Q (k (Runtime.drainState s.runtime i))
        (es ++ [⟨.query (.drainState i), Runtime.drainState s.runtime i⟩]) s :=
  alone_query hlive fun _ => rfl

theorem alone_currentEpoch {k : CoordinatorEpoch → Thread A} (hlive : s.crashed = false) :
    coordinator.Alone Q (currentEpoch >>= k) es s ↔
      coordinator.Alone Q (k s.runtime.authority.epoch)
        (es ++ [⟨.query .currentEpoch, s.runtime.authority.epoch⟩]) s :=
  alone_query hlive fun _ => rfl

end Alone

/-! ## The guard -/

/-- The incarnation is neither fenced nor draining. -/
def takesWork (s : Impl) (id : EngineIncarnationId) : Bool :=
  !Runtime.incarnationIsFenced s id && !(Runtime.drainState s id).admissionFenced

/-- The error of the guard. -/
def notOpen : Err := domainError .fencedWorker "fenced/drained incarnation"

/-- The guard without exceptions. -/
theorem run_requireOpen (id : EngineIncarnationId) : (requireOpen id).run = (do
    let fenced ← incarnationIsFenced id
    if fenced then return .error notOpen
    let st ← drainState id
    return if st.admissionFenced then .error notOpen else .ok ()) := by
  refine congrArg (Prog.act _) (funext fun fenced => ?_)
  cases fenced with
  | true => rfl
  | false =>
    refine congrArg (Prog.act _) (funext fun st => ?_)
    obtain ⟨phase, generation, activeUse, admissionFenced, ack, detail⟩ := st
    cases admissionFenced <;> rfl

/-- The guard passes exactly when the incarnation takes work. -/
theorem alone_requireOpen {Q : List Deed → Except Err Unit → SessionShared → Prop}
    {es : List Deed} (hlive : s.crashed = false) : ∃ asked : List Deed,
    coordinator.Alone Q (requireOpen i).run es s ↔
      Q (es ++ asked) (if takesWork s.runtime i then .ok () else .error notOpen) s := by
  rw [run_requireOpen, alone_incarnationIsFenced hlive]
  by_cases hfenced : Runtime.incarnationIsFenced s.runtime i = true
  · have hclosed : takesWork s.runtime i = false := by simp [takesWork, hfenced]
    rw [if_pos hfenced, hclosed]
    exact ⟨_, Iff.rfl⟩
  rw [if_neg hfenced, alone_drainState hlive, List.append_assoc]
  by_cases hdrain : (Runtime.drainState s.runtime i).admissionFenced = true
  · have hclosed : takesWork s.runtime i = false := by simp [takesWork, hdrain]
    rw [if_pos hdrain, hclosed]
    exact ⟨_, Iff.rfl⟩
  · have hopen : takesWork s.runtime i = true := by simp [takesWork, hfenced, hdrain]
    rw [if_neg hdrain, hopen]
    exact ⟨_, Iff.rfl⟩

/-! ## The handler -/

/-- A use that is open, of an incarnation whose boot is not fenced and that is neither
retired nor drained. -/
structure Held (s : Impl) (x : ServingUseId) (i : EngineIncarnationId) : Prop where
  use : OpenUse s i x
  record : ∀ inc, s.findInc i = some inc →
    s.bootFenced inc.workerId inc.workerBoot = false ∧ inc.state.lifecycle ≠ .retired
  phase : (Runtime.drainState s i).phase ≠ .drained

/-- A RELEASE_USE message of the current epoch that names the use and its incarnation. -/
structure NamesUse (s : Impl) (l : SessionLocal) (msg : ProtocolMessage) (x : ServingUseId)
    (i : EngineIncarnationId) : Prop where
  type : msg.type = .releaseUse
  epoch : msg.epoch = 0 ∨ msg.epoch.toUInt64 = s.authority.epoch.raw
  target : targetOf (parsePayload msg.payload) l.incId = i
  use : u (parsePayload msg.payload) "use_id" 0 = x.raw

/-- The peer was told that its message was accepted. -/
def Accepted (es : List Deed) : Prop :=
  ∃ (m : ProtocolMessage) (delivered : Bool),
    (⟨.send m, delivered⟩ : Deed) ∈ es ∧ m.type = .registerAck

def Released (s : Impl) (x : ServingUseId) : Prop :=
  ∃ u, s.activeUses.lookup x = some u ∧ u.released = true

/-- However the session goes on with the message while no other thread moves: it accepts
the message, and the use is released. -/
def Closes (s : SessionShared) (l : SessionLocal) (msg : ProtocolMessage) (x : ServingUseId) :
    Prop :=
  ∀ k, receive l = .act .recv k →
    coordinator.Alone (fun es _ s' => Accepted es ∧ Released s'.runtime x)
      (k (some msg)) [⟨.recv, some msg⟩] s

/-- What a session does with a message. -/
theorem receive_eq {l : SessionLocal} (hconnected : l.connected = true) (msg : ProtocolMessage) :
    ∃ k, receive l = .act .recv k ∧ k (some msg) =
      if msg.epoch ≠ 0 then currentEpoch >>= fun epoch =>
        if msg.epoch.toUInt64 ≠ epoch.raw then
          send (errorMessage ⟨.staleEpoch, "stale epoch traffic"⟩) >>= fun _ =>
            pure (some (.session l))
        else handle l msg
      else handle l msg := by
  unfold receive
  rw [if_pos hconnected]
  exact ⟨_, rfl, rfl⟩

theorem handle_releaseUse (l : SessionLocal) {msg : ProtocolMessage} (h : msg.type = .releaseUse) :
    handle l msg =
      (handleReleaseUse l (parsePayload msg.payload) >>= fun _ => pure (some (.session l))) := by
  unfold handle
  rw [h]

/-- A RELEASE_USE message of the current epoch reaches its handler. -/
theorem closes_iff {l : SessionLocal} {msg : ProtocolMessage} (hlive : s.crashed = false)
    (hconnected : l.connected = true) (hnames : NamesUse s.runtime l msg x i) : ∃ es : List Deed,
    Closes s l msg x ↔ coordinator.Alone (fun es _ s' => Accepted es ∧ Released s'.runtime x)
      (handleReleaseUse l (parsePayload msg.payload)) es s := by
  obtain ⟨k, hk, hmsg⟩ := receive_eq hconnected msg
  have hcloses : Closes s l msg x ↔ coordinator.Alone
      (fun es _ s' => Accepted es ∧ Released s'.runtime x) (k (some msg)) [⟨.recv, some msg⟩] s := by
    refine ⟨fun h => h k hk, fun h k' hk' => ?_⟩
    cases hk.symm.trans hk'
    exact h
  rw [hcloses, hmsg, handle_releaseUse l hnames.type]
  by_cases hzero : msg.epoch = 0
  · rw [if_neg (not_not_intro hzero), System.alone_bind]
    exact ⟨_, Iff.rfl⟩
  · have hcurrent := hnames.epoch.resolve_left hzero
    rw [if_pos hzero, alone_currentEpoch hlive, if_neg (not_not_intro hcurrent), System.alone_bind]
    exact ⟨_, Iff.rfl⟩

/-- The handler closes an open use of an incarnation that takes work. -/
theorem closes_of_takesWork {l : SessionLocal} {f : Fields} {es : List Deed}
    (hlive : s.crashed = false) (htakes : takesWork s.runtime (targetOf f l.incId) = true)
    (hbound : UseBound s.runtime) (huse : u f "use_id" 0 = x.raw) {use : ActiveUse}
    (hheld : s.runtime.activeUses.lookup x = some use) (hopen : use.released = false)
    (hinc : use.incarnationId = targetOf f l.incId) :
    coordinator.Alone (fun es _ s' => Accepted es ∧ Released s'.runtime x) (handleReleaseUse l f)
      es s := by
  refine System.alone_bind.mpr ?_
  refine System.alone_bind.mpr ?_
  obtain ⟨asked, hguard⟩ := alone_requireOpen (i := targetOf f l.incId) hlive
  refine hguard.mpr ?_
  rw [htakes]
  -- The runtime closes the use.
  intro input r s₁ hperform
  obtain ⟨hr, hnext⟩ := performAlive_call hperform
  let token : ServingUseToken :=
    { useId := ⟨u f "use_id" 0⟩, incarnationId := targetOf f l.incId, incarnationGeneration := ⟨1⟩ }
  have htoken : token.useId = x := congrArg Identity.mk huse
  have hclosed := @releaseServingUse_open s.runtime token .completed
    (get f "detail" "released") input.now use hbound (htoken.symm ▸ hheld) hopen hinc
  obtain rfl : r = .ok .done := hr.trans hclosed.1
  have hreleased : Released s₁.runtime x := by
    rw [hnext, ← htoken]
    exact ⟨_, hclosed.2, rfl⟩
  intro input d s₂ hperform
  cases performAlive_send hperform
  exact ⟨⟨_, d, List.mem_append_right _ (List.mem_singleton_self _), rfl⟩, hreleased⟩

/-- The handler leaves a use open when its incarnation does not take work. -/
theorem not_closes_of_shut {l : SessionLocal} {f : Fields} {es : List Deed}
    (hlive : s.crashed = false) (hshut : takesWork s.runtime (targetOf f l.incId) = false)
    {use : ActiveUse} (hheld : s.runtime.activeUses.lookup x = some use)
    (hopen : use.released = false) :
    ¬ coordinator.Alone (fun es _ s' => Accepted es ∧ Released s'.runtime x)
      (handleReleaseUse l f) es s := by
  intro h
  have h := System.alone_bind.mp (System.alone_bind.mp h)
  obtain ⟨asked, hguard⟩ := alone_requireOpen (i := targetOf f l.incId) hlive
  have h := hguard.mp h
  rw [hshut] at h
  -- The error is sent, and nothing has changed.
  obtain ⟨-, u, hu, hreleased⟩ := h {} true s (performAlive_of_live hlive _)
  cases hheld.symm.trans hu
  rw [hopen] at hreleased
  cases hreleased

/-- A RELEASE_USE message for work that can still be drained closes it if and only if its
incarnation is neither fenced nor draining. -/
theorem release_use_accepted_iff (state : Option Str) (scs : List (Sched Input))
    {l : SessionLocal} {msg : ProtocolMessage} {x : ServingUseId} {i : EngineIncarnationId}
    (hlive : (coordinator.machine.exec (listening state) scs).shared.crashed = false)
    (hheld : Held (coordinator.machine.exec (listening state) scs).shared.runtime x i)
    (hconnected : l.connected = true)
    (hnames : NamesUse (coordinator.machine.exec (listening state) scs).shared.runtime l msg x i) :
    Closes (coordinator.machine.exec (listening state) scs).shared l msg x ↔
      takesWork (coordinator.machine.exec (listening state) scs).shared.runtime i = true := by
  have hbound := (exec_drainInv state scs).bound
  rw [System.exec_traced_pool] at hbound
  obtain ⟨es, hcloses⟩ := closes_iff hlive hconnected hnames
  obtain ⟨use, huse, hinc, hopen⟩ := hheld.use
  have htarget := hnames.target
  subst htarget
  refine hcloses.trans ⟨fun h => ?_, fun htakes => ?_⟩
  · cases htakes : takesWork
      (coordinator.machine.exec (listening state) scs).shared.runtime
      (targetOf (parsePayload msg.payload) l.incId) with
    | true => rfl
    | false => exact absurd h (not_closes_of_shut hlive htakes huse hopen)
  · exact closes_of_takesWork hlive htakes hbound hnames.use huse hopen hinc

/-- The thread 1 acquires a use of the worker's incarnation. -/
def sampleHeld : List (Sched Input) :=
  sampleServing ++ [.spawn] ++ moves 1 2 ++ [receives 1 .acquireUse "incarnation_id=2\n"] ++
    moves 1 5

/-- It asks for the drain of the incarnation. -/
def sampleDraining : List (Sched Input) := sampleHeld ++ sampleDrain

/-- A release of the use that was acquired. -/
def sampleReleaseUse : ProtocolMessage :=
  { type := .releaseUse, payload := lit "incarnation_id=2\nuse_id=2\n" }

/-- A live process in which the use is held, as a check. -/
theorem held_of_check {b : Bool}
    (h : s.crashed = false ∧ OpenUse s.runtime i x ∧
      (s.runtime.findInc i).all (fun inc =>
        !s.runtime.bootFenced inc.workerId inc.workerBoot && inc.state.lifecycle != .retired) = true ∧
      (Runtime.drainState s.runtime i).phase ≠ .drained ∧ takesWork s.runtime i = b) :
    s.crashed = false ∧ Held s.runtime x i ∧ takesWork s.runtime i = b := by
  obtain ⟨hlive, huse, hrecord, hphase, hopen⟩ := h
  exact ⟨hlive, ⟨huse, fun inc hinc => by simpa [hinc] using hrecord, hphase⟩, hopen⟩

theorem names_sampleReleaseUse (s : Impl) : NamesUse s { sid := 3 } sampleReleaseUse ⟨2⟩ ⟨2⟩ :=
  ⟨rfl, .inl rfl, by decide, by decide⟩

/-- The use is held and its incarnation drains; the release is refused. -/
theorem release_use_refused :
    let s := (coordinator.machine.exec (listening none) sampleDraining).shared
    s.crashed = false ∧ Held s.runtime ⟨2⟩ ⟨2⟩ ∧
      NamesUse s.runtime { sid := 3 } sampleReleaseUse ⟨2⟩ ⟨2⟩ ∧
      ¬ Closes s { sid := 3 } sampleReleaseUse ⟨2⟩ := by
  intro s
  obtain ⟨hlive, hheld, hshut⟩ : s.crashed = false ∧ Held s.runtime ⟨2⟩ ⟨2⟩ ∧
    takesWork s.runtime ⟨2⟩ = false := held_of_check (by decide +kernel)
  refine ⟨hlive, hheld, names_sampleReleaseUse _, ?_⟩
  obtain ⟨es, hcloses⟩ := closes_iff hlive rfl (names_sampleReleaseUse s.runtime)
  obtain ⟨use, huse, -, hopen⟩ := hheld.use
  rw [hcloses]
  exact not_closes_of_shut hlive hshut huse hopen

/-- Before the drain, the release is accepted. -/
theorem release_use_accepted_sample :
    Closes (coordinator.machine.exec (listening none) sampleHeld).shared { sid := 3 }
      sampleReleaseUse ⟨2⟩ := by
  obtain ⟨hlive, hheld, htakes⟩ := held_of_check
    (s := (coordinator.machine.exec (listening none) sampleHeld).shared) (x := ⟨2⟩) (i := ⟨2⟩)
    (b := true) (by decide +kernel)
  exact (release_use_accepted_iff none sampleHeld hlive hheld rfl
    (names_sampleReleaseUse _)).mpr htakes

end EngineResidency.Coordinator
