-- SUMMARY: A connection and the worker at its other end are in step: each hears what it may hear in its phase.
import EngineResidency.Network.Links

/-!
# In step

The conversation of a connection and the conversation of a worker were read off two programs. They
fit together: as long as the line between the two holds, their phases correspond after each has
heard what is on its way to it. So the answer that a connection awaits is the answer to the command
that it has sent.
-/

namespace EngineResidency

open Coordinator (ProtocolMessage)

/-! ## Hearing -/

/-- The phase of a connection after the next message of a worker, if it may come. -/
def Coordinator.Phase.hears : Coordinator.Phase → ProtocolMessage → Option Coordinator.Phase
  | .idle, m => some (.asked m)
  | .awaiting cmd, ans => if Worker.isAnswer cmd true ans then some .commanding else none
  | .closed, _ => some .closed
  | .ended, _ => some .ended
  | .asked _, _ | .commanding, _ => none

/-- The phase of a worker after the next message of its coordinator, if it may come. -/
def Worker.Phase.hears : Worker.Phase → ProtocolMessage → Option Worker.Phase
  | .waiting m, reply => some (Worker.Phase.replied m reply)
  | .listening, cmd =>
    if cmd.type = .execute ∨ cmd.type = .drain then some (.working cmd false) else none
  | .serving, _ => some .serving
  | .silent, _ => some .silent
  | .lost, _ => some .lost
  | .speaking, _ | .working _ _, _ => none

namespace Network

open Line (Mute)

variable {x x₁ x₂ : Coordinator.Phase} {y y₁ y₂ : Worker.Phase} {m : ProtocolMessage}
  {l : Line ProtocolMessage}

/-- What a connection hears is what it receives. -/
theorem hears_of_after (hafter : x.after ⟨.recv, some m⟩ = some x₁) (hhears : x.hears m = some x₂) :
    x₁ = x₂ := by
  cases x with
  | idle =>
    cases hafter
    cases hhears
    rfl
  | awaiting cmd =>
    cases hafter
    simp only [Coordinator.Phase.hears, Option.ite_none_right_eq_some] at hhears
    exact Option.some.inj hhears.2
  | _ => cases hafter

/-- What a worker hears is what it receives. -/
theorem worker_hears_of_after (hafter : y.after ⟨.recv, some m⟩ = some y₁)
    (hhears : y.hears m = some y₂) : y₁ = y₂ := by
  cases y with
  | listening =>
    simp only [Worker.Phase.hears, Option.ite_none_right_eq_some] at hhears
    obtain ⟨htype, heq⟩ := hhears
    have hne : m.type ≠ .shutdown := by
      rcases htype with htype | htype <;> simp [htype]
    cases hafter
    cases heq
    exact if_neg hne
  | waiting | serving | lost =>
    cases hafter
    cases hhears
    rfl
  | _ => cases hafter

theorem mute_asked : Mute Coordinator.Phase.hears (.asked m) := fun _ => rfl

theorem mute_commanding : Mute Coordinator.Phase.hears .commanding := fun _ => rfl

theorem mute_speaking : Mute Worker.Phase.hears .speaking := fun _ => rfl

theorem mute_working {computed : Bool} : Mute Worker.Phase.hears (.working m computed) :=
  fun _ => rfl

/-! ## Corresponding phases -/

/-- The phases of a connection and a worker that have heard all that is on its way. A worker that is
silent has been refused or drained. -/
inductive Corresponds : Coordinator.Phase → Worker.Phase → Prop
  | request : Corresponds .idle .speaking
  | answer {m : ProtocolMessage} : Corresponds (.asked m) (.waiting m)
  | command : Corresponds .commanding .listening
  | result {cmd : ProtocolMessage} {computed : Bool} :
    Corresponds (.awaiting cmd) (.working cmd computed)
  | refused : Corresponds .idle .silent
  | drained : Corresponds .commanding .silent
  | unheard {cmd : ProtocolMessage} : Corresponds (.awaiting cmd) .silent

/-- The connection and the worker are attuned. -/
abbrev Attuned (l : Line ProtocolMessage) (x : Coordinator.Phase) (y : Worker.Phase) : Prop :=
  l.Attuned Coordinator.Phase.hears Worker.Phase.hears Corresponds x y

/-- An answer leads to corresponding phases. -/
theorem corresponds_answered {q : ProtocolMessage}
    (hanswer : Coordinator.Phase.answered q m = some x₁) (h : Corresponds (.asked q) y) :
    ∃ y₁, y.hears m = some y₁ ∧ Corresponds x₁ y₁ := by
  cases h with
  | answer =>
    refine ⟨_, rfl, ?_⟩
    simp only [Coordinator.Phase.answered, Option.ite_none_right_eq_some, Option.some.injEq]
      at hanswer
    obtain ⟨-, rfl⟩ := hanswer
    unfold Worker.Phase.replied
    by_cases hready : q.type = .commandReady
    · by_cases herror : m.type = .error
      · simpa [hready, herror] using Corresponds.refused
      · simpa [hready, herror] using Corresponds.command
    · simpa [hready] using Corresponds.request

/-- A command that is sent leads to corresponding phases. -/
theorem corresponds_commanded (hcommand : Coordinator.Phase.commanded m true = some x₁)
    (h : Corresponds .commanding y) : ∃ y₁, y.hears m = some y₁ ∧ Corresponds x₁ y₁ := by
  simp only [Coordinator.Phase.commanded, if_true, Option.ite_none_right_eq_some,
    Option.some.injEq] at hcommand
  obtain ⟨htype, rfl⟩ := hcommand
  cases h with
  | command => exact ⟨_, if_pos htype, .result⟩
  | drained => exact ⟨_, rfl, .unheard⟩

theorem isAnswer_computed {cmd ans : ProtocolMessage} {computed : Bool}
    (h : Worker.isAnswer cmd computed ans = true) : Worker.isAnswer cmd true ans = true := by
  cases computed with
  | true => exact h
  | false =>
    unfold Worker.isAnswer at h ⊢
    split at h
    · cases h
    · exact h
    · exact h

/-- The answer to a command leads to corresponding phases. -/
theorem corresponds_worker_answered {cmd : ProtocolMessage} {computed : Bool}
    (hanswer : Worker.Phase.answered cmd computed m = some y₁)
    (h : Corresponds x (.working cmd computed)) :
    ∃ x₁, x.hears m = some x₁ ∧ Corresponds x₁ y₁ := by
  simp only [Worker.Phase.answered, Option.ite_none_right_eq_some, Option.some.injEq] at hanswer
  obtain ⟨hans, rfl⟩ := hanswer
  cases h with
  | result =>
    refine ⟨_, if_pos (isAnswer_computed hans), ?_⟩
    split
    · exact .drained
    · exact .command

/-! ## Workers that serve requests of their own -/

/-- The connection is in the middle of requests, none of which makes the peer take commands. -/
def Requesting : Coordinator.Phase → Prop
  | .asked m => m.type ≠ .commandReady
  | .commanding | .awaiting _ => False
  | _ => True

/-- So it is, and will be after all that is on its way. -/
structure Requests (x : Coordinator.Phase) (ms : List ProtocolMessage) : Prop where
  phase : Requesting x
  coming : ∀ m ∈ ms, m.type ≠ .commandReady

theorem Requests.concat {ms : List ProtocolMessage} (h : Requests x ms)
    (hm : m.type ≠ .commandReady) : Requests x (ms ++ [m]) := by
  refine ⟨h.phase, fun m' hm' => ?_⟩
  rcases List.mem_append.mp hm' with hold | hnew
  · exact h.coming m' hold
  · rw [List.mem_singleton.mp hnew]
    exact hm

theorem Requests.hear {ms : List ProtocolMessage} (h : Requests x (m :: ms))
    (hafter : x.after ⟨.recv, some m⟩ = some x₁) : Requests x₁ ms := by
  refine ⟨?_, fun m' hm' => h.coming m' (List.mem_cons_of_mem m hm')⟩
  cases x with
  | idle =>
    cases hafter
    exact h.coming m List.mem_cons_self
  | awaiting => exact h.phase.elim
  | _ => cases hafter

/-- Such a request is answered, and the next one may come. -/
theorem Requests.say {ms : List ProtocolMessage} {sent : Bool} (h : Requests x ms)
    (hafter : x.after ⟨.send m, sent⟩ = some x₁) : Requests x₁ ms := by
  refine ⟨?_, h.coming⟩
  cases x with
  | asked q =>
    have hanswer : Coordinator.Phase.answered q m = some x₁ := hafter
    have hstays : q.type ≠ .commandReady := h.phase
    simp only [Coordinator.Phase.answered, Option.ite_none_right_eq_some, Option.some.injEq,
      hstays, false_and, if_false] at hanswer
    rw [← hanswer.2]
    trivial
  | commanding => exact h.phase.elim
  | _ => cases hafter

/-! ## What is on its way to a connection -/

/-- The connection may hear these messages one after the other. -/
def Hearing (x : Coordinator.Phase) (ms : List ProtocolMessage) : Prop :=
  (ms.foldlM Coordinator.Phase.hears x).isSome ∨ Requests x ms

theorem Hearing.hear {ms : List ProtocolMessage} (h : Hearing x (m :: ms))
    (hafter : x.after ⟨.recv, some m⟩ = some x₁) : Hearing x₁ ms := by
  rcases h with h | h
  · rw [List.foldlM_cons] at h
    obtain ⟨x', hx'⟩ := Option.isSome_iff_exists.mp h
    obtain ⟨x₂, hhears, hrest⟩ := Option.bind_eq_some_iff.mp hx'
    rw [hears_of_after hafter hhears]
    exact .inl (Option.isSome_iff_exists.mpr ⟨x', hrest⟩)
  · exact .inr (h.hear hafter)

/-- An answer that is received is the answer to the command that was sent. -/
theorem Hearing.isAnswer {cmd : ProtocolMessage} {ms : List ProtocolMessage}
    (h : Hearing (.awaiting cmd) (m :: ms)) : Worker.isAnswer cmd true m = true := by
  rcases h with h | h
  · rw [List.foldlM_cons] at h
    obtain ⟨x', hx'⟩ := Option.isSome_iff_exists.mp h
    obtain ⟨x₂, hhears, -⟩ := Option.bind_eq_some_iff.mp hx'
    simp only [Coordinator.Phase.hears, Option.ite_none_right_eq_some] at hhears
    exact hhears.1
  · exact h.phase.elim

/-- Nothing is asked of what a connection that has nothing to hear does next. -/
theorem Hearing.pass {ms : List ProtocolMessage} (h : Hearing x ms)
    (hmute : Mute Coordinator.Phase.hears x) (hrequests : Requests x ms → Requests x₁ ms) :
    Hearing x₁ ms := by
  rcases h with h | h
  · obtain ⟨x', hx'⟩ := Option.isSome_iff_exists.mp h
    obtain ⟨rfl, -⟩ := hmute.eq_nil hx'
    exact .inl rfl
  · exact .inr (hrequests h)

/-- A connection that is gone hears whatever may come. -/
theorem hearing_gone (hgone : ∀ m, x.hears m = some x) (ms : List ProtocolMessage) :
    Hearing x ms :=
  .inl (by rw [Line.foldlM_of_stays hgone]; rfl)

/-! ## In step -/

/-- What holds of a connection in phase `x`, the worker at its other end in phase `y`, and the line
between them. -/
structure InStep (x : Coordinator.Phase) (y : Worker.Phase) (l : Line ProtocolMessage) : Prop where
  hearing : Hearing x l.inbox
  attuned : l.up = true → x = .ended ∨ Attuned l x y ∨ y = .serving ∧ Requests x l.inbox
  lost : y = .lost → l.up = false

theorem inStep_fresh : InStep .idle .speaking {} :=
  ⟨.inl rfl, fun _ => .inr (.inl ⟨_, _, rfl, rfl, .request⟩), nofun⟩

/-! ### Steps of the coordinator -/

/-- The connection has received a message. -/
theorem InStep.received (h : InStep x y l) (hm : l.inbox.head? = some m)
    (hafter : x.after ⟨.recv, some m⟩ = some x₁) : InStep x₁ y (l.after (.hear (some m))) := by
  have hinbox := Line.inbox_of_head hm
  refine ⟨?_, fun hup => ?_, h.lost⟩
  · exact Hearing.hear (hinbox ▸ h.hearing) hafter
  · rcases h.attuned hup with hended | hattuned | ⟨hserving, hrequests⟩
    · subst hended
      cases hafter
    · obtain ⟨x₂, hhears, hnext⟩ := hattuned.hear hm
      rw [hears_of_after hafter hhears]
      exact .inr (.inl hnext)
    · exact .inr (.inr ⟨hserving, (hinbox ▸ hrequests).hear hafter⟩)

theorem mute_of_say {sent : Bool} (hafter : x.after ⟨.send m, sent⟩ = some x₁) :
    Mute Coordinator.Phase.hears x := by
  cases x with
  | asked q => exact mute_asked
  | commanding => exact mute_commanding
  | _ => cases hafter

/-- The connection has sent a message. -/
theorem InStep.said (h : InStep x y l) {sent : Bool}
    (hafter : x.after ⟨.send m, sent⟩ = some x₁) : InStep x₁ y (l.after (.say m sent)) := by
  have hmute := mute_of_say hafter
  have hhearing : Hearing x₁ (l.after (.say m sent)).inbox := by
    rw [Line.inbox_of_say]
    exact h.hearing.pass hmute fun hrequests => hrequests.say hafter
  cases sent with
  | false => exact ⟨hhearing, nofun, fun _ => rfl⟩
  | true =>
    cases hup : l.up with
    | false =>
      rw [Line.after_of_down hup] at hhearing ⊢
      exact ⟨hhearing, fun hup' => absurd (hup'.symm.trans hup) nofun, fun _ => hup⟩
    | true =>
      refine ⟨hhearing, fun _ => ?_, fun hlost => absurd (hup.symm.trans (h.lost hlost)) nofun⟩
      rcases h.attuned hup with hended | hattuned | ⟨hserving, hrequests⟩
      · subst hended
        cases hafter
      · refine .inr (.inl (hattuned.say hup hmute fun y' hagree => ?_))
        cases x with
        | asked q => exact corresponds_answered hafter hagree
        | commanding => exact corresponds_commanded hafter hagree
        | _ => cases hafter
      · rw [Line.inbox_of_say]
        exact .inr (.inr ⟨hserving, hrequests.say hafter⟩)

/-- The connection is gone. -/
theorem InStep.gone (h : InStep x y l) (hgone : ∀ m, x₁.hears m = some x₁)
    (hx₁ : l.up = true → x₁ = .ended) : InStep x₁ y l :=
  ⟨hearing_gone hgone _, fun hup => .inl (hx₁ hup), h.lost⟩

/-- Every step of the coordinator keeps its connection in step. -/
theorem InStep.serve (h : InStep x y l) {e : Coordinator.Deed} (hafter : x.after e = some x₁)
    (hline : ∀ s, coordinatorSignal e = some s → l.Allows s) :
    InStep x₁ y (l.carry (coordinatorSignal e)) := by
  obtain ⟨a, r⟩ := e
  cases a with
  | recv =>
    cases r with
    | some m => exact h.received (hline _ rfl) hafter
    | none =>
      have hclosed : x₁ = .closed := by
        cases x with
        | idle | awaiting =>
          cases hafter
          rfl
        | _ => cases hafter
      subst hclosed
      exact ⟨hearing_gone (fun _ => rfl) _, nofun, fun _ => rfl⟩
  | send m => exact h.said hafter
  | abort =>
    have hended : x₁ = .ended := by
      cases x with
      | ended => cases hafter
      | _ =>
        cases hafter
        rfl
    subst hended
    exact h.gone (fun _ => rfl) fun _ => rfl
  | call | query | locked | await =>
    have hsame : x₁ = x := by
      cases x with
      | ended => cases hafter
      | _ =>
        cases hafter
        rfl
    subst hsame
    exact h

/-! ### Steps of the worker -/

theorem ne_lost_of_replied {q reply : ProtocolMessage} : Worker.Phase.replied q reply ≠ .lost := by
  unfold Worker.Phase.replied
  split
  · split <;> nofun
  · nofun

theorem ne_lost_of_answered {q ans : ProtocolMessage} {computed : Bool}
    (h : Worker.Phase.answered q computed ans = some y) : y ≠ .lost := by
  simp only [Worker.Phase.answered, Option.ite_none_right_eq_some, Option.some.injEq] at h
  obtain ⟨-, rfl⟩ := h
  split <;> nofun

/-- A worker loses its connection where it receives nothing. -/
theorem lost_of_after {e : Worker.Deed} (hafter : y.after e = some .lost) :
    y = .lost ∨ e = ⟨.recv, none⟩ := by
  obtain ⟨a, r⟩ := e
  cases a with
  | recv =>
    cases r with
    | none => exact .inr rfl
    | some m =>
      cases y with
      | lost => exact .inl rfl
      | waiting q => exact absurd (Option.some.inj hafter) ne_lost_of_replied
      | listening =>
        have heq := Option.some.inj hafter
        split at heq <;> cases heq
      | _ => cases hafter
  | send m =>
    cases y with
    | lost => exact .inl rfl
    | speaking =>
      have heq := Option.some.inj hafter
      split at heq <;> cases heq
    | working => exact absurd rfl (ne_lost_of_answered hafter)
    | serving =>
      simp only [Worker.Phase.after, Option.ite_none_left_eq_some] at hafter
      cases hafter.2
    | _ => cases hafter
  | _ =>
    cases y with
    | lost => exact .inl rfl
    | _ => cases hafter

/-- The worker has received a message. -/
theorem InStep.worker_received (h : InStep x y l) (hm : l.outbox.head? = some m)
    (hafter : y.after ⟨.recv, some m⟩ = some y₁) :
    InStep x y₁ (l.flip.after (.hear (some m))).flip := by
  refine ⟨h.hearing, fun hup => ?_, fun hlost => ?_⟩
  · rcases h.attuned hup with hended | hattuned | ⟨hserving, hrequests⟩
    · exact .inl hended
    · obtain ⟨y₂, hhears, hnext⟩ := (Line.attuned_flip.mpr hattuned).hear hm
      rw [worker_hears_of_after hafter hhears]
      exact .inr (.inl (Line.attuned_flip.mp hnext))
    · subst hserving
      cases hafter
      exact .inr (.inr ⟨rfl, hrequests⟩)
  · subst hlost
    exact h.lost ((lost_of_after hafter).resolve_right nofun)

/-- A connection does not hear its way to the next request. -/
theorem idle_of_foldlM {ms : List ProtocolMessage}
    (hms : ms.foldlM Coordinator.Phase.hears x = some .idle) : ms = [] ∧ x = .idle := by
  induction ms generalizing x with
  | nil => exact ⟨rfl, Option.some.inj hms⟩
  | cons m ms ih =>
    rw [List.foldlM_cons] at hms
    obtain ⟨x₂, hhears, hrest⟩ := Option.bind_eq_some_iff.mp hms
    obtain ⟨-, rfl⟩ := ih hrest
    cases x with
    | awaiting cmd =>
      simp only [Coordinator.Phase.hears, Option.ite_none_right_eq_some] at hhears
      cases hhears.2
    | _ => cases hhears

/-- What a worker says next leaves it attuned to its connection, unless it goes over to requests of
its own. -/
theorem Attuned.worker_say (h : Attuned l x y) (hup : l.up = true)
    (hafter : y.after ⟨.send m, true⟩ = some y₁) :
    Attuned (l.flip.after (.say m true)).flip x y₁ ∨
      y₁ = .serving ∧ Requests x (l.inbox ++ [m]) := by
  cases y with
  | speaking =>
    have hy₁ := Option.some.inj hafter
    split at hy₁
    · rename_i hacquire
      subst hy₁
      obtain ⟨x', y', hx, hy, hagree⟩ := h
      obtain ⟨-, rfl⟩ := mute_speaking.eq_nil hy
      cases hagree with
      | request =>
        obtain ⟨hnil, rfl⟩ := idle_of_foldlM hx
        rw [hnil]
        refine .inr ⟨rfl, Requests.concat ⟨trivial, nofun⟩ ?_⟩
        simp [hacquire]
    · subst hy₁
      refine .inl (Line.attuned_flip.mp ((Line.attuned_flip.mpr h).say hup mute_speaking ?_))
      intro x' hagree
      cases hagree with
      | request => exact ⟨_, rfl, .answer⟩
  | working =>
    refine .inl (Line.attuned_flip.mp ((Line.attuned_flip.mpr h).say hup mute_working ?_))
    intro x' hagree
    exact corresponds_worker_answered hafter hagree
  | serving =>
    obtain ⟨x', y', hx, hy, hagree⟩ := h
    rw [Line.foldlM_of_stays fun _ => rfl] at hy
    cases hy
    cases hagree
  | lost =>
    obtain ⟨x', y', hx, hy, hagree⟩ := h
    rw [Line.foldlM_of_stays fun _ => rfl] at hy
    cases hy
    cases hagree
  | _ => cases hafter

/-- The worker has sent a message, and the line holds. -/
theorem InStep.worker_said_up (h : InStep x y l) (hup : l.up = true)
    (hafter : y.after ⟨.send m, true⟩ = some y₁) :
    InStep x y₁ (l.flip.after (.say m true)).flip := by
  have hinbox : (l.flip.after (.say m true)).flip.inbox = l.inbox ++ [m] :=
    Line.outbox_of_up (l := l.flip) hup
  have hlost : y₁ = .lost → (l.flip.after (.say m true)).flip.up = false := fun heq => by
    subst heq
    have hdown := h.lost ((lost_of_after hafter).resolve_right nofun)
    exact absurd (hup.symm.trans hdown) nofun
  rcases h.attuned hup with hended | hattuned | ⟨hserving, hrequests⟩
  · subst hended
    exact ⟨hearing_gone (fun _ => rfl) _, fun _ => .inl rfl, hlost⟩
  · rcases hattuned.worker_say hup hafter with hnext | ⟨hserving, hrequests⟩
    · refine ⟨.inl ?_, fun _ => .inr (.inl hnext), hlost⟩
      obtain ⟨x', y', hx, -⟩ := hnext
      exact Option.isSome_iff_exists.mpr ⟨x', hx⟩
    · rw [← hinbox] at hrequests
      exact ⟨.inr hrequests, fun _ => .inr (.inr ⟨hserving, hrequests⟩), hlost⟩
  · subst hserving
    simp only [Worker.Phase.after, Option.ite_none_left_eq_some, Option.some.injEq] at hafter
    obtain ⟨htype, rfl⟩ := hafter
    have hnext := hrequests.concat htype
    rw [← hinbox] at hnext
    exact ⟨.inr hnext, fun _ => .inr (.inr ⟨rfl, hnext⟩), hlost⟩

theorem InStep.worker_said (h : InStep x y l) {sent : Bool}
    (hafter : y.after ⟨.send m, sent⟩ = some y₁) :
    InStep x y₁ (l.flip.after (.say m sent)).flip := by
  cases sent with
  | false => exact ⟨h.hearing, nofun, fun _ => rfl⟩
  | true =>
    cases hup : l.up with
    | true => exact h.worker_said_up hup hafter
    | false =>
      have hsame : (l.flip.after (.say m true)).flip = l :=
        congrArg Line.flip (Line.after_of_down (l := l.flip) hup)
      rw [hsame]
      exact ⟨h.hearing, fun hup' => absurd (hup'.symm.trans hup) nofun, fun _ => hup⟩

/-- The worker computes. -/
theorem InStep.worker_computed (h : InStep x y l) {input : Worker.ComputeInput}
    {r : Worker.ComputeResult} (hafter : y.after ⟨.execute input, r⟩ = some y₁) :
    InStep x y₁ l := by
  cases y with
  | working m computed =>
    cases hafter
    refine ⟨h.hearing, fun hup => ?_, nofun⟩
    refine (h.attuned hup).imp_right fun hrest => ?_
    rcases hrest with hattuned | ⟨hserving, -⟩
    · refine .inl (Line.attuned_flip.mp ((Line.attuned_flip.mpr hattuned).pass mute_working ?_))
      intro x' hagree
      cases hagree with
      | result => exact .result
    · cases hserving
  | _ =>
    cases hafter
    exact h

/-- Every step of a worker keeps it in step with its connection. -/
theorem InStep.work (h : InStep x y l) {e : Worker.Deed} (hafter : y.after e = some y₁)
    (hline : ∀ s, workerSignal e = some s → l.flip.Allows s) :
    InStep x y₁ (l.flip.carry (workerSignal e)).flip := by
  obtain ⟨a, r⟩ := e
  cases a with
  | recv =>
    cases r with
    | some m => exact h.worker_received (hline _ rfl) hafter
    | none => exact ⟨h.hearing, nofun, fun _ => rfl⟩
  | send m => exact h.worker_said hafter
  | execute input => exact h.worker_computed hafter
  | _ =>
    have hsame : y₁ = y := by
      cases y <;> cases hafter <;> rfl
    subst hsame
    exact h

/-! ### Waiting -/

/-- When both ends have heard everything, one of them has something to say, unless the worker serves
requests of its own. -/
theorem InStep.serving_of_waiting (h : InStep x y l) (hup : l.up = true) (hinbox : l.inbox = [])
    (houtbox : l.outbox = []) (hx : (x.after ⟨.recv, none⟩).isSome = true)
    (hy : (y.after ⟨.recv, none⟩).isSome = true) : y = .serving := by
  rcases h.attuned hup with hended | ⟨x', y', hx', hy', hcorresponds⟩ | ⟨hserving, -⟩
  · subst hended
    cases hx
  · rw [hinbox] at hx'
    rw [houtbox] at hy'
    cases hx'
    cases hy'
    cases hcorresponds with
    | answer | command | drained => cases hx
    | request | result | refused | unheard => cases hy
  · exact hserving

end Network

end EngineResidency
