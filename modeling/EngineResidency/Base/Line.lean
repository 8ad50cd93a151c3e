-- SUMMARY: Lines between two parties: messages in flight in both directions, and conversations that stay attuned.
import Mathlib.Init

/-!
# Lines

A line carries messages between two ends, in order in each direction, until it goes down. What
one end has said the other one hears later, so the two ends of a conversation are seldom in
corresponding phases at the same time. They are attuned when they would be, once each has
heard all that is on its way to it. It is enough to ask for this if an end that speaks has
nothing left to hear.
-/

/-- A line as one of its ends sees it: what is on its way to this end, and to the other one. -/
structure Line (M : Type) where
  up : Bool := true
  inbox : List M := []
  outbox : List M := []

/-- What an end does to its line. An end that hears nothing has given the line up. -/
inductive Signal (M : Type) where
  | hear (m : Option M)
  | say (m : M) (delivered : Bool)

namespace Line

variable {M : Type} {l : Line M} {m : M}

/-- The same line as the other end sees it. -/
def flip (l : Line M) : Line M where
  up := l.up
  inbox := l.outbox
  outbox := l.inbox

/-- What an end receives: the next message once there is one, or nothing if it does not wait. -/
def receive (l : Line M) (waits : Bool) : Option (Option M) :=
  if waits then l.inbox.head?.map some else some none

/-- What is said on a line that is down is lost; what was on its way before may still arrive. -/
def after (l : Line M) : Signal M → Line M
  | .hear (some _) => { l with inbox := l.inbox.tail }
  | .say m true => if l.up then { l with outbox := l.outbox ++ [m] } else l
  | .hear none | .say _ false => { l with up := false }

/-- A step of an end that may be no signal. -/
def carry (l : Line M) (s : Option (Signal M)) : Line M := s.elim l l.after

/-- What an end hears is the next message on its way to it. -/
def Allows (l : Line M) : Signal M → Prop
  | .hear (some m) => l.inbox.head? = some m
  | _ => True

theorem inbox_of_head (h : l.inbox.head? = some m) :
    l.inbox = m :: (l.after (.hear (some m))).inbox := by
  obtain ⟨rest, hrest⟩ := List.head?_eq_some_iff.mp h
  simp [after, hrest]

theorem allows_receive {waits : Bool} {r : Option M} (h : l.receive waits = some r) :
    l.Allows (.hear r) := by
  unfold receive at h
  split at h
  · obtain ⟨m, hm, heq⟩ := Option.map_eq_some_iff.mp h
    subst heq
    exact hm
  · cases h
    trivial

/-! ## Conversations -/

variable {X Y : Type} {p : X → M → Option X} {q : Y → M → Option Y} {R : X → Y → Prop}
  {x x₁ : X} {y : Y}

/-- After each end has heard what is on its way to it, their phases correspond. -/
def Attuned (p : X → M → Option X) (q : Y → M → Option Y) (R : X → Y → Prop) (l : Line M) (x : X)
    (y : Y) : Prop :=
  ∃ x' y', l.inbox.foldlM p x = some x' ∧ l.outbox.foldlM q y = some y' ∧ R x' y'

/-- The end hears nothing in this phase. -/
def Mute (p : X → M → Option X) (x : X) : Prop := ∀ m, p x m = none

theorem attuned_flip : l.flip.Attuned q p (fun y x => R x y) y x ↔ l.Attuned p q R x y := by
  constructor
  · rintro ⟨y', x', hy, hx, hR⟩
    exact ⟨x', y', hx, hy, hR⟩
  · rintro ⟨x', y', hx, hy, hR⟩
    exact ⟨y', x', hy, hx, hR⟩

/-- Nothing is on its way to an end that hears nothing. -/
theorem Mute.eq_nil (hmute : Mute p x) {ms : List M} {x' : X} (h : ms.foldlM p x = some x') :
    ms = [] ∧ x' = x := by
  cases ms with
  | nil => exact ⟨rfl, (Option.some.inj h).symm⟩
  | cons m ms =>
    rw [List.foldlM_cons, hmute m] at h
    cases h

/-- An end that stays as it is hears everything. -/
theorem foldlM_of_stays (h : ∀ m, p x m = some x) (ms : List M) : ms.foldlM p x = some x := by
  induction ms with
  | nil => rfl
  | cons m ms ih =>
    rw [List.foldlM_cons, h m]
    exact ih

theorem Attuned.hear (h : l.Attuned p q R x y) (hm : l.inbox.head? = some m) :
    ∃ x₁, p x m = some x₁ ∧ (l.after (.hear (some m))).Attuned p q R x₁ y := by
  obtain ⟨x', y', hx, hy, hR⟩ := h
  rw [inbox_of_head hm, List.foldlM_cons] at hx
  obtain ⟨x₁, hx₁, hrest⟩ := Option.bind_eq_some_iff.mp hx
  exact ⟨x₁, hx₁, x', y', hrest, hy, hR⟩

theorem outbox_of_up (h : l.up = true) : (l.after (.say m true)).outbox = l.outbox ++ [m] := by
  simp [after, h]

theorem after_of_down (h : l.up = false) : l.after (.say m true) = l := by
  simp [after, h]

theorem inbox_of_say {delivered : Bool} : (l.after (.say m delivered)).inbox = l.inbox := by
  cases delivered with
  | false => rfl
  | true =>
    simp only [after]
    split <;> rfl

/-- An end that has nothing to hear speaks. -/
theorem Attuned.say (h : l.Attuned p q R x y) (hup : l.up = true) (hmute : Mute p x)
    (hR : ∀ y', R x y' → ∃ y₁, q y' m = some y₁ ∧ R x₁ y₁) :
    (l.after (.say m true)).Attuned p q R x₁ y := by
  obtain ⟨x', y', hx, hy, hagree⟩ := h
  obtain ⟨hinbox, rfl⟩ := hmute.eq_nil hx
  obtain ⟨y₁, hy₁, hagree₁⟩ := hR y' hagree
  refine ⟨x₁, y₁, ?_, ?_, hagree₁⟩
  · rw [inbox_of_say, hinbox]
    rfl
  · rw [outbox_of_up hup, List.foldlM_append, hy]
    simpa using hy₁

/-- An end that has nothing to hear goes over to another phase. -/
theorem Attuned.pass (h : l.Attuned p q R x y) (hmute : Mute p x)
    (hR : ∀ y', R x y' → R x₁ y') : l.Attuned p q R x₁ y := by
  obtain ⟨x', y', hx, hy, hagree⟩ := h
  obtain ⟨hinbox, rfl⟩ := hmute.eq_nil hx
  refine ⟨x₁, y', ?_, hy, hR y' hagree⟩
  rw [hinbox]
  rfl

end Line
