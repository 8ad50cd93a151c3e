-- SUMMARY: Decoders that read one message at a time from a stream that arrives in pieces.
import Mathlib.Data.List.Basic

/-!
# Framing

A decoder looks at the bytes received so far and either produces a message with the
number of bytes it took, or asks for more, or gives up. A reader keeps the bytes that no
message has taken and asks for the next piece of the stream when the decoder wants more.
When the decoder does not change its mind as bytes arrive, the messages that are read do
not depend on how the stream was cut into pieces.
-/

namespace Framing

variable {α β : Type}

/-- What a decoder says about the bytes it has seen. -/
inductive Verdict (β : Type) where
  | more
  | bad
  | done (b : β) (used : Nat)

/-- A decoder that keeps its verdict when more bytes arrive. -/
structure Decoder (α β : Type) where
  decode : List α → Verdict β
  used_pos : ∀ {xs b n}, decode xs = .done b n → 0 < n
  used_le : ∀ {xs b n}, decode xs = .done b n → n ≤ xs.length
  done_append : ∀ {xs b n}, decode xs = .done b n → ∀ ys, decode (xs ++ ys) = .done b n
  bad_append : ∀ {xs}, decode xs = .bad → ∀ ys b n, decode (xs ++ ys) ≠ .done b n

namespace Decoder

variable (d : Decoder α β)

/-! ## The messages of a whole stream -/

theorem length_drop_lt {xs : List α} {b : β} {n : Nat} (h : d.decode xs = .done b n) :
    (xs.drop n).length < xs.length := by
  have hpos := d.used_pos h
  have hle := d.used_le h
  rw [List.length_drop]
  omega

/-- The messages at the front of a stream, up to the first bytes that are none. -/
def messages (xs : List α) : List β :=
  match h : d.decode xs with
  | .done b n =>
    have := d.length_drop_lt h
    b :: messages (xs.drop n)
  | _ => []
termination_by xs.length
decreasing_by assumption

theorem messages_done {xs : List α} {b : β} {n : Nat} (h : d.decode xs = .done b n) :
    d.messages xs = b :: d.messages (xs.drop n) := by
  rw [messages]
  split
  · next heq =>
    rw [h] at heq
    cases heq
    rfl
  · next hne => exact absurd h (hne b n)

theorem messages_not_done {xs : List α} (h : ∀ b n, d.decode xs ≠ .done b n) :
    d.messages xs = [] := by
  rw [messages]
  split
  · next b n heq => exact absurd heq (h b n)
  · rfl

/-- A message that fills a prefix is read first, whatever follows it. -/
theorem messages_append {xs : List α} {b : β} (h : d.decode xs = .done b xs.length)
    (ys : List α) : d.messages (xs ++ ys) = b :: d.messages ys := by
  rw [d.messages_done (d.done_append h ys), List.drop_left]

/-! ## The messages of a stream that arrives in pieces -/

/-- The next message, with the bytes and pieces that are left after it. -/
def next (buf : List α) : List (List α) → Option (β × List α × List (List α))
  | [] =>
    match d.decode buf with
    | .done b n => some (b, buf.drop n, [])
    | _ => none
  | piece :: pieces =>
    match d.decode buf with
    | .done b n => some (b, buf.drop n, piece :: pieces)
    | .bad => none
    | .more => next (buf ++ piece) pieces

/-- The next message is the one at the front of the whole stream. -/
theorem next_some {buf buf' : List α} {pieces pieces' : List (List α)} {b : β}
    (h : d.next buf pieces = some (b, buf', pieces')) :
    ∃ n, d.decode (buf ++ pieces.flatten) = .done b n ∧
      buf' ++ pieces'.flatten = (buf ++ pieces.flatten).drop n := by
  induction pieces generalizing buf with
  | nil =>
    simp only [next] at h
    split at h
    · next c n hdone =>
      cases h
      exact ⟨n, d.done_append hdone _, by simp⟩
    · cases h
  | cons piece pieces ih =>
    simp only [next] at h
    split at h
    · next c n hdone =>
      cases h
      refine ⟨n, d.done_append hdone _, ?_⟩
      rw [List.drop_append_of_le_length (d.used_le hdone)]
    · cases h
    · simpa using ih h

/-- There is no next message when the whole stream does not start with one. -/
theorem next_none {buf : List α} {pieces : List (List α)} (h : d.next buf pieces = none) :
    ∀ b n, d.decode (buf ++ pieces.flatten) ≠ .done b n := by
  induction pieces generalizing buf with
  | nil =>
    simp only [next] at h
    intro b n hdone
    rw [List.flatten_nil, List.append_nil] at hdone
    rw [hdone] at h
    cases h
  | cons piece pieces ih =>
    simp only [next] at h
    split at h
    · cases h
    · next hbad => exact d.bad_append hbad _
    · simpa using ih h

/-- The bytes left after a message are fewer. -/
theorem next_length {buf buf' : List α} {pieces pieces' : List (List α)} {b : β}
    (h : d.next buf pieces = some (b, buf', pieces')) :
    (buf' ++ pieces'.flatten).length < (buf ++ pieces.flatten).length := by
  obtain ⟨n, hdone, heq⟩ := d.next_some h
  rw [heq]
  exact d.length_drop_lt hdone

/-- Pieces are taken from the front. -/
theorem next_suffix {buf buf' : List α} {pieces pieces' : List (List α)} {b : β}
    (h : d.next buf pieces = some (b, buf', pieces')) : pieces' <:+ pieces := by
  induction pieces generalizing buf with
  | nil =>
    simp only [next] at h
    split at h <;> cases h
    exact List.suffix_refl _
  | cons piece pieces ih =>
    simp only [next] at h
    split at h
    · cases h
      exact List.suffix_refl _
    · cases h
    · exact (ih h).trans (List.suffix_cons piece pieces)

/-- The messages read until the first time there is none. -/
def received (buf : List α) (pieces : List (List α)) : List β :=
  match h : d.next buf pieces with
  | some (b, buf', pieces') =>
    have := d.next_length h
    b :: received buf' pieces'
  | none => []
termination_by (buf ++ pieces.flatten).length
decreasing_by assumption

theorem received_some {buf buf' : List α} {pieces pieces' : List (List α)} {b : β}
    (h : d.next buf pieces = some (b, buf', pieces')) :
    d.received buf pieces = b :: d.received buf' pieces' := by
  rw [received]
  split
  · next heq =>
    rw [h] at heq
    cases heq
    rfl
  · next hnone =>
    rw [h] at hnone
    cases hnone

theorem received_none {buf : List α} {pieces : List (List α)} (h : d.next buf pieces = none) :
    d.received buf pieces = [] := by
  rw [received]
  split
  · next heq =>
    rw [h] at heq
    cases heq
  · rfl

/-- However the stream is cut, its messages are read. -/
theorem received_eq_messages (buf : List α) (pieces : List (List α)) :
    d.received buf pieces = d.messages (buf ++ pieces.flatten) := by
  induction buf, pieces using received.induct d with
  | case1 buf pieces b buf' pieces' h _ ih =>
    obtain ⟨n, hdone, heq⟩ := d.next_some h
    rw [d.received_some h, ih, heq, d.messages_done hdone]
  | case2 buf pieces h =>
    rw [d.received_none h, d.messages_not_done (d.next_none h)]

end Decoder

end Framing
