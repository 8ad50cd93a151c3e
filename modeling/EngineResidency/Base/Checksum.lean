-- SUMMARY: Checksums that fold a hash step over bytes, and which corruptions they detect.
import Mathlib.Data.List.Basic
import Mathlib.Logic.Function.Basic

/-!
# Checksums

A hash step that loses nothing of its word and nothing of its byte carries the
difference of one byte through all bytes that follow: two lists that differ in one
place have different checksums.
-/

/-- Two lists of one length that differ in exactly one place. -/
def DiffersOnce {B : Type} (as bs : List B) : Prop :=
  as.length = bs.length ∧ ∃! i : ℕ, as[i]? ≠ bs[i]?

namespace DiffersOnce

variable {B : Type} {as bs : List B}

theorem ne (h : DiffersOnce as bs) : as ≠ bs := by
  rintro rfl
  obtain ⟨-, i, hi, -⟩ := h
  exact hi rfl

/-- Around the place where they differ, the lists are the same. -/
theorem exists_eq (h : DiffersOnce as bs) :
    ∃ before a b after, a ≠ b ∧ as = before ++ a :: after ∧ bs = before ++ b :: after := by
  obtain ⟨hlen, i, hi, hother⟩ := h
  have hsame : ∀ j, j ≠ i → as[j]? = bs[j]? := fun j hj => by
    by_contra hne
    exact hj (hother j hne)
  have hbound : i < as.length := by
    by_contra hge
    rw [Nat.not_lt] at hge
    rw [List.getElem?_eq_none hge, List.getElem?_eq_none (hlen ▸ hge)] at hi
    exact hi rfl
  have hbound' : i < bs.length := hlen ▸ hbound
  have hbefore : bs.take i = as.take i := by
    apply List.ext_getElem?
    intro j
    by_cases hj : j < i
    · rw [List.getElem?_take_of_lt hj, List.getElem?_take_of_lt hj, hsame j (Nat.ne_of_lt hj)]
    · rw [List.getElem?_take_eq_none (Nat.not_lt.mp hj), List.getElem?_take_eq_none (Nat.not_lt.mp hj)]
  have hafter : bs.drop (i + 1) = as.drop (i + 1) := by
    apply List.ext_getElem?
    intro j
    rw [List.getElem?_drop, List.getElem?_drop, hsame _ (by omega)]
  refine ⟨as.take i, as[i], bs[i], as.drop (i + 1), ?_, ?_, ?_⟩
  · rw [List.getElem?_eq_getElem hbound, List.getElem?_eq_getElem hbound'] at hi
    exact fun heq => hi (congrArg some heq)
  · rw [List.getElem_cons_drop, List.take_append_drop]
  · rw [← hbefore, ← hafter, List.getElem_cons_drop, List.take_append_drop]

/-- Lists that are the same around one place differ once. -/
theorem of_eq {before after : List B} {a b : B} (hne : a ≠ b) :
    DiffersOnce (before ++ a :: after) (before ++ b :: after) := by
  refine ⟨by simp, before.length, by simpa using hne, fun j hj => ?_⟩
  by_contra hplace
  apply hj
  rcases Nat.lt_or_gt_of_ne hplace with hlt | hgt
  · rw [List.getElem?_append_left hlt, List.getElem?_append_left hlt]
  · obtain ⟨k, rfl⟩ := Nat.exists_eq_add_of_lt hgt
    rw [List.getElem?_append_right (by omega), List.getElem?_append_right (by omega),
      show before.length + k + 1 - before.length = k + 1 by omega, List.getElem?_cons_succ,
      List.getElem?_cons_succ]

/-- Another element in one place. -/
theorem set {i : ℕ} {b : B} (hi : i < as.length) (hne : as[i] ≠ b) : DiffersOnce as (as.set i b) := by
  have hcut : as = as.take i ++ as[i] :: as.drop (i + 1) := by
    rw [List.getElem_cons_drop, List.take_append_drop]
  have hset : as.set i b = as.take i ++ b :: as.drop (i + 1) := by
    rw [List.set_eq_take_append_cons_drop, if_pos hi]
  have hdiff : DiffersOnce (as.take i ++ as[i] :: as.drop (i + 1)) (as.take i ++ b :: as.drop (i + 1)) :=
    of_eq hne
  rwa [← hcut, ← hset] at hdiff

/-- Wherever the lists are cut, they differ on one side of the cut only. -/
theorem cut (h : DiffersOnce as bs) (n : ℕ) :
    DiffersOnce (as.take n) (bs.take n) ∧ as.drop n = bs.drop n ∨
      as.take n = bs.take n ∧ DiffersOnce (as.drop n) (bs.drop n) := by
  obtain ⟨before, a, b, after, hne, rfl, rfl⟩ := h.exists_eq
  by_cases hn : n ≤ before.length
  · right
    rw [List.take_append_of_le_length hn, List.take_append_of_le_length hn,
      List.drop_append_of_le_length hn, List.drop_append_of_le_length hn]
    exact ⟨rfl, of_eq hne⟩
  · left
    obtain ⟨k, rfl⟩ := Nat.exists_eq_add_of_lt (Nat.not_le.mp hn)
    rw [List.take_append, List.take_append, List.drop_append, List.drop_append]
    simp only [List.take_of_length_le (Nat.le_of_lt (Nat.not_le.mp hn)),
      show before.length + k + 1 - before.length = k + 1 by omega, List.take_succ_cons,
      List.drop_succ_cons]
    exact ⟨of_eq hne, trivial⟩

end DiffersOnce

/-- A hash step that loses nothing: another word gives another word, and so does another
byte. -/
structure Mixing {W B : Type} (step : W → B → W) : Prop where
  word : ∀ b, Function.Injective fun w => step w b
  byte : ∀ w, Function.Injective (step w)

namespace Mixing

variable {W B : Type} {step : W → B → W}

/-- What a mixing step yields may be mapped on without loss. -/
theorem map (h : Mixing step) {f : W → W} (hf : Function.Injective f) :
    Mixing fun w b => f (step w b) :=
  ⟨fun b => hf.comp (h.word b), fun w => hf.comp (h.byte w)⟩

/-- The bytes that follow keep different words apart. -/
theorem foldl_injective (h : Mixing step) (bs : List B) :
    Function.Injective fun w => bs.foldl step w := by
  induction bs with
  | nil => exact Function.injective_id
  | cons b bs ih => exact ih.comp (h.word b)

/-- A checksum tells apart two lists that differ in one place. -/
theorem foldl_ne (h : Mixing step) {as bs : List B} (hdiff : DiffersOnce as bs) (w : W) :
    as.foldl step w ≠ bs.foldl step w := by
  obtain ⟨before, a, b, after, hne, rfl, rfl⟩ := hdiff.exists_eq
  rw [List.foldl_append, List.foldl_append, List.foldl_cons, List.foldl_cons]
  intro heq
  exact hne (h.byte _ (h.foldl_injective after heq))

end Mixing
