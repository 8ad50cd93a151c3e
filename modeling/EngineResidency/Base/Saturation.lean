-- SUMMARY: Loops that add up weights and stop at a bound, and what they have seen by then.
import Mathlib.Algebra.BigOperators.Group.List.Basic
import Mathlib.Algebra.Ring.Nat
import Mathlib.Data.List.MinMax
import Mathlib.Order.Nat

/-!
# Saturating loops

A loop adds up the weights of a list and stops at the element that takes the sum to a
bound. It sees an element of some kind in every order of the list exactly when the
elements of the other kind do not reach the bound.
-/

namespace Saturation

variable {A : Type} {w : A → ℕ} {bound sum : ℕ} {xs : List A}

/-- The elements that the loop sees, from a given sum on. -/
def seen (w : A → ℕ) (bound sum : ℕ) : List A → List A
  | [] => []
  | x :: xs => if bound ≤ sum + w x then [x] else x :: seen w bound (sum + w x) xs

/-- What a list weighs. -/
def weight (w : A → ℕ) (xs : List A) : ℕ := (xs.map w).sum

@[simp] theorem weight_cons (x : A) : weight w (x :: xs) = w x + weight w xs := List.sum_cons

theorem weight_perm {ys : List A} (h : xs.Perm ys) : weight w xs = weight w ys :=
  (h.map w).sum_eq

/-- The greatest weight in a list, or zero. -/
def heaviest (w : A → ℕ) (xs : List A) : ℕ := (xs.map w).foldr max 0

theorem le_heaviest {x : A} (hx : x ∈ xs) : w x ≤ heaviest w xs :=
  List.le_max_of_le' 0 (List.mem_map_of_mem hx) le_rfl

theorem heaviest_le {n : ℕ} (h : ∀ x ∈ xs, w x ≤ n) : heaviest w xs ≤ n := by
  apply List.max_le_of_forall_le (xs.map w)
  intro m hm
  obtain ⟨x, hx, rfl⟩ := List.mem_map.mp hm
  exact h x hx

/-- The greatest weight is that of some element. -/
theorem exists_heaviest (h : xs ≠ []) : ∃ x ∈ xs, w x = heaviest w xs := by
  induction xs with
  | nil => exact absurd rfl h
  | cons x xs ih =>
    change ∃ y ∈ x :: xs, w y = max (w x) (heaviest w xs)
    rcases le_total (heaviest w xs) (w x) with hle | hle
    · exact ⟨x, List.mem_cons_self, (max_eq_left hle).symm⟩
    · rw [max_eq_right hle]
      by_cases hxs : xs = []
      · subst hxs
        exact ⟨x, List.mem_cons_self, Nat.le_zero.mp hle |>.trans rfl⟩
      · obtain ⟨y, hy, heq⟩ := ih hxs
        exact ⟨y, List.mem_cons_of_mem x hy, heq⟩

/-! ## What a loop sees -/

theorem mem_of_mem_seen {x : A} (h : x ∈ seen w bound sum xs) : x ∈ xs := by
  induction xs generalizing sum with
  | nil => exact h
  | cons y xs ih =>
    rw [seen] at h
    split at h
    · rw [List.mem_singleton.mp h]
      exact List.mem_cons_self
    · rcases List.mem_cons.mp h with rfl | h
      · exact List.mem_cons_self
      · exact List.mem_cons_of_mem y (ih h)

/-- Nothing behind the place where the bound is reached is seen. -/
theorem seen_append {ys : List A} (hsum : sum < bound) (h : bound ≤ sum + weight w xs) :
    seen w bound sum (xs ++ ys) = seen w bound sum xs := by
  induction xs generalizing sum with
  | nil => exact absurd h (not_le.mpr hsum)
  | cons x xs ih =>
    rw [weight_cons] at h
    rw [List.cons_append, seen, seen]
    split
    · rfl
    · rename_i hlt
      rw [ih (not_le.mp hlt) (by omega)]

variable {p : A → Bool}

/-- An element that is wanted is seen while the others do not reach the bound. -/
theorem exists_seen (hwanted : ∃ x ∈ xs, p x = true)
    (h : sum + weight w (xs.filter fun x => !p x) < bound) :
    ∃ x ∈ seen w bound sum xs, p x = true := by
  induction xs generalizing sum with
  | nil =>
    obtain ⟨x, hx, -⟩ := hwanted
    cases hx
  | cons y xs ih =>
    by_cases hy : p y = true
    · refine ⟨y, ?_, hy⟩
      rw [seen]
      split
      · exact List.mem_cons_self
      · exact List.mem_cons_self
    · have hrest : ∃ x ∈ xs, p x = true := by
        obtain ⟨x, hx, hpx⟩ := hwanted
        rcases List.mem_cons.mp hx with rfl | hx
        · exact absurd hpx hy
        · exact ⟨x, hx, hpx⟩
      rw [List.filter_cons_of_pos (by simp [hy]), weight_cons] at h
      have hgo : ¬ bound ≤ sum + w y := by omega
      rw [seen, if_neg hgo]
      have hothers : sum + w y + weight w (xs.filter fun x => !p x) < bound := by omega
      obtain ⟨x, hx, hpx⟩ := ih hrest hothers
      exact ⟨x, List.mem_cons_of_mem y hx, hpx⟩

/-- In every order some wanted element is seen exactly when the others do not reach the bound. -/
theorem exists_seen_perm_iff (hbound : 0 < bound) (hwanted : ∃ x ∈ xs, p x = true) :
    (∀ ys, xs.Perm ys → ∃ x ∈ seen w bound 0 ys, p x = true) ↔
      weight w (xs.filter fun x => !p x) < bound := by
  constructor
  · intro h
    by_contra hge
    rw [not_lt] at hge
    -- the others first: they reach the bound on their own
    obtain ⟨x, hx, hpx⟩ := h ((xs.filter fun x => !p x) ++ xs.filter fun x => !!p x)
      (List.filter_append_perm _ _).symm
    rw [seen_append hbound (by omega)] at hx
    simpa [hpx] using (List.mem_filter.mp (mem_of_mem_seen hx)).2
  · intro h ys hperm
    apply exists_seen
    · obtain ⟨x, hx, hpx⟩ := hwanted
      exact ⟨x, hperm.mem_iff.mp hx, hpx⟩
    · rw [Nat.zero_add, ← weight_perm (hperm.filter _)]
      exact h

end Saturation
