-- SUMMARY: Counters that hand out identities, and when what they hand out is fresh.
import Mathlib.Algebra.Ring.Nat

/-!
# Identity counters

A counter hands out an identity by counting on and adding one, so the identity
handed out next lies two above the counter. It is fresh as long as the counter
covers every identity in use and has not run out.
-/

/-- No identity in use lies above the one that the counter handed out last. -/
def Covers (c : UInt64) (used : List UInt64) : Prop := ∀ x ∈ used, x.toNat ≤ c.toNat + 1

namespace Covers

variable {c : UInt64} {used used' : List UInt64}

theorem subset (h : Covers c used) (hsub : used' ⊆ used) : Covers c used' :=
  fun x hx => h x (hsub hx)

theorem toNat_next (hroom : c.toNat + 2 < 2 ^ 64) : (c + 1 + 1).toNat = c.toNat + 2 := by
  have hone : (1 : UInt64).toNat = 1 := rfl
  simp only [UInt64.toNat_add, hone]
  omega

theorem toNat_count (hroom : c.toNat + 2 < 2 ^ 64) : (c + 1).toNat = c.toNat + 1 := by
  have hone : (1 : UInt64).toNat = 1 := rfl
  simp only [UInt64.toNat_add, hone]
  omega

/-- The identity handed out next is not in use. -/
theorem fresh (h : Covers c used) (hroom : c.toNat + 2 < 2 ^ 64) : c + 1 + 1 ∉ used := by
  intro hmem
  have hle := h _ hmem
  rw [toNat_next hroom] at hle
  omega

/-- Counting on covers the identity that was handed out. -/
theorem count (h : Covers c used) (hroom : c.toNat + 2 < 2 ^ 64)
    (hsub : used' ⊆ (c + 1 + 1) :: used) : Covers (c + 1) used' := by
  intro x hx
  rw [toNat_count hroom]
  rcases List.mem_cons.mp (hsub hx) with rfl | hx
  · exact Nat.le_of_eq (toNat_next hroom)
  · exact Nat.le_succ_of_le (h x hx)

/-- An identity that was chosen elsewhere. -/
theorem cons {x : UInt64} (h : Covers c used) (hx : x.toNat ≤ c.toNat + 1)
    (hsub : used' ⊆ x :: used) : Covers c used' := by
  intro y hy
  rcases List.mem_cons.mp (hsub hy) with rfl | hy
  · exact hx
  · exact h y hy

end Covers
