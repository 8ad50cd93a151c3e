-- SUMMARY: What has been taken from a bounded table and what of it is still pending.
import EngineResidency.Base.UMap
import Mathlib.Data.Finset.Card

/-!
# Occupancy

A bounded table hands out places under keys. Of the keys that have been taken some are
still pending; the others are finished, and their places could be given back. A table
that keeps what is finished is full as soon as enough keys have been taken, however few
of them are pending.
-/

/-- The keys that have been taken, and those of them that are pending. -/
structure Occupancy (K : Type) where
  taken : Finset K
  pending : Finset K
  subset : pending ⊆ taken

namespace Occupancy

variable {K V : Type}

/-- Nothing has been taken. -/
def empty : Occupancy K := ⟨∅, ∅, Finset.Subset.refl ∅⟩

/-- With `max` places, of which no more have been taken, there is a free one whenever fewer are
pending if and only if there is one or nothing has been finished. -/
theorem room_iff {o : Occupancy K} {max : Nat} (hmax : o.taken.card ≤ max) :
    (o.pending.card < max → o.taken.card < max) ↔
      o.taken.card < max ∨ o.pending = o.taken := by
  constructor
  · intro h
    by_cases hroom : o.taken.card < max
    · exact .inl hroom
    · have hpending : max ≤ o.pending.card := Nat.not_lt.mp fun hlt => hroom (h hlt)
      exact .inr (Finset.eq_of_subset_of_card_le o.subset (hmax.trans hpending))
  · rintro (hroom | heq) hpending
    · exact hroom
    · rwa [← heq]

variable [DecidableEq K]

/-- A key is taken, or taken once more. -/
def enter (k : K) (o : Occupancy K) : Occupancy K :=
  ⟨insert k o.taken, insert k o.pending, Finset.insert_subset_insert k o.subset⟩

/-- What is kept under a key is finished. -/
def finish (k : K) (o : Occupancy K) : Occupancy K :=
  ⟨o.taken, o.pending.erase k, (Finset.erase_subset k o.pending).trans o.subset⟩

theorem card_enter (k : K) (o : Occupancy K) : (o.enter k).taken.card ≤ o.taken.card + 1 :=
  Finset.card_insert_le k o.taken

/-! ## Tables that keep what is finished -/

/-- The table has an entry under every key that has been taken, and under no other. -/
def Fills (o : Occupancy K) (m : UMap K V) : Prop := ∀ k, k ∈ m ↔ k ∈ o.taken

namespace Fills

variable {o : Occupancy K} {m : UMap K V}

omit [DecidableEq K] in
theorem empty : Fills .empty (∅ : UMap K V) := by
  intro k
  exact iff_of_false (AList.notMem_empty k) (Finset.notMem_empty k)

theorem enter (h : o.Fills m) (k : K) (v : V) : (o.enter k).Fills (m.insert k v) := by
  intro k'
  rw [AList.mem_insert, h k']
  exact Finset.mem_insert.symm

theorem finish (h : o.Fills m) (k : K) : (o.finish k).Fills m := h

theorem size (h : o.Fills m) : m.size = o.taken.card := by
  have hkeys : m.keys.toFinset = o.taken := by
    ext k
    rw [List.mem_toFinset, ← AList.mem_keys, h k]
  rw [← hkeys, List.toFinset_card_of_nodup m.keys_nodup, AList.keys, List.keys, List.length_map]
  rfl

end Fills

end Occupancy
