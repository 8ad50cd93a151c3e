-- SUMMARY: The first least element of a list by a key, among those that are admitted.
import EngineResidency.Base.Lists
import Mathlib.Data.Prod.Lex
import Mathlib.Order.Nat

/-!
# First least elements

A scan that replaces its choice only for a smaller key ends with the first of the least
elements. The rules below say what one more element does to the choice.
-/

/-- `a`, at `i`, is the first of the least elements by `key` of those that `p` admits. -/
structure FirstLeast {A K : Type} [LinearOrder K] (key : A → K) (p : A → Prop) (xs : List A) (i : ℕ)
    (a : A) : Prop where
  place : xs[i]? = some a
  admitted : p a
  least : ∀ j b, xs[j]? = some b → p b → toLex (key a, i) ≤ toLex (key b, j)

namespace FirstLeast

variable {A K : Type} [LinearOrder K] {key : A → K} {p : A → Prop} {xs : List A} {i : ℕ} {a b : A}

theorem lt_length (h : FirstLeast key p xs i a) : i < xs.length :=
  (List.getElem?_eq_some_iff.mp h.place).1

/-- The choice stays when the next element is not smaller, or is not admitted. -/
theorem concat_of_le (h : FirstLeast key p xs i a) (hb : p b → key a ≤ key b) :
    FirstLeast key p (xs ++ [b]) i a := by
  refine ⟨?_, h.admitted, fun j c hc hpc => ?_⟩
  · rw [List.getElem?_append_left h.lt_length, h.place]
  · rcases List.getElem?_concat_cases hc with ⟨rfl, rfl⟩ | hc
    · rw [Prod.Lex.toLex_le_toLex]
      exact (hb hpc).lt_or_eq.imp_right fun heq => ⟨heq, h.lt_length.le⟩
    · exact h.least j c hc hpc

/-- The next element is chosen when it is smaller than every admitted one before it. -/
theorem concat_of_lt (hpb : p b) (hb : ∀ c ∈ xs, p c → key b < key c) :
    FirstLeast key p (xs ++ [b]) xs.length b := by
  refine ⟨List.getElem?_concat_length, hpb, fun j c hc hpc => ?_⟩
  rcases List.getElem?_concat_cases hc with ⟨rfl, rfl⟩ | hc
  · exact le_rfl
  · rw [Prod.Lex.toLex_le_toLex]
    exact .inl (hb c (List.mem_of_getElem? hc) hpc)

theorem key_le (h : FirstLeast key p xs i a) {c : A} (hc : c ∈ xs) (hpc : p c) : key a ≤ key c := by
  obtain ⟨j, hj⟩ := List.mem_iff_getElem?.mp hc
  have hle := h.least j c hj hpc
  rw [Prod.Lex.toLex_le_toLex] at hle
  rcases hle with hlt | ⟨heq, -⟩
  · exact hlt.le
  · exact heq.le

/-- Where something is admitted, something is chosen. -/
theorem exists_of_admitted (h : ∃ x ∈ xs, p x) : ∃ i a, FirstLeast key p xs i a := by
  induction xs using List.reverseRecOn with
  | nil =>
    obtain ⟨x, hx, -⟩ := h
    cases hx
  | append_singleton xs b ih =>
    by_cases hxs : ∃ x ∈ xs, p x
    · obtain ⟨i, a, hchosen⟩ := ih hxs
      by_cases hb : p b ∧ key b < key a
      · exact ⟨xs.length, b, concat_of_lt hb.1 fun c hc hpc => hb.2.trans_le (hchosen.key_le hc hpc)⟩
      · exact ⟨i, a, hchosen.concat_of_le fun hpb => not_lt.mp fun hlt => hb ⟨hpb, hlt⟩⟩
    · obtain ⟨x, hx, hpx⟩ := h
      have hxb : x = b := by
        rcases List.mem_append.mp hx with hx | hx
        · exact absurd ⟨x, hx, hpx⟩ hxs
        · exact List.mem_singleton.mp hx
      exact ⟨xs.length, b, concat_of_lt (hxb ▸ hpx) fun c hc hpc => absurd ⟨c, hc, hpc⟩ hxs⟩

end FirstLeast
