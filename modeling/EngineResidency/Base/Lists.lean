-- SUMMARY: Lists that grow at their end, and texts that are split at a separator.
import Mathlib.Data.List.Basic
import Mathlib.Data.List.Induction

/-!
# Lists

Logs and traces grow at their end: what is found in a longer list was there before, or is the
element that has just been appended. A text is put together from lines and split into them again.
-/

namespace List

variable {A B : Type}

/-! ## Growth at the end -/

theorem concat_split {xs pre post : List A} {y e : A} (h : xs ++ [y] = pre ++ e :: post) :
    (xs = pre ∧ y = e ∧ post = []) ∨ ∃ rest, post = rest ++ [y] ∧ xs = pre ++ e :: rest := by
  rcases eq_nil_or_concat post with rfl | ⟨rest, y', rfl⟩
  · obtain ⟨hxs, hy⟩ := append_inj' h rfl
    exact .inl ⟨hxs, singleton_inj.mp hy, rfl⟩
  · rw [concat_eq_append, ← cons_append, ← append_assoc] at h
    obtain ⟨hxs, hy⟩ := append_inj' h rfl
    exact .inr ⟨rest, by rw [singleton_inj.mp hy, concat_eq_append], hxs⟩

theorem getElem?_concat_cases {xs : List A} {j : Nat} {x y : A} (h : (xs ++ [x])[j]? = some y) :
    (j = xs.length ∧ y = x) ∨ xs[j]? = some y := by
  rw [getElem?_append] at h
  split at h
  · exact .inr h
  · rename_i hge
    obtain ⟨hlt, heq⟩ := getElem?_eq_some_iff.mp h
    rw [length_singleton] at hlt
    exact .inl ⟨by omega, by simpa using heq.symm⟩

theorem getElem?_set_cases {xs : List A} {i j : Nat} {x y : A} (h : (xs.set i x)[j]? = some y) :
    (i = j ∧ y = x) ∨ (i ≠ j ∧ xs[j]? = some y) := by
  rw [getElem?_set] at h
  split at h
  · rename_i hij
    split at h
    · exact .inl ⟨hij, (Option.some.inj h).symm⟩
    · cases h
  · rename_i hij
    exact .inr ⟨hij, h⟩

theorem filterMap_concat (f : A → Option B) (xs : List A) (y : A) :
    (xs ++ [y]).filterMap f = xs.filterMap f ++ (f y).toList := by
  rw [filterMap_append, filterMap_cons]
  cases f y <;> rfl

/-! ## Lines -/

section Lines

variable [DecidableEq A] {sep : A}

/-- Lines without the separator are read back from their text; an empty line follows the last
separator. -/
theorem splitOn_terminated {lines : List (List A)} (h : ∀ l ∈ lines, sep ∉ l) :
    (lines.flatMap fun l => l ++ [sep]).splitOn sep = lines ++ [[]] := by
  induction lines with
  | nil => rfl
  | cons l lines ih =>
    obtain ⟨hl, hlines⟩ := forall_mem_cons.mp h
    rw [flatMap_cons, append_assoc, singleton_append, splitOn_append_cons_self_of_not_mem hl,
      ih hlines, cons_append]

/-- The separator is in none of the lines that are read. -/
theorem not_mem_of_mem_splitOn {text l : List A} (h : l ∈ text.splitOn sep) : sep ∉ l := by
  induction text generalizing l with
  | nil =>
    rw [splitOn_nil, mem_singleton] at h
    exact h ▸ not_mem_nil
  | cons x text ih =>
    rw [splitOn_cons_eq_if_modifyHead] at h
    split at h
    · rcases mem_cons.mp h with rfl | h
      · exact not_mem_nil
      · exact ih h
    · rename_i hx
      cases hlines : text.splitOn sep with
      | nil => exact absurd hlines (splitOn_ne_nil sep text)
      | cons first lines =>
        rw [hlines, modifyHead_cons] at h
        rw [hlines] at ih
        rcases mem_cons.mp h with rfl | h
        · rw [mem_cons, not_or]
          exact ⟨fun heq => hx (by simp [heq]), ih mem_cons_self⟩
        · exact ih (mem_cons_of_mem first h)

end Lines

end List
