-- SUMMARY: Unordered maps over association lists: in-place rewriting, enumeration and counting of values.
import Mathlib.Algebra.Ring.Nat
import Mathlib.Data.List.AList
import Mathlib.Data.List.Induction

/-!
# Unordered maps

A hash map is modelled by Mathlib's association lists with pairwise distinct
keys. The order of the entries stands for the enumeration order of the hash
map, which is unspecified: nothing below depends on it except `values`, which
lists the values in that order.

Mathlib provides lookup, insertion and erasure. This file adds what a program
does by walking over a map: rewriting values in place and counting the values
that satisfy a test.
-/

/-- A map from `K` to `V` whose enumeration order is unspecified. -/
abbrev UMap (K V : Type) := AList (fun _ : K => V)

namespace AList

variable {K V : Type}

/-- The number of entries. -/
def size (m : UMap K V) : Nat := m.entries.length

/-- The values, in enumeration order. -/
def values (m : UMap K V) : List V := m.entries.map Sigma.snd

/-- Walk over the map and rewrite every value in place. -/
def mapEntries (f : K → V → V) (m : UMap K V) : UMap K V :=
  ⟨m.entries.map (Sigma.map id f), List.NodupKeys.map₂ f m.entries m.nodupKeys⟩

/-- Rewrite every value in place. -/
def mapVal (f : V → V) (m : UMap K V) : UMap K V := m.mapEntries fun _ => f

/-- The number of values that satisfy `p`. -/
def count (p : V → Bool) (m : UMap K V) : Nat := m.values.countP p

variable [DecidableEq K]

/-- Rewrite the value stored under `k` in place, if there is one. -/
def modify (k : K) (f : V → V) (m : UMap K V) : UMap K V :=
  m.mapEntries fun k' v => if k' = k then f v else v

omit [DecidableEq K] in
theorem mapEntries_mapEntries (f g : K → V → V) (m : UMap K V) :
    (m.mapEntries f).mapEntries g = m.mapEntries fun k v => g k (f k v) := by
  apply ext
  simp only [mapEntries, List.map_map]
  rfl

omit [DecidableEq K] in
theorem mapEntries_id (m : UMap K V) : m.mapEntries (fun _ v => v) = m := by
  apply ext
  simp only [mapEntries]
  exact List.map_id _

theorem modify_modify (k : K) (f g : V → V) (m : UMap K V) :
    (m.modify k f).modify k g = m.modify k fun v => g (f v) := by
  simp only [modify, mapEntries_mapEntries]
  congr 1
  funext k' v
  by_cases h : k' = k <;> simp [h]

/-! ## Lookup -/

@[simp] theorem lookup_mapEntries (f : K → V → V) (m : UMap K V) (k : K) :
    (m.mapEntries f).lookup k = (m.lookup k).map (f k) := by
  exact List.dlookup_map₂ (l := m.entries) (f := f) k

@[simp] theorem lookup_mapVal (f : V → V) (m : UMap K V) (k : K) :
    (m.mapVal f).lookup k = (m.lookup k).map f :=
  lookup_mapEntries _ m k

@[simp] theorem lookup_modify_self (k : K) (f : V → V) (m : UMap K V) :
    (m.modify k f).lookup k = (m.lookup k).map f := by
  simp [modify]

theorem lookup_modify_ne {k k' : K} (f : V → V) (m : UMap K V) (h : k' ≠ k) :
    (m.modify k f).lookup k' = m.lookup k' := by
  simp [modify, h]

theorem lookup_modify (k k' : K) (f : V → V) (m : UMap K V) :
    (m.modify k f).lookup k' = if k' = k then (m.lookup k).map f else m.lookup k' := by
  by_cases h : k' = k
  · subst h; simp
  · simp [h, lookup_modify_ne f m h]

theorem lookup_insert' (k k' : K) (v : V) (m : UMap K V) :
    (m.insert k v).lookup k' = if k' = k then some v else m.lookup k' := by
  by_cases h : k' = k
  · subst h; simp
  · simp [h, lookup_insert_ne h]

/-- Looking up a key is reading the entry enumerated under it. -/
theorem lookup_eq_some_iff {m : UMap K V} {k : K} {v : V} :
    m.lookup k = some v ↔ (⟨k, v⟩ : Σ _ : K, V) ∈ m.entries := by
  rw [← mem_lookup_iff, Option.mem_def]

/-- Storing the elements of a list one after the other: what is found was stored
under its own key. -/
theorem lookup_foldl_insert {A : Type} {key : A → K} {f : A → V} {l : List A}
    {m : UMap K V} {k : K} {v : V}
    (h : (l.foldl (fun m x => m.insert (key x) (f x)) m).lookup k = some v) :
    (∃ x ∈ l, key x = k ∧ v = f x) ∨ m.lookup k = some v := by
  induction l generalizing m with
  | nil => exact .inr h
  | cons x l ih =>
    rcases ih h with ⟨y, hy, hk, hv⟩ | hm
    · exact .inl ⟨y, List.mem_cons_of_mem x hy, hk, hv⟩
    · rw [lookup_insert'] at hm
      split at hm
      · rename_i hk
        exact .inl ⟨x, List.mem_cons_self, hk.symm, (Option.some.inj hm).symm⟩
      · exact .inr hm

/-- The last of the entries under a key is the one that stays. -/
theorem lookup_foldl_insert_last {A : Type} {key : A → K} {f : A → V} (l : List A) (k : K) :
    (l.foldl (fun (m : UMap K V) x => m.insert (key x) (f x)) ∅).lookup k =
      (l.reverse.find? fun x => key x = k).map f := by
  induction l using List.reverseRecOn with
  | nil => exact lookup_empty k
  | append_singleton l x ih =>
    rw [List.foldl_concat, lookup_insert', List.reverse_concat, List.find?_cons]
    by_cases hk : key x = k
    · simp [hk]
    · simp only [hk, Ne.symm hk, if_false, decide_false, ih]

theorem mem_values {m : UMap K V} {v : V} : v ∈ m.values ↔ ∃ k, m.lookup k = some v := by
  simp only [values, List.mem_map, lookup_eq_some_iff]
  constructor
  · rintro ⟨⟨k, v'⟩, hmem, rfl⟩
    exact ⟨k, hmem⟩
  · rintro ⟨k, hmem⟩
    exact ⟨⟨k, v⟩, hmem, rfl⟩

/-- Rewriting the value of a key that is not there changes nothing. -/
theorem modify_of_lookup_none {m : UMap K V} {k : K} {f : V → V} (h : m.lookup k = none) :
    m.modify k f = m := by
  apply ext
  simp only [modify, mapEntries]
  refine (List.map_congr_left fun x hx => ?_).trans (List.map_id _)
  obtain ⟨k', v⟩ := x
  have hne : k' ≠ k := by
    rintro rfl
    rw [lookup_eq_some_iff.mpr hx] at h
    cases h
  simp [Sigma.map, hne]

/-! ## Keys -/

theorem mem_of_lookup {m : UMap K V} {k : K} {v : V} (h : m.lookup k = some v) : k ∈ m := by
  rw [← lookup_isSome, h]
  rfl

/-- Storing the elements of a list one after the other, each under its own key. -/
theorem mem_foldl_insert {A : Type} {key : A → K} {val : UMap K V → A → V} {l : List A}
    {m : UMap K V} {k : K} (h : k ∈ l.foldl (fun m x => m.insert (key x) (val m x)) m) :
    (∃ x ∈ l, key x = k) ∨ k ∈ m := by
  induction l generalizing m with
  | nil => exact .inr h
  | cons x l ih =>
    rcases ih h with ⟨y, hy, hk⟩ | hm
    · exact .inl ⟨y, List.mem_cons_of_mem x hy, hk⟩
    · rcases (mem_insert m).mp hm with rfl | hm
      · exact .inl ⟨x, List.mem_cons_self, rfl⟩
      · exact .inr hm

theorem mem_foldl_insert_of_mem {A : Type} {key : A → K} {val : UMap K V → A → V} {l : List A}
    {m : UMap K V} {x : A} (h : x ∈ l) :
    key x ∈ l.foldl (fun m x => m.insert (key x) (val m x)) m := by
  have hkeep : ∀ (l : List A) (m : UMap K V), key x ∈ m →
      key x ∈ l.foldl (fun m x => m.insert (key x) (val m x)) m := by
    intro l
    induction l with
    | nil => exact fun m hm => hm
    | cons y l ih => exact fun m hm => ih _ ((mem_insert m).mpr (.inr hm))
  induction l generalizing m with
  | nil => cases h
  | cons y l ih =>
    rcases List.mem_cons.mp h with rfl | h
    · exact hkeep l _ ((mem_insert m).mpr (.inl rfl))
    · exact ih h

omit [DecidableEq K] in
@[simp] theorem size_mapEntries (f : K → V → V) (m : UMap K V) : (m.mapEntries f).size = m.size := by
  simp [size, mapEntries]

theorem size_insert_of_not_mem {m : UMap K V} {k : K} {v : V} (h : m.lookup k = none) :
    (m.insert k v).size = m.size + 1 := by
  simp only [size, entries_insert_of_notMem (lookup_eq_none.mp h), List.length_cons]

/-! ## Maps whose values satisfy a predicate -/

/-- Every value satisfies `P`. -/
def All (P : V → Prop) (m : UMap K V) : Prop := ∀ k v, m.lookup k = some v → P v

namespace All

variable {P : V → Prop} {m : UMap K V}

theorem empty : All P (∅ : UMap K V) := by
  intro k v h
  simp at h

theorem insert {k : K} {v : V} (h : m.All P) (hv : P v) : All P (m.insert k v) := by
  intro k' v' hk'
  rw [lookup_insert'] at hk'
  split at hk'
  · cases hk'
    exact hv
  · exact h k' v' hk'

theorem mapEntries {f : K → V → V} (h : m.All P) (hf : ∀ k v, P v → P (f k v)) :
    All P (m.mapEntries f) := by
  intro k v' hk
  rw [lookup_mapEntries, Option.map_eq_some_iff] at hk
  obtain ⟨v, hv, rfl⟩ := hk
  exact hf k v (h k v hv)

theorem mapVal {f : V → V} (h : m.All P) (hf : ∀ v, P v → P (f v)) : All P (m.mapVal f) :=
  h.mapEntries fun _ => hf

theorem modify {k : K} {f : V → V} (h : m.All P) (hf : ∀ v, P v → P (f v)) :
    All P (m.modify k f) := by
  refine h.mapEntries fun k' v hv => ?_
  split
  · exact hf v hv
  · exact hv

/-- Rewriting the value that is stored under one key. -/
theorem modify_of_lookup {k : K} {v : V} {f : V → V} (h : m.All P) (hv : m.lookup k = some v)
    (hf : P (f v)) : All P (m.modify k f) := by
  intro k' v' hk'
  rw [lookup_modify] at hk'
  split at hk'
  · rw [hv] at hk'
    cases hk'
    exact hf
  · exact h k' v' hk'

/-- Storing the elements of a list one after the other. -/
theorem foldl_insert {A : Type} {key : A → K} {val : UMap K V → A → V} {l : List A}
    (h : m.All P) (hval : ∀ m : UMap K V, m.All P → ∀ x ∈ l, P (val m x)) :
    All P (l.foldl (fun m x => m.insert (key x) (val m x)) m) := by
  induction l generalizing m with
  | nil => exact h
  | cons x l ih =>
    refine ih (h.insert (hval m h x List.mem_cons_self)) fun m hm y hy => ?_
    exact hval m hm y (List.mem_cons_of_mem x hy)

theorem values (h : m.All P) : ∀ v ∈ m.values, P v := by
  intro v hv
  obtain ⟨k, hk⟩ := mem_values.mp hv
  exact h k v hk

end All

/-! ## Rewriting in place -/

/-- Every value of `m'` is the value of `m` under the same key, rewritten as `R` allows. -/
def Rewrites (R : K → V → V → Prop) (m m' : UMap K V) : Prop :=
  ∃ f, m' = m.mapEntries f ∧ ∀ k v, m.lookup k = some v → R k v (f k v)

namespace Rewrites

variable {R : K → V → V → Prop} {m m' : UMap K V} {k : K} {v v' : V}

theorem refl (m : UMap K V) (hR : ∀ k v, R k v v) : Rewrites R m m :=
  ⟨fun _ v => v, (mapEntries_id m).symm, fun k v _ => hR k v⟩

theorem mapVal {f : V → V} (hf : ∀ k v, m.lookup k = some v → R k v (f v)) :
    Rewrites R m (m.mapVal f) :=
  ⟨fun _ => f, rfl, hf⟩

theorem modify {f : V → V} (hR : ∀ k v, R k v v) (hf : ∀ v, m.lookup k = some v → R k v (f v)) :
    Rewrites R m (m.modify k f) := by
  refine ⟨fun k' v => if k' = k then f v else v, rfl, fun k' v hv => ?_⟩
  by_cases hk : k' = k
  · subst hk
    simpa using hf v hv
  · simpa [hk] using hR k' v

theorem next (h : Rewrites R m m') (hv : m.lookup k = some v) :
    ∃ v', m'.lookup k = some v' ∧ R k v v' := by
  obtain ⟨f, rfl, hf⟩ := h
  exact ⟨f k v, by simp [hv], hf k v hv⟩

theorem prev (h : Rewrites R m m') (hv : m'.lookup k = some v') :
    ∃ v, m.lookup k = some v ∧ R k v v' := by
  obtain ⟨f, rfl, hf⟩ := h
  rw [lookup_mapEntries, Option.map_eq_some_iff] at hv
  obtain ⟨v, hv, rfl⟩ := hv
  exact ⟨v, hv, hf k v hv⟩

theorem trans {R₁ R₂ : K → V → V → Prop} {m'' : UMap K V} (h₁ : Rewrites R₁ m m')
    (h₂ : Rewrites R₂ m' m'') (hR : ∀ k v v' v'', R₁ k v v' → R₂ k v' v'' → R k v v'') :
    Rewrites R m m'' := by
  obtain ⟨f, rfl, hf⟩ := h₁
  obtain ⟨g, rfl, hg⟩ := h₂
  refine ⟨fun k v => g k (f k v), mapEntries_mapEntries f g m, fun k v hv => ?_⟩
  exact hR k v _ _ (hf k v hv) (hg k (f k v) (by simp [hv]))

end Rewrites

/-! ## Erasing -/

theorem erase_of_lookup_none {m : UMap K V} {k : K} (h : m.lookup k = none) : m.erase k = m :=
  ext (List.kerase_of_notMem_keys (lookup_eq_none.mp h))

theorem lookup_of_erase {m : UMap K V} {k k' : K} {v : V} (h : (m.erase k).lookup k' = some v) :
    m.lookup k' = some v := by
  by_cases heq : k' = k
  · subst heq
    rw [lookup_erase] at h
    cases h
  · rwa [lookup_erase_ne heq] at h

theorem values_insert (m : UMap K V) (k : K) (v : V) :
    (m.insert k v).values = v :: (m.erase k).values := by
  rw [values, entries_insert, List.map_cons]
  rfl

theorem values_perm_erase {m : UMap K V} {k : K} {v : V} (h : m.lookup k = some v) :
    m.values.Perm (v :: (m.erase k).values) := by
  obtain ⟨b, l₁, l₂, -, hent, herase⟩ :=
    List.exists_of_kerase (List.mem_keys_of_mem (lookup_eq_some_iff.mp h))
  have hv : b = v := by
    have hb : m.lookup k = some b := lookup_eq_some_iff.mpr (by rw [hent]; simp)
    exact Option.some.inj (hb.symm.trans h)
  subst hv
  have hkept : (m.erase k).values = (l₁ ++ l₂).map Sigma.snd := by
    change (m.entries.kerase k).map Sigma.snd = _
    rw [herase]
  rw [hkept, values, hent, List.map_append, List.map_append, List.map_cons]
  exact List.perm_middle

theorem size_le_size_insert (m : UMap K V) (k : K) (v : V) : m.size ≤ (m.insert k v).size := by
  cases h : m.lookup k with
  | none =>
    rw [size_insert_of_not_mem h]
    exact Nat.le_succ _
  | some old =>
    have hbefore := (values_perm_erase h).length_eq
    have hafter := congrArg List.length (values_insert m k v)
    simp only [values, List.length_map, List.length_cons] at hbefore hafter
    exact Nat.le_of_eq (hbefore.trans hafter.symm)

theorem size_erase_le (m : UMap K V) (k : K) : (m.erase k).size ≤ m.size :=
  (List.kerase_sublist k m.entries).length_le

theorem size_insert_le (m : UMap K V) (k : K) (v : V) : (m.insert k v).size ≤ m.size + 1 := by
  rw [size, entries_insert, List.length_cons]
  exact Nat.succ_le_succ (size_erase_le m k)

theorem size_foldl_insert_le {A : Type} {key : A → K} {f : A → V} (l : List A) (m : UMap K V) :
    (l.foldl (fun m a => m.insert (key a) (f a)) m).size ≤ m.size + l.length := by
  induction l generalizing m with
  | nil => exact Nat.le_refl _
  | cons a l ih =>
    have hfirst := size_insert_le m (key a) (f a)
    have hrest := ih (m.insert (key a) (f a))
    rw [List.foldl_cons, List.length_cons]
    omega

/-! ## Tables keyed by their values -/

/-- Every value is stored under its own key. -/
def Keyed (key : V → K) (m : UMap K V) : Prop := ∀ k v, m.lookup k = some v → key v = k

namespace Keyed

variable {key : V → K} {m : UMap K V}

theorem empty : Keyed key (∅ : UMap K V) := by
  intro k v h
  simp at h

theorem insert {v : V} (h : m.Keyed key) : Keyed key (m.insert (key v) v) := by
  intro k' v' hk'
  rw [lookup_insert'] at hk'
  split at hk'
  · rename_i hk
    cases hk'
    exact hk.symm
  · exact h k' v' hk'

theorem modify {k : K} {f : V → V} (h : m.Keyed key) (hf : ∀ v, key (f v) = key v) :
    Keyed key (m.modify k f) := by
  intro k' v' hk'
  rw [AList.modify, lookup_mapEntries, Option.map_eq_some_iff] at hk'
  obtain ⟨v, hv, rfl⟩ := hk'
  split
  · rw [hf]
    exact h k' v hv
  · exact h k' v hv

theorem foldl_insert {l : List V} (h : m.Keyed key) :
    Keyed key (l.foldl (fun m x => m.insert (key x) x) m) := by
  induction l generalizing m with
  | nil => exact h
  | cons x l ih => exact ih h.insert

theorem map_values (h : m.Keyed key) : m.values.map key = m.keys := by
  rw [values, List.map_map]
  refine List.map_congr_left fun e he => ?_
  exact h e.1 e.2 (lookup_eq_some_iff.mpr he)

/-- However the values are listed, no two of them have the same key. -/
theorem nodup_map {l : List V} (h : m.Keyed key) (hl : l.Perm m.values) : (l.map key).Nodup := by
  refine (hl.map key).nodup_iff.mpr ?_
  rw [h.map_values]
  exact m.keys_nodup

end Keyed

/-! ## Rebuilding a table from its values -/

section Rebuild

variable {A B : Type} {key : A → K} {l : List A}

theorem lookup_foldl_insert_of_not_mem {f : A → V} {m : UMap K V} {k : K} (hk : k ∉ l.map key) :
    (l.foldl (fun m x => m.insert (key x) (f x)) m).lookup k = m.lookup k := by
  induction l generalizing m with
  | nil => rfl
  | cons x l ih =>
    rw [List.map_cons, List.mem_cons, not_or] at hk
    rw [List.foldl_cons, ih hk.2, lookup_insert_ne hk.1]

theorem lookup_foldl_insert_of_mem {f : A → V} {m : UMap K V} {x : A}
    (hnodup : (l.map key).Nodup) (hx : x ∈ l) :
    (l.foldl (fun m x => m.insert (key x) (f x)) m).lookup (key x) = some (f x) := by
  induction l generalizing m with
  | nil => cases hx
  | cons y l ih =>
    rw [List.map_cons, List.nodup_cons] at hnodup
    rcases List.mem_cons.mp hx with rfl | hx
    · rw [List.foldl_cons, lookup_foldl_insert_of_not_mem hnodup.1, lookup_insert]
    · exact ih hnodup.2 hx

/-- A table that is rebuilt from a listing of its values, each rewritten by `f`. -/
theorem Keyed.lookup_rebuild {key : V → K} {f : V → V} {m : UMap K V} {l : List V}
    (h : m.Keyed key) (hl : l.Perm m.values) (k : K) :
    (l.foldl (fun (m : UMap K V) x => m.insert (key x) (f x)) ∅).lookup k =
      (m.lookup k).map f := by
  cases hk : m.lookup k with
  | some v =>
    have hv : v ∈ l := hl.mem_iff.mpr (mem_values.mpr ⟨k, hk⟩)
    rw [← h k v hk]
    exact lookup_foldl_insert_of_mem (h.nodup_map hl) hv
  | none =>
    rw [lookup_foldl_insert_of_not_mem]
    · simp
    · intro hmem
      obtain ⟨v, hv, rfl⟩ := List.mem_map.mp hmem
      obtain ⟨k', hk'⟩ := mem_values.mp (hl.mem_iff.mp hv)
      rw [h k' v hk', hk'] at hk
      cases hk

theorem values_foldl_insert {f : A → V} {m : UMap K V} (hnodup : (l.map key).Nodup)
    (hnew : ∀ x ∈ l, m.lookup (key x) = none) :
    (l.foldl (fun m x => m.insert (key x) (f x)) m).values.Perm (m.values ++ l.map f) := by
  induction l generalizing m with
  | nil => simp
  | cons x l ih =>
    rw [List.map_cons, List.nodup_cons] at hnodup
    refine (ih hnodup.2 fun y hy => ?_).trans ?_
    · have hne : key y ≠ key x := fun heq => hnodup.1 (heq ▸ List.mem_map_of_mem hy)
      rw [lookup_insert_ne hne]
      exact hnew y (List.mem_cons_of_mem x hy)
    · rw [values_insert, erase_of_lookup_none (hnew x List.mem_cons_self)]
      exact List.perm_middle.symm

/-- The values of a table that is built from elements with different keys. -/
theorem values_rebuild {f : A → V} (hnodup : (l.map key).Nodup) :
    (l.foldl (fun (m : UMap K V) x => m.insert (key x) (f x)) ∅).values.Perm (l.map f) :=
  values_foldl_insert hnodup fun _ _ => lookup_empty _

/-- Collecting the elements of a list under their keys keeps their order. -/
theorem lookup_foldl_group {f : A → B} {m : UMap K (List B)} (k : K) :
    ((l.foldl (fun m x => m.insert (key x) ((m.lookup (key x)).getD [] ++ [f x])) m).lookup
      k).getD [] = (m.lookup k).getD [] ++ (l.filter fun x => key x = k).map f := by
  induction l generalizing m with
  | nil => simp
  | cons x l ih =>
    rw [List.foldl_cons, ih, lookup_insert']
    by_cases hk : key x = k
    · subst hk
      simp
    · simp [hk, Ne.symm hk]

/-- Nothing is lost or added when the elements of a list are collected under their keys. -/
theorem values_foldl_group {f : A → B} {m : UMap K (List B)} :
    ((l.foldl (fun m x => m.insert (key x) ((m.lookup (key x)).getD [] ++ [f x]))
      m).values.flatten).Perm (m.values.flatten ++ l.map f) := by
  induction l generalizing m with
  | nil => simp
  | cons x l ih =>
    have hold : ((m.lookup (key x)).getD [] ++ (m.erase (key x)).values.flatten).Perm
        m.values.flatten := by
      cases hk : m.lookup (key x) with
      | none => simp [erase_of_lookup_none hk]
      | some bs => exact (values_perm_erase hk).flatten.symm
    have hnew : ((m.insert (key x) ((m.lookup (key x)).getD [] ++ [f x])).values.flatten).Perm
        (m.values.flatten ++ [f x]) := by
      rw [values_insert, List.flatten_cons, List.append_assoc]
      refine (List.perm_append_comm.append_left _).trans ?_
      rw [← List.append_assoc]
      exact hold.append_right _
    refine ih.trans ((hnew.append_right _).trans ?_)
    simp

end Rebuild

/-- What the lists of a table hold under a key, when they are joined in any order. -/
theorem filter_flatten_entries {A : Type} {key : A → K} {es : List (Σ _ : K, List A)}
    (hnodup : es.NodupKeys) (hkeyed : ∀ e ∈ es, ∀ a ∈ e.2, key a = e.1) (k : K) :
    ((es.map Sigma.snd).flatten.filter fun a => key a = k) = (es.dlookup k).getD [] := by
  induction es with
  | nil => rfl
  | cons e es ih =>
    obtain ⟨k', as⟩ := e
    rw [List.nodupKeys_cons] at hnodup
    have hrest := ih hnodup.2 fun e he => hkeyed e (List.mem_cons_of_mem _ he)
    have hhead := hkeyed ⟨k', as⟩ List.mem_cons_self
    rw [List.map_cons, List.flatten_cons, List.filter_append, hrest]
    by_cases hk : k = k'
    · subst hk
      rw [List.dlookup_cons_eq, List.dlookup_eq_none.mpr hnodup.1]
      simp only [Option.getD_none, Option.getD_some, List.append_nil]
      exact List.filter_eq_self.mpr fun a ha => by simp [hhead a ha]
    · rw [List.dlookup_cons_ne _ _ hk]
      have hnone : as.filter (fun a => key a = k) = [] := by
        refine List.filter_eq_nil_iff.mpr fun a ha => ?_
        simp [hhead a ha, Ne.symm hk]
      rw [hnone, List.nil_append]

theorem values_perm_of_lookup {m m' : UMap K V} (h : ∀ k, m.lookup k = m'.lookup k) :
    m.values.Perm m'.values := by
  refine List.Perm.map Sigma.snd (List.lookup_ext m.nodupKeys m'.nodupKeys fun k v => ?_)
  change v ∈ m.lookup k ↔ v ∈ m'.lookup k
  rw [h k]

/-! ## Counting -/

/-- Storing a value under `k` replaces whatever `k` held. -/
theorem count_insert (p : V → Bool) (m : UMap K V) (k : K) (v : V) :
    (m.insert k v).count p = (m.erase k).count p + if p v then 1 else 0 := by
  rw [count, values_insert, List.countP_cons]
  rfl

theorem count_erase (p : V → Bool) {m : UMap K V} {k : K} {v : V} (h : m.lookup k = some v) :
    (m.erase k).count p + (if p v then 1 else 0) = m.count p := by
  rw [count, count, (values_perm_erase h).countP_eq p, List.countP_cons]

theorem count_insert_of_lookup_none (p : V → Bool) {m : UMap K V} {k : K} (v : V)
    (h : m.lookup k = none) :
    (m.insert k v).count p = m.count p + if p v then 1 else 0 := by
  rw [count_insert, erase_of_lookup_none h]

theorem count_erase_le (p : V → Bool) (m : UMap K V) (k : K) : (m.erase k).count p ≤ m.count p := by
  cases h : m.lookup k with
  | none => rw [erase_of_lookup_none h]
  | some v => have := count_erase p h; omega

/-- Storing a value adds it to the count at most. -/
theorem count_insert_le (p : V → Bool) (m : UMap K V) (k : K) (v : V) :
    (m.insert k v).count p ≤ m.count p + if p v then 1 else 0 := by
  rw [count_insert]
  exact Nat.add_le_add_right (count_erase_le p m k) _

/-- Rewriting the value under `k` in place and storing the rewritten value
count the same. -/
theorem count_modify (p : V → Bool) {m : UMap K V} {k : K} {v : V} (f : V → V)
    (h : m.lookup k = some v) :
    (m.modify k f).count p + (if p v then 1 else 0) = m.count p + if p (f v) then 1 else 0 := by
  have hmod : (m.modify k f).lookup k = some (f v) := by simp [h]
  have herase : ((m.modify k f).erase k).count p = (m.erase k).count p := by
    refine (values_perm_of_lookup fun k' => ?_).countP_eq p
    by_cases hk : k' = k
    · subst hk
      simp
    · rw [lookup_erase_ne hk, lookup_erase_ne hk, lookup_modify_ne f m hk]
  have h₁ := count_erase p hmod
  have h₂ := count_erase p h
  omega

theorem count_eq_zero {p : V → Bool} {m : UMap K V} :
    m.count p = 0 ↔ ∀ k v, m.lookup k = some v → p v = false := by
  simp only [count, List.countP_eq_zero, mem_values, Bool.not_eq_true]
  constructor
  · intro h k v hk
    exact h v ⟨k, hk⟩
  · rintro h v ⟨k, hk⟩
    exact h k v hk

theorem count_pos_of_lookup {p : V → Bool} {m : UMap K V} {k : K} {v : V}
    (h : m.lookup k = some v) (hp : p v = true) : 0 < m.count p := by
  rw [Nat.pos_iff_ne_zero]
  intro hzero
  simp [count_eq_zero.mp hzero k v h] at hp

omit [DecidableEq K] in
theorem count_le_count {p q : V → Bool} (m : UMap K V) (h : ∀ v, p v = true → q v = true) :
    m.count p ≤ m.count q :=
  List.countP_mono_left fun v _ => h v

end AList
