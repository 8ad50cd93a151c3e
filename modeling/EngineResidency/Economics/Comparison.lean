-- SUMMARY: Which alternative a comparison of costs selects, and when it is a valid minimum.
import EngineResidency.Base.Selection
import EngineResidency.Economics

/-!
# Comparison of costs

The comparison keeps the first alternative with the least total and action, whether it is
valid or not. A cost that was aggregated under an unknown model has a total of zero, so it
is preferred to every real one.
-/

namespace EngineResidency

/-- What alternatives are compared by. -/
def RecoveryCost.key (cost : RecoveryCost) : ℕ ×ₗ ℕ :=
  toLex (cost.totalNs.toNat, cost.action.ctorIdx)

theorem RecoveryCost.key_lt_iff {a b : RecoveryCost} : b.key < a.key ↔
    b.totalNs < a.totalNs ∨ b.totalNs = a.totalNs ∧ b.action.ctorIdx < a.action.ctorIdx := by
  rw [RecoveryCost.key, RecoveryCost.key, Prod.Lex.toLex_lt_toLex, UInt64.lt_iff_toNat_lt,
    UInt64.toNat_inj]

/-- The place of the first of the least alternatives. -/
abbrev Least (p : RecoveryCost → Prop) (alternatives : List RecoveryCost) (i : ℕ)
    (a : RecoveryCost) : Prop :=
  FirstLeast RecoveryCost.key p alternatives i a

/-- The loop goes on from the first least alternative of those before it. -/
theorem compareLoop_least {before : List RecoveryCost} (rest : List RecoveryCost) {best : ℕ}
    {a : RecoveryCost} (h : Least (fun _ => True) before best a) :
    ∃ c, Least (fun _ => True) (before ++ rest) (compareLoop best a before.length rest) c := by
  induction rest generalizing before best a with
  | nil => exact ⟨a, by rwa [List.append_nil]⟩
  | cons b rest ih =>
    have happend : before ++ b :: rest = (before ++ [b]) ++ rest := by simp
    have hlength : (before ++ [b]).length = before.length + 1 := List.length_append
    rw [happend]
    by_cases hb : b.key < a.key
    · have hnext := ih (FirstLeast.concat_of_lt (p := fun _ => True) trivial
        fun c hc _ => hb.trans_le (h.key_le hc trivial))
      rw [hlength] at hnext
      rcases RecoveryCost.key_lt_iff.mp hb with hlt | htie
      · simpa only [compareLoop, if_pos hlt] using hnext
      · have hle : ¬ b.totalNs < a.totalNs := fun hlt => by
          rw [htie.1] at hlt
          exact UInt64.lt_irrefl _ hlt
        simpa only [compareLoop, if_neg hle, if_pos htie] using hnext
    · have hnext := ih (h.concat_of_le fun _ => not_lt.mp hb)
      rw [hlength] at hnext
      rw [RecoveryCost.key_lt_iff, not_or] at hb
      simpa only [compareLoop, if_neg hb.1, if_neg hb.2] using hnext

/-- The place of the first least alternative is selected, as an `int`. -/
theorem compareRecoveryCosts_least {alternatives : List RecoveryCost} (h : alternatives ≠ []) :
    ∃ best a, Least (fun _ => True) alternatives best a ∧
      (compareRecoveryCosts alternatives).selectedIndex = Int32.ofNat best := by
  cases alternatives with
  | nil => exact absurd rfl h
  | cons a rest =>
    have hfirst : Least (fun _ => True) ([] ++ [a]) ([] : List RecoveryCost).length a :=
      FirstLeast.concat_of_lt trivial fun c hc _ => absurd hc List.not_mem_nil
    obtain ⟨c, hleast⟩ := compareLoop_least rest hfirst
    exact ⟨_, c, hleast, rfl⟩

/-- An `int` holds the places below 2^31, and wraps around. -/
theorem toInt_ofNat_eq_iff {n m : ℕ} :
    (Int32.ofNat n).toInt = m ↔ m < 2 ^ 31 ∧ n % 2 ^ 32 = m := by
  rw [Int32.toInt_ofNat', Int.bmod_def, Int32.size]
  split <;> omega

/-- The comparison selects the first valid alternative with the least total and action. -/
def SelectsValidMinimum (alternatives : List RecoveryCost) : Prop :=
  ∃ (m : ℕ) (a : RecoveryCost), Least (fun c => c.isValid = true) alternatives m a ∧
    (compareRecoveryCosts alternatives).selectedIndex.toInt = m

/-- A valid minimum is selected when the first least valid alternative is at a place that an
`int` holds, and every invalid one is preceded by it. (In lists of more than 2^32 alternatives,
by any at that place modulo 2^32.) -/
theorem selectsValidMinimum_iff (alternatives : List RecoveryCost)
    (hvalid : ∃ a ∈ alternatives, a.isValid = true) :
    SelectsValidMinimum alternatives ↔
      ∃ (m : ℕ) (a : RecoveryCost), Least (fun c => c.isValid = true) alternatives m a ∧
        m < 2 ^ 31 ∧ ∀ j b, alternatives[j]? = some b → b.isValid = false →
          ∃ (k : ℕ) (c : RecoveryCost), alternatives[k]? = some c ∧ k % 2 ^ 32 = m ∧
            toLex (c.key, k) ≤ toLex (b.key, j) := by
  have hsome : alternatives ≠ [] := by
    rintro rfl
    obtain ⟨a, ha, -⟩ := hvalid
    cases ha
  obtain ⟨best, c, hbest, hselected⟩ := compareRecoveryCosts_least hsome
  unfold SelectsValidMinimum
  rw [hselected]
  refine exists_congr fun m => exists_congr fun a => and_congr_right fun hleast => ?_
  rw [toInt_ofNat_eq_iff]
  refine and_congr_right fun hm => ?_
  constructor
  · intro hplace j b hb _
    exact ⟨best, c, hbest.place, hplace, hbest.least j b hb trivial⟩
  · intro h
    -- what was selected is preceded by an alternative at the right place, so it is that one
    have hpreceded : ∃ (k : ℕ) (d : RecoveryCost), alternatives[k]? = some d ∧ k % 2 ^ 32 = m ∧
        toLex (d.key, k) ≤ toLex (c.key, best) := by
      cases hc : c.isValid with
      | false => exact h best c hbest.place hc
      | true =>
        exact ⟨m, a, hleast.place, Nat.mod_eq_of_lt (by omega), hleast.least best c hbest.place hc⟩
    obtain ⟨k, d, hd, hplace, hle⟩ := hpreceded
    have heq := le_antisymm hle (hbest.least k d hd trivial)
    have hk : k = best := congrArg (fun x => (ofLex x).2) heq
    rwa [hk] at hplace

/-- A real cost in front of one that was aggregated under an unknown model and is dearer. -/
theorem selectsValidMinimum_iff_sample :
    SelectsValidMinimum [{ totalNs := 7, aggregationModel := lit "SEQUENTIAL" },
      { totalNs := 9, aggregationModel := lit "MEDIAN" }] := by
  have hreal : Least (fun c => c.isValid = true)
      ([] ++ [{ totalNs := 7, aggregationModel := lit "SEQUENTIAL" }]) 0
      { totalNs := 7, aggregationModel := lit "SEQUENTIAL" } :=
    FirstLeast.concat_of_lt (by decide) fun c hc _ => absurd hc List.not_mem_nil
  have hboth := hreal.concat_of_le (b := { totalNs := 9, aggregationModel := lit "MEDIAN" })
    fun hvalid => absurd hvalid (by decide)
  refine (selectsValidMinimum_iff _ ⟨_, List.mem_cons_self, by decide⟩).mpr
    ⟨0, _, hboth, by decide, fun j b hb hinvalid => ⟨0, _, rfl, rfl, ?_⟩⟩
  match j, hb with
  | 0, hb =>
    obtain rfl := Option.some.inj hb
    exact absurd hinvalid (by decide)
  | 1, hb =>
    obtain rfl := Option.some.inj hb
    decide

/-- In a list that `int` can index, a valid minimum is selected exactly when every invalid
alternative is preceded by a valid one. -/
theorem selectsValidMinimum_iff_of_length {alternatives : List RecoveryCost}
    (hvalid : ∃ a ∈ alternatives, a.isValid = true) (hlength : alternatives.length ≤ 2 ^ 31) :
    SelectsValidMinimum alternatives ↔
      ∀ j b, alternatives[j]? = some b → b.isValid = false →
        ∃ (k : ℕ) (c : RecoveryCost), alternatives[k]? = some c ∧ c.isValid = true ∧
          toLex (c.key, k) ≤ toLex (b.key, j) := by
  rw [selectsValidMinimum_iff alternatives hvalid]
  have hplace : ∀ {k : ℕ} {c : RecoveryCost}, alternatives[k]? = some c → k < 2 ^ 31 :=
    fun hc => (List.getElem?_eq_some_iff.mp hc).1.trans_le hlength
  constructor
  · rintro ⟨m, a, hleast, -, hpreceded⟩ j b hb hinvalid
    obtain ⟨k, c, hc, hmod, hle⟩ := hpreceded j b hb hinvalid
    have hk := hplace hc
    obtain rfl : k = m := (Nat.mod_eq_of_lt (by omega)).symm.trans hmod
    obtain rfl : c = a := Option.some.inj (hc.symm.trans hleast.place)
    exact ⟨k, c, hc, hleast.admitted, hle⟩
  · intro hpreceded
    obtain ⟨m, a, hleast⟩ : ∃ m a, Least (fun c => c.isValid = true) alternatives m a :=
      FirstLeast.exists_of_admitted hvalid
    have hm := hplace hleast.place
    refine ⟨m, a, hleast, hm, fun j b hb hinvalid => ?_⟩
    obtain ⟨k, c, hc, hcvalid, hle⟩ := hpreceded j b hb hinvalid
    exact ⟨m, a, hleast.place, Nat.mod_eq_of_lt (by omega), (hleast.least k c hc hcvalid).trans hle⟩

/-- A cost that was aggregated under an unknown model is preferred to a real one. -/
theorem invalid_cost_preferred :
    ¬ ∀ alternatives : List RecoveryCost, (∃ a ∈ alternatives, a.isValid = true) →
      SelectsValidMinimum alternatives := by
  intro h
  obtain ⟨m, a, hleast, hselected⟩ := h
    [aggregateRecoveryCost [{ estimatedNs := 5 }] .reuseWarm (lit "SEQUENTIAL"),
      aggregateRecoveryCost [{ estimatedNs := 5 }] .reuseWarm (lit "MEDIAN")]
    ⟨_, List.mem_cons_self, by decide +kernel⟩
  have hplace : m = 1 := by
    have hindex : (compareRecoveryCosts
      [aggregateRecoveryCost [{ estimatedNs := 5 }] .reuseWarm (lit "SEQUENTIAL"),
        aggregateRecoveryCost [{ estimatedNs := 5 }] .reuseWarm (lit "MEDIAN")]).selectedIndex.toInt =
          1 := by decide +kernel
    exact_mod_cast hselected.symm.trans hindex
  subst hplace
  obtain rfl := Option.some.inj hleast.place
  exact absurd hleast.admitted (by decide +kernel)

end EngineResidency
