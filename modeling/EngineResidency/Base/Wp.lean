-- SUMMARY: Weakest preconditions for programs with state and exceptions, where a throw keeps the writes made before it.
import Mathlib.Init

/-!
# Weakest preconditions for `EStateM`

An operation that checks, writes and throws is an `EStateM` program: a throw
does not undo the writes made before it. `wp m Q s` says that running `m` in
state `s` ends in a result and a state that satisfy `Q`, whether the run
returned or threw.

The rules below are stated with the continuation in place, so that a program
written as a chain of checks and writes is executed symbolically by applying
one rule for each line.
-/

namespace EStateM

variable {ε σ α β : Type}

/-- Running `m` in state `s` ends in a result and a state that satisfy `Q`. -/
def wp (m : EStateM ε σ α) (Q : Except ε α → σ → Prop) (s : σ) : Prop :=
  match m s with
  | .ok a s' => Q (.ok a) s'
  | .error e s' => Q (.error e) s'

/-- The result and the final state of a run. -/
def runResult (m : EStateM ε σ α) (s : σ) : Except ε α × σ :=
  match m s with
  | .ok a s' => (.ok a, s')
  | .error e s' => (.error e, s')

/-! ## Checks -/

/-- Throw `e` when `c` holds. -/
def rejectIf (c : Prop) [Decidable c] (e : ε) : EStateM ε σ Unit :=
  if c then throw e else pure ()

/-- The value of `o`, or the exception `e` when there is none. -/
def found (o : Option α) (e : ε) : EStateM ε σ α :=
  match o with
  | some a => pure a
  | none => throw e

/-- Raise the error of a pure computation. -/
def unwrap (x : Except ε α) : EStateM ε σ α :=
  match x with
  | .ok a => pure a
  | .error e => throw e

/-! ## Rules -/

section Rules

variable {Q : Except ε β → σ → Prop} {s : σ}

theorem wp_iff {m : EStateM ε σ β} : wp m Q s ↔ Q (runResult m s).1 (runResult m s).2 := by
  unfold wp runResult
  cases m s <;> exact Iff.rfl

theorem wp_mono {m : EStateM ε σ β} {P : Except ε β → σ → Prop}
    (h : wp m P s) (hPQ : ∀ r s', P r s' → Q r s') : wp m Q s :=
  wp_iff.mpr (hPQ _ _ (wp_iff.mp h))

theorem wp_pure {b : β} (h : Q (.ok b) s) : wp (pure b) Q s := h

theorem wp_bind {m : EStateM ε σ α} {k : α → EStateM ε σ β}
    (h : wp m (fun r s' => match r with
      | .ok a => wp (k a) Q s'
      | .error e => Q (.error e) s') s) :
    wp (m >>= k) Q s := by
  unfold wp at h ⊢
  simp only [bind, EStateM.bind]
  cases hm : m s with
  | ok a s' => simpa [hm] using h
  | error e s' => simpa [hm] using h

theorem wp_map {f : α → β} {m : EStateM ε σ α}
    (h : wp m (fun r s' => Q (r.map f) s') s) : wp (f <$> m) Q s := by
  unfold wp at h ⊢
  simp only [Functor.map, EStateM.map]
  cases hm : m s with
  | ok a s' => simpa [hm, Except.map] using h
  | error e s' => simpa [hm, Except.map] using h

theorem wp_get {k : σ → EStateM ε σ β} (h : wp (k s) Q s) : wp (get >>= k) Q s := h

theorem wp_modify {f : σ → σ} {k : Unit → EStateM ε σ β} (h : wp (k ()) Q (f s)) :
    wp (modify f >>= k) Q s := h

theorem wp_rejectIf {c : Prop} [Decidable c] {e : ε} {k : Unit → EStateM ε σ β}
    (hthrow : c → Q (.error e) s) (hpass : ¬ c → wp (k ()) Q s) :
    wp (rejectIf c e >>= k) Q s := by
  by_cases hc : c
  · simpa [rejectIf, hc] using (show wp (throw e >>= k) Q s from hthrow hc)
  · simpa [rejectIf, hc] using (show wp (pure () >>= k) Q s from hpass hc)

theorem wp_found {o : Option α} {e : ε} {k : α → EStateM ε σ β}
    (hnone : o = none → Q (.error e) s) (hsome : ∀ a, o = some a → wp (k a) Q s) :
    wp (found o e >>= k) Q s := by
  cases o with
  | none => exact hnone rfl
  | some a => exact hsome a rfl

/-! Checks that are known to pass. -/

theorem wp_passes {c : Prop} [Decidable c] {e : ε} {k : Unit → EStateM ε σ β} (hc : ¬ c)
    (h : wp (k ()) Q s) : wp (rejectIf c e >>= k) Q s :=
  wp_rejectIf (fun hthrow => absurd hthrow hc) fun _ => h

theorem wp_found_of_eq {o : Option α} {a : α} {e : ε} {k : α → EStateM ε σ β} (ho : o = some a)
    (h : wp (k a) Q s) : wp (found o e >>= k) Q s := by
  rw [ho]
  exact h

theorem wp_unwrap {x : Except ε α} {k : α → EStateM ε σ β}
    (herr : ∀ e, x = .error e → Q (.error e) s) (hok : ∀ a, x = .ok a → wp (k a) Q s) :
    wp (unwrap x >>= k) Q s := by
  cases x with
  | error e => exact herr e rfl
  | ok a => exact hok a rfl

theorem wp_ite {c : Prop} [Decidable c] {m₁ m₂ : EStateM ε σ β}
    (hpos : c → wp m₁ Q s) (hneg : ¬ c → wp m₂ Q s) : wp (if c then m₁ else m₂) Q s := by
  by_cases hc : c
  · simpa [hc] using hpos hc
  · simpa [hc] using hneg hc

/-- A loop over a list. The invariant may speak of the elements that have been
treated; a throw stops the loop with the invariant established so far. -/
theorem wp_forM {γ : Type} {l : List γ} {body : γ → EStateM ε σ Unit} {I : List γ → σ → Prop}
    {k : Unit → EStateM ε σ β}
    (hinit : I [] s)
    (hbody : ∀ pre x post, l = pre ++ x :: post → ∀ s, I pre s → wp (body x) (fun r s' =>
      match r with
      | .ok _ => I (pre ++ [x]) s'
      | .error e => Q (.error e) s') s)
    (hdone : ∀ s', I l s' → wp (k ()) Q s') :
    wp (l.forM body >>= k) Q s := by
  apply wp_bind
  -- The induction is on what is left of the list.
  suffices h : ∀ post pre, l = pre ++ post → ∀ s, I pre s → wp (post.forM body) (fun r s' =>
      match r with
      | .ok _ => wp (k ()) Q s'
      | .error e => Q (.error e) s') s from h l [] rfl s hinit
  intro post
  induction post with
  | nil =>
    intro pre heq s hI
    rw [List.append_nil] at heq
    subst heq
    exact hdone s hI
  | cons x post ih =>
    intro pre heq s hI
    change wp (body x >>= fun _ => post.forM body) _ s
    apply wp_bind
    refine wp_mono (hbody pre x post heq s hI) fun r s' hr => ?_
    cases r with
    | ok _ => exact ih (pre ++ [x]) (by simp [heq]) s' hr
    | error e => exact hr

end Rules

end EStateM
