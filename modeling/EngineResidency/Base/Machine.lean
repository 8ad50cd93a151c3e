-- SUMMARY: Deterministic machines, their runs, and the induction rule for invariants.
import Mathlib.Init

/-!
# Deterministic machines

A machine performs one operation at a time: an operation in a state has a result
and leaves a state behind. A run is a list of operations. The rules below reduce
a statement about every run to one about every step; a run may be restricted to
the steps that meet a condition on the state before them.
-/

/-- What one operation does in one state. -/
structure Machine (σ ω ρ : Type) where
  step : ω → σ → ρ × σ

namespace Machine

variable {σ ω ρ : Type} (M : Machine σ ω ρ)

/-- The result of an operation. -/
def result (s : σ) (o : ω) : ρ := (M.step o s).1

/-- The state after an operation. -/
def next (s : σ) (o : ω) : σ := (M.step o s).2

/-- The state after a run. -/
def exec : σ → List ω → σ
  | s, [] => s
  | s, o :: os => exec (M.next s o) os

/-- Every step of the run meets a condition on the state before it. -/
def Along (C : σ → ω → Prop) : σ → List ω → Prop
  | _, [] => True
  | s, o :: os => C s o ∧ Along C (M.next s o) os

/-- The operations of a run, each with its result. -/
def trace : σ → List ω → List (ω × ρ)
  | _, [] => []
  | s, o :: os => (o, M.result s o) :: trace (M.next s o) os

instance decidableAlong (C : σ → ω → Prop) [∀ s o, Decidable (C s o)] :
    ∀ s os, Decidable (M.Along C s os)
  | _, [] => inferInstanceAs (Decidable True)
  | s, o :: os =>
    have : Decidable (M.Along C (M.next s o) os) := decidableAlong C (M.next s o) os
    inferInstanceAs (Decidable (C s o ∧ M.Along C (M.next s o) os))

@[simp] theorem exec_nil (s : σ) : M.exec s [] = s := rfl

@[simp] theorem exec_cons (s : σ) (o : ω) (os : List ω) :
    M.exec s (o :: os) = M.exec (M.next s o) os := rfl

theorem exec_append (s : σ) (os₁ os₂ : List ω) :
    M.exec s (os₁ ++ os₂) = M.exec (M.exec s os₁) os₂ := by
  induction os₁ generalizing s with
  | nil => rfl
  | cons o os ih => exact ih (M.next s o)

theorem exec_concat (s : σ) (os : List ω) (o : ω) :
    M.exec s (os ++ [o]) = M.next (M.exec s os) o :=
  M.exec_append s os [o]

theorem trace_append (s : σ) (os₁ os₂ : List ω) :
    M.trace s (os₁ ++ os₂) = M.trace s os₁ ++ M.trace (M.exec s os₁) os₂ := by
  induction os₁ generalizing s with
  | nil => rfl
  | cons o os ih => exact congrArg _ (ih (M.next s o))

/-- The machine that also records its trace, for conditions on what has happened so far. -/
def recording : Machine (σ × List (ω × ρ)) ω ρ where
  step o st := (M.result st.1 o, M.next st.1 o, st.2 ++ [(o, M.result st.1 o)])

theorem exec_recording (s : σ) (tr : List (ω × ρ)) (os : List ω) :
    M.recording.exec (s, tr) os = (M.exec s os, tr ++ M.trace s os) := by
  induction os generalizing s tr with
  | nil => simp [trace]
  | cons o os ih =>
    have hnext := ih (M.next s o) (tr ++ [(o, M.result s o)])
    rw [List.append_assoc] at hnext
    exact hnext

/-- A book kept beside a run: every step adds its note, read off the state before it. -/
def book {γ : Type} (note : σ → ω → γ → γ) : σ → List ω → γ → γ
  | _, [], g => g
  | s, o :: os, g => book note (M.next s o) os (note s o g)

variable {M} {C : σ → ω → Prop} {s : σ} {os : List ω}

theorem along_append {os₁ os₂ : List ω} :
    M.Along C s (os₁ ++ os₂) ↔ M.Along C s os₁ ∧ M.Along C (M.exec s os₁) os₂ := by
  induction os₁ generalizing s with
  | nil => simp [Along]
  | cons o os ih => simp [Along, ih, and_assoc]

/-- A condition that every operation of the run meets in every state. -/
theorem along_of_mem (h : ∀ o ∈ os, ∀ s, C s o) : M.Along C s os := by
  induction os generalizing s with
  | nil => trivial
  | cons o os ih =>
    exact ⟨h o List.mem_cons_self s, ih fun o' ho' => h o' (List.mem_cons_of_mem o ho')⟩

theorem along_true : M.Along (fun _ _ => True) s os := along_of_mem fun _ _ _ => trivial

theorem along_and {D : σ → ω → Prop} (hC : M.Along C s os) (hD : M.Along D s os) :
    M.Along (fun s o => C s o ∧ D s o) s os := by
  induction os generalizing s with
  | nil => trivial
  | cons o os ih => exact ⟨⟨hC.1, hD.1⟩, ih hC.2 hD.2⟩

/-- What every step keeps, a run keeps. -/
theorem exec_invariant {I : σ → Prop} (hinit : I s) (hrun : M.Along C s os)
    (hstep : ∀ s o, I s → C s o → I (M.next s o)) : I (M.exec s os) := by
  induction os generalizing s with
  | nil => exact hinit
  | cons o os ih => exact ih (hstep s o hinit hrun.1) hrun.2

/-- What every step keeps in any state, every run keeps. -/
theorem exec_always {I : σ → Prop} (hinit : I s) (hstep : ∀ s o, I s → I (M.next s o))
    (os : List ω) : I (M.exec s os) :=
  exec_invariant hinit along_true fun s o hs _ => hstep s o hs

/-- What every step and its note keep, a run and its book keep. -/
theorem book_invariant {γ : Type} {note : σ → ω → γ → γ} {I : σ → γ → Prop} {g : γ} (hinit : I s g)
    (hstep : ∀ s o g, I s g → I (M.next s o) (note s o g)) (os : List ω) :
    I (M.exec s os) (M.book note s os g) := by
  induction os generalizing s g with
  | nil => exact hinit
  | cons o os ih => exact ih (hstep s o g hinit)

theorem along_iff :
    M.Along C s os ↔ ∀ before o after, os = before ++ o :: after → C (M.exec s before) o := by
  constructor
  · rintro h before o after rfl
    exact (along_append.mp h).2.1
  · intro h
    induction os generalizing s with
    | nil => trivial
    | cons o os ih =>
      refine ⟨h [] o os rfl, ih fun before o' after heq => ?_⟩
      exact h (o :: before) o' after (by rw [heq, List.cons_append])

/-- Two conditions that agree in every state that satisfies an invariant. -/
theorem along_congr {D : σ → ω → Prop} {I : σ → Prop} (hinit : I s)
    (hkeep : ∀ s o, I s → I (M.next s o)) (hstep : ∀ s o, I s → (C s o ↔ D s o)) :
    M.Along C s os ↔ M.Along D s os := by
  induction os generalizing s with
  | nil => exact Iff.rfl
  | cons o os ih => exact and_congr (hstep s o hinit) (ih (hkeep s o hinit))

/-! ## When a run keeps a property -/

/-- Every state of the run satisfies `P`, the first and the last included. -/
def Throughout (P : σ → Prop) (s : σ) (os : List ω) : Prop :=
  ∀ before, before <+: os → P (M.exec s before)

/-- If the condition decides, under an invariant, which of the allowed steps keep `P`, a run of
allowed steps stays in `P` if and only if every step of it meets the condition. -/
theorem throughout_iff {P I : σ → Prop} {A : ω → Prop} (hP : P s) (hinit : I s)
    (hallowed : ∀ o ∈ os, A o) (hkeep : ∀ s o, A o → I s → I (M.next s o))
    (hstep : ∀ s o, A o → I s → P s → (P (M.next s o) ↔ C s o)) :
    M.Throughout P s os ↔ M.Along C s os := by
  induction os generalizing s with
  | nil =>
    refine ⟨fun _ => trivial, fun _ before hbefore => ?_⟩
    rw [List.prefix_nil.mp hbefore]
    exact hP
  | cons o os ih =>
    have ho := hallowed o List.mem_cons_self
    have hrest := fun o' ho' => hallowed o' (List.mem_cons_of_mem o ho')
    constructor
    · intro h
      have hnext : P (M.next s o) := h [o] ⟨os, rfl⟩
      refine ⟨(hstep s o ho hinit hP).mp hnext, (ih hnext (hkeep s o ho hinit) hrest).mp ?_⟩
      intro before hbefore
      exact h (o :: before) (List.cons_prefix_cons.mpr ⟨rfl, hbefore⟩)
    · rintro ⟨hC, hrun⟩ before hbefore
      cases before with
      | nil => exact hP
      | cons o' before =>
        obtain ⟨rfl, htail⟩ := List.cons_prefix_cons.mp hbefore
        have hnext := (hstep s o' ho hinit hP).mpr hC
        exact (ih hnext (hkeep s o' ho hinit) hrest).mpr hrun before htail

/-- Once `D` holds it holds for good, and every later step is as `Q` says. -/
def Terminal (D : σ → Prop) (Q : σ → ω → Prop) (s : σ) (os : List ω) : Prop :=
  ∀ before middle o after, os = before ++ (middle ++ o :: after) → D (M.exec s before) →
    Q (M.exec s (before ++ middle)) o ∧ D (M.exec s (before ++ (middle ++ [o])))

theorem terminal_iff {ι : Type} {D : ι → σ → Prop} {Q : ι → σ → ω → Prop} :
    (∀ i, M.Terminal (D i) (Q i) s os) ↔
      M.Along (fun s o => ∀ i, D i s → Q i s o ∧ D i (M.next s o)) s os := by
  rw [along_iff]
  constructor
  · rintro h before o after rfl i hD
    have hstep := h i before [] o after rfl hD
    rwa [List.append_nil, List.nil_append, exec_append] at hstep
  · rintro h i before middle o after rfl hD
    have hrun : M.Along (fun s o => ∀ i, D i s → Q i s o ∧ D i (M.next s o))
        (M.exec s before) (middle ++ o :: after) := (along_append.mp (along_iff.mpr h)).2
    obtain ⟨hmiddle, hlast, -⟩ := along_append.mp hrun
    have hkept : D i (M.exec (M.exec s before) middle) :=
      exec_invariant hD hmiddle fun s o hs hstep => (hstep i hs).2
    rw [exec_append, exec_append, exec_append]
    exact hlast i hkept

/-! ## What a run has been through -/

/-- Some state of the run, the first and the last included, satisfies `P`. -/
def Visits (s : σ) (os : List ω) (P : σ → Prop) : Prop :=
  ∃ before, before <+: os ∧ P (M.exec s before)

/-- Every operation of a run meets a condition on the operations before it. -/
def Stepwise (C : List ω → ω → Prop) (os : List ω) : Prop :=
  ∀ before o, before ++ [o] <+: os → C before o

variable {os' : List ω} {P : σ → Prop}

theorem Visits.last (h : P (M.exec s os)) : M.Visits s os P := ⟨os, List.prefix_refl os, h⟩

theorem Visits.mono (h : M.Visits s os P) (hos : os <+: os') : M.Visits s os' P := by
  obtain ⟨before, hbefore, hP⟩ := h
  exact ⟨before, hbefore.trans hos, hP⟩

/-- A run of one more operation visits one more state. -/
theorem visits_concat {o : ω} :
    M.Visits s (os ++ [o]) P ↔ M.Visits s os P ∨ P (M.exec s (os ++ [o])) := by
  constructor
  · rintro ⟨before, hbefore, hP⟩
    rcases List.prefix_concat_iff.mp hbefore with rfl | hbefore
    · exact .inr hP
    · exact .inl ⟨before, hbefore, hP⟩
  · rintro (h | h)
    · exact h.mono (List.prefix_append os [o])
    · exact .last h

theorem stepwise_concat {C : List ω → ω → Prop} {o : ω} :
    Stepwise C (os ++ [o]) ↔ Stepwise C os ∧ C os o := by
  constructor
  · intro h
    exact ⟨fun before o' hbefore => h before o' (hbefore.trans (List.prefix_append os [o])),
      h os o (List.prefix_refl _)⟩
  · rintro ⟨h, ho⟩ before o' hbefore
    rcases List.prefix_concat_iff.mp hbefore with heq | hbefore
    · obtain ⟨rfl, hlast⟩ := List.append_inj' heq rfl
      cases hlast
      exact ho
    · exact h before o' hbefore

end Machine
