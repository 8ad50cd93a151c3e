-- SUMMARY: The words that a reader accepts, as a formal language with one rule for each primitive and one for sequencing.
import EngineResidency.Base.Codec
import Mathlib.Computability.Language

/-!
# Grammars of byte strings

`Recognizes r L P` says which bytes a reader takes: it reads a word of the language `L`
from the front of its input, whatever follows, and fails when there is none. The value that
it returns is in the relation `P` to the word that it was read from. A language is
Mathlib's, so that a record is a product of the languages of its fields.
-/

namespace Codec

variable {α β : Type}

/-- `r` reads `w` as `a`, whatever follows. -/
def Reads (r : Reader α) (w : List UInt8) (a : α) : Prop := ∀ rest, r (w ++ rest) = some (a, rest)

/-- `r` reads the words of `L` and no others, and `P` relates a value to its word. -/
structure Recognizes (r : Reader α) (L : Language UInt8) (P : α → List UInt8 → Prop) : Prop where
  /-- A word of the language is read. -/
  reads : ∀ {w}, w ∈ L → ∃ a, P a w ∧ Reads r w a
  /-- What is read is a word of the language. -/
  word : ∀ {inp a rest}, r inp = some (a, rest) → ∃ w ∈ L, inp = w ++ rest ∧ P a w

theorem Reader.bind_eq_some {r : Reader α} {k : α → Reader β} {inp : List UInt8}
    {p : β × List UInt8} :
    (r >>= k) inp = some p ↔ ∃ a mid, r inp = some (a, mid) ∧ k a mid = some p := by
  simp only [Bind.bind, StateT.bind]
  cases r inp with
  | none => simp
  | some q =>
    obtain ⟨a, mid⟩ := q
    simp

theorem Reader.failIf_eq_some {c : Prop} [Decidable c] {inp : List UInt8} {p : Unit × List UInt8} :
    Reader.failIf c inp = some p ↔ ¬ c ∧ p = ((), inp) := by
  by_cases hc : c
  · simp [Reader.failIf, hc, failure, StateT.failure]
  · have hpass : Reader.failIf c inp = some ((), inp) := by
      rw [Reader.failIf, if_neg hc]
      rfl
    rw [hpass]
    simp [hc, eq_comm]

namespace Reads

theorem pure (a : α) : Reads (Pure.pure a) [] a := fun _ => rfl

theorem bind {r : Reader α} {k : α → Reader β} {u v : List UInt8} {a : α} {b : β}
    (h₁ : Reads r u a) (h₂ : Reads (k a) v b) : Reads (r >>= k) (u ++ v) b := by
  intro rest
  rw [Reader.bind_eq_some, List.append_assoc]
  exact ⟨a, v ++ rest, h₁ (v ++ rest), h₂ rest⟩

/-- A check that passes reads nothing. -/
theorem pass {c : Prop} [Decidable c] (hc : ¬ c) : Reads (Reader.failIf c) [] () :=
  fun _ => Reader.failIf_eq_some.mpr ⟨hc, rfl⟩

theorem failIf {c : Prop} [Decidable c] {r : Reader α} {w : List UInt8} {a : α} (hc : ¬ c)
    (h : Reads r w a) : Reads (Reader.failIf c >>= fun _ => r) w a :=
  (pass hc).bind h

/-- The last value that is read: nothing is left to read for what is computed from it. -/
theorem map {r : Reader α} {f : α → β} {w : List UInt8} {a : α} (h : Reads r w a) :
    Reads (r >>= fun x => Pure.pure (f x)) w (f a) := by
  rw [← List.append_nil w]
  exact h.bind (pure (f a))

theorem u32 (x : UInt32) : Reads Reader.u32 (leBytes 4 x.toNat) x := by
  intro rest
  have hback : ofLeBytes (leBytes 4 x.toNat) = x.toNat := ofLeBytes_leBytes 4 _ x.toNat_lt
  rw [Reader.u32, Reader.bind_eq_some]
  refine ⟨_, rest, take_append (length_leBytes 4 x.toNat), ?_⟩
  rw [hback, UInt32.ofNat_toNat]
  rfl

theorem u64 (x : UInt64) : Reads Reader.u64 (leBytes 8 x.toNat) x := by
  intro rest
  have hback : ofLeBytes (leBytes 8 x.toNat) = x.toNat := ofLeBytes_leBytes 8 _ x.toNat_lt
  rw [Reader.u64, Reader.bind_eq_some]
  refine ⟨_, rest, take_append (length_leBytes 8 x.toNat), ?_⟩
  rw [hback, UInt64.ofNat_toNat]
  rfl

/-- Words of a language, one after the other. -/
theorem many {r : Reader α} {L : Language UInt8} {P : α → List UInt8 → Prop}
    (h : Recognizes r L P) {ws : List (List UInt8)} (hws : ∀ w ∈ ws, w ∈ L) :
    ∃ as, List.Forall₂ P as ws ∧ Reads (Reader.many r ws.length) ws.flatten as := by
  induction ws with
  | nil => exact ⟨[], .nil, pure []⟩
  | cons w ws ih =>
    obtain ⟨a, ha, hread⟩ := h.reads (hws w List.mem_cons_self)
    obtain ⟨as, has, hreads⟩ := ih fun v hv => hws v (List.mem_cons_of_mem w hv)
    exact ⟨a :: as, .cons ha has, hread.bind hreads.map⟩

end Reads

/-! ## Languages of tokens -/

/-- The words of `n` bytes. -/
def bytes (n : Nat) : Language UInt8 := {w | w.length = n}

/-- A number of 32 bits, at most `bound`, and a word of the language that it announces. -/
def counted (bound : Nat) (M : Nat → Language UInt8) : Language UInt8 :=
  {w | ∃ n ≤ bound, ∃ v ∈ M n, w = leBytes 4 n ++ v}

namespace Recognizes

variable {L M : Language UInt8}

theorem mono {r : Reader α} {P Q : α → List UInt8 → Prop} (h : Recognizes r L P)
    (hPQ : ∀ a w, P a w → Q a w) : Recognizes r L Q where
  reads hw := by
    obtain ⟨a, ha, hread⟩ := h.reads hw
    exact ⟨a, hPQ a _ ha, hread⟩
  word hread := by
    obtain ⟨w, hw, hinp, ha⟩ := h.word hread
    exact ⟨w, hw, hinp, hPQ _ w ha⟩

/-- A word is in the language that it is read by. -/
theorem mem {r : Reader α} {P : α → List UInt8 → Prop} (h : Recognizes r L P) :
    Recognizes r L fun a w => P a w ∧ w ∈ L where
  reads hw := by
    obtain ⟨a, ha, hread⟩ := h.reads hw
    exact ⟨a, ⟨ha, hw⟩, hread⟩
  word hread := by
    obtain ⟨w, hw, hinp, ha⟩ := h.word hread
    exact ⟨w, hw, hinp, ha, hw⟩

theorem pure {a : α} {P : α → List UInt8 → Prop} (h : P a []) :
    Recognizes (Pure.pure a) 1 P where
  reads hw := by
    rw [Language.mem_one] at hw
    subst hw
    exact ⟨a, h, fun _ => rfl⟩
  word hread := by
    cases hread
    exact ⟨[], Language.nil_mem_one, rfl, h⟩

theorem bind {r : Reader α} {k : α → Reader β} {P : α → List UInt8 → Prop}
    {Q : β → List UInt8 → Prop} (h₁ : Recognizes r L P)
    (h₂ : ∀ a u, P a u → Recognizes (k a) M fun b v => Q b (u ++ v)) :
    Recognizes (r >>= k) (L * M) Q where
  reads hw := by
    obtain ⟨u, hu, v, hv, rfl⟩ := Language.mem_mul.mp hw
    obtain ⟨a, ha, hr⟩ := h₁.reads hu
    obtain ⟨b, hb, hk⟩ := (h₂ a u ha).reads hv
    exact ⟨b, hb, hr.bind hk⟩
  word hread := by
    obtain ⟨a, mid, hr, hk⟩ := Reader.bind_eq_some.mp hread
    obtain ⟨u, hu, rfl, ha⟩ := h₁.word hr
    obtain ⟨v, hv, rfl, hb⟩ := (h₂ a u ha).word hk
    exact ⟨u ++ v, Language.append_mem_mul hu hv, (List.append_assoc _ _ _).symm, hb⟩

/-- A value that is computed from the one that is read. -/
theorem map {r : Reader α} {f : α → β} {P : α → List UInt8 → Prop} {Q : β → List UInt8 → Prop}
    (h : Recognizes r L P) (hQ : ∀ a w, P a w → Q (f a) w) :
    Recognizes (r >>= fun x => Pure.pure (f x)) L Q := by
  rw [← mul_one L]
  refine h.bind fun a u ha => pure ?_
  rw [List.append_nil]
  exact hQ a u ha

theorem take {n : Nat} : Recognizes (Reader.take n) (bytes n) fun a w => a = w ∧ w.length = n where
  reads {w} hw := ⟨w, ⟨rfl, hw⟩, fun _ => take_append hw⟩
  word {inp a rest} hread := by
    unfold Reader.take at hread
    split at hread
    · cases hread
    · cases hread
      have hlength : (inp.take n).length = n := by
        rw [List.length_take]
        omega
      exact ⟨inp.take n, hlength, (List.take_append_drop n inp).symm, rfl, hlength⟩

theorem u8 : Recognizes Reader.u8 (bytes 1) fun _ _ => True where
  reads {w} hw := by
    obtain ⟨b, rfl⟩ := List.length_eq_one_iff.mp hw
    exact ⟨b, trivial, fun _ => rfl⟩
  word {inp b rest} hread := by
    cases inp with
    | nil => cases hread
    | cons c cs =>
      cases hread
      exact ⟨[b], rfl, rfl, trivial⟩

theorem u32 : Recognizes Reader.u32 (bytes 4) fun x w => leBytes 4 x.toNat = w := by
  refine take.map ?_
  rintro a w ⟨rfl, hlength⟩
  have hlt : ofLeBytes a < 256 ^ 4 := hlength ▸ ofLeBytes_lt a
  have hword : leBytes 4 (ofLeBytes a) = a := hlength ▸ leBytes_ofLeBytes a
  rwa [UInt32.toNat_ofNat_of_lt' hlt]

theorem u64 : Recognizes Reader.u64 (bytes 8) fun x w => leBytes 8 x.toNat = w := by
  refine take.map ?_
  rintro a w ⟨rfl, hlength⟩
  have hlt : ofLeBytes a < 256 ^ 8 := hlength ▸ ofLeBytes_lt a
  have hword : leBytes 8 (ofLeBytes a) = a := hlength ▸ leBytes_ofLeBytes a
  rwa [UInt64.toNat_ofNat_of_lt' hlt]

/-- A number with a bound, and what it announces. -/
theorem counted {bound : Nat} {c : UInt32 → Prop} [DecidablePred c] {k : UInt32 → Reader β}
    {M : Nat → Language UInt8} {Q : β → List UInt8 → Prop}
    (hc : ∀ x, c x ↔ bound < x.toNat) (hbound : bound < 2 ^ 32)
    (hk : ∀ x, x.toNat ≤ bound →
      Recognizes (k x) (M x.toNat) fun b v => Q b (leBytes 4 x.toNat ++ v)) :
    Recognizes (Reader.u32 >>= fun x => Reader.failIf (c x) >>= fun _ => k x) (counted bound M)
      Q where
  reads {w} hw := by
    obtain ⟨n, hn, v, hv, rfl⟩ := hw
    obtain ⟨x, rfl⟩ : ∃ x : UInt32, x.toNat = n :=
      ⟨UInt32.ofNat n, UInt32.toNat_ofNat_of_lt' (Nat.lt_of_le_of_lt hn hbound)⟩
    have hpass : ¬ c x := by
      rw [hc]
      omega
    obtain ⟨b, hb, hread⟩ := (hk x hn).reads hv
    exact ⟨b, hb, (Reads.u32 x).bind (Reads.failIf hpass hread)⟩
  word hread := by
    obtain ⟨x, mid, hr, hcheck⟩ := Reader.bind_eq_some.mp hread
    obtain ⟨_, _, hcheck, hrest⟩ := Reader.bind_eq_some.mp hcheck
    obtain ⟨hpass, heq⟩ := Reader.failIf_eq_some.mp hcheck
    cases heq
    obtain ⟨u, -, rfl, rfl⟩ := u32.word hr
    have hle : x.toNat ≤ bound := by
      rw [hc] at hpass
      omega
    obtain ⟨v, hv, rfl, hb⟩ := (hk x hle).word hrest
    exact ⟨_, ⟨x.toNat, hle, v, hv, rfl⟩, (List.append_assoc _ _ _).symm, hb⟩

/-- Words of one language, one after the other. -/
theorem many {r : Reader α} {P : α → List UInt8 → Prop} (h : Recognizes r L P) (n : Nat) :
    Recognizes (Reader.many r n) (L ^ n) fun as w =>
      ∃ ws, w = ws.flatten ∧ ws.length = n ∧ (∀ v ∈ ws, v ∈ L) ∧ List.Forall₂ P as ws := by
  induction n with
  | zero =>
    rw [pow_zero]
    exact pure ⟨[], rfl, rfl, by simp, List.Forall₂.nil⟩
  | succ n ih =>
    rw [pow_succ']
    refine h.mem.bind fun a u ⟨ha, hu⟩ => ih.map ?_
    rintro as v ⟨ws, rfl, rfl, hws, hall⟩
    exact ⟨u :: ws, rfl, rfl, by simpa using ⟨hu, hws⟩, .cons ha hall⟩

end Recognizes

end Codec
