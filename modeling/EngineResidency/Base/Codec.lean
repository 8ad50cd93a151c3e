-- SUMMARY: Byte writers and readers over little-endian words, with rules for round trips and for the sizes of accepted input.
import Mathlib.Algebra.Ring.Nat
import Mathlib.Control.Monad.Writer
import Mathlib.Data.List.Basic

/-!
# Byte codecs

A `Writer` emits bytes and may refuse; a `Reader` consumes bytes
from the front of its input and may fail. Two judgements relate a reader to a
writer:

* `Agrees w r a`: what `w` emits, `r` reads back as `a`, whatever follows.
* `Yields r P`: every value `a` that `r` accepts satisfies `P a n`, where `n` is
  the number of bytes it consumed.

Both have one rule for each primitive and one for sequencing, so that a proof
about a record follows the fields of its writer and reader.
-/

namespace Codec

/-! ## Little-endian words -/

/-- The `n` low bytes of `v`, least significant first. -/
def leBytes : Nat → Nat → List UInt8
  | 0, _ => []
  | n + 1, v => UInt8.ofNat (v % 256) :: leBytes n (v / 256)

/-- The number whose bytes are given, least significant first. -/
def ofLeBytes : List UInt8 → Nat
  | [] => 0
  | b :: bs => b.toNat + 256 * ofLeBytes bs

@[simp] theorem length_leBytes (n v : Nat) : (leBytes n v).length = n := by
  induction n generalizing v with
  | zero => rfl
  | succ n ih => simp [leBytes, ih]

theorem ofLeBytes_leBytes (n v : Nat) (h : v < 256 ^ n) : ofLeBytes (leBytes n v) = v := by
  induction n generalizing v with
  | zero =>
    have hv : v = 0 := by simpa using h
    simp [leBytes, ofLeBytes, hv]
  | succ n ih =>
    have hdiv : v / 256 < 256 ^ n := by
      apply Nat.div_lt_of_lt_mul
      rw [← Nat.pow_succ']
      exact h
    simp only [leBytes, ofLeBytes, ih _ hdiv, UInt8.toNat_ofNat']
    omega

theorem ofLeBytes_lt (bs : List UInt8) : ofLeBytes bs < 256 ^ bs.length := by
  induction bs with
  | nil => simp [ofLeBytes]
  | cons b bs ih =>
    have hb := b.toNat_lt
    simp only [ofLeBytes, List.length_cons, Nat.pow_succ']
    omega

theorem leBytes_ofLeBytes (bs : List UInt8) : leBytes bs.length (ofLeBytes bs) = bs := by
  induction bs with
  | nil => rfl
  | cons b bs ih =>
    have hb := b.toNat_lt
    have hmod : (b.toNat + 256 * ofLeBytes bs) % 256 = b.toNat := by omega
    have hdiv : (b.toNat + 256 * ofLeBytes bs) / 256 = ofLeBytes bs := by omega
    simp only [List.length_cons, leBytes, ofLeBytes, hmod, hdiv, ih, UInt8.ofNat_toNat]

/-- Bytes of one number and one length are the same. -/
theorem ofLeBytes_injective {as bs : List UInt8} (hlen : as.length = bs.length)
    (h : ofLeBytes as = ofLeBytes bs) : as = bs := by
  rw [← leBytes_ofLeBytes as, ← leBytes_ofLeBytes bs, hlen, h]

/-! ## Writers and readers -/

/-- Emit bytes, or refuse with an error. -/
abbrev Writer (ε : Type) := WriterT (List UInt8) (Except ε)

/-- Consume bytes from the front of the input, or fail. -/
abbrev Reader := StateT (List UInt8) Option

variable {ε α β : Type}

namespace Writer

/-- Emit raw bytes. -/
def raw (bs : List UInt8) : Writer ε Unit := tell bs

def u8 (v : UInt8) : Writer ε Unit := raw [v]

def u32 (v : UInt32) : Writer ε Unit := raw (leBytes 4 v.toNat)

def u64 (v : UInt64) : Writer ε Unit := raw (leBytes 8 v.toNat)

/-- Write the elements of a list one after the other. -/
def many (w : α → Writer ε Unit) : List α → Writer ε Unit
  | [] => pure ()
  | a :: as => do
    w a
    many w as

end Writer

namespace Reader

/-- Consume exactly `n` bytes. -/
def take (n : Nat) : Reader (List UInt8) := fun inp =>
  if inp.length < n then none else some (inp.take n, inp.drop n)

def u8 : Reader UInt8
  | [] => none
  | b :: rest => some (b, rest)

def u32 : Reader UInt32 := do
  let bs ← take 4
  return UInt32.ofNat (ofLeBytes bs)

def u64 : Reader UInt64 := do
  let bs ← take 8
  return UInt64.ofNat (ofLeBytes bs)

/-- Fail when `c` holds. -/
def failIf (c : Prop) [Decidable c] : Reader Unit := if c then failure else pure ()

/-- Read `n` elements one after the other. -/
def many (r : Reader α) : Nat → Reader (List α)
  | 0 => pure []
  | n + 1 => do
    let a ← r
    let as ← many r n
    return a :: as

end Reader

/-! ## What a writer emits -/

/-- Running `w` emits exactly `bs`. -/
def Emits (w : Writer ε Unit) (bs : List UInt8) : Prop := w.run = .ok ((), bs)

theorem Emits.pure : Emits (pure () : Writer ε Unit) [] := rfl

theorem Emits.raw (bs : List UInt8) : Emits (Writer.raw bs : Writer ε Unit) bs := rfl

theorem Emits.bind {w₁ w₂ : Writer ε Unit} {bs₁ bs₂ : List UInt8}
    (h₁ : Emits w₁ bs₁) (h₂ : Emits w₂ bs₂) :
    Emits (w₁ >>= fun _ => w₂) (bs₁ ++ bs₂) := by
  unfold Emits at h₁ h₂ ⊢
  rw [WriterT.run_bind, h₁]
  exact congrArg (Except.map fun p => (p.1, bs₁ ++ p.2)) h₂

/-- The number of bytes `w` emits; in particular `w` does not refuse. -/
def Size (w : Writer ε Unit) (n : Nat) : Prop := ∃ bs, Emits w bs ∧ bs.length = n

namespace Size

theorem pure : Size (Pure.pure () : Writer ε Unit) 0 := ⟨[], Emits.pure, rfl⟩

theorem raw (bs : List UInt8) : Size (Writer.raw bs : Writer ε Unit) bs.length :=
  ⟨bs, Emits.raw bs, rfl⟩

theorem u8 {v : UInt8} : Size (Writer.u8 v : Writer ε Unit) 1 := raw [v]

theorem u32 {v : UInt32} : Size (Writer.u32 v : Writer ε Unit) 4 := by
  simpa [Writer.u32] using @raw ε (leBytes 4 v.toNat)

theorem u64 {v : UInt64} : Size (Writer.u64 v : Writer ε Unit) 8 := by
  simpa [Writer.u64] using @raw ε (leBytes 8 v.toNat)

theorem bind {w₁ w₂ : Writer ε Unit} {n₁ n₂ : Nat} (h₁ : Size w₁ n₁) (h₂ : Size w₂ n₂) :
    Size (w₁ >>= fun _ => w₂) (n₁ + n₂) := by
  obtain ⟨bs₁, he₁, rfl⟩ := h₁
  obtain ⟨bs₂, he₂, rfl⟩ := h₂
  exact ⟨bs₁ ++ bs₂, he₁.bind he₂, List.length_append⟩

end Size

/-! ## Writers of the same size -/

theorem Emits.of_bind {w₁ w₂ : Writer ε Unit} {bs : List UInt8}
    (h : Emits (w₁ >>= fun _ => w₂) bs) :
    ∃ bs₁ bs₂, Emits w₁ bs₁ ∧ Emits w₂ bs₂ ∧ bs = bs₁ ++ bs₂ := by
  unfold Emits at h ⊢
  rw [WriterT.run_bind] at h
  cases h₁ : w₁.run with
  | error e =>
    rw [h₁] at h
    cases h
  | ok p₁ =>
    rw [h₁] at h
    cases h₂ : w₂.run with
    | error e =>
      have herr : Except.map (fun p => (p.1, p₁.2 ++ p.2)) w₂.run = .ok ((), bs) := h
      rw [h₂] at herr
      cases herr
    | ok p₂ =>
      have hok : Except.map (fun p => (p.1, p₁.2 ++ p.2)) w₂.run = .ok ((), bs) := h
      rw [h₂] at hok
      cases hok
      exact ⟨p₁.2, p₂.2, rfl, rfl, rfl⟩

theorem Size.of_bind {w₁ w₂ : Writer ε Unit} {n : Nat} (h : Size (w₁ >>= fun _ => w₂) n) :
    ∃ n₁ n₂, Size w₁ n₁ ∧ Size w₂ n₂ ∧ n = n₁ + n₂ := by
  obtain ⟨bs, hemit, rfl⟩ := h
  obtain ⟨bs₁, bs₂, h₁, h₂, rfl⟩ := hemit.of_bind
  exact ⟨bs₁.length, bs₂.length, ⟨bs₁, h₁, rfl⟩, ⟨bs₂, h₂, rfl⟩, List.length_append⟩

/-- Whenever `w` writes, `w'` writes as many bytes. -/
def SameSize (w w' : Writer ε Unit) : Prop := ∀ n, Size w n → Size w' n

namespace SameSize

theorem refl (w : Writer ε Unit) : SameSize w w := fun _ h => h

theorem trans {w₁ w₂ w₃ : Writer ε Unit} (h₁ : SameSize w₁ w₂) (h₂ : SameSize w₂ w₃) :
    SameSize w₁ w₃ :=
  fun n h => h₂ n (h₁ n h)

theorem of_size {w w' : Writer ε Unit} {n : Nat} (h : Size w n) (h' : Size w' n) :
    SameSize w w' := by
  intro m hm
  obtain ⟨bs, hemit, rfl⟩ := h
  obtain ⟨bs', hemit', rfl⟩ := hm
  have heq : bs = bs' := congrArg Prod.snd (Except.ok.inj (hemit.symm.trans hemit'))
  rw [← heq]
  exact h'

theorem u8 {v v' : UInt8} : SameSize (Writer.u8 v : Writer ε Unit) (Writer.u8 v') :=
  of_size Size.u8 Size.u8

theorem u32 {v v' : UInt32} : SameSize (Writer.u32 v : Writer ε Unit) (Writer.u32 v') :=
  of_size Size.u32 Size.u32

theorem bind {w₁ w₂ w₁' w₂' : Writer ε Unit} (h₁ : SameSize w₁ w₁') (h₂ : SameSize w₂ w₂') :
    SameSize (w₁ >>= fun _ => w₂) (w₁' >>= fun _ => w₂') := by
  intro n hn
  obtain ⟨n₁, n₂, hn₁, hn₂, rfl⟩ := hn.of_bind
  exact (h₁ n₁ hn₁).bind (h₂ n₂ hn₂)

theorem many_map {w : α → Writer ε Unit} {f : α → α} (h : ∀ a, SameSize (w a) (w (f a)))
    (as : List α) : SameSize (Writer.many w as) (Writer.many w (as.map f)) := by
  induction as with
  | nil => exact refl _
  | cons a as ih => exact (h a).bind ih

/-- The order of the elements does not matter for the size. -/
theorem many_perm {w : α → Writer ε Unit} {as as' : List α} (h : as.Perm as') :
    SameSize (Writer.many w as) (Writer.many w as') := by
  induction h with
  | nil => exact refl _
  | cons a _ ih => exact (refl (w a)).bind ih
  | swap a b as =>
    intro n hn
    obtain ⟨nb, n', hb, hn', rfl⟩ := hn.of_bind
    obtain ⟨na, m, ha, hm, rfl⟩ := hn'.of_bind
    rw [Nat.add_left_comm]
    exact ha.bind (hb.bind hm)
  | trans _ _ ih₁ ih₂ => exact ih₁.trans ih₂

end SameSize

/-! ## Reading back -/

/-- What `w` emits, `r` reads back as `a`. -/
def Agrees (w : Writer ε Unit) (r : Reader α) (a : α) : Prop :=
  ∃ bs, Emits w bs ∧ ∀ rest, r (bs ++ rest) = some (a, rest)

theorem take_append {n : Nat} {bs rest : List UInt8} (h : bs.length = n) :
    Reader.take n (bs ++ rest) = some (bs, rest) := by
  subst h
  simp [Reader.take]

namespace Agrees

theorem pure {a : α} : Agrees (Pure.pure () : Writer ε Unit) (Pure.pure a) a :=
  ⟨[], Emits.pure, fun _ => rfl⟩

theorem bind {w₁ w₂ : Writer ε Unit} {r : Reader α} {k : α → Reader β} {a : α} {b : β}
    (h₁ : Agrees w₁ r a) (h₂ : Agrees w₂ (k a) b) :
    Agrees (w₁ >>= fun _ => w₂) (r >>= k) b := by
  obtain ⟨bs₁, he₁, hr₁⟩ := h₁
  obtain ⟨bs₂, he₂, hr₂⟩ := h₂
  refine ⟨bs₁ ++ bs₂, he₁.bind he₂, fun rest => ?_⟩
  have h := hr₁ (bs₂ ++ rest)
  simp only [Bind.bind, StateT.bind, List.append_assoc, h, Option.bind, hr₂ rest]

/-- After the last write, the reader computes its value without reading more. -/
theorem andThen {w : Writer ε Unit} {r : Reader α} {k : α → Reader β} {a : α} {b : β}
    (h : Agrees w r a) (hk : ∀ rest, k a rest = some (b, rest)) : Agrees w (r >>= k) b := by
  obtain ⟨bs, he, hr⟩ := h
  refine ⟨bs, he, fun rest => ?_⟩
  simp only [Bind.bind, StateT.bind, hr rest, Option.bind, hk rest]

/-- The last field of a record: nothing is written after it. -/
theorem map {w : Writer ε Unit} {r : Reader α} {f : α → β} {a : α} (h : Agrees w r a) :
    Agrees w (r >>= fun x => Pure.pure (f x)) (f a) :=
  h.andThen fun _ => rfl

/-- A check that passes reads nothing. -/
theorem failIf {w : Writer ε Unit} {r : Reader β} {b : β} {c : Prop} [Decidable c]
    (hc : ¬ c) (h : Agrees w r b) : Agrees w (Reader.failIf c >>= fun _ => r) b := by
  obtain ⟨bs, he, hr⟩ := h
  refine ⟨bs, he, fun rest => ?_⟩
  simp only [Reader.failIf, hc, if_false]
  exact hr rest

theorem raw (bs : List UInt8) : Agrees (Writer.raw bs : Writer ε Unit) (Reader.take bs.length) bs :=
  ⟨bs, Emits.raw bs, fun _ => take_append rfl⟩

theorem u8 {v : UInt8} : Agrees (Writer.u8 v : Writer ε Unit) Reader.u8 v :=
  ⟨[v], Emits.raw [v], fun _ => rfl⟩

theorem u32 {v : UInt32} : Agrees (Writer.u32 v : Writer ε Unit) Reader.u32 v := by
  have hlt : v.toNat < 256 ^ 4 := v.toNat_lt
  have h := (@raw ε (leBytes 4 v.toNat)).map (f := fun bs => UInt32.ofNat (ofLeBytes bs))
  simpa [Reader.u32, Writer.u32, ofLeBytes_leBytes 4 v.toNat hlt] using h

theorem u64 {v : UInt64} : Agrees (Writer.u64 v : Writer ε Unit) Reader.u64 v := by
  have hlt : v.toNat < 256 ^ 8 := v.toNat_lt
  have h := (@raw ε (leBytes 8 v.toNat)).map (f := fun bs => UInt64.ofNat (ofLeBytes bs))
  simpa [Reader.u64, Writer.u64, ofLeBytes_leBytes 8 v.toNat hlt] using h

theorem many {w : α → Writer ε Unit} {r : Reader α} {as : List α}
    (h : ∀ a ∈ as, Agrees (w a) r a) :
    Agrees (Writer.many w as) (Reader.many r as.length) as := by
  induction as with
  | nil => exact pure
  | cons a as ih =>
    refine bind (h a List.mem_cons_self) ?_
    exact (ih fun x hx => h x (List.mem_cons_of_mem a hx)).map

end Agrees

/-! ## Reading back or rejecting -/

/-- What `w` emits, `r` reads back as `a` or rejects. -/
def ReadsBack (w : Writer ε Unit) (r : Reader α) (a : α) : Prop :=
  ∀ bs, Emits w bs → ∀ rest b rest', r (bs ++ rest) = some (b, rest') → b = a ∧ rest' = rest

namespace ReadsBack

theorem of_agrees {w : Writer ε Unit} {r : Reader α} {a : α} (h : Agrees w r a) :
    ReadsBack w r a := by
  intro bs hbs rest b rest' hread
  obtain ⟨bs', hbs', hr⟩ := h
  obtain rfl : bs' = bs := congrArg Prod.snd (Except.ok.inj (hbs'.symm.trans hbs))
  rw [hr rest] at hread
  cases hread
  exact ⟨rfl, rfl⟩

/-- What follows a value that is read back is read from what was written after it. -/
theorem step {w₁ w₂ : Writer ε Unit} {r : Reader α} {k : α → Reader β} {a : α} {b : β}
    {bs rest rest' : List UInt8} (h : ReadsBack w₁ r a) (hbs : Emits (w₁ >>= fun _ => w₂) bs)
    (hread : (r >>= k) (bs ++ rest) = some (b, rest')) :
    ∃ bs₂, Emits w₂ bs₂ ∧ k a (bs₂ ++ rest) = some (b, rest') := by
  obtain ⟨bs₁, bs₂, hbs₁, hbs₂, rfl⟩ := hbs.of_bind
  simp only [Bind.bind, StateT.bind, List.append_assoc] at hread
  cases hr : r (bs₁ ++ (bs₂ ++ rest)) with
  | none => simp [hr] at hread
  | some p =>
    obtain ⟨rfl, hp⟩ := h bs₁ hbs₁ _ p.1 p.2 hr
    simp only [hr, Option.bind_some, hp] at hread
    exact ⟨bs₂, hbs₂, hread⟩

theorem bind {w₁ w₂ : Writer ε Unit} {r : Reader α} {k : α → Reader β} {a : α} {b : β}
    (h₁ : ReadsBack w₁ r a) (h₂ : ReadsBack w₂ (k a) b) :
    ReadsBack (w₁ >>= fun _ => w₂) (r >>= k) b := by
  intro bs hbs rest b' rest' hread
  obtain ⟨bs₂, hbs₂, hread₂⟩ := h₁.step hbs hread
  exact h₂ bs₂ hbs₂ rest b' rest' hread₂

/-- After the last write, the reader computes its value without reading more, or rejects. -/
theorem andThen {w : Writer ε Unit} {r : Reader α} {k : α → Reader β} {a : α} {b : β}
    (h : ReadsBack w r a)
    (hk : ∀ rest b' rest', k a rest = some (b', rest') → b' = b ∧ rest' = rest) :
    ReadsBack w (r >>= k) b := by
  intro bs hbs rest b' rest' hread
  simp only [Bind.bind, StateT.bind] at hread
  cases hr : r (bs ++ rest) with
  | none => simp [hr] at hread
  | some p =>
    obtain ⟨rfl, hp⟩ := h bs hbs rest p.1 p.2 hr
    simp only [hr, Option.bind_some, hp] at hread
    exact hk rest b' rest' hread

/-- The last field of a record: nothing is written after it. -/
theorem map {w : Writer ε Unit} {r : Reader α} {f : α → β} {a : α} (h : ReadsBack w r a) :
    ReadsBack w (r >>= fun x => Pure.pure (f x)) (f a) := by
  refine h.andThen fun rest b' rest' hread => ?_
  cases hread
  exact ⟨rfl, rfl⟩

theorem many {w : α → Writer ε Unit} {r : Reader α} {as : List α}
    (h : ∀ a ∈ as, ReadsBack (w a) r a) :
    ReadsBack (Writer.many w as) (Reader.many r as.length) as := by
  induction as with
  | nil => exact of_agrees Agrees.pure
  | cons a as ih =>
    refine bind (h a List.mem_cons_self) ?_
    exact (ih fun x hx => h x (List.mem_cons_of_mem a hx)).map

end ReadsBack

/-! ## What a writer refuses with -/

/-- When `w` refuses, its error is in `P`. -/
class Refuses (P : ε → Prop) (w : Writer ε Unit) : Prop where
  error : ∀ {e}, w.run = .error e → P e

namespace Refuses

variable {P : ε → Prop}

instance raw {bs : List UInt8} : Refuses P (Writer.raw bs : Writer ε Unit) := ⟨fun h => by cases h⟩

instance u8 {v : UInt8} : Refuses P (Writer.u8 v : Writer ε Unit) := raw

instance u32 {v : UInt32} : Refuses P (Writer.u32 v : Writer ε Unit) := raw

instance u64 {v : UInt64} : Refuses P (Writer.u64 v : Writer ε Unit) := raw

instance bind {w₁ w₂ : Writer ε Unit} [h₁ : Refuses P w₁] [h₂ : Refuses P w₂] :
    Refuses P (w₁ >>= fun _ => w₂) where
  error {e} h := by
    rw [WriterT.run_bind] at h
    cases hw₁ : w₁.run with
    | error e' =>
      rw [hw₁] at h
      cases h
      exact h₁.error hw₁
    | ok p₁ =>
      rw [hw₁] at h
      have hmap : Except.map (fun p => (p.1, p₁.2 ++ p.2)) w₂.run = .error e := h
      cases hw₂ : w₂.run with
      | error e' =>
        rw [hw₂] at hmap
        cases hmap
        exact h₂.error hw₂
      | ok p₂ =>
        rw [hw₂] at hmap
        cases hmap

instance many {w : α → Writer ε Unit} [h : ∀ a, Refuses P (w a)] {as : List α} :
    Refuses P (Writer.many w as) := by
  induction as with
  | nil => exact ⟨fun h => by cases h⟩
  | cons a as ih => exact bind

end Refuses

/-! ## What a reader accepts -/

/-- Every value that `r` accepts satisfies `P` together with the number of bytes
consumed for it. -/
def Yields (r : Reader α) (P : α → Nat → Prop) : Prop :=
  ∀ inp a rest, r inp = some (a, rest) → ∃ n, inp.length = n + rest.length ∧ P a n

namespace Yields

theorem pure {a : α} {P : α → Nat → Prop} (h : P a 0) : Yields (Pure.pure a) P := by
  intro inp b rest hread
  have hb : some (a, inp) = some (b, rest) := hread
  cases hb
  exact ⟨0, (Nat.zero_add _).symm, h⟩

theorem bind {r : Reader α} {k : α → Reader β} {P : α → Nat → Prop} {Q : β → Nat → Prop}
    (h₁ : Yields r P) (h₂ : ∀ a n, P a n → Yields (k a) fun b m => Q b (n + m)) :
    Yields (r >>= k) Q := by
  intro inp b rest hread
  simp only [Bind.bind, StateT.bind] at hread
  cases hr : r inp with
  | none => simp [hr] at hread
  | some p =>
    obtain ⟨a, mid⟩ := p
    simp only [hr, Option.bind_some] at hread
    obtain ⟨n, hlen₁, hP⟩ := h₁ inp a mid hr
    obtain ⟨m, hlen₂, hQ⟩ := h₂ a n hP mid b rest hread
    exact ⟨n + m, by omega, hQ⟩

theorem mono {r : Reader α} {P Q : α → Nat → Prop} (h : Yields r P)
    (hPQ : ∀ a n, P a n → Q a n) : Yields r Q := by
  intro inp a rest hread
  obtain ⟨n, hlen, hP⟩ := h inp a rest hread
  exact ⟨n, hlen, hPQ a n hP⟩

theorem failIf {c : Prop} [Decidable c] : Yields (Reader.failIf c) fun _ n => ¬ c ∧ n = 0 := by
  by_cases hc : c
  · intro inp a rest hread
    simp only [Reader.failIf, hc, if_true] at hread
    exact absurd hread (by simp [failure, StateT.failure])
  · simp only [Reader.failIf, hc, if_false]
    exact pure ⟨not_false, rfl⟩

theorem take {n : Nat} : Yields (Reader.take n) fun bs m => bs.length = n ∧ m = n := by
  intro inp bs rest hread
  unfold Reader.take at hread
  split at hread
  · cases hread
  · cases hread
    exact ⟨n, by simp only [List.length_drop]; omega, by simp only [List.length_take]; omega, rfl⟩

theorem u8 : Yields Reader.u8 fun _ n => n = 1 := by
  intro inp b rest hread
  cases inp with
  | nil => cases hread
  | cons c cs => cases hread; exact ⟨1, by simp [Nat.add_comm], rfl⟩

theorem u32 : Yields Reader.u32 fun _ n => n = 4 := by
  refine bind take ?_
  rintro bs n ⟨-, rfl⟩
  exact pure rfl

theorem u64 : Yields Reader.u64 fun _ n => n = 8 := by
  refine bind take ?_
  rintro bs n ⟨-, rfl⟩
  exact pure rfl

/-- If every element is well formed and writes back to the size it was read
from, then so does the list. -/
theorem many {r : Reader α} {w : α → Writer ε Unit} {W : α → Prop}
    (h : Yields r fun a n => W a ∧ Size (w a) n) (n : Nat) :
    Yields (Reader.many r n) fun as m =>
      as.length = n ∧ (∀ a ∈ as, W a) ∧ Size (Writer.many w as) m := by
  induction n with
  | zero => exact pure ⟨rfl, by simp, Size.pure⟩
  | succ n ih =>
    refine bind h ?_
    rintro a k ⟨hW, hsize⟩
    refine bind ih ?_
    rintro as m ⟨hlen, hall, hsizes⟩
    refine pure ⟨by simp [hlen], ?_, ?_⟩
    · simpa using ⟨hW, hall⟩
    · exact hsize.bind hsizes

end Yields

/-! ## Readers that do not look ahead -/

/-- What a reader accepts, it accepts in the same way when more bytes follow. -/
class Local (r : Reader α) : Prop where
  append : ∀ {inp a rest}, r inp = some (a, rest) → ∀ more, r (inp ++ more) = some (a, rest ++ more)

namespace Local

instance pure {a : α} : Local (Pure.pure a : Reader α) where
  append h more := by
    cases h
    rfl

instance bind {r : Reader α} {k : α → Reader β} [h₁ : Local r] [h₂ : ∀ a, Local (k a)] :
    Local (r >>= k) where
  append {inp b rest} h more := by
    simp only [Bind.bind, StateT.bind] at h ⊢
    cases hr : r inp with
    | none => simp [hr] at h
    | some p =>
      simp only [hr, Option.bind_some] at h
      simp only [h₁.append hr more, Option.bind_some]
      exact (h₂ p.1).append h more

instance failIf {c : Prop} [Decidable c] : Local (Reader.failIf c) := by
  unfold Reader.failIf
  split
  · exact ⟨fun h => by cases h⟩
  · exact pure

instance take {n : Nat} : Local (Reader.take n) where
  append {inp a rest} h more := by
    unfold Reader.take at h ⊢
    split at h
    · cases h
    · cases h
      rw [if_neg (by simp only [List.length_append]; omega), List.take_append_of_le_length (by omega),
        List.drop_append_of_le_length (by omega)]

instance u8 : Local Reader.u8 where
  append {inp a rest} h more := by
    cases inp with
    | nil => cases h
    | cons b bs =>
      cases h
      rfl

instance u32 : Local Reader.u32 := by
  unfold Reader.u32
  infer_instance

instance u64 : Local Reader.u64 := by
  unfold Reader.u64
  infer_instance

instance many {r : Reader α} [Local r] {n : Nat} : Local (Reader.many r n) := by
  induction n with
  | zero => exact pure
  | succ n ih => exact bind

/-- Two inputs that are read to their ends are the same, if one is the beginning of the other. -/
theorem eq_of_prefix {r : Reader α} [h : Local r] {inp inp' : List UInt8} {a a' : α}
    (hread : r inp = some (a, [])) (hread' : r inp' = some (a', [])) (hpre : inp <+: inp') :
    inp = inp' := by
  obtain ⟨more, rfl⟩ := hpre
  rw [h.append hread more] at hread'
  simp only [List.nil_append, Option.some.injEq, Prod.mk.injEq] at hread'
  rw [hread'.2, List.append_nil]

end Local

end Codec
