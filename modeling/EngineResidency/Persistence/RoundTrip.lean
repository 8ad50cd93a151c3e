-- SUMMARY: The persistence format round trips: what is saved is recovered, and what is recovered can be saved again.
import EngineResidency.Persistence.Format
import Mathlib.Tactic.MkIffOfInductiveProp

/-!
# Round trips of the persistence format

`WellFormed` collects what the readers enforce: declared enumerators, bounded
strings and bounded lists. Every token and every record of the format is then
`Sound` for its own `WellFormed`: a well-formed value is written and read back,
and a value that is read is well formed and is written in the number of bytes it
was read from. The two statements about the whole blob follow from the ones about
its body.
-/

namespace EngineResidency

open Codec Persistence
open CEnum (Declared)

/-! ## Well-formed values -/

/-- The string is short enough to be written. -/
def FitsStr (s : Str) : Prop := s.length ≤ kMaxStr

instance (s : Str) : Decidable (FitsStr s) := inferInstanceAs (Decidable (_ ≤ _))

/-- The list is short enough to be read, and its elements are in `P`. -/
@[mk_iff]
structure FitsList {α : Type} (P : α → Prop) (as : List α) : Prop where
  length_le : as.length ≤ kMaxCount
  all : ∀ a ∈ as, P a

instance {α : Type} (P : α → Prop) [DecidablePred P] (as : List α) : Decidable (FitsList P as) :=
  decidable_of_iff' _ (fitsList_iff P as)

@[mk_iff]
structure CompatibilityKey.WellFormed (k : CompatibilityKey) : Prop where
  ns : FitsStr k.ns
  value : FitsStr k.value

instance (k : CompatibilityKey) : Decidable k.WellFormed := decidable_of_iff' _ k.wellFormed_iff

@[mk_iff]
structure ProcessId.WellFormed (p : ProcessId) : Prop where
  label : FitsStr p.label

instance (p : ProcessId) : Decidable p.WellFormed := decidable_of_iff' _ p.wellFormed_iff

@[mk_iff]
structure StateSet.WellFormed (s : StateSet) : Prop where
  desired : Declared s.desired
  observed : Declared s.observed
  lifecycle : Declared s.lifecycle
  preparation : Declared s.preparation
  activation : Declared s.activation
  health : Declared s.health
  recovery : Declared s.recovery
  registration : Declared s.registration
  drain : Declared s.drain

instance (s : StateSet) : Decidable s.WellFormed := decidable_of_iff' _ s.wellFormed_iff

@[mk_iff]
structure ProfileRequirement.WellFormed (r : ProfileRequirement) : Prop where
  category : Declared r.category
  kind : Declared r.kind
  minState : Declared r.minState
  subject : FitsStr r.subject
  compatibility : r.compatibility.WellFormed
  generationFamily : Declared r.generationFamily
  description : FitsStr r.description

instance (r : ProfileRequirement) : Decidable r.WellFormed := decidable_of_iff' _ r.wellFormed_iff

@[mk_iff]
structure ComponentEvidence.WellFormed (e : ComponentEvidence) : Prop where
  category : Declared e.category
  state : Declared e.state
  provenance : Declared e.provenance
  subject : FitsStr e.subject
  namespace_ : FitsStr e.namespace_
  compatibility : e.compatibility.WellFormed
  detail : FitsStr e.detail
  invalidationReason : FitsStr e.invalidationReason

instance (e : ComponentEvidence) : Decidable e.WellFormed := decidable_of_iff' _ e.wellFormed_iff

@[mk_iff]
structure EngineDefinition.WellFormed (e : EngineDefinition) : Prop where
  name : FitsStr e.name
  role : Declared e.role
  modelName : FitsStr e.modelName
  kernelKey : FitsStr e.kernelKey
  tokenizerKey : FitsStr e.tokenizerKey
  compatibility : e.compatibility.WellFormed
  preparationPolicy : FitsStr e.preparationPolicy
  resourceClaimRef : FitsStr e.resourceClaimRef
  dependencyRefs : FitsList FitsStr e.dependencyRefs
  provenance : Declared e.provenance
  profileIds : FitsList (fun _ => True) e.profileIds

instance (e : EngineDefinition) : Decidable e.WellFormed := decidable_of_iff' _ e.wellFormed_iff

@[mk_iff]
structure ReadinessProfile.WellFormed (p : ReadinessProfile) : Prop where
  name : FitsStr p.name
  role : Declared p.role
  dtype : FitsStr p.dtype
  layout : FitsStr p.layout
  requirements : FitsList ProfileRequirement.WellFormed p.requirements
  compatibility : p.compatibility.WellFormed

instance (p : ReadinessProfile) : Decidable p.WellFormed := decidable_of_iff' _ p.wellFormed_iff

@[mk_iff]
structure EngineIncarnation.WellFormed (i : EngineIncarnation) : Prop where
  process : i.process.WellFormed
  registration : Declared i.registration
  state : i.state.WellFormed
  nfc : FitsStr i.nfc

instance (i : EngineIncarnation) : Decidable i.WellFormed := decidable_of_iff' _ i.wellFormed_iff

@[mk_iff]
structure ReplacementPlan.WellFormed (p : ReplacementPlan) : Prop where
  phase : Declared p.phase
  detail : FitsStr p.detail

instance (p : ReplacementPlan) : Decidable p.WellFormed := decidable_of_iff' _ p.wellFormed_iff

@[mk_iff]
structure CostComponent.WellFormed (c : CostComponent) : Prop where
  name : FitsStr c.name
  provenance : Declared c.provenance
  unit : FitsStr c.unit

instance (c : CostComponent) : Decidable c.WellFormed := decidable_of_iff' _ c.wellFormed_iff

/-- A state that recovery accepts, as far as its values go. -/
@[mk_iff]
structure PersistentState.WellFormed (s : PersistentState) : Prop where
  version : s.version = kPersistenceVersion
  engines : FitsList EngineDefinition.WellFormed s.engines
  profiles : FitsList ReadinessProfile.WellFormed s.profiles
  incarnations : FitsList EngineIncarnation.WellFormed s.incarnations
  evidence : FitsList ComponentEvidence.WellFormed s.evidence
  replacements : FitsList ReplacementPlan.WellFormed s.replacements
  costHistory : FitsList CostComponent.WellFormed s.costHistory

instance (s : PersistentState) : Decidable s.WellFormed := decidable_of_iff' _ s.wellFormed_iff

namespace Persistence

/-- The writer `w` and the reader `r` handle the same values, those in `P`. -/
class Sound {α : Type} (w : outParam (α → W)) (r : Reader α) (P : outParam (α → Prop)) :
    Prop where
  /-- A value in `P` is written and read back. -/
  agrees : ∀ {a}, P a → Agrees (w a) r a
  /-- A value that is read is in `P`, and is written in as many bytes. -/
  yields : Yields r fun a n => P a ∧ Size (w a) n

/-! ## Tokens -/

instance Sound.u32 : Sound Writer.u32 Reader.u32 fun _ => True where
  agrees _ := Agrees.u32
  yields := Yields.u32.mono fun _ _ h => ⟨trivial, h ▸ Size.u32⟩

instance Sound.u64 : Sound Writer.u64 Reader.u64 fun _ => True where
  agrees _ := Agrees.u64
  yields := Yields.u64.mono fun _ _ h => ⟨trivial, h ▸ Size.u64⟩

instance Sound.id {T : Type} [Raw64 T] : Sound (wId (T := T)) rId fun _ => True where
  agrees {a} _ := by
    have h := (@Agrees.u64 Err (Raw64.raw a)).map (f := fun x => (Raw64.ofRaw x : T))
    rwa [Raw64.ofRaw_raw] at h
  yields := by
    refine Yields.u64.bind ?_
    rintro x n rfl
    exact Yields.pure ⟨trivial, Size.u64⟩

instance Sound.bool : Sound wBool rBool fun _ => True where
  agrees {a} _ := by
    have h := (@Agrees.u8 Err (if a then 1 else 0)).map (f := fun x => x != 0)
    have hback : ((if a then 1 else 0 : UInt8) != 0) = a := by cases a <;> rfl
    rwa [hback] at h
  yields := by
    refine Yields.u8.bind ?_
    rintro x n rfl
    exact Yields.pure ⟨trivial, Size.u8⟩

instance Sound.str : Sound wStr rStr FitsStr where
  agrees {s} hs := by
    have hlen : (UInt32.ofNat s.length).toNat = s.length := by
      have hlt : s.length < 2 ^ 32 := Nat.lt_of_le_of_lt hs (by decide)
      rw [UInt32.toNat_ofNat']
      exact Nat.mod_eq_of_lt hlt
    have hle : ¬ s.length > kMaxStr := Nat.not_lt_of_le hs
    rw [wStr, if_neg hle]
    refine Agrees.u32.bind (Agrees.failIf (by rwa [hlen]) ?_)
    rw [hlen]
    exact Agrees.raw s
  yields := by
    refine Yields.u32.bind ?_
    rintro len n rfl
    refine Yields.failIf.bind ?_
    rintro - n ⟨hle, rfl⟩
    refine Yields.take.mono ?_
    rintro s n ⟨hlen, rfl⟩
    have hfits : s.length ≤ kMaxStr := by omega
    refine ⟨hfits, ?_⟩
    rw [wStr, if_neg (Nat.not_lt_of_le hfits), Nat.zero_add]
    exact Size.u32.bind (hlen ▸ Size.raw s)

/-- A reader that rejects the integers above the last enumerator accepts exactly
the enumerators. -/
theorem Sound.enum {E : Type} [DecidableEq E] [CEnum E] {last : E}
    (hlast : (CEnum.raw last).toNat + 1 = (CEnum.enumerators (E := E)).length) :
    Sound wEnum (rEnum last) CEnum.Declared where
  agrees {e} he := by
    have hle : ¬ CEnum.raw e > CEnum.raw last := by
      have hlt := CEnum.declared_iff.mp he
      rw [gt_iff_lt, UInt32.lt_iff_toNat_lt]
      omega
    refine Agrees.u32.andThen fun rest => ?_
    simp only [Reader.failIf, hle, if_false, CEnum.ofRaw_raw]
    rfl
  yields := by
    refine Yields.u32.bind ?_
    rintro x n rfl
    refine Yields.failIf.bind ?_
    rintro - n ⟨hle, rfl⟩
    rw [gt_iff_lt, UInt32.lt_iff_toNat_lt] at hle
    refine Yields.pure ⟨CEnum.declared_ofRaw.mpr (by omega), Size.u32⟩

instance Sound.list {α : Type} {w : α → W} {r : Reader α} {P : α → Prop} [h : Sound w r P] :
    Sound (wList w) (rList r) (FitsList P) where
  agrees {as} hs := by
    have hlen : (UInt32.ofNat as.length).toNat = as.length := by
      have hlt : as.length < 2 ^ 32 := Nat.lt_of_le_of_lt hs.length_le (by decide)
      rw [UInt32.toNat_ofNat']
      exact Nat.mod_eq_of_lt hlt
    refine Agrees.u32.bind (Agrees.failIf ?_ ?_)
    · rw [hlen]
      exact Nat.not_lt_of_le hs.length_le
    · rw [hlen]
      exact Agrees.many fun a ha => h.agrees (hs.all a ha)
  yields := by
    refine Yields.u32.bind ?_
    rintro len n rfl
    refine Yields.failIf.bind ?_
    rintro - n ⟨hle, rfl⟩
    refine (Yields.many h.yields len.toNat).mono ?_
    rintro as n ⟨hlen, hall, hsize⟩
    rw [Nat.zero_add]
    exact ⟨⟨by omega, hall⟩, Size.u32.bind hsize⟩

/-! ## Records

A proof about a record walks over the fields of its writer and reader side by side;
each field is discharged by the instance for its token.
-/

instance Sound.comp : Sound wComp rComp CompatibilityKey.WellFormed where
  agrees {k} h := by
    obtain ⟨hns, hvalue⟩ := h
    unfold wComp rComp
    with_reducible repeat' first
      | apply Agrees.bind
      | apply Agrees.map
      | exact Sound.agrees ‹_›
  yields := by
    unfold rComp
    with_reducible repeat
      refine Yields.bind Sound.yields ?_
      rintro _ _ ⟨_, _⟩
    refine Yields.pure ⟨by constructor <;> assumption, ?_⟩
    unfold wComp
    simp only [Nat.add_zero]
    with_reducible repeat' first | assumption | apply Size.bind

instance Sound.pid : Sound wPid rPid ProcessId.WellFormed where
  agrees {p} h := by
    obtain ⟨hlabel⟩ := h
    unfold wPid rPid
    with_reducible repeat' first
      | apply Agrees.bind
      | apply Agrees.map
      | exact Sound.agrees trivial
      | exact Sound.agrees ‹_›
  yields := by
    unfold rPid
    with_reducible repeat
      refine Yields.bind Sound.yields ?_
      rintro _ _ ⟨_, _⟩
    refine Yields.pure ⟨⟨by assumption⟩, ?_⟩
    unfold wPid
    simp only [Nat.add_zero]
    with_reducible repeat' first | assumption | apply Size.bind

instance Sound.state : Sound wState rState StateSet.WellFormed where
  agrees {s} h := by
    obtain ⟨hdesired, hobserved, hlifecycle, hpreparation, hactivation, hhealth, hrecovery, hregistration, hdrain⟩ := h
    unfold wState rState
    with_reducible repeat' first
      | apply Agrees.bind
      | apply Agrees.map
      | exact Sound.agrees trivial
      | exact Sound.agrees ‹_›
      | exact (Sound.enum rfl).agrees ‹_›
  yields := by
    unfold rState
    with_reducible repeat
      refine Yields.bind (by first | exact Sound.yields | exact (Sound.enum rfl).yields) ?_
      rintro _ _ ⟨_, _⟩
    refine Yields.pure ⟨by constructor <;> assumption, ?_⟩
    unfold wState
    simp only [Nat.add_zero]
    with_reducible repeat' first | assumption | apply Size.bind

instance Sound.req : Sound wReq rReq ProfileRequirement.WellFormed where
  agrees {r} h := by
    obtain ⟨hcategory, hkind, hminState, hsubject, hcompatibility, hfamily, hdescription⟩ := h
    unfold wReq rReq
    with_reducible repeat' first
      | apply Agrees.bind
      | apply Agrees.map
      | exact Sound.agrees trivial
      | exact Sound.agrees ‹_›
      | exact (Sound.enum rfl).agrees ‹_›
  yields := by
    unfold rReq
    with_reducible repeat
      refine Yields.bind (by first | exact Sound.yields | exact (Sound.enum rfl).yields) ?_
      rintro _ _ ⟨_, _⟩
    refine Yields.pure ⟨by constructor <;> assumption, ?_⟩
    unfold wReq
    simp only [Nat.add_zero]
    with_reducible repeat' first | assumption | apply Size.bind

instance Sound.evid : Sound wEvid rEvid ComponentEvidence.WellFormed where
  agrees {e} h := by
    obtain ⟨hcategory, hstate, hprovenance, hsubject, hnamespace, hcompatibility, hdetail, hreason⟩ := h
    unfold wEvid rEvid
    with_reducible repeat' first
      | apply Agrees.bind
      | apply Agrees.map
      | exact Sound.agrees trivial
      | exact Sound.agrees ‹_›
      | exact (Sound.enum rfl).agrees ‹_›
  yields := by
    unfold rEvid
    with_reducible repeat
      refine Yields.bind (by first | exact Sound.yields | exact (Sound.enum rfl).yields) ?_
      rintro _ _ ⟨_, _⟩
    refine Yields.pure ⟨by constructor <;> assumption, ?_⟩
    unfold wEvid
    simp only [Nat.add_zero]
    with_reducible repeat' first | assumption | apply Size.bind

instance Sound.engine : Sound wEngine rEngine EngineDefinition.WellFormed where
  agrees {e} h := by
    obtain ⟨hname, hrole, hmodel, hkernel, htokenizer, hcompatibility, hpolicy, hclaim, hdeps, hprovenance, hprofiles⟩ := h
    unfold wEngine rEngine
    with_reducible repeat' first
      | apply Agrees.bind
      | apply Agrees.map
      | exact Sound.agrees trivial
      | exact Sound.agrees ‹_›
      | exact (Sound.enum rfl).agrees ‹_›
  yields := by
    unfold rEngine
    with_reducible repeat
      refine Yields.bind (by first | exact Sound.yields | exact (Sound.enum rfl).yields) ?_
      rintro _ _ ⟨_, _⟩
    refine Yields.pure ⟨by constructor <;> assumption, ?_⟩
    unfold wEngine
    simp only [Nat.add_zero]
    with_reducible repeat' first | assumption | apply Size.bind

instance Sound.profile : Sound wProfile rProfile ReadinessProfile.WellFormed where
  agrees {p} h := by
    obtain ⟨hname, hrole, hdtype, hlayout, hrequirements, hcompatibility⟩ := h
    unfold wProfile rProfile
    with_reducible repeat' first
      | apply Agrees.bind
      | apply Agrees.map
      | exact Sound.agrees trivial
      | exact Sound.agrees ‹_›
      | exact (Sound.enum rfl).agrees ‹_›
  yields := by
    unfold rProfile
    with_reducible repeat
      refine Yields.bind (by first | exact Sound.yields | exact (Sound.enum rfl).yields) ?_
      rintro _ _ ⟨_, _⟩
    refine Yields.pure ⟨by constructor <;> assumption, ?_⟩
    unfold wProfile
    simp only [Nat.add_zero]
    with_reducible repeat' first | assumption | apply Size.bind

instance Sound.inc : Sound wInc rInc EngineIncarnation.WellFormed where
  agrees {i} h := by
    obtain ⟨hprocess, hregistration, hstate, hnfc⟩ := h
    unfold wInc rInc
    with_reducible repeat' first
      | apply Agrees.bind
      | apply Agrees.map
      | exact Sound.agrees trivial
      | exact Sound.agrees ‹_›
      | exact (Sound.enum rfl).agrees ‹_›
  yields := by
    unfold rInc
    with_reducible repeat
      refine Yields.bind (by first | exact Sound.yields | exact (Sound.enum rfl).yields) ?_
      rintro _ _ ⟨_, _⟩
    refine Yields.pure ⟨by constructor <;> assumption, ?_⟩
    unfold wInc
    simp only [Nat.add_zero]
    with_reducible repeat' first | assumption | apply Size.bind

instance Sound.repl : Sound wRepl rRepl ReplacementPlan.WellFormed where
  agrees {p} h := by
    obtain ⟨hphase, hdetail⟩ := h
    unfold wRepl rRepl
    with_reducible repeat' first
      | apply Agrees.bind
      | apply Agrees.map
      | exact Sound.agrees trivial
      | exact Sound.agrees ‹_›
      | exact (Sound.enum rfl).agrees ‹_›
  yields := by
    unfold rRepl
    with_reducible repeat
      refine Yields.bind (by first | exact Sound.yields | exact (Sound.enum rfl).yields) ?_
      rintro _ _ ⟨_, _⟩
    refine Yields.pure ⟨by constructor <;> assumption, ?_⟩
    unfold wRepl
    simp only [Nat.add_zero]
    with_reducible repeat' first | assumption | apply Size.bind

instance Sound.cost : Sound wCost rCost CostComponent.WellFormed where
  agrees {c} h := by
    obtain ⟨hname, hprovenance, hunit⟩ := h
    unfold wCost rCost
    with_reducible repeat' first
      | apply Agrees.bind
      | apply Agrees.map
      | exact Sound.agrees trivial
      | exact Sound.agrees ‹_›
      | exact (Sound.enum rfl).agrees ‹_›
  yields := by
    unfold rCost
    with_reducible repeat
      refine Yields.bind (by first | exact Sound.yields | exact (Sound.enum rfl).yields) ?_
      rintro _ _ ⟨_, _⟩
    refine Yields.pure ⟨by constructor <;> assumption, ?_⟩
    unfold wCost
    simp only [Nat.add_zero]
    with_reducible repeat' first | assumption | apply Size.bind

/-! ## The body

Recovery reports which part of a blob it refused. Which values it accepts is a
question about the reader below its messages.
-/

/-- The reader of a loader that forgets its messages. -/
def LoadM.toReader {α : Type} (m : LoadM α) : Reader α := fun inp => (m inp).toOption

namespace LoadM

variable {α β : Type}

theorem toReader_eq_some {m : LoadM α} {inp : List UInt8} {p : α × List UInt8} :
    toReader m inp = some p ↔ m inp = .ok p := by
  unfold toReader
  cases m inp <;> simp [Except.toOption]

@[simp] theorem toReader_pure (a : α) : toReader (pure a) = pure a := rfl

@[simp] theorem toReader_bind (m : LoadM α) (k : α → LoadM β) :
    toReader (m >>= k) = toReader m >>= fun a => toReader (k a) := by
  funext inp
  simp only [toReader, bind, StateT.bind, Except.bind]
  cases m inp <;> rfl

@[simp] theorem toReader_orBad (r : Reader α) (msg : String) : toReader (orBad r msg) = r := by
  funext inp
  simp only [toReader, orBad]
  cases r inp <;> rfl

end LoadM

open LoadM

@[simp] theorem toReader_rSection {α : Type} (r : Reader α) (count record : String) :
    toReader (rSection r count record) = rList r := by
  simp [rSection, rList]

/-- The check inside the engine loop never fires when the count was checked
before the loop. -/
theorem toReader_rEngineLoop {n : Nat} {engines : List EngineDefinition}
    (h : engines.length + n ≤ kMaxCount) :
    toReader (rEngineLoop n engines) = (engines ++ ·) <$> Reader.many rEngine n := by
  induction n generalizing engines with
  | zero => simp [rEngineLoop, Reader.many]
  | succ n ih =>
    have hroom : ¬ kMaxCount ≤ engines.length := by omega
    have hih : ∀ e, toReader (rEngineLoop n (engines ++ [e])) =
        ((engines ++ [e]) ++ ·) <$> Reader.many rEngine n := fun e =>
      ih (by simp only [List.length_append, List.length_singleton]; omega)
    simp [rEngineLoop, hroom, hih, Reader.many]

@[simp] theorem toReader_rEngines : toReader rEngines = rList rEngine := by
  simp only [rEngines, rList, toReader_bind, toReader_orBad, bind_assoc, pure_bind]
  congr 1
  funext n
  by_cases hn : n.toNat > kMaxCount
  · simp only [Reader.failIf, hn, if_true]
    rfl
  · have hloop : toReader (rEngineLoop n.toNat []) = Reader.many rEngine n.toNat := by
      rw [toReader_rEngineLoop (by simpa using hn)]
      simp
    rw [hloop]

theorem Agrees.body {s : PersistentState} (h : s.WellFormed) :
    Agrees (wBody s) (toReader rBody) s := by
  obtain ⟨hversion, hengines, hprofiles, hincs, hevid, hrepls, hcosts⟩ := h
  obtain ⟨version, _, _, _, _, _, _, _, _, _⟩ := s
  subst hversion
  simp only [wBody, rBody, toReader_bind, toReader_orBad, toReader_rEngines, toReader_rSection,
    toReader_pure]
  refine Agrees.bind (Agrees.u32.andThen fun _ => rfl) ?_
  refine Agrees.bind (Agrees.u32.andThen fun _ => rfl) ?_
  with_reducible repeat' first
    | apply Agrees.bind
    | apply Agrees.map
    | exact Sound.agrees trivial
    | exact Sound.agrees ‹_›

theorem Yields.magic :
    Yields (do let magic ← Reader.u32; Reader.failIf (magic ≠ kPersistenceMagic))
      fun _ n => n = 4 := by
  refine Yields.u32.bind ?_
  rintro magic n rfl
  refine Yields.failIf.mono ?_
  rintro - n ⟨-, rfl⟩
  rfl

theorem Yields.version :
    Yields (do let v ← Reader.u32; Reader.failIf (v ≠ kPersistenceVersion); return v)
      fun v n => v = kPersistenceVersion ∧ n = 4 := by
  refine Yields.u32.bind ?_
  rintro v n rfl
  refine Yields.failIf.bind ?_
  rintro - n ⟨hv, rfl⟩
  exact Yields.pure ⟨not_not.mp hv, rfl⟩

theorem Yields.body :
    Yields (toReader rBody) fun s n => s.WellFormed ∧ 8 ≤ n ∧ Size (wBody s) n := by
  simp only [rBody, toReader_bind, toReader_orBad, toReader_rEngines, toReader_rSection,
    toReader_pure]
  refine Yields.magic.bind ?_
  rintro - _ rfl
  refine Yields.version.bind ?_
  rintro _ _ ⟨_, rfl⟩
  with_reducible repeat
    refine Yields.bind Sound.yields ?_
    rintro _ _ ⟨_, _⟩
  refine Yields.pure ⟨by constructor <;> assumption, by omega, ?_⟩
  unfold wBody
  simp only [Nat.add_zero]
  with_reducible repeat' first | assumption | exact Size.u32 | apply Size.bind

/-! ## The blob -/

/-- The checksum at the end of a blob is read back as the hash of its body. -/
theorem ofLeBytes_checksumBytes (body : List UInt8) :
    ofLeBytes (checksumBytes body) = (fnv1a body).toNat :=
  ofLeBytes_leBytes 8 _ (fnv1a body).toNat_lt

/-- A blob is a body followed by its checksum. -/
theorem serializePersistentState_of_emits {s : PersistentState} {body : List UInt8}
    (h : Emits (wBody s) body) : serializePersistentState s = .ok (body ++ checksumBytes body) := by
  rw [Emits] at h
  rw [serializePersistentState, h]
  rfl

/-- Decoding a body with its checksum is reading the whole body. -/
theorem deserialize_append_checksum {body : List UInt8} {s : PersistentState}
    (hshort : 16 ≤ body.length + 8) (hlong : body.length + 8 ≤ kMaxSerializedBytes)
    (hread : toReader rBody body = some (s, [])) :
    deserializePersistentState (body ++ checksumBytes body) = .ok s := by
  have hlen : (body ++ checksumBytes body).length = body.length + 8 := by simp [checksumBytes]
  have htake : (body ++ checksumBytes body).take (body.length + 8 - 8) = body := by simp
  have hdrop : (body ++ checksumBytes body).drop (body.length + 8 - 8) = checksumBytes body := by
    simp
  simp only [deserializePersistentState, hlen, htake, hdrop, ofLeBytes_checksumBytes,
    toReader_eq_some.mp hread]
  rw [if_neg (by omega), if_neg (by omega)]
  simp

/-- What decoding accepts: a blob within bounds whose body is read completely. -/
theorem deserialize_ok {blob : Str} {s : PersistentState}
    (h : deserializePersistentState blob = .ok s) :
    16 ≤ blob.length ∧ blob.length ≤ kMaxSerializedBytes ∧
      toReader rBody (blob.take (blob.length - 8)) = some (s, []) := by
  unfold deserializePersistentState at h
  split at h
  · cases h
  · rename_i hshort
    split at h
    · cases h
    · rename_i hlong
      dsimp only at h
      split at h
      · cases h
      · split at h
        · cases h
        · rename_i s' rest hbody
          split at h
          · cases h
          · rename_i hrest
            cases h
            rw [not_not] at hrest
            exact ⟨by omega, by omega, toReader_eq_some.mpr (hrest ▸ hbody)⟩

/-- An accepted blob ends in the checksum of its body. -/
theorem checksum_of_deserialize {blob : Str} {s : PersistentState}
    (h : deserializePersistentState blob = .ok s) :
    (fnv1a (blob.take (blob.length - 8))).toNat = ofLeBytes (blob.drop (blob.length - 8)) := by
  by_contra hne
  unfold deserializePersistentState at h
  split_ifs at h with hshort hlong
  simp only [if_pos hne, reduceCtorEq] at h

/-- An accepted blob is its body and the checksum of this. -/
theorem body_append_checksum {blob : Str} {s : PersistentState}
    (h : deserializePersistentState blob = .ok s) :
    blob.take (blob.length - 8) ++ checksumBytes (blob.take (blob.length - 8)) = blob := by
  obtain ⟨hshort, -, -⟩ := deserialize_ok h
  have hlength : (blob.drop (blob.length - 8)).length = 8 := by
    rw [List.length_drop]
    omega
  have hsum := leBytes_ofLeBytes (blob.drop (blob.length - 8))
  rw [hlength, ← checksum_of_deserialize h] at hsum
  rw [checksumBytes, hsum, List.take_append_drop]

theorem wellFormed_of_deserialize {blob : Str} {s : PersistentState}
    (h : deserializePersistentState blob = .ok s) : s.WellFormed := by
  obtain ⟨-, -, hread⟩ := deserialize_ok h
  obtain ⟨-, -, hwf, -⟩ := Yields.body _ s [] hread
  exact hwf

/-- A well-formed state is written, and recovered exactly as it was when the
blob stays within the size that recovery reads. -/
theorem serialize_recovers {s : PersistentState} (h : s.WellFormed) :
    ∃ blob, serializePersistentState s = .ok blob ∧
      (blob.length ≤ kMaxSerializedBytes → deserializePersistentState blob = .ok s) := by
  obtain ⟨body, hemit, hread⟩ := Agrees.body h
  have hread' : toReader rBody body = some (s, []) := by simpa using hread []
  obtain ⟨n, hlen, -, hshort, -⟩ := Yields.body body s [] hread'
  refine ⟨_, serializePersistentState_of_emits hemit, fun hsize => ?_⟩
  simp only [List.length_append, List.length_nil, checksumBytes, length_leBytes] at hsize hlen
  exact deserialize_append_checksum (by omega) hsize hread'

/-- Saving a well-formed state whose blob is within the size that recovery reads
does not throw, and recovery returns exactly that state. -/
theorem deserialize_serialize {s : PersistentState} (h : s.WellFormed)
    (hsize : ∀ blob, serializePersistentState s = .ok blob → blob.length ≤ kMaxSerializedBytes) :
    ∃ blob, serializePersistentState s = .ok blob ∧ deserializePersistentState blob = .ok s := by
  obtain ⟨blob, hser, hback⟩ := serialize_recovers h
  exact ⟨blob, hser, hback (hsize blob hser)⟩

/-- A state with a record of every kind. -/
def sampleState : PersistentState where
  coordinatorEpoch := 3
  authorityGeneration := 2
  registrationCounter := 7
  engines := [{ engineId := ⟨1⟩, name := lit "engine", dependencyRefs := [lit "dep"],
                profileIds := [⟨1⟩, ⟨2⟩] }]
  profiles := [{ profileId := ⟨1⟩, engineId := ⟨1⟩, requirements := [{ subject := lit "model" }] }]
  incarnations := [{ incarnationId := ⟨2⟩, engineId := ⟨1⟩, isCurrent := true,
                     state := { lifecycle := .running } }]
  evidence := [{ evidenceId := ⟨2⟩, incarnationId := ⟨2⟩, graphGeneration := ⟨9⟩ }]
  replacements := [{ replacementId := ⟨2⟩, phase := .cutover }]
  costHistory := [{ name := lit "warmup", measuredNs := 5 }]

theorem sampleState_wellFormed : sampleState.WellFormed := by decide

theorem length_sampleState {blob : Str} (h : serializePersistentState sampleState = .ok blob) :
    blob.length = 1123 := by
  have hlength : (serializePersistentState sampleState).map List.length = .ok 1123 := by
    decide +kernel
  rw [h] at hlength
  simpa [Except.map] using hlength

/-- The blob of the state with a record of every kind is accepted. -/
theorem sampleState_saved :
    ∃ blob, serializePersistentState sampleState = .ok blob ∧ blob.length = 1123 ∧
      deserializePersistentState blob = .ok sampleState := by
  obtain ⟨blob, hser, hback⟩ := serialize_recovers sampleState_wellFormed
  have hlength := length_sampleState hser
  exact ⟨blob, hser, hlength, hback (by rw [hlength]; decide)⟩

theorem deserialize_serialize_sampleState :
    sampleState.WellFormed ∧ ∃ blob, serializePersistentState sampleState = .ok blob ∧
      deserializePersistentState blob = .ok sampleState := by
  refine ⟨sampleState_wellFormed, deserialize_serialize sampleState_wellFormed fun blob h => ?_⟩
  rw [length_sampleState h]
  decide

/-- Whatever recovery accepts is well formed, and saving it again takes the same
number of bytes and recovers to the same state. -/
theorem serialize_deserialize {blob : Str} {s : PersistentState}
    (h : deserializePersistentState blob = .ok s) :
    s.WellFormed ∧ ∃ blob', serializePersistentState s = .ok blob' ∧
      blob'.length = blob.length ∧ deserializePersistentState blob' = .ok s := by
  have hwf := wellFormed_of_deserialize h
  obtain ⟨hshort, hlong, hread⟩ := deserialize_ok h
  obtain ⟨n, hlen, -, -, hsize⟩ := Yields.body _ s [] hread
  obtain ⟨blob', hser, hback⟩ := serialize_recovers hwf
  -- The writer emits one body for `s`, so its length is the length that was read.
  obtain ⟨body, hemit, hbody⟩ := hsize
  have hblob : blob' = body ++ checksumBytes body :=
    Except.ok.inj (hser.symm.trans (serializePersistentState_of_emits hemit))
  have heq : blob'.length = blob.length := by
    simp only [List.length_take, List.length_nil] at hlen
    simp only [hblob, List.length_append, checksumBytes, length_leBytes]
    omega
  exact ⟨hwf, blob', hser, heq, hback (by omega)⟩

/-- The blob of a state with a record of every kind, which has strings, lists, nested lists and
enumerators to be read. -/
theorem serialize_deserialize_sampleState :
    ∃ blob, blob.length = 1123 ∧ deserializePersistentState blob = .ok sampleState ∧
      sampleState.WellFormed ∧ ∃ blob', serializePersistentState sampleState = .ok blob' ∧
        blob'.length = blob.length ∧ deserializePersistentState blob' = .ok sampleState := by
  obtain ⟨blob, -, hlength, haccepted⟩ := sampleState_saved
  exact ⟨blob, hlength, haccepted, serialize_deserialize haccepted⟩

end Persistence

end EngineResidency
