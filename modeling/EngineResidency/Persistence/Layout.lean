-- SUMMARY: The bytes that recovery accepts, and where the identities of the records stand in them.
import EngineResidency.Base.Grammar
import EngineResidency.Persistence.RoundTrip

/-!
# The layout of a blob

The bytes of each record form a language, the product of the languages of its fields. A
`Layout` is a header and six sections of such records; its blob is accepted, if it is not too
large, and there are no other blobs that are. The first eight bytes of a record are its
identity, which `Layout.Decodes` finds again in the decoded records.
-/

namespace EngineResidency.Persistence

open Codec LoadM

/-! ## The languages of the records -/

namespace Format

/-- A string is its length and its bytes. -/
def str : Language UInt8 := counted kMaxStr bytes

/-- The enumerators up to `last`. -/
def enum {E : Type} [DecidableEq E] [CEnum E] (last : E) : Language UInt8 :=
  counted (CEnum.raw last).toNat fun _ => 1

/-- A list is its length and its elements. -/
def list (L : Language UInt8) : Language UInt8 := counted kMaxCount (L ^ ·)

/-- An identity, a generation or another number of 64 bits. -/
def num : Language UInt8 := bytes 8

/-- Any byte is a truth value. -/
def bool : Language UInt8 := bytes 1

def comp : Language UInt8 := [str, str].prod

def pid : Language UInt8 := [bytes 4, num, str].prod

def state : Language UInt8 :=
  [enum DesiredResidency.hot, enum DesiredResidency.hot, enum ProcessLifecycle.retired,
    enum PreparationState.revalidationRequired, enum ActivationState.fenced,
    enum HealthState.fenced, enum RecoveryState.awaitingAuthority,
    enum RegistrationState.rejected, enum DrainPhase.retired].prod

def req : Language UInt8 :=
  [enum ComponentCategory.warmup, enum RequirementKind.unsupported,
    enum ComponentState.revalidationRequired, str, comp, enum GenerationFamily.compatibility,
    str].prod

def evid : Language UInt8 :=
  [num, num, enum ComponentCategory.warmup, enum ComponentState.revalidationRequired,
    enum Provenance.unknown, str, str, num, num, num, num, num, num, num, num, num, num, num,
    num, num, bytes 4, comp, num, num, num, num, num, num, num, num, num, num, num, num, num,
    num, num, num, num, str, str, num].prod

def engine : Language UInt8 :=
  [num, num, num, str, enum ServingRole.unknown, num, num, bool, num, num, str, num, num, bool,
    num, num, bytes 4, bool, num, num, str, num, bool, bool, bool, num, str, num, bool, comp,
    bool, str, bool, bool, bytes 4, bytes 4, num, str, list str, num, enum Provenance.unknown,
    list num].prod

def profile : Language UInt8 :=
  [num, num, num, num, str, enum ServingRole.unknown, bytes 4, bytes 4, str, str, num, num, num,
    bool, bool, bool, bytes 4, bool, bool, num, num, list req, comp].prod

def inc : Language UInt8 :=
  [num, num, num, num, num, num, num, num, num, num, num, num, num, num, num, num, num, bytes 4,
    pid, enum RegistrationState.rejected, state, num, bool, num, str].prod

def repl : Language UInt8 :=
  [num, num, num, num, num, num, num, num, num, num, enum ReplacementPhase.complete, bool, bool,
    str, num, bool].prod

def cost : Language UInt8 := [str, num, num, enum Provenance.unknown, num, str].prod

end Format

/-! ## Sections -/

/-- A section of the body: the number of its records, and these. -/
def sectionBytes (records : List Str) : Str := leBytes 4 records.length ++ records.flatten

/-- The records of a section. -/
abbrev Records (L : Language UInt8) := {ws : List Str // ws.length ≤ kMaxCount ∧ ∀ w ∈ ws, w ∈ L}

section Sections

variable {α : Type} {r : Reader α} {L : Language UInt8} {P : α → List UInt8 → Prop}

theorem recognizes_rList (h : Recognizes r L P) :
    Recognizes (rList r) (Format.list L) fun as w =>
      ∃ ws : Records L, sectionBytes ws = w ∧ List.Forall₂ P as ws := by
  unfold rList Format.list
  refine Recognizes.counted (fun _ => Iff.rfl) (by decide) fun x hx => ?_
  refine (Recognizes.many h x.toNat).mono ?_
  rintro as w ⟨ws, rfl, hlength, hws, hall⟩
  refine ⟨⟨ws, hlength ▸ hx, hws⟩, ?_, hall⟩
  change sectionBytes ws = _
  rw [sectionBytes, hlength]

/-- Every section of records is read, record by record. -/
theorem reads_section (h : Recognizes r L P) (ws : Records L) :
    ∃ as, List.Forall₂ P as ws ∧ Reads (rList r) (sectionBytes ws) as := by
  obtain ⟨ws, hlength, hws⟩ := ws
  obtain ⟨as, hall, hread⟩ := Reads.many h hws
  have hcount : (UInt32.ofNat ws.length).toNat = ws.length :=
    UInt32.toNat_ofNat_of_lt' (Nat.lt_of_le_of_lt hlength (by decide))
  refine ⟨as, hall, ?_⟩
  have hfirst := Reads.u32 (UInt32.ofNat ws.length)
  rw [hcount] at hfirst
  refine hfirst.bind (Reads.failIf ?_ ?_)
  · rw [hcount]
    exact Nat.not_lt_of_le hlength
  · rwa [hcount]

end Sections

/-- `r` reads the words of `L` and no others. -/
class Parses {α : Type} (r : Reader α) (L : outParam (Language UInt8)) : Prop where
  recognizes : Recognizes r L fun _ _ => True

namespace Parses

instance u32 : Parses Reader.u32 (bytes 4) := ⟨Recognizes.u32.mono fun _ _ _ => trivial⟩

instance u64 : Parses Reader.u64 Format.num := ⟨Recognizes.u64.mono fun _ _ _ => trivial⟩

instance id {T : Type} [Raw64 T] : Parses (rId (T := T)) Format.num :=
  ⟨Recognizes.u64.map fun _ _ _ => trivial⟩

instance bool : Parses rBool Format.bool := ⟨Recognizes.u8.map fun _ _ _ => trivial⟩

instance str : Parses rStr Format.str where
  recognizes := by
    unfold rStr Format.str
    refine Recognizes.counted (fun _ => Iff.rfl) (by decide) fun _ _ => ?_
    exact Recognizes.take.mono fun _ _ _ => trivial

instance enum {E : Type} [DecidableEq E] [CEnum E] {last : E} :
    Parses (rEnum last) (Format.enum last) where
  recognizes := by
    unfold rEnum Format.enum
    refine Recognizes.counted (fun x => ?_) (CEnum.raw last).toNat_lt fun _ _ => ?_
    · exact UInt32.lt_iff_toNat_lt
    · exact Recognizes.pure trivial

instance list {α : Type} {r : Reader α} {L : Language UInt8} [h : Parses r L] :
    Parses (rList r) (Format.list L) :=
  ⟨(recognizes_rList h.recognizes).mono fun _ _ _ => trivial⟩

instance comp : Parses rComp Format.comp where
  recognizes := by
    unfold rComp Format.comp
    simp only [List.prod_cons, List.prod_nil]
    with_reducible repeat refine Recognizes.bind Parses.recognizes fun _ _ _ => ?_
    exact Recognizes.pure trivial

instance pid : Parses rPid Format.pid where
  recognizes := by
    unfold rPid Format.pid
    simp only [List.prod_cons, List.prod_nil]
    with_reducible repeat refine Recognizes.bind Parses.recognizes fun _ _ _ => ?_
    exact Recognizes.pure trivial

instance state : Parses rState Format.state where
  recognizes := by
    unfold rState Format.state
    simp only [List.prod_cons, List.prod_nil]
    with_reducible repeat refine Recognizes.bind Parses.recognizes fun _ _ _ => ?_
    exact Recognizes.pure trivial

instance req : Parses rReq Format.req where
  recognizes := by
    unfold rReq Format.req
    simp only [List.prod_cons, List.prod_nil]
    with_reducible repeat refine Recognizes.bind Parses.recognizes fun _ _ _ => ?_
    exact Recognizes.pure trivial

instance cost : Parses rCost Format.cost where
  recognizes := by
    unfold rCost Format.cost
    simp only [List.prod_cons, List.prod_nil]
    with_reducible repeat refine Recognizes.bind Parses.recognizes fun _ _ _ => ?_
    exact Recognizes.pure trivial

end Parses

/-! ## Identities -/

/-- The identity of a record, in its first eight bytes. -/
def identity (record : Str) : Nat := ofLeBytes (record.take 8)

/-- A record that begins with its identity. -/
theorem recognizes_identified {t : IdTag} {α : Type} {k : Identity t → Reader α}
    {M : Language UInt8} {key : α → Identity t}
    (h : ∀ i, Recognizes (k i) M fun a _ => key a = i) :
    Recognizes (rId >>= k) (Format.num * M) fun a w => (key a).raw.toNat = identity w := by
  have hid : Recognizes (rId (T := Identity t)) Format.num fun i w =>
      leBytes 8 i.raw.toNat = w :=
    Recognizes.u64.map fun _ _ hw => hw
  refine hid.bind ?_
  rintro i u rfl
  refine (h i).mono ?_
  rintro a v rfl
  have htake : (leBytes 8 (key a).raw.toNat ++ v).take 8 = leBytes 8 (key a).raw.toNat :=
    List.take_left' (length_leBytes 8 _)
  rw [identity, htake, ofLeBytes_leBytes 8 _ (key a).raw.toNat_lt]

section Records

/-- The reader `r` takes the records in `L`, and `key` is the identity that they begin with. -/
def Identifies {α : Type} {t : IdTag} (r : Reader α) (L : Language UInt8)
    (key : α → Identity t) : Prop :=
  Recognizes r L fun a w => (key a).raw.toNat = identity w

theorem identifies_engine : Identifies rEngine Format.engine EngineDefinition.engineId := by
  unfold Identifies rEngine Format.engine
  simp only [List.prod_cons, List.prod_nil]
  refine recognizes_identified fun _ => ?_
  with_reducible repeat refine Recognizes.bind Parses.recognizes fun _ _ _ => ?_
  exact Recognizes.pure rfl

theorem identifies_profile : Identifies rProfile Format.profile ReadinessProfile.profileId := by
  unfold Identifies rProfile Format.profile
  simp only [List.prod_cons, List.prod_nil]
  refine recognizes_identified fun _ => ?_
  with_reducible repeat refine Recognizes.bind Parses.recognizes fun _ _ _ => ?_
  exact Recognizes.pure rfl

theorem identifies_inc : Identifies rInc Format.inc EngineIncarnation.incarnationId := by
  unfold Identifies rInc Format.inc
  simp only [List.prod_cons, List.prod_nil]
  refine recognizes_identified fun _ => ?_
  with_reducible repeat refine Recognizes.bind Parses.recognizes fun _ _ _ => ?_
  exact Recognizes.pure rfl

theorem identifies_evid : Identifies rEvid Format.evid ComponentEvidence.evidenceId := by
  unfold Identifies rEvid Format.evid
  simp only [List.prod_cons, List.prod_nil]
  refine recognizes_identified fun _ => ?_
  with_reducible repeat refine Recognizes.bind Parses.recognizes fun _ _ _ => ?_
  exact Recognizes.pure rfl

theorem identifies_repl : Identifies rRepl Format.repl ReplacementPlan.replacementId := by
  unfold Identifies rRepl Format.repl
  simp only [List.prod_cons, List.prod_nil]
  refine recognizes_identified fun _ => ?_
  with_reducible repeat refine Recognizes.bind Parses.recognizes fun _ _ _ => ?_
  exact Recognizes.pure rfl

end Records

/-! ## The blob -/

/-- The parts of a blob: the numbers of its header, and the bytes of its records. -/
structure Layout where
  coordinatorEpoch : UInt64
  authorityGeneration : UInt64
  registrationCounter : UInt64
  engines : Records Format.engine
  profiles : Records Format.profile
  incarnations : Records Format.inc
  evidence : Records Format.evid
  replacements : Records Format.repl
  costHistory : Records Format.cost

namespace Layout

/-- The blob without its checksum. -/
def body (l : Layout) : Str :=
  [leBytes 4 kPersistenceMagic.toNat, leBytes 4 kPersistenceVersion.toNat,
    leBytes 8 l.coordinatorEpoch.toNat, leBytes 8 l.authorityGeneration.toNat,
    leBytes 8 l.registrationCounter.toNat, sectionBytes l.engines, sectionBytes l.profiles,
    sectionBytes l.incarnations, sectionBytes l.evidence, sectionBytes l.replacements,
    sectionBytes l.costHistory].flatten

def blob (l : Layout) : Str := l.body ++ checksumBytes l.body

/-- The decoded records have the identities that stand in the sections. -/
structure Decodes (l : Layout) (p : PersistentState) : Prop where
  engines : List.Forall₂ (fun e w => e.engineId.raw.toNat = identity w) p.engines l.engines
  profiles : List.Forall₂ (fun q w => q.profileId.raw.toNat = identity w) p.profiles l.profiles
  incarnations : List.Forall₂ (fun i w => i.incarnationId.raw.toNat = identity w) p.incarnations
    l.incarnations
  evidence : List.Forall₂ (fun e w => e.evidenceId.raw.toNat = identity w) p.evidence l.evidence
  replacements : List.Forall₂ (fun q w => q.replacementId.raw.toNat = identity w) p.replacements
    l.replacements

theorem reads_magic :
    Reads (do let magic ← Reader.u32; Reader.failIf (magic ≠ kPersistenceMagic))
      (leBytes 4 kPersistenceMagic.toNat) () := by
  rw [← List.append_nil (leBytes 4 _)]
  exact (Reads.u32 kPersistenceMagic).bind (Reads.pass (not_not.mpr rfl))

theorem word_magic {inp rest : Str} {u : Unit}
    (h : (do let magic ← Reader.u32; Reader.failIf (magic ≠ kPersistenceMagic) : Reader Unit) inp =
      some (u, rest)) : inp = leBytes 4 kPersistenceMagic.toNat ++ rest := by
  obtain ⟨magic, _, hread, hcheck⟩ := Reader.bind_eq_some.mp h
  obtain ⟨hpass, heq⟩ := Reader.failIf_eq_some.mp hcheck
  obtain ⟨_, -, rfl, rfl⟩ := Recognizes.u32.word hread
  cases heq
  rw [not_not.mp hpass]

theorem reads_version :
    Reads (do let v ← Reader.u32; Reader.failIf (v ≠ kPersistenceVersion); return v)
      (leBytes 4 kPersistenceVersion.toNat) kPersistenceVersion := by
  rw [← List.append_nil (leBytes 4 _)]
  exact (Reads.u32 kPersistenceVersion).bind
    (Reads.failIf (not_not.mpr rfl) (Reads.pure kPersistenceVersion))

theorem word_version {inp rest : Str} {version : UInt32}
    (h : (do let v ← Reader.u32; Reader.failIf (v ≠ kPersistenceVersion); return v :
      Reader UInt32) inp = some (version, rest)) :
    inp = leBytes 4 kPersistenceVersion.toNat ++ rest := by
  obtain ⟨v, _, hread, h⟩ := Reader.bind_eq_some.mp h
  obtain ⟨_, _, hcheck, h⟩ := Reader.bind_eq_some.mp h
  obtain ⟨hpass, heq⟩ := Reader.failIf_eq_some.mp hcheck
  obtain ⟨_, -, rfl, rfl⟩ := Recognizes.u32.word hread
  cases heq
  cases h
  rw [not_not.mp hpass]

/-- The body of every layout is read, section by section. -/
theorem reads_body (l : Layout) : ∃ p, l.Decodes p ∧ Reads (toReader rBody) l.body p := by
  obtain ⟨engines, hengines, hreadEngines⟩ := reads_section identifies_engine l.engines
  obtain ⟨profiles, hprofiles, hreadProfiles⟩ := reads_section identifies_profile l.profiles
  obtain ⟨incs, hincs, hreadIncs⟩ := reads_section identifies_inc l.incarnations
  obtain ⟨evid, hevid, hreadEvid⟩ := reads_section identifies_evid l.evidence
  obtain ⟨repls, hrepls, hreadRepls⟩ := reads_section identifies_repl l.replacements
  obtain ⟨costs, -, hreadCosts⟩ := reads_section Parses.cost.recognizes l.costHistory
  refine ⟨⟨kPersistenceVersion, l.coordinatorEpoch, l.authorityGeneration, l.registrationCounter,
    engines, profiles, incs, evid, repls, costs⟩, ⟨hengines, hprofiles, hincs, hevid, hrepls⟩, ?_⟩
  simp only [rBody, toReader_bind, toReader_orBad, toReader_rEngines, toReader_rSection,
    toReader_pure, body, List.flatten_cons, List.flatten_nil]
  refine reads_magic.bind (reads_version.bind ?_)
  refine (Reads.u64 _).bind ((Reads.u64 _).bind ((Reads.u64 _).bind ?_))
  refine hreadEngines.bind (hreadProfiles.bind (hreadIncs.bind ?_))
  exact hreadEvid.bind (hreadRepls.bind (hreadCosts.bind (Reads.pure _)))

/-- What is read to its end is the body of a layout. -/
theorem exists_body {body : Str} {p : PersistentState}
    (h : toReader rBody body = some (p, [])) : ∃ l : Layout, l.body = body ∧ l.Decodes p := by
  simp only [rBody, toReader_bind, toReader_orBad, toReader_rEngines, toReader_rSection,
    toReader_pure] at h
  obtain ⟨_, _, hmagic, h⟩ := Reader.bind_eq_some.mp h
  obtain ⟨_, _, hversion, h⟩ := Reader.bind_eq_some.mp h
  obtain ⟨epoch, _, hepoch, h⟩ := Reader.bind_eq_some.mp h
  obtain ⟨authority, _, hauthority, h⟩ := Reader.bind_eq_some.mp h
  obtain ⟨counter, _, hcounter, h⟩ := Reader.bind_eq_some.mp h
  obtain ⟨_, _, hengines, h⟩ := Reader.bind_eq_some.mp h
  obtain ⟨_, _, hprofiles, h⟩ := Reader.bind_eq_some.mp h
  obtain ⟨_, _, hincs, h⟩ := Reader.bind_eq_some.mp h
  obtain ⟨_, _, hevid, h⟩ := Reader.bind_eq_some.mp h
  obtain ⟨_, _, hrepls, h⟩ := Reader.bind_eq_some.mp h
  obtain ⟨_, _, hcosts, h⟩ := Reader.bind_eq_some.mp h
  cases h
  obtain rfl := word_magic hmagic
  obtain rfl := word_version hversion
  obtain ⟨_, -, rfl, rfl⟩ := Recognizes.u64.word hepoch
  obtain ⟨_, -, rfl, rfl⟩ := Recognizes.u64.word hauthority
  obtain ⟨_, -, rfl, rfl⟩ := Recognizes.u64.word hcounter
  obtain ⟨_, -, rfl, engines, rfl, hfirst⟩ := (recognizes_rList identifies_engine).word hengines
  obtain ⟨_, -, rfl, profiles, rfl, hsecond⟩ :=
    (recognizes_rList identifies_profile).word hprofiles
  obtain ⟨_, -, rfl, incs, rfl, hthird⟩ := (recognizes_rList identifies_inc).word hincs
  obtain ⟨_, -, rfl, evid, rfl, hfourth⟩ := (recognizes_rList identifies_evid).word hevid
  obtain ⟨_, -, rfl, repls, rfl, hfifth⟩ := (recognizes_rList identifies_repl).word hrepls
  obtain ⟨_, -, rfl, costs, rfl, -⟩ := (recognizes_rList Parses.cost.recognizes).word hcosts
  exact ⟨⟨epoch, authority, counter, engines, profiles, incs, evid, repls, costs⟩, by simp [body],
    hfirst, hsecond, hthird, hfourth, hfifth⟩

end Layout

/-- Recovery accepts the blobs of layouts that are not too large, and no others. -/
theorem exists_layout {blob : Str} {p : PersistentState}
    (h : deserializePersistentState blob = .ok p) :
    ∃ l : Layout, l.blob = blob ∧ l.Decodes p := by
  obtain ⟨-, -, hread⟩ := deserialize_ok h
  obtain ⟨l, hbody, hdecodes⟩ := Layout.exists_body hread
  refine ⟨l, ?_, hdecodes⟩
  rw [Layout.blob, hbody, body_append_checksum h]

theorem Layout.accepted {l : Layout} (h : l.blob.length ≤ kMaxSerializedBytes) :
    ∃ p, deserializePersistentState l.blob = .ok p ∧ l.Decodes p := by
  obtain ⟨p, hdecodes, hread⟩ := l.reads_body
  have hread' := hread []
  rw [List.append_nil] at hread'
  have hlength : l.blob.length = l.body.length + 8 := by simp [Layout.blob, checksumBytes]
  have hshort : 16 ≤ l.body.length + 8 := by
    simp only [Layout.body, List.flatten_cons, List.length_append, length_leBytes]
    omega
  exact ⟨p, deserialize_append_checksum hshort (hlength ▸ h) hread', hdecodes⟩

end EngineResidency.Persistence
