-- SUMMARY: What of a saved state is read back, whenever the blob is accepted, and what a save throws.
import EngineResidency.Persistence.Recoverable

/-!
# Reading back what was saved

A save checks no enumeration and no count, so recovery may reject what was saved. But what
it accepts it reads back as it was written: the sections of a blob in their order, up to the
first one that has too many records for its count.
-/

namespace EngineResidency.Persistence

open Codec LoadM

/-! ## Tokens -/

/-- Values that the format carries are read back. -/
theorem readsBack_sound {α : Type} {w : α → W} {r : Reader α} {P : α → Prop} [h : Sound w r P] {a : α}
    (ha : P a) : ReadsBack (w a) r a :=
  .of_agrees (h.agrees ha)

/-- A string is read back if it is written: a string that is too long makes the save fail. -/
theorem readsBack_wStr (s : Str) : ReadsBack (wStr s) rStr s := by
  by_cases hs : FitsStr s
  · exact readsBack_sound hs
  · -- A string that is too long is not written.
    intro bs hbs
    rw [wStr, if_pos (Nat.lt_of_not_le hs)] at hbs
    cases hbs

/-- An enumeration is read back if it is accepted: a number beyond the last enumerator is not. -/
theorem readsBack_wEnum {E : Type} [DecidableEq E] [CEnum E] (last e : E) :
    ReadsBack (wEnum e) (rEnum last) e := by
  refine (ReadsBack.of_agrees Agrees.u32).andThen fun rest e' rest' hread => ?_
  by_cases hraw : CEnum.raw e > CEnum.raw last
  · simp only [Reader.failIf, hraw, if_true] at hread
    cases hread
  · simp only [Reader.failIf, hraw, if_false, CEnum.ofRaw_raw] at hread
    cases hread
    exact ⟨rfl, rfl⟩

/-- A collection is read back if it is accepted. Its length must fit the count, which is written
without a check. -/
theorem readsBack_wList {α : Type} {w : α → W} {r : Reader α} {as : List α}
    (hlen : as.length < 2 ^ 32) (h : ∀ a ∈ as, ReadsBack (w a) r a) :
    ReadsBack (wList w as) (rList r) as := by
  have hcount : (UInt32.ofNat as.length).toNat = as.length := by
    rw [UInt32.toNat_ofNat']
    exact Nat.mod_eq_of_lt hlen
  refine (ReadsBack.of_agrees Agrees.u32).bind ?_
  rw [hcount]
  by_cases hmany : as.length > kMaxCount
  · intro bs _ rest b rest' hread
    simp only [Reader.failIf, hmany, if_true] at hread
    cases hread
  · simp only [Reader.failIf, hmany, if_false]
    exact ReadsBack.many h

/-! ## Incarnations -/

theorem readsBack_wPid (p : ProcessId) : ReadsBack (wPid p) rPid p := by
  unfold wPid rPid
  with_reducible repeat' first
    | apply ReadsBack.bind
    | apply ReadsBack.map
    | exact readsBack_wStr _
    | exact readsBack_sound trivial

theorem readsBack_wState (s : StateSet) : ReadsBack (wState s) rState s := by
  unfold wState rState
  with_reducible repeat' first
    | apply ReadsBack.bind
    | apply ReadsBack.map
    | exact readsBack_wEnum _ _

/-- An incarnation is read back whatever its strings and enumerations are. -/
theorem readsBack_wInc (i : EngineIncarnation) : ReadsBack (wInc i) rInc i := by
  unfold wInc rInc
  with_reducible repeat' first
    | apply ReadsBack.bind
    | apply ReadsBack.map
    | exact readsBack_wPid _
    | exact readsBack_wState _
    | exact readsBack_wStr _
    | exact readsBack_wEnum _ _
    | exact readsBack_sound trivial

/-! ## Readers that do not look ahead -/

section Readers

/-- A string is read by the length in front of it. -/
instance : Local rStr := by
  unfold rStr
  infer_instance

instance {T : Type} [Raw64 T] : Local (rId : Reader T) := by
  unfold rId
  infer_instance

instance : Local rBool := by
  unfold rBool
  infer_instance

instance {E : Type} [DecidableEq E] [CEnum E] (last : E) : Local (rEnum last) := by
  unfold rEnum
  infer_instance

/-- A collection is read by the count in front of it. -/
instance {α : Type} (r : Reader α) [Local r] : Local (rList r) := by
  unfold rList
  infer_instance

instance : Local rComp := by
  unfold rComp
  infer_instance

instance : Local rPid := by
  unfold rPid
  infer_instance

instance : Local rState := by
  unfold rState
  infer_instance

instance : Local rReq := by
  unfold rReq
  infer_instance

instance : Local rEvid := by
  unfold rEvid
  infer_instance

instance : Local rEngine := by
  unfold rEngine
  infer_instance

instance : Local rProfile := by
  unfold rProfile
  infer_instance

instance : Local rInc := by
  unfold rInc
  infer_instance

instance : Local rRepl := by
  unfold rRepl
  infer_instance

instance : Local rCost := by
  unfold rCost
  infer_instance

/-- A body has no end but that of its last section. -/
instance : Local (toReader rBody) := by
  simp only [rBody, toReader_bind, toReader_orBad, toReader_rEngines, toReader_rSection,
    toReader_pure]
  infer_instance

end Readers

/-! ## The blob -/

/-- The magic number is compared, and yields nothing. -/
theorem readsBack_magic :
    ReadsBack (Writer.u32 kPersistenceMagic : W)
      (do let magic ← Reader.u32; Reader.failIf (magic ≠ kPersistenceMagic)) () :=
  .of_agrees (Agrees.u32.andThen fun _ => rfl)

theorem readsBack_version :
    ReadsBack (Writer.u32 kPersistenceVersion : W)
      (do let v ← Reader.u32; Reader.failIf (v ≠ kPersistenceVersion); return v)
      kPersistenceVersion :=
  .of_agrees (Agrees.u32.andThen fun _ => rfl)

/-- Of what a reader yields nothing is said. -/
theorem yields_any {α : Type} {w : α → W} {r : Reader α} {P : α → Prop} [h : Sound w r P] :
    Yields r fun _ _ => True :=
  h.yields.mono fun _ _ _ => trivial

/-- A saved blob is a body that was written, with its checksum. -/
theorem serialize_ok {p : PersistentState} {blob : Str} (h : serializePersistentState p = .ok blob) :
    ∃ body, Emits (wBody p) body ∧ blob = body ++ checksumBytes body := by
  rw [serializePersistentState] at h
  cases hrun : (wBody p).run with
  | error e =>
    rw [hrun] at h
    cases h
  | ok res =>
    rw [hrun] at h
    cases h
    exact ⟨res.2, hrun, rfl⟩

/-- What is read from the bytes of a saved state and of whatever follows them. -/
theorem read_engines_incarnations {p p' : PersistentState} {body rest left : Str}
    (hemit : Emits (wBody p) body) (hread : toReader rBody (body ++ rest) = some (p', left))
    (hengines : FitsList EngineDefinition.WellFormed p.engines)
    (hprofiles : FitsList ReadinessProfile.WellFormed p.profiles)
    (hincs : p.incarnations.length < 2 ^ 32) :
    p'.engines = p.engines ∧ p'.incarnations = p.incarnations := by
  simp only [rBody, toReader_bind, toReader_orBad, toReader_rEngines, toReader_rSection,
    toReader_pure] at hread
  unfold wBody at hemit
  obtain ⟨_, hemit, hread⟩ := readsBack_magic.step hemit hread
  obtain ⟨_, hemit, hread⟩ := readsBack_version.step hemit hread
  obtain ⟨_, hemit, hread⟩ := (ReadsBack.of_agrees Agrees.u64).step hemit hread
  obtain ⟨_, hemit, hread⟩ := (ReadsBack.of_agrees Agrees.u64).step hemit hread
  obtain ⟨_, hemit, hread⟩ := (ReadsBack.of_agrees Agrees.u64).step hemit hread
  obtain ⟨_, hemit, hread⟩ := (readsBack_sound hengines).step hemit hread
  obtain ⟨_, hemit, hread⟩ := (readsBack_sound hprofiles).step hemit hread
  obtain ⟨_, -, hread⟩ :=
    (readsBack_wList hincs fun i _ => readsBack_wInc i).step hemit hread
  -- The sections that follow have no say in these two.
  have hrest : Yields (do
      let evidence ← rList rEvid
      let replacements ← rList rRepl
      let costHistory ← rList rCost
      return ({ version := kPersistenceVersion, coordinatorEpoch := p.coordinatorEpoch,
                authorityGeneration := p.authorityGeneration,
                registrationCounter := p.registrationCounter, engines := p.engines,
                profiles := p.profiles, incarnations := p.incarnations, evidence, replacements,
                costHistory } : PersistentState))
      fun s _ => s.engines = p.engines ∧ s.incarnations = p.incarnations :=
    yields_any.bind fun _ _ _ => yields_any.bind fun _ _ _ => yields_any.bind fun _ _ _ =>
      Yields.pure ⟨rfl, rfl⟩
  obtain ⟨_, -, heq⟩ := hrest _ _ _ hread
  exact heq

/-- A file with a saved state, a part of one, or one with more bytes after it is accepted with the
engines and the incarnations of that state alone, also where the evidence that was saved with
them names no enumerators. -/
theorem accepted_engines_incarnations {p p' : PersistentState} {blob file : Str}
    (hsaved : serializePersistentState p = .ok blob) (hfile : file <+: blob ∨ blob <+: file)
    (haccepted : deserializePersistentState file = .ok p')
    (hengines : FitsList EngineDefinition.WellFormed p.engines)
    (hprofiles : FitsList ReadinessProfile.WellFormed p.profiles)
    (hincs : p.incarnations.length < 2 ^ 32) :
    p'.engines = p.engines ∧ p'.incarnations = p.incarnations := by
  obtain ⟨body, hemit, rfl⟩ := serialize_ok hsaved
  obtain ⟨-, -, hread⟩ := deserialize_ok haccepted
  have hsum : (checksumBytes body).length = 8 := rfl
  have hpart : file.take (file.length - 8) <+: file := List.take_prefix _ _
  have hpartlen : (file.take (file.length - 8)).length = file.length - 8 := by simp
  rcases hfile with hcut | hlonger
  · -- The part that is read is a part of the body: reading goes on in the same way.
    have hlen := hcut.length_le
    rw [List.length_append] at hlen
    obtain ⟨more, hmore⟩ : file.take (file.length - 8) <+: body :=
      List.prefix_of_prefix_length_le (hpart.trans hcut) (List.prefix_append _ _) (by omega)
    have hwhole := Local.append hread more
    rw [hmore, ← List.append_nil body] at hwhole
    exact read_engines_incarnations hemit hwhole hengines hprofiles hincs
  · have hlen := hlonger.length_le
    rw [List.length_append] at hlen
    obtain ⟨rest, hrest⟩ : body <+: file.take (file.length - 8) :=
      List.prefix_of_prefix_length_le ((List.prefix_append _ _).trans hlonger) hpart (by omega)
    rw [← hrest] at hread
    exact read_engines_incarnations hemit hread hengines hprofiles hincs

/-! ## What a save throws -/

/-- The error that a save reports. -/
def TooLong (e : Err) : Prop := e = domainError .boundsExceeded "string too long"

/-- The one check of the writers is on the length of a string. -/
instance {s : Str} : Refuses TooLong (wStr s) := by
  unfold wStr
  split
  · exact ⟨fun h => by cases h; rfl⟩
  · infer_instance

instance {T : Type} [Raw64 T] {v : T} : Refuses TooLong (wId v) := Refuses.u64

instance {b : Bool} : Refuses TooLong (wBool b) := Refuses.u8

instance {E : Type} [DecidableEq E] [CEnum E] {e : E} : Refuses TooLong (wEnum e) := Refuses.u32

instance {α : Type} {w : α → W} [∀ a, Refuses TooLong (w a)] {as : List α} :
    Refuses TooLong (wList w as) := Refuses.bind

instance {k : CompatibilityKey} : Refuses TooLong (wComp k) := by
  unfold wComp
  infer_instance

instance {p : ProcessId} : Refuses TooLong (wPid p) := by
  unfold wPid
  infer_instance

instance {s : StateSet} : Refuses TooLong (wState s) := by
  unfold wState
  infer_instance

instance {r : ProfileRequirement} : Refuses TooLong (wReq r) := by
  unfold wReq
  infer_instance

instance {e : ComponentEvidence} : Refuses TooLong (wEvid e) := by
  unfold wEvid
  infer_instance

instance {e : EngineDefinition} : Refuses TooLong (wEngine e) := by
  unfold wEngine
  infer_instance

instance {p : ReadinessProfile} : Refuses TooLong (wProfile p) := by
  unfold wProfile
  infer_instance

instance {i : EngineIncarnation} : Refuses TooLong (wInc i) := by
  unfold wInc
  infer_instance

instance {p : ReplacementPlan} : Refuses TooLong (wRepl p) := by
  unfold wRepl
  infer_instance

instance {c : CostComponent} : Refuses TooLong (wCost c) := by
  unfold wCost
  infer_instance

/-- No section of a state makes a save fail in another way. -/
instance {s : PersistentState} : Refuses TooLong (wBody s) := by
  unfold wBody
  infer_instance

/-- A save that fails has found a string that is too long. -/
theorem serialize_error {p : PersistentState} {e : Err} (h : serializePersistentState p = .error e) :
    TooLong e := by
  rw [serializePersistentState] at h
  cases hrun : (wBody p).run with
  | error e' =>
    rw [hrun] at h
    cases h
    exact Refuses.error hrun
  | ok res =>
    rw [hrun] at h
    cases h

end EngineResidency.Persistence
