-- SUMMARY: Saving a runtime and recovering it elsewhere loses nothing and invents nothing, whatever the order its tables are listed in.
import EngineResidency.Persistence.RoundTrip
import EngineResidency.Runtime.Currency
import EngineResidency.Runtime.Evidence

/-!
# Saving and recovering

Saving flattens the tables of the runtime into lists, in an order nobody specifies;
recovering rebuilds the tables from the identities that the records carry. The two
are inverse to each other because every record is stored under its own identity,
which is an invariant of all operations. A recovered state has everything a recovery
takes away already taken away, so saving and recovering it once more changes nothing.
-/

namespace EngineResidency.Runtime

open EStateM Codec Persistence
open CEnum (declared)

variable {s s' t : Impl} {op : Op} {r : Except Err Reply} {p p' : PersistentState}

/-! ## What is saved and what is recovered -/

/-- What a runtime may save: its tables are listed in any order, and the evidence of one
incarnation in the order in which it was published. -/
structure Collects (s : Impl) (p : PersistentState) : Prop where
  version : p.version = kPersistenceVersion
  epoch : p.coordinatorEpoch = s.authority.epoch.raw
  authority : p.authorityGeneration = s.authority.authority.raw
  registrationCounter : p.registrationCounter = s.authority.registrationCounter
  engines : p.engines.Perm s.engines.values
  profiles : p.profiles.Perm s.profiles.values
  incarnations : p.incarnations.Perm s.incarnations.values
  evidence : ∃ entries : List (Σ _ : EngineIncarnationId, List ComponentEvidence),
    entries.Perm s.evidence.entries ∧ p.evidence = (entries.map Sigma.snd).flatten
  replacements : p.replacements.Perm s.replacementPlans.values
  costHistory : p.costHistory = s.costHistory

theorem collects_persisted (s : Impl) : Collects s (persisted s) where
  version := rfl
  epoch := rfl
  authority := rfl
  registrationCounter := rfl
  engines := .refl _
  profiles := .refl _
  incarnations := .refl _
  evidence := ⟨_, .refl _, rfl⟩
  replacements := .refl _
  costHistory := rfl

theorem Collects.reverse (hp : Collects s p) :
    Collects s { p with incarnations := p.incarnations.reverse } :=
  { hp with incarnations := (List.reverse_perm _).trans hp.incarnations }

/-- A fresh runtime accepts the blob and is in `s` afterwards. -/
def Loads (opts : RuntimeOptions) (blob : Str) (s : Impl) : Prop :=
  machine.step (.load blob) (Impl.new opts) = (.ok .done, s)

/-- `s'` has the durable records of `s`, with the incarnations and the evidence rewritten. -/
structure Carries (f : EngineIncarnation → EngineIncarnation)
    (g : ComponentEvidence → ComponentEvidence) (s s' : Impl) : Prop where
  authority : s'.authority = s.authority
  engines : ∀ id, s'.engines.lookup id = s.engines.lookup id
  profiles : ∀ id, s'.profiles.lookup id = s.profiles.lookup id
  incarnations : ∀ id, s'.findInc id = (s.findInc id).map f
  evidence : ∀ id, s'.evidenceFor id = (s.evidenceFor id).map g
  replacements : ∀ id, s'.replacementPlans.lookup id = s.replacementPlans.lookup id
  costHistory : s'.costHistory = s.costHistory

/-- No incarnation is current. -/
structure NoneCurrent (s : Impl) : Prop where
  byEngine : s.currentByEngine = ∅
  flags : ∀ id i, s.findInc id = some i → i.isCurrent = false

/-! ## Every record is stored under its own identity -/

/-- The tables that are saved are keyed by the identities of their records, and the two
generations have started. -/
structure WellKeyed (s : Impl) : Prop where
  engines : s.engines.Keyed EngineDefinition.engineId
  profiles : s.profiles.Keyed ReadinessProfile.profileId
  incarnations : s.incarnations.Keyed EngineIncarnation.incarnationId
  evidence : ∀ id, ∀ e ∈ s.evidenceFor id, e.incarnationId = id
  replacements : s.replacementPlans.Keyed ReplacementPlan.replacementId
  epoch : 0 < s.authority.epoch.raw
  authority : 0 < s.authority.authority.raw

theorem wellKeyed_new (opts : RuntimeOptions) : WellKeyed (Impl.new opts) where
  engines := .empty
  profiles := .empty
  incarnations := .empty
  evidence := by
    intro id e he
    simp [Impl.evidenceFor, Impl.new] at he
  replacements := .empty
  epoch := (by decide : (0 : UInt64) < 1)
  authority := (by decide : (0 : UInt64) < 1)

theorem Generation.pos_of_next {tag : GenTag} {g g' : Generation tag} (h : g.next = .ok g') :
    0 < g'.raw := by
  rw [UInt64.lt_iff_toNat_lt, Generation.next_ok h]
  exact Nat.succ_pos _

theorem orFirst_pos (v : UInt64) : 0 < orFirst v := by
  unfold orFirst
  split
  · assumption
  · decide

theorem orFirst_of_pos {v : UInt64} (h : 0 < v) : orFirst v = v := if_pos h

theorem restored_evidenceFor_filter (id : EngineIncarnationId) :
    (restored t p).evidenceFor id =
      (p.evidence.filter fun e => e.incarnationId = id).map demoteEvidence :=
  AList.lookup_foldl_group id

theorem wellKeyed_restored : WellKeyed (restored t p) where
  engines := .foldl_insert .empty
  profiles := .foldl_insert .empty
  incarnations := fun id i hi => by
    obtain ⟨i, -, rfl, rfl⟩ := restored_findInc hi
    rfl
  evidence := by
    intro id e he
    rw [restored_evidenceFor_filter] at he
    obtain ⟨e, hfiltered, rfl⟩ := List.mem_map.mp he
    exact of_decide_eq_true (List.mem_filter.mp hfiltered).2
  replacements := .foldl_insert .empty
  epoch := orFirst_pos _
  authority := orFirst_pos _

/-- No operation stores evidence with an incarnation it is not about. -/
theorem EvidenceChange.keyed (h : EvidenceChange s op r s')
    (hs : ∀ id, ∀ e ∈ s.evidenceFor id, e.incarnationId = id) :
    ∀ id, ∀ e ∈ s'.evidenceFor id, e.incarnationId = id := by
  intro id e he
  cases h with
  | kept h =>
    rw [evidenceFor_congr h] at he
    exact hs id e he
  | published _ h =>
    rw [evidenceFor_push h] at he
    split at he
    · rename_i hid
      rcases List.mem_append.mp he with hold | hnew
      · exact hs id e hold
      · rw [List.mem_singleton.mp hnew, hid]
        rfl
    · exact hs id e he
  | voided h =>
    rw [evidenceFor_void h] at he
    split at he
    · obtain ⟨e, hold, rfl⟩ := List.mem_map.mp he
      exact hs id e hold
    · exact hs id e he
  | recovered => exact wellKeyed_restored.evidence id e he

theorem Transition.wellKeyed (h : Transition s op r s') (hs : WellKeyed s) : WellKeyed s' := by
  have hinc : s'.incarnations.Keyed EngineIncarnation.incarnationId :=
    h.keyedById hs.incarnations
  have hev := h.evidence.keyed hs.evidence
  cases h with
  | defineEngine =>
    exact { hs with engines := hs.engines.insert, incarnations := hinc, evidence := hev }
  | updateEngineConfig =>
    exact { hs with
      engines := hs.engines.modify fun _ => rfl, incarnations := hinc, evidence := hev }
  | defineProfile =>
    exact { hs with profiles := hs.profiles.insert, incarnations := hinc, evidence := hev }
  | advanceEpochExhausted hepoch =>
    exact { hs with
      incarnations := hinc, evidence := hev, epoch := Generation.pos_of_next hepoch }
  | advanceEpoch hepoch hauthority =>
    exact { hs with
      incarnations := hinc, evidence := hev
      epoch := Generation.pos_of_next hepoch, authority := Generation.pos_of_next hauthority }
  | beginReplacement =>
    exact { hs with replacements := hs.replacements.insert, incarnations := hinc, evidence := hev }
  | commitCutover | retireOld =>
    exact { hs with
      replacements := hs.replacements.modify fun _ => rfl, incarnations := hinc, evidence := hev }
  | load => exact wellKeyed_restored
  | _ => exact { hs with incarnations := hinc, evidence := hev }

theorem wellKeyed_exec (opts : RuntimeOptions) (ops : List Op) :
    WellKeyed (machine.exec (Impl.new opts) ops) :=
  Machine.exec_always (wellKeyed_new opts) (fun s op hs => (step_transition s op).wellKeyed hs) ops

/-! ## One recovery -/

/-- Joining the lists of evidence in any order keeps the order within each of them. -/
theorem Collects.filter_evidence (hp : Collects s p) (hs : WellKeyed s)
    (id : EngineIncarnationId) :
    (p.evidence.filter fun e => e.incarnationId = id) = s.evidenceFor id := by
  obtain ⟨entries, hperm, heq⟩ := hp.evidence
  have hnodup : entries.NodupKeys := (List.perm_nodupKeys hperm).mpr s.evidence.nodupKeys
  rw [heq, AList.filter_flatten_entries hnodup]
  · rw [List.perm_dlookup id hnodup hperm]
    rfl
  · intro entry hentry e he
    have hlookup := AList.lookup_eq_some_iff.mpr (hperm.mem_iff.mp hentry)
    refine hs.evidence entry.1 e ?_
    rw [Impl.evidenceFor, hlookup]
    exact he

theorem Collects.carries (hp : Collects s p) (hs : WellKeyed s) :
    Carries demoteRecovered demoteEvidence s (restored t p) where
  authority := by
    simp only [restored, hp.epoch, hp.authority, hp.registrationCounter, orFirst_of_pos hs.epoch,
      orFirst_of_pos hs.authority]
  engines := fun id => (hs.engines.lookup_rebuild (f := fun e => e) hp.engines id).trans (by simp)
  profiles := fun id =>
    (hs.profiles.lookup_rebuild (f := fun q => q) hp.profiles id).trans (by simp)
  incarnations := hs.incarnations.lookup_rebuild hp.incarnations
  evidence := by
    intro id
    rw [restored_evidenceFor_filter, hp.filter_evidence hs]
  replacements := fun id =>
    (hs.replacements.lookup_rebuild (f := fun q => q) hp.replacements id).trans (by simp)
  costHistory := hp.costHistory

theorem noneCurrent_restored : NoneCurrent (restored t p) where
  byEngine := rfl
  flags := by
    intro id i hi
    obtain ⟨i, -, -, rfl⟩ := restored_findInc hi
    rfl

/-! ## The next recovery -/

/-- A recovery takes nothing away from a state that was recovered. -/
theorem Carries.of_restored {s' : Impl}
    (h : Carries demoteRecovered demoteEvidence (restored t p) s') :
    Carries id id (restored t p) s' where
  authority := h.authority
  engines := h.engines
  profiles := h.profiles
  incarnations := by
    intro id
    rw [h.incarnations id]
    cases hi : (restored t p).findInc id with
    | none => rfl
    | some i =>
      obtain ⟨i, -, -, rfl⟩ := restored_findInc hi
      rfl
  evidence := by
    intro id
    rw [h.evidence id, restored_evidenceFor_filter, List.map_map, List.map_id]
    rfl
  replacements := h.replacements
  costHistory := h.costHistory

/-- `p'` has the records of `p` as a recovery leaves them, in any order. -/
structure Rearranged (p p' : PersistentState) : Prop where
  version : p'.version = kPersistenceVersion
  engines : p'.engines.Perm p.engines
  profiles : p'.profiles.Perm p.profiles
  incarnations : p'.incarnations.Perm (p.incarnations.map demoteRecovered)
  evidence : p'.evidence.Perm (p.evidence.map demoteEvidence)
  replacements : p'.replacements.Perm p.replacements
  costHistory : p'.costHistory = p.costHistory

/-- What a recovered state saves is what it was recovered from. -/
theorem Collects.rearranged (hp : Collects s p) (hs : WellKeyed s)
    (hp' : Collects (restored t p) p') : Rearranged p p' where
  version := hp'.version
  engines := by
    have h := AList.values_rebuild (f := fun e => e) (hs.engines.nodup_map hp.engines)
    exact hp'.engines.trans (h.trans (by simp))
  profiles := by
    have h := AList.values_rebuild (f := fun q => q) (hs.profiles.nodup_map hp.profiles)
    exact hp'.profiles.trans (h.trans (by simp))
  incarnations :=
    hp'.incarnations.trans (AList.values_rebuild (hs.incarnations.nodup_map hp.incarnations))
  evidence := by
    -- Grouping the records by incarnation moves them, but loses none.
    obtain ⟨entries, hperm, heq⟩ := hp'.evidence
    have hall : (restored t p).evidence.values.flatten.Perm (p.evidence.map demoteEvidence) :=
      AList.values_foldl_group
    have hlist : p'.evidence.Perm (restored t p).evidence.values.flatten :=
      heq ▸ (hperm.map Sigma.snd).flatten
    exact hlist.trans hall
  replacements := by
    have h := AList.values_rebuild (f := fun q => q) (hs.replacements.nodup_map hp.replacements)
    exact hp'.replacements.trans (h.trans (by simp))
  costHistory := hp'.costHistory

/-! ## The size of the next blob -/

theorem fitsList_perm {α : Type} {P : α → Prop} {as as' : List α} (h : as'.Perm as)
    (has : FitsList P as) : FitsList P as' :=
  ⟨h.length_eq ▸ has.length_le, fun a ha => has.all a (h.mem_iff.mp ha)⟩

theorem fitsList_map {α : Type} {P : α → Prop} {f : α → α} {as : List α}
    (hf : ∀ a, P a → P (f a)) (has : FitsList P as) : FitsList P (as.map f) := by
  refine ⟨by simpa using has.length_le, fun a ha => ?_⟩
  obtain ⟨a, hmem, rfl⟩ := List.mem_map.mp ha
  exact hf a (has.all a hmem)

theorem wellFormed_demoteRecovered (i : EngineIncarnation) (h : i.WellFormed) :
    (demoteRecovered i).WellFormed :=
  { h with
    state := { h.state with
      recovery := declared rfl, activation := declared rfl, preparation := declared rfl } }

theorem wellFormed_demoteEvidence (e : ComponentEvidence) (h : e.WellFormed) :
    (demoteEvidence e).WellFormed :=
  { h with state := declared rfl }

theorem Rearranged.wellFormed (h : Rearranged p p') (hp : p.WellFormed) : p'.WellFormed where
  version := h.version
  engines := fitsList_perm h.engines hp.engines
  profiles := fitsList_perm h.profiles hp.profiles
  incarnations := fitsList_perm h.incarnations
    (fitsList_map wellFormed_demoteRecovered hp.incarnations)
  evidence := fitsList_perm h.evidence (fitsList_map wellFormed_demoteEvidence hp.evidence)
  replacements := fitsList_perm h.replacements hp.replacements
  costHistory := h.costHistory ▸ hp.costHistory

theorem sameSize_wList_perm {α : Type} {w : α → W} {as as' : List α} (h : as'.Perm as) :
    SameSize (wList w as) (wList w as') :=
  SameSize.u32.bind (.many_perm h.symm)

theorem sameSize_wList_map {α : Type} {w : α → W} {f : α → α}
    (hf : ∀ a, SameSize (w a) (w (f a))) (as : List α) :
    SameSize (wList w as) (wList w (as.map f)) :=
  SameSize.u32.bind (.many_map hf as)

/-- An enumerator takes the same number of bytes as any other. -/
theorem sameSize_wEnum {E : Type} [DecidableEq E] [CEnum E] {e e' : E} :
    SameSize (wEnum e) (wEnum e') :=
  SameSize.u32

theorem sameSize_wBool {b b' : Bool} : SameSize (wBool b) (wBool b') := SameSize.u8

theorem sameSize_wInc (i : EngineIncarnation) :
    SameSize (wInc i) (wInc (demoteRecovered i)) := by
  unfold wInc demoteRecovered wState
  with_reducible repeat' first
    | exact SameSize.refl _
    | exact sameSize_wEnum
    | exact sameSize_wBool
    | apply SameSize.bind

theorem sameSize_wEvid (e : ComponentEvidence) :
    SameSize (wEvid e) (wEvid (demoteEvidence e)) := by
  unfold wEvid demoteEvidence
  with_reducible repeat' first
    | exact SameSize.refl _
    | exact sameSize_wEnum
    | apply SameSize.bind

theorem Rearranged.sameSize (h : Rearranged p p') : SameSize (wBody p) (wBody p') := by
  unfold wBody
  rw [h.costHistory]
  refine SameSize.bind (.refl _) (SameSize.bind (.refl _) ?_)
  refine SameSize.bind (.of_size Size.u64 Size.u64) ?_
  refine SameSize.bind (.of_size Size.u64 Size.u64) ?_
  refine SameSize.bind (.of_size Size.u64 Size.u64) ?_
  refine SameSize.bind (sameSize_wList_perm h.engines) ?_
  refine SameSize.bind (sameSize_wList_perm h.profiles) ?_
  refine SameSize.bind ((sameSize_wList_map sameSize_wInc _).trans
    (sameSize_wList_perm h.incarnations)) ?_
  refine SameSize.bind ((sameSize_wList_map sameSize_wEvid _).trans
    (sameSize_wList_perm h.evidence)) ?_
  exact SameSize.bind (sameSize_wList_perm h.replacements) (.refl _)

/-! ## Saving and recovering, any number of times -/

theorem loads_of_deserialize (opts : RuntimeOptions) {blob : Str}
    (h : deserializePersistentState blob = .ok p) (hversion : p.version = kPersistenceVersion) :
    Loads opts blob (restored (Impl.new opts) p) :=
  load_ok h hversion

/-- The next blob is written, and is as long as the one before. -/
theorem Rearranged.serialize (h : Rearranged p p') (hp : p.WellFormed) {blob : Str}
    (hblob : serializePersistentState p = .ok blob) (hsize : blob.length ≤ kMaxSerializedBytes) :
    ∃ blob', serializePersistentState p' = .ok blob' ∧
      deserializePersistentState blob' = .ok p' := by
  obtain ⟨body, hemit, -⟩ := Agrees.body hp
  obtain ⟨body', hemit', hlen⟩ := h.sameSize _ ⟨body, hemit, rfl⟩
  refine deserialize_serialize (h.wellFormed hp) fun blob' hblob' => ?_
  rw [serializePersistentState_of_emits hemit] at hblob
  rw [serializePersistentState_of_emits hemit'] at hblob'
  cases hblob
  cases hblob'
  simpa [checksumBytes, hlen] using hsize

/-- Whatever the order in which a reachable runtime lists its tables: when what it saves
is within the bounds of the format, a fresh runtime recovers all of it, with nothing but
the authority taken away, and saving and recovering that once more changes nothing. -/
theorem save_then_recover (opts : RuntimeOptions) (ops : List Op) {p : PersistentState}
    (hp : Collects (machine.exec (Impl.new opts) ops) p) (hwf : p.WellFormed)
    (hsize : ∀ blob, serializePersistentState p = .ok blob →
      blob.length ≤ kMaxSerializedBytes) :
    ∃ blob, serializePersistentState p = .ok blob ∧ ∀ opts₁, ∃ s₁, Loads opts₁ blob s₁ ∧
      Carries demoteRecovered demoteEvidence (machine.exec (Impl.new opts) ops) s₁ ∧
      NoneCurrent s₁ ∧ ∀ p₁, Collects s₁ p₁ →
        ∃ blob₁, serializePersistentState p₁ = .ok blob₁ ∧ ∀ opts₂, ∃ s₂, Loads opts₂ blob₁ s₂ ∧
          Carries id id s₁ s₂ ∧ NoneCurrent s₂ := by
  have hs := wellKeyed_exec opts ops
  -- The first round: the codec gives the records back, and the tables are rebuilt from them.
  obtain ⟨blob, hser, hback⟩ := deserialize_serialize hwf hsize
  refine ⟨blob, hser, fun opts₁ => ?_⟩
  refine ⟨restored (Impl.new opts₁) p, loads_of_deserialize opts₁ hback hwf.version,
    hp.carries hs, noneCurrent_restored, fun p₁ hp₁ => ?_⟩
  -- The second round saves the same records, so its blob is within the bounds as well.
  have hrearranged := hp.rearranged hs hp₁
  obtain ⟨blob₁, hser₁, hback₁⟩ := hrearranged.serialize hwf hser (hsize blob hser)
  refine ⟨blob₁, hser₁, fun opts₂ => ?_⟩
  exact ⟨restored (Impl.new opts₂) p₁, loads_of_deserialize opts₂ hback₁ hp₁.version,
    (hp₁.carries wellKeyed_restored).of_restored, noneCurrent_restored⟩

/-- Two incarnations of one engine, two pieces of evidence for one of them, and a
replacement under way. -/
def sampleSaved : List Op :=
  sampleCandidate ++
    [samplePublish ⟨1⟩ 0, samplePublish ⟨1⟩ 1, .beginReplacement sampleReplacement]

/-- What the sample run saves, with the incarnations listed the other way round. -/
def sampleListing : PersistentState :=
  let p := persisted (machine.exec (Impl.new {}) sampleSaved)
  { p with incarnations := p.incarnations.reverse }

theorem save_then_recover_sample :
    ∃ blob s₁, serializePersistentState sampleListing = .ok blob ∧ Loads {} blob s₁ ∧
      Carries demoteRecovered demoteEvidence (machine.exec (Impl.new {}) sampleSaved) s₁ ∧
      NoneCurrent s₁ := by
  have hp : Collects (machine.exec (Impl.new {}) sampleSaved) sampleListing :=
    (collects_persisted _).reverse
  have hshort : ((serializePersistentState sampleListing).toOption.any fun blob =>
      blob.length ≤ kMaxSerializedBytes) = true := by decide +kernel
  obtain ⟨blob, hser, hload⟩ := save_then_recover {} sampleSaved hp (by decide +kernel) (by
    intro blob hblob
    rw [hblob] at hshort
    exact of_decide_eq_true hshort)
  obtain ⟨s₁, hloads, hcarries, hnone, -⟩ := hload {}
  exact ⟨blob, s₁, hser, hloads, hcarries, hnone⟩

end EngineResidency.Runtime
