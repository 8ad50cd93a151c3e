-- SUMMARY: When an incarnation that survives a restart becomes ready again by publishing its evidence anew.
import EngineResidency.Runtime.ConfigChange
import EngineResidency.Runtime.Publication
import EngineResidency.Runtime.Restart
import EngineResidency.Runtime.SaveRecover

/-!
# Survivors of a restart

A recovery voids the evidence and keeps its time stamps, which were read from the clock of
the process that is gone. A survivor publishes its evidence once more, under the new epoch
and under the clock of the new process, and the two clocks are compared as if they were
one: a record that is published anew counts only where no recovered record has a reading
as late.
-/

namespace EngineResidency.Runtime

open EStateM

variable {s s' : Impl} {op : Op} {r : Except Err Reply} {id : EngineIncarnationId}
  {engine : EngineDefinition} {req : ProfileRequirement} {now : DurationNs}

/-! ## The procedure -/

/-- The incarnation may publish `n` more records under the epoch. -/
structure MayPublish (s : Impl) (id : EngineIncarnationId) (epoch : CoordinatorEpoch) (n : Nat) :
    Prop where
  unfenced : ∃ i, s.findInc id = some i ∧ i.state.registration ≠ .fenced ∧
    i.state.health ≠ .fenced
  boots : s.fenced = ∅
  current : s.authority.epoch = epoch
  room : s.evidenceTotal + n ≤ s.opts.maxComponentEvidence.toNat

/-- What the query reads about the incarnation is as before, but for the evidence. -/
structure SameQueried (id : EngineIncarnationId) (s s' : Impl) : Prop where
  profiles : ∀ profId, s'.profiles.lookup profId = s.profiles.lookup profId
  engines : ∀ engineId, s'.engines.lookup engineId = s.engines.lookup engineId
  owner : (s'.findInc id).map (·.engineId) = (s.findInc id).map (·.engineId)

theorem SameQueried.trans {s'' : Impl} (h : SameQueried id s s') (h' : SameQueried id s' s'') :
    SameQueried id s s'' where
  profiles profId := (h'.profiles profId).trans (h.profiles profId)
  engines engineId := (h'.engines engineId).trans (h.engines engineId)
  owner := h'.owner.trans h.owner

theorem evidenceTotal_eq_length (s : Impl) :
    s.evidenceTotal = s.evidence.values.flatten.length :=
  List.length_flatten.symm

/-- A recovery brings in every record of evidence. -/
theorem Collects.evidenceTotal {t : Impl} {p : PersistentState} (hp : Collects s p) :
    (restored t p).evidenceTotal = s.evidenceTotal := by
  obtain ⟨entries, hperm, heq⟩ := hp.evidence
  have hall : (restored t p).evidence.values.flatten.Perm (p.evidence.map demoteEvidence) :=
    AList.values_foldl_group
  have hlist : p.evidence.Perm s.evidence.values.flatten := heq ▸ (hperm.map Sigma.snd).flatten
  rw [evidenceTotal_eq_length, evidenceTotal_eq_length, hall.length_eq, List.length_map,
    hlist.length_eq]

/-- An epoch change leaves the tables and the standing of a record alone. -/
theorem advanceEpoch_keeps (s : Impl) :
    SameTables s (machine.next s .advanceEpoch) ∧
      ∀ id i, s.findInc id = some i → ∃ i', (machine.next s .advanceEpoch).findInc id = some i' ∧
        i'.engineId = i.engineId ∧ i'.state.registration = i.state.registration ∧
        i'.state.health = i.state.health := by
  have h := step_transition s .advanceEpoch
  generalize machine.next s .advanceEpoch = s' at h ⊢
  generalize machine.result s .advanceEpoch = r at h
  cases h with
  | refused => exact ⟨⟨rfl, rfl, rfl⟩, fun _ i hi => ⟨i, hi, rfl, rfl, rfl⟩⟩
  | advanceEpochExhausted => exact ⟨⟨rfl, rfl, rfl⟩, fun _ i hi => ⟨i, hi, rfl, rfl, rfl⟩⟩
  | @advanceEpoch epoch authority hepoch hauthority =>
    refine ⟨⟨rfl, rfl, rfl⟩, fun id i hi => ⟨demoteForEpoch i, ?_, ?_⟩⟩
    · have hlookup : s.incarnations.lookup id = some i := hi
      refine (AList.lookup_mapVal _ _ _).trans ?_
      rw [setEpoch, hlookup]
      rfl
    · unfold demoteForEpoch
      split <;> exact ⟨rfl, rfl, rfl⟩

/-- The calls of the procedure are accepted: the blob is within the bounds of the format,
the incarnation is not fenced, and there is room for its records. -/
structure Accepted (s : Impl) (blob : Str) (opts : RuntimeOptions) (inc : EngineIncarnation)
    (pubs : List (ComponentEvidence × DurationNs)) : Prop where
  saved : ∃ listing, Collects s listing ∧ listing.WellFormed ∧
    Persistence.serializePersistentState listing = .ok blob
  short : blob.length ≤ Persistence.kMaxSerializedBytes
  registration : inc.state.registration ≠ .fenced
  health : inc.state.health ≠ .fenced
  room : s.evidenceTotal + pubs.length ≤ opts.maxComponentEvidence.toNat

section Restart

variable {blob : Str} {opts : RuntimeOptions} {inc : EngineIncarnation}
  {pubs : List (ComponentEvidence × DurationNs)}

/-- The fresh runtime after the epoch change. -/
theorem Accepted.restarted (h : Accepted s blob opts inc pubs) (hs : WellKeyed s)
    (hinc : s.findInc id = some inc) :
    SameQueried id s (restarted opts blob) ∧
      (restarted opts blob).evidenceFor id = (s.evidenceFor id).map demoteEvidence ∧
      MayPublish (restarted opts blob) id (restarted opts blob).authority.epoch pubs.length := by
  obtain ⟨listing, hlisting, hwf, hblob⟩ := h.saved
  have hback : Persistence.deserializePersistentState blob = .ok listing := by
    obtain ⟨blob', hblob', hback⟩ := Persistence.deserialize_serialize hwf fun blob' hblob' => by
      cases hblob.symm.trans hblob'
      exact h.short
    cases hblob.symm.trans hblob'
    exact hback
  have hload : machine.next (Impl.new opts) (.load blob) = restored (Impl.new opts) listing :=
    congrArg Prod.snd (load_ok hback hwf.version)
  have hcarries : Carries demoteRecovered demoteEvidence s (restored (Impl.new opts) listing) :=
    hlisting.carries hs
  have hrecovered : (restored (Impl.new opts) listing).findInc id = some (demoteRecovered inc) := by
    rw [hcarries.incarnations id, hinc]
    rfl
  obtain ⟨htables, hincs⟩ := advanceEpoch_keeps (restored (Impl.new opts) listing)
  obtain ⟨i, hi, howner, hregistration, hhealth⟩ := hincs id _ hrecovered
  obtain ⟨-, hfences, hopts⟩ := restarted_eq opts blob
  have hrestarted : Runtime.restarted opts blob =
      machine.next (restored (Impl.new opts) listing) .advanceEpoch := by
    rw [Runtime.restarted, Machine.exec_cons, Machine.exec_cons, Machine.exec_nil, hload]
  rw [hrestarted] at hfences hopts ⊢
  refine ⟨⟨fun profId => ?_, fun engineId => ?_, ?_⟩, ?_, ⟨i, hi, ?_, ?_⟩, hfences, rfl, ?_⟩
  · rw [htables.profiles]
    exact hcarries.profiles profId
  · rw [htables.engines]
    exact hcarries.engines engineId
  · rw [hi, hinc, Option.map_some, Option.map_some, howner]
    rfl
  · rw [evidenceFor_congr htables.evidence]
    exact hcarries.evidence id
  · rw [hregistration]
    exact h.registration
  · rw [hhealth]
    exact h.health
  · rw [evidenceTotal_congr htables.evidence, hopts, hlisting.evidenceTotal]
    exact h.room

end Restart

end EngineResidency.Runtime
