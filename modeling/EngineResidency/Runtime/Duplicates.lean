-- SUMMARY: Which blobs bring two records of one identity into a recovery, and what it installs.
import EngineResidency.Persistence.Layout
import EngineResidency.Runtime.Replacement

/-!
# Duplicate identities

The decoder checks the shape of every record, but never compares the identities of two of
them. A recovery stores the records in tables, where a record silently replaces one of the
same identity before it.
-/

namespace EngineResidency

/-- No two records of a kind have one identity. -/
structure PersistentState.Distinct (p : PersistentState) : Prop where
  engines : (p.engines.map EngineDefinition.engineId).Nodup
  profiles : (p.profiles.map ReadinessProfile.profileId).Nodup
  incarnations : (p.incarnations.map EngineIncarnation.incarnationId).Nodup
  evidence : (p.evidence.map ComponentEvidence.evidenceId).Nodup
  replacements : (p.replacements.map ReplacementPlan.replacementId).Nodup

namespace Persistence

/-- No two records of a section begin with one identity. -/
structure Layout.Distinct (l : Layout) : Prop where
  engines : (l.engines.1.map identity).Nodup
  profiles : (l.profiles.1.map identity).Nodup
  incarnations : (l.incarnations.1.map identity).Nodup
  evidence : (l.evidence.1.map identity).Nodup
  replacements : (l.replacements.1.map identity).Nodup

/-- The identities that the records of a section begin with are those of the decoded records. -/
theorem nodup_identity_iff {t : IdTag} {α : Type} {key : α → Identity t} {as : List α}
    {ws : List Str} (h : List.Forall₂ (fun a w => (key a).raw.toNat = identity w) as ws) :
    (ws.map identity).Nodup ↔ (as.map key).Nodup := by
  have hmap : ws.map identity = (as.map key).map fun i => i.raw.toNat := by
    rw [List.map_map, ← List.forall₂_eq_eq_eq, List.forall₂_map_left_iff,
      List.forall₂_map_right_iff]
    exact (h.imp fun _ _ heq => heq.symm).flip
  have hinj : Function.Injective fun i : Identity t => i.raw.toNat := by
    rintro ⟨x⟩ ⟨y⟩ h
    exact congrArg Identity.mk (UInt64.toNat_inj.mp h)
  rw [hmap, List.nodup_map_iff hinj]

theorem Layout.Decodes.distinct_iff {l : Layout} {p : PersistentState} (h : l.Decodes p) :
    l.Distinct ↔ p.Distinct := by
  obtain ⟨hengines, hprofiles, hincs, hevid, hrepls⟩ := h
  constructor
  · rintro ⟨he, hp, hi, hv, hr⟩
    exact ⟨(nodup_identity_iff hengines).mp he, (nodup_identity_iff hprofiles).mp hp,
      (nodup_identity_iff hincs).mp hi, (nodup_identity_iff hevid).mp hv,
      (nodup_identity_iff hrepls).mp hr⟩
  · rintro ⟨he, hp, hi, hv, hr⟩
    exact ⟨(nodup_identity_iff hengines).mpr he, (nodup_identity_iff hprofiles).mpr hp,
      (nodup_identity_iff hincs).mpr hi, (nodup_identity_iff hevid).mpr hv,
      (nodup_identity_iff hrepls).mpr hr⟩

end Persistence

namespace Runtime

open Persistence

/-- The tables hold as many records as `p` has. -/
structure Installs (p : PersistentState) (s : Impl) : Prop where
  engines : s.engines.size = p.engines.length
  profiles : s.profiles.size = p.profiles.length
  incarnations : s.incarnations.size = p.incarnations.length
  evidence : s.evidence.values.flatten.length = p.evidence.length
  replacements : s.replacementPlans.size = p.replacements.length

/-- A table that is built from records of different identities has as many of them. -/
theorem size_rebuild {K V A : Type} [DecidableEq K] {key : A → K} {f : A → V} {l : List A}
    (hnodup : (l.map key).Nodup) :
    (l.foldl (fun (m : UMap K V) x => m.insert (key x) (f x)) ∅).size = l.length := by
  have hlength := (AList.values_rebuild (f := f) hnodup).length_eq
  rwa [AList.values, List.length_map, List.length_map] at hlength

/-- Records of different identities are all installed. -/
theorem installs_restored {s : Impl} {p : PersistentState} (h : p.Distinct) :
    Installs p (restored s p) where
  engines := size_rebuild h.engines
  profiles := size_rebuild h.profiles
  incarnations := size_rebuild h.incarnations
  evidence := by
    have hperm : ((restored s p).evidence.values.flatten).Perm
        ((∅ : UMap EngineIncarnationId (List ComponentEvidence)).values.flatten ++
          p.evidence.map demoteEvidence) := AList.values_foldl_group
    have hempty : (∅ : UMap EngineIncarnationId (List ComponentEvidence)).values = [] := rfl
    rw [hperm.length_eq, hempty, List.flatten_nil, List.nil_append, List.length_map]
  replacements := size_rebuild h.replacements

/-- A blob that is accepted has records of different identities, which are all installed. -/
def RejectsDuplicates (s : Impl) (blob : Str) : Prop :=
  ∀ p, Persistence.deserializePersistentState blob = .ok p →
    p.Distinct ∧ Installs p (machine.next s (.load blob))

/-- Recovery rejects no duplicates: it does what is asked of all bytes but the blobs of layouts in
which the first eight bytes of two records of a section are the same. -/
theorem rejectsDuplicates_iff (s : Impl) (blob : Str) :
    RejectsDuplicates s blob ↔
      ¬ ∃ l : Layout, l.blob = blob ∧ blob.length ≤ kMaxSerializedBytes ∧ ¬ l.Distinct := by
  constructor
  · rintro h ⟨l, rfl, hsize, hrepeats⟩
    obtain ⟨p, hblob, hdecodes⟩ := Layout.accepted hsize
    exact hrepeats (hdecodes.distinct_iff.mpr (h p hblob).1)
  · intro h p hblob
    obtain ⟨l, hlayout, hdecodes⟩ := exists_layout hblob
    have hdistinct : p.Distinct := by
      by_contra hdup
      refine h ⟨l, hlayout, (deserialize_ok hblob).2.1, fun hl => hdup ?_⟩
      exact hdecodes.distinct_iff.mp hl
    rw [load_next hblob]
    exact ⟨hdistinct, installs_restored hdistinct⟩

/-- Two engines of one identity. -/
def twinEngines : PersistentState where
  engines := [{ engineId := ⟨1⟩, name := lit "first" }, { engineId := ⟨1⟩, name := lit "second" }]

/-- The blob of two engines of one identity is accepted, and one of them is lost. -/
theorem duplicates_accepted :
    ¬ ∀ (s : Impl) (blob : Str), RejectsDuplicates s blob := by
  intro h
  obtain ⟨blob, hblob, hback⟩ := Persistence.serialize_recovers
    (show twinEngines.WellFormed by decide)
  have hlength : (Persistence.serializePersistentState twinEngines).map
      (fun b => decide (b.length ≤ Persistence.kMaxSerializedBytes)) = .ok true := by decide +kernel
  rw [hblob] at hlength
  have hsize := of_decide_eq_true (Except.ok.inj hlength)
  have hdistinct := (h (Impl.new {}) blob twinEngines (hback hsize)).1.engines
  exact absurd hdistinct (by decide)

end Runtime

end EngineResidency
