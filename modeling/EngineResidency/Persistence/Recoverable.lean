-- SUMMARY: What a state needs to be recovered from its own blob: declared enumerators and bounded collections.
import EngineResidency.Persistence.RoundTrip

/-!
# Recoverable states

The writers check the length of a string and nothing else; the readers also check
enumerations and counts. So a state that is written need not be read back. Below,
well-formedness is split into its two halves: the enumerators, which depend on
where the values came from, and the bounds, which depend on how much was stored.
-/

namespace EngineResidency

open Codec Persistence
open CEnum (Declared)

/-! ## Enumerators -/

/-- The readers check four enumerations of a requirement. -/
structure ProfileRequirement.EnumsDeclared (r : ProfileRequirement) : Prop where
  category : Declared r.category
  kind : Declared r.kind
  minState : Declared r.minState
  generationFamily : Declared r.generationFamily

/-- The three enumerations of a record of evidence. A publication takes them from the wire. -/
@[mk_iff]
structure ComponentEvidence.EnumsDeclared (e : ComponentEvidence) : Prop where
  category : Declared e.category
  state : Declared e.state
  provenance : Declared e.provenance

instance (e : ComponentEvidence) : Decidable e.EnumsDeclared :=
  decidable_of_iff' _ e.enumsDeclared_iff

structure EngineDefinition.EnumsDeclared (e : EngineDefinition) : Prop where
  role : Declared e.role
  provenance : Declared e.provenance

structure ReadinessProfile.EnumsDeclared (p : ReadinessProfile) : Prop where
  role : Declared p.role
  requirements : ∀ r ∈ p.requirements, r.EnumsDeclared

/-- The registration of an incarnation and the nine enumerations of its state. -/
structure EngineIncarnation.EnumsDeclared (i : EngineIncarnation) : Prop where
  registration : Declared i.registration
  state : i.state.WellFormed

structure ReplacementPlan.EnumsDeclared (p : ReplacementPlan) : Prop where
  phase : Declared p.phase

structure CostComponent.EnumsDeclared (c : CostComponent) : Prop where
  provenance : Declared c.provenance

/-- Every enumeration of the state names an enumerator. -/
structure PersistentState.EnumsDeclared (s : PersistentState) : Prop where
  engines : ∀ e ∈ s.engines, e.EnumsDeclared
  profiles : ∀ p ∈ s.profiles, p.EnumsDeclared
  incarnations : ∀ i ∈ s.incarnations, i.EnumsDeclared
  evidence : ∀ e ∈ s.evidence, e.EnumsDeclared
  replacements : ∀ p ∈ s.replacements, p.EnumsDeclared
  costHistory : ∀ c ∈ s.costHistory, c.EnumsDeclared

/-! ## Bounds -/

@[mk_iff]
structure ProfileRequirement.Bounded (r : ProfileRequirement) : Prop where
  subject : FitsStr r.subject
  compatibility : r.compatibility.WellFormed
  description : FitsStr r.description

instance (r : ProfileRequirement) : Decidable r.Bounded := decidable_of_iff' _ r.bounded_iff

/-- The strings of a record of evidence fit their lengths, also the reason of its invalidation. -/
@[mk_iff]
structure ComponentEvidence.Bounded (e : ComponentEvidence) : Prop where
  subject : FitsStr e.subject
  namespace_ : FitsStr e.namespace_
  compatibility : e.compatibility.WellFormed
  detail : FitsStr e.detail
  invalidationReason : FitsStr e.invalidationReason

instance (e : ComponentEvidence) : Decidable e.Bounded := decidable_of_iff' _ e.bounded_iff

/-- An engine has strings, and two collections that are bounded by a count. -/
@[mk_iff]
structure EngineDefinition.Bounded (e : EngineDefinition) : Prop where
  name : FitsStr e.name
  modelName : FitsStr e.modelName
  kernelKey : FitsStr e.kernelKey
  tokenizerKey : FitsStr e.tokenizerKey
  compatibility : e.compatibility.WellFormed
  preparationPolicy : FitsStr e.preparationPolicy
  resourceClaimRef : FitsStr e.resourceClaimRef
  dependencyRefs : FitsList FitsStr e.dependencyRefs
  profileIds : FitsList (fun _ => True) e.profileIds

instance (e : EngineDefinition) : Decidable e.Bounded := decidable_of_iff' _ e.bounded_iff

@[mk_iff]
structure ReadinessProfile.Bounded (p : ReadinessProfile) : Prop where
  name : FitsStr p.name
  dtype : FitsStr p.dtype
  layout : FitsStr p.layout
  requirements : FitsList ProfileRequirement.Bounded p.requirements
  compatibility : p.compatibility.WellFormed

instance (p : ReadinessProfile) : Decidable p.Bounded := decidable_of_iff' _ p.bounded_iff

/-- The strings of an incarnation are those of its process and its diagnostic note. -/
@[mk_iff]
structure EngineIncarnation.Bounded (i : EngineIncarnation) : Prop where
  process : i.process.WellFormed
  nfc : FitsStr i.nfc

instance (i : EngineIncarnation) : Decidable i.Bounded := decidable_of_iff' _ i.bounded_iff

@[mk_iff]
structure ReplacementPlan.Bounded (p : ReplacementPlan) : Prop where
  detail : FitsStr p.detail

instance (p : ReplacementPlan) : Decidable p.Bounded := decidable_of_iff' _ p.bounded_iff

@[mk_iff]
structure CostComponent.Bounded (c : CostComponent) : Prop where
  name : FitsStr c.name
  unit : FitsStr c.unit

instance (c : CostComponent) : Decidable c.Bounded := decidable_of_iff' _ c.bounded_iff

/-- Every string and every collection of the state is within the bounds of the
readers. -/
@[mk_iff]
structure PersistentState.Bounded (s : PersistentState) : Prop where
  engines : FitsList EngineDefinition.Bounded s.engines
  profiles : FitsList ReadinessProfile.Bounded s.profiles
  incarnations : FitsList EngineIncarnation.Bounded s.incarnations
  evidence : FitsList ComponentEvidence.Bounded s.evidence
  replacements : FitsList ReplacementPlan.Bounded s.replacements
  costHistory : FitsList CostComponent.Bounded s.costHistory

instance (s : PersistentState) : Decidable s.Bounded := decidable_of_iff' _ s.bounded_iff

/-! ## The two halves -/

/-- Well-formedness is the two halves together. -/
structure Halves {α : Type} (W B D : α → Prop) : Prop where
  join : ∀ {a}, B a → D a → W a
  declared : ∀ {a}, W a → D a

/-- The halves of a collection are the halves of its elements; the count belongs to the bounds. -/
theorem Halves.fitsList {α : Type} {W B D : α → Prop} (h : Halves W B D) :
    Halves (FitsList W) (FitsList B) (fun as => ∀ a ∈ as, D a) where
  join hb hd := ⟨hb.length_le, fun a ha => h.join (hb.all a ha) (hd a ha)⟩
  declared hw := fun a ha => h.declared (hw.all a ha)

/-! The kinds of records. -/

theorem halves_requirement :
    Halves ProfileRequirement.WellFormed ProfileRequirement.Bounded
      ProfileRequirement.EnumsDeclared where
  join hb hd := ⟨hd.category, hd.kind, hd.minState, hb.subject, hb.compatibility,
    hd.generationFamily, hb.description⟩
  declared hw := ⟨hw.category, hw.kind, hw.minState, hw.generationFamily⟩

theorem halves_evidence :
    Halves ComponentEvidence.WellFormed ComponentEvidence.Bounded
      ComponentEvidence.EnumsDeclared where
  join hb hd := ⟨hd.category, hd.state, hd.provenance, hb.subject, hb.namespace_, hb.compatibility,
    hb.detail, hb.invalidationReason⟩
  declared hw := ⟨hw.category, hw.state, hw.provenance⟩

theorem halves_engine :
    Halves EngineDefinition.WellFormed EngineDefinition.Bounded EngineDefinition.EnumsDeclared where
  join hb hd := ⟨hb.name, hd.role, hb.modelName, hb.kernelKey, hb.tokenizerKey, hb.compatibility,
    hb.preparationPolicy, hb.resourceClaimRef, hb.dependencyRefs, hd.provenance, hb.profileIds⟩
  declared hw := ⟨hw.role, hw.provenance⟩

theorem halves_profile :
    Halves ReadinessProfile.WellFormed ReadinessProfile.Bounded ReadinessProfile.EnumsDeclared where
  join hb hd := ⟨hb.name, hd.role, hb.dtype, hb.layout,
    halves_requirement.fitsList.join hb.requirements hd.requirements, hb.compatibility⟩
  declared hw := ⟨hw.role, halves_requirement.fitsList.declared hw.requirements⟩

theorem halves_incarnation :
    Halves EngineIncarnation.WellFormed EngineIncarnation.Bounded
      EngineIncarnation.EnumsDeclared where
  join hb hd := ⟨hb.process, hd.registration, hd.state, hb.nfc⟩
  declared hw := ⟨hw.registration, hw.state⟩

theorem halves_replacement :
    Halves ReplacementPlan.WellFormed ReplacementPlan.Bounded ReplacementPlan.EnumsDeclared where
  join hb hd := ⟨hd.phase, hb.detail⟩
  declared hw := ⟨hw.phase⟩

theorem halves_cost :
    Halves CostComponent.WellFormed CostComponent.Bounded CostComponent.EnumsDeclared where
  join hb hd := ⟨hb.name, hd.provenance, hb.unit⟩
  declared hw := ⟨hw.provenance⟩

/-- A state of the current version is read back from its blob if it has both halves. -/
theorem PersistentState.wellFormed_of_bounded {s : PersistentState}
    (hversion : s.version = kPersistenceVersion) (hb : s.Bounded) (hd : s.EnumsDeclared) :
    s.WellFormed :=
  ⟨hversion, halves_engine.fitsList.join hb.engines hd.engines,
    halves_profile.fitsList.join hb.profiles hd.profiles,
    halves_incarnation.fitsList.join hb.incarnations hd.incarnations,
    halves_evidence.fitsList.join hb.evidence hd.evidence,
    halves_replacement.fitsList.join hb.replacements hd.replacements,
    halves_cost.fitsList.join hb.costHistory hd.costHistory⟩

/-- What was read back names enumerators, whoever has written it. -/
theorem PersistentState.WellFormed.enumsDeclared {s : PersistentState} (h : s.WellFormed) :
    s.EnumsDeclared :=
  ⟨halves_engine.fitsList.declared h.engines, halves_profile.fitsList.declared h.profiles,
    halves_incarnation.fitsList.declared h.incarnations,
    halves_evidence.fitsList.declared h.evidence,
    halves_replacement.fitsList.declared h.replacements,
    halves_cost.fitsList.declared h.costHistory⟩

end EngineResidency
