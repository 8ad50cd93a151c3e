-- SUMMARY: The operations store only declared enumerators when their arguments have no others.
import EngineResidency.Persistence.Recoverable
import EngineResidency.Runtime.Transition

/-!
# Declared enumerators

The runtime stores the enumerations of its arguments without looking at them, and
writes enumerators of its own. So the records of a run have no undeclared values
as long as the arguments that are stored have none. A publication that is refused
stores nothing, whatever it carries.
-/

namespace EngineResidency.Runtime

open Persistence
open CEnum (Declared declared)

variable {s s' : Impl} {op : Op} {r : Except Err Reply}

/-- Every record that would be saved has declared enumerators only. -/
structure DeclaredState (s : Impl) : Prop where
  engines : s.engines.All EngineDefinition.EnumsDeclared
  profiles : s.profiles.All ReadinessProfile.EnumsDeclared
  incarnations : s.incarnations.All EngineIncarnation.EnumsDeclared
  evidence : s.evidence.All fun es => ∀ e ∈ es, e.EnumsDeclared
  replacements : s.replacementPlans.All ReplacementPlan.EnumsDeclared
  costHistory : ∀ c ∈ s.costHistory, c.EnumsDeclared

/-- The checks of a publication. -/
def mayPublish (s : Impl) (ev : ComponentEvidence) : Bool :=
  (s.findInc ev.incarnationId).any (fun inc =>
    inc.state.registration != .fenced && inc.state.health != .fenced &&
      !s.bootFenced inc.workerId inc.workerBoot) &&
  ev.coordinatorEpoch == s.authority.epoch && s.evidenceTotal < s.opts.maxComponentEvidence.toNat

/-- What the operation stores of its arguments has declared enumerators only. -/
def StoresDeclared (s : Impl) : Op → Prop
  | .defineEngine engine => engine.EnumsDeclared
  | .defineProfile profile => profile.EnumsDeclared
  | .registerIncarnation inc _ _ => inc.EnumsDeclared
  | .publishComponent ev _ => mayPublish s ev = true → ev.EnumsDeclared
  | .aggregateRecoveryCost components _ _ => ∀ c ∈ components, c.EnumsDeclared
  | _ => True

/-- A new runtime has no records. -/
theorem declaredState_new (opts : RuntimeOptions) : DeclaredState (Impl.new opts) :=
  ⟨.empty, .empty, .empty, .empty, .empty, nofun⟩

/-- What is saved is what the tables hold. -/
theorem DeclaredState.persisted (h : DeclaredState s) : (persisted s).EnumsDeclared where
  engines := h.engines.values
  profiles := h.profiles.values
  incarnations := h.incarnations.values
  evidence := by
    intro e he
    obtain ⟨es, hes, he⟩ := List.mem_flatten.mp he
    exact h.evidence.values es hes e he
  replacements := h.replacements.values
  costHistory := h.costHistory

/-! ## Records -/

section Records

variable {i : EngineIncarnation} (h : i.EnumsDeclared)

include h

theorem enumsDeclared_setPreparation {p : PreparationState} (hp : Declared p) :
    (setPreparation p i).EnumsDeclared :=
  ⟨h.registration, { h.state with preparation := hp }⟩

theorem enumsDeclared_setReadiness (gen : ReadinessGeneration) :
    (setReadiness gen i).EnumsDeclared :=
  ⟨h.registration, h.state⟩

theorem enumsDeclared_publishReadiness (gen : ReadinessGeneration) :
    (publishReadiness gen i).EnumsDeclared :=
  ⟨h.registration, { h.state with observed := declared rfl }⟩

theorem enumsDeclared_running (now : DurationNs) : (running now i).EnumsDeclared :=
  ⟨h.registration, { h.state with lifecycle := declared rfl, health := declared rfl }⟩

theorem enumsDeclared_revalidated : (revalidated i).EnumsDeclared :=
  ⟨h.registration,
    { h.state with recovery := declared rfl, preparation := declared rfl, lifecycle := declared rfl }⟩

/-- A fence writes four of the enumerations, of the incarnations of one boot. -/
theorem enumsDeclared_fenceInc (w : WorkerId) (b : WorkerBootId) :
    (fenceInc w b i).EnumsDeclared := by
  unfold fenceInc
  split
  · exact ⟨h.registration, { h.state with
      health := declared rfl, lifecycle := declared rfl, activation := declared rfl
      registration := declared rfl }⟩
  · exact h

theorem enumsDeclared_demoteForEpoch : (demoteForEpoch i).EnumsDeclared := by
  unfold demoteForEpoch
  split
  · exact ⟨h.registration, { h.state with recovery := declared rfl }⟩
  · exact h

/-- A publication about the backend or the device may start the incarnation. -/
theorem enumsDeclared_confirmStart (category : ComponentCategory) (now : DurationNs) :
    (confirmStart category { i with lastActivityNs := now }).EnumsDeclared := by
  unfold confirmStart
  split
  · exact ⟨h.registration, { h.state with lifecycle := declared rfl, health := declared rfl }⟩
  · exact ⟨h.registration, h.state⟩

theorem enumsDeclared_activated : (activated i).EnumsDeclared :=
  ⟨h.registration, { h.state with activation := declared rfl }⟩

theorem enumsDeclared_draining : (draining i).EnumsDeclared :=
  ⟨h.registration, { h.state with lifecycle := declared rfl, activation := declared rfl }⟩

theorem enumsDeclared_superseded : (superseded i).EnumsDeclared :=
  ⟨h.registration, { h.state with activation := declared rfl }⟩

theorem enumsDeclared_promoted : (promoted i).EnumsDeclared :=
  ⟨h.registration, { h.state with activation := declared rfl, lifecycle := declared rfl }⟩

theorem enumsDeclared_retired : (retired i).EnumsDeclared :=
  ⟨h.registration, { h.state with lifecycle := declared rfl, health := declared rfl }⟩

theorem enumsDeclared_demoteRecovered : (demoteRecovered i).EnumsDeclared :=
  ⟨h.registration, { h.state with
    recovery := declared rfl, activation := declared rfl, preparation := declared rfl }⟩

/-- A registration overwrites four of the enumerations, and keeps the others as they were sent. -/
theorem enumsDeclared_registered (s : Impl) (now : DurationNs) :
    (registered s i now).EnumsDeclared :=
  ⟨declared rfl, { h.state with
    lifecycle := declared rfl, recovery := declared rfl, registration := declared rfl }⟩

end Records

/-! ## One step -/

/-- The state after an attempt is read off the outcome, and is no number from outside. -/
theorem enumsDeclared_completedState (outcome : ReadinessOutcome) :
    Declared (completedState outcome) := by
  unfold completedState
  split
  · exact declared rfl
  · exact declared rfl

/-- A change of the configuration leaves an incarnation as it is, or invalidates its preparation. -/
theorem MaybeInvalidated.enumsDeclared {i i' : EngineIncarnation} (h : MaybeInvalidated i i')
    (hi : i.EnumsDeclared) : i'.EnumsDeclared := by
  rcases h with rfl | ⟨gen, rfl⟩
  · exact hi
  · exact enumsDeclared_setReadiness (enumsDeclared_setPreparation hi (declared rfl)) gen

/-- The evidence for one incarnation is part of the table. -/
theorem DeclaredState.evidenceFor (h : DeclaredState s) (id : EngineIncarnationId) :
    ∀ e ∈ s.evidenceFor id, e.EnumsDeclared := by
  intro e he
  rw [Impl.evidenceFor] at he
  cases hes : s.evidence.lookup id with
  | none => simp [hes] at he
  | some es => exact h.evidence id es hes e (by simpa [hes] using he)

/-- Voided evidence keeps its category and its provenance, and gets a state of the runtime. -/
theorem DeclaredState.invalidateEvidence (h : DeclaredState s) (id : EngineIncarnationId)
    (reason : Str) : DeclaredState (invalidateEvidence id reason s) where
  engines := h.engines
  profiles := h.profiles
  incarnations := h.incarnations.modify fun i hi => enumsDeclared_setPreparation hi (declared rfl)
  evidence := by
    refine h.evidence.modify fun es hes e' he' => ?_
    obtain ⟨e, he, rfl⟩ := List.mem_map.mp he'
    have hdeclared := hes e he
    exact { hdeclared with state := declared rfl }
  replacements := h.replacements
  costHistory := h.costHistory

/-- What a recovery restores was accepted by the readers. -/
theorem declaredState_restored {p : PersistentState} (h : p.EnumsDeclared) :
    DeclaredState (restored s p) where
  engines := .foldl_insert .empty fun _ _ e he => h.engines e he
  profiles := .foldl_insert .empty fun _ _ q hq => h.profiles q hq
  incarnations := .foldl_insert .empty fun _ _ i hi =>
    enumsDeclared_demoteRecovered (h.incarnations i hi)
  evidence := by
    refine .foldl_insert .empty fun m hm e he e' he' => ?_
    rcases List.mem_append.mp he' with hold | hnew
    · cases hes : m.lookup e.incarnationId with
      | none => simp [hes] at hold
      | some es => exact hm _ es hes e' (by simpa [hes] using hold)
    · obtain rfl := List.mem_singleton.mp hnew
      have hdeclared := h.evidence e he
      exact { hdeclared with state := declared rfl }
  replacements := .foldl_insert .empty fun _ _ q hq => h.replacements q hq
  costHistory := h.costHistory

/-- The records have declared enumerators after every operation that stores none but
these. -/
theorem Transition.declaredState (h : Transition s op r s') (hop : StoresDeclared s op)
    (hs : DeclaredState s) : DeclaredState s' := by
  cases h with
  | defineEngine _ _ hstored =>
    subst hstored
    exact { hs with engines := hs.engines.insert ⟨hop.role, hop.provenance⟩ }
  | updateEngineConfig hr hf =>
    exact { hs with
      engines := hs.engines.modify fun e he => ⟨he.role, he.provenance⟩
      incarnations := hs.incarnations.mapEntries fun k i => (hf k i).enumsDeclared }
  | defineProfile _ hstored =>
    subst hstored
    exact { hs with profiles := hs.profiles.insert ⟨hop.role, hop.requirements⟩ }
  | registerIncarnation =>
    exact { hs with incarnations := hs.incarnations.insert (enumsDeclared_registered hop _ _) }
  | markRunning =>
    exact { hs with incarnations := hs.incarnations.modify fun i hi => enumsDeclared_running hi _ }
  | revalidateExhausted =>
    exact { hs with incarnations := hs.incarnations.modify fun i => enumsDeclared_revalidated }
  | revalidate =>
    exact { hs with
      incarnations := (hs.incarnations.modify fun i => enumsDeclared_revalidated).modify
        fun i hi => enumsDeclared_setReadiness hi _ }
  | fenceWorker =>
    exact { hs with incarnations := hs.incarnations.mapVal fun i hi => enumsDeclared_fenceInc hi _ _ }
  | advanceEpoch =>
    exact { hs with incarnations := hs.incarnations.mapVal fun i => enumsDeclared_demoteForEpoch }
  | @publishComponent ev now inc hinc hregistration hhealth hfenced hepoch hroom =>
    have hmay : mayPublish s ev = true := by
      simp [mayPublish, hinc, hregistration, hhealth, hfenced, hepoch, hroom]
    have hev := hop hmay
    refine { hs with
      incarnations := hs.incarnations.modify fun i hi => enumsDeclared_confirmStart hi _ _
      evidence := hs.evidence.insert fun e he => ?_ }
    rcases List.mem_append.mp he with hold | hnew
    · exact hs.evidenceFor _ e hold
    · obtain rfl := List.mem_singleton.mp hnew
      exact ⟨hev.category, hev.state, hev.provenance⟩
  | createPreparationPlan | beginPreparation =>
    exact { hs with
      incarnations := hs.incarnations.modify fun i hi =>
        enumsDeclared_setPreparation hi (declared rfl) }
  | completePreparationExhausted | completePreparationFailed =>
    exact { hs with
      incarnations := hs.incarnations.modify fun i hi =>
        enumsDeclared_setPreparation hi (enumsDeclared_completedState _) }
  | completePreparation =>
    exact { hs with
      incarnations := (hs.incarnations.modify fun i hi =>
        enumsDeclared_setPreparation hi (enumsDeclared_completedState _)).modify
          fun i hi => enumsDeclared_publishReadiness hi _ }
  | activate =>
    exact { hs with incarnations := hs.incarnations.modify fun i => enumsDeclared_activated }
  | acquireServingUse =>
    exact { hs with incarnations := hs.incarnations.modify fun i hi => ⟨hi.registration, hi.state⟩ }
  | requestDrain =>
    exact { hs with incarnations := hs.incarnations.modify fun i => enumsDeclared_draining }
  | beginReplacement =>
    exact { hs with replacements := hs.replacements.insert ⟨declared rfl⟩ }
  | commitCutover =>
    exact { hs with
      incarnations := (hs.incarnations.modify fun i => enumsDeclared_superseded).modify
        fun i => enumsDeclared_promoted
      replacements := hs.replacements.modify fun _ _ => ⟨declared rfl⟩ }
  | retireOld =>
    exact { hs with
      incarnations := hs.incarnations.modify fun i => enumsDeclared_retired
      replacements := hs.replacements.modify fun _ _ => ⟨declared rfl⟩ }
  | invalidateExhausted => exact hs.invalidateEvidence _ _
  | @invalidateIncarnationComponents id reason =>
    have hinv := hs.invalidateEvidence id reason
    exact { hinv with
      incarnations := hinv.incarnations.modify fun i hi => enumsDeclared_setReadiness hi _ }
  | aggregateRecoveryCost =>
    refine { hs with costHistory := fun c hc => ?_ }
    rcases List.mem_append.mp hc with hold | hnew
    · exact hs.costHistory c hold
    · exact hop c hnew
  | load hblob => exact declaredState_restored (wellFormed_of_deserialize hblob).enumsDeclared
  | _ => exact { hs with }

end EngineResidency.Runtime
