-- SUMMARY: When the epoch, the authority generation and the configuration generations do not go back.
import EngineResidency.Persistence.RoundTrip
import EngineResidency.Runtime.OldEpoch

/-!
# Generations

An update of a configuration and an epoch change only count on, and both are guarded. A
redefinition of an engine and a recovery write over the same generations as a whole, and
are not. `keepsGenerations` is the check that these two leave out.
-/

namespace EngineResidency.Runtime

open EStateM

variable {s s' : Impl} {op : Op} {r : Except Err Reply}

/-- No generation is lower than before. -/
structure NotRegressed (s s' : Impl) : Prop where
  epoch : s.authority.epoch.isAtOrBefore s'.authority.epoch = true
  authority : s.authority.authority.isAtOrBefore s'.authority.authority = true
  config : ∀ id e e', s.engines.lookup id = some e → s'.engines.lookup id = some e' →
    e.configGeneration.isAtOrBefore e'.configGeneration = true

/-- The engines that a recovery brings in: the last definition of each counts. -/
def recoveredEngines (p : PersistentState) : UMap EngineId EngineDefinition :=
  p.engines.foldl (fun m e => m.insert e.engineId e) ∅

/-- A definition that passes its checks does not lower the configuration generation of an
engine that is there, and a recovery lowers no generation. -/
def keepsGenerations (s : Impl) : Op → Bool
  | .defineEngine engine =>
    !engine.engineId.isValid || decide (s.opts.maxEngines.toNat ≤ s.engines.size) ||
      (s.engines.lookup engine.engineId).all fun e =>
        e.configGeneration.isAtOrBefore (completedEngine s engine).configGeneration
  | .load blob =>
    match Persistence.deserializePersistentState blob with
    | .error _ => true
    | .ok p =>
      s.authority.epoch.isAtOrBefore ⟨orFirst p.coordinatorEpoch⟩ &&
        s.authority.authority.isAtOrBefore ⟨orFirst p.authorityGeneration⟩ &&
        s.engines.keys.all fun id => (s.engines.lookup id).all fun e =>
          ((recoveredEngines p).lookup id).all fun e' =>
            e.configGeneration.isAtOrBefore e'.configGeneration
  | _ => true

/-! ## One step -/

theorem isAtOrBefore_refl {t : GenTag} (g : Generation t) : g.isAtOrBefore g = true :=
  isAtOrBefore_iff.mpr (Nat.le_refl _)

theorem isAtOrBefore_next {t : GenTag} {g g' : Generation t} (h : g.next = .ok g') :
    g.isAtOrBefore g' = true :=
  isAtOrBefore_iff.mpr (Generation.next_ok h ▸ Nat.le_succ _)

/-- A step that leaves the authority and the engines alone. -/
theorem notRegressed_of_eq (hauthority : s'.authority.epoch = s.authority.epoch)
    (hgen : s'.authority.authority = s.authority.authority) (hengines : s'.engines = s.engines) :
    NotRegressed s s' := by
  refine ⟨?_, ?_, fun id e e' he he' => ?_⟩
  · rw [hauthority]
    exact isAtOrBefore_refl _
  · rw [hgen]
    exact isAtOrBefore_refl _
  · rw [hengines] at he'
    cases he.symm.trans he'
    exact isAtOrBefore_refl _

/-- A definition writes one engine. -/
theorem notRegressed_storeEngine {engine : EngineDefinition} (stored : EngineDefinition) :
    NotRegressed s (storeEngine stored (countEngine engine s)) ↔
      ∀ e, s.engines.lookup stored.engineId = some e →
        e.configGeneration.isAtOrBefore stored.configGeneration = true := by
  have hlookup : ∀ id, (storeEngine stored (countEngine engine s)).engines.lookup id =
      if id = stored.engineId then some stored else s.engines.lookup id := fun id =>
    AList.lookup_insert' _ _ _ _
  constructor
  · intro h e he
    exact h.config stored.engineId e stored he (by rw [hlookup, if_pos rfl])
  · intro h
    refine ⟨isAtOrBefore_refl _, isAtOrBefore_refl _, fun id e e' he he' => ?_⟩
    rw [hlookup] at he'
    split at he'
    · rename_i hid
      subst hid
      cases he'
      exact h e he
    · cases he.symm.trans he'
      exact isAtOrBefore_refl _

theorem notRegressed_restored {p : PersistentState} :
    NotRegressed s (restored s p) ↔
      s.authority.epoch.isAtOrBefore ⟨orFirst p.coordinatorEpoch⟩ = true ∧
      s.authority.authority.isAtOrBefore ⟨orFirst p.authorityGeneration⟩ = true ∧
      ∀ id e e', s.engines.lookup id = some e → (recoveredEngines p).lookup id = some e' →
        e.configGeneration.isAtOrBefore e'.configGeneration = true :=
  ⟨fun h => ⟨h.epoch, h.authority, h.config⟩, fun h => ⟨h.1, h.2.1, h.2.2⟩⟩

/-- The check of a recovery, generation by generation. -/
theorem keepsGenerations_load {blob : Str} {p : PersistentState}
    (hblob : Persistence.deserializePersistentState blob = .ok p) :
    keepsGenerations s (.load blob) = true ↔ NotRegressed s (restored s p) := by
  have hengines : (s.engines.keys.all fun id => (s.engines.lookup id).all fun e =>
      ((recoveredEngines p).lookup id).all fun e' =>
        e.configGeneration.isAtOrBefore e'.configGeneration) = true ↔
      ∀ id e e', s.engines.lookup id = some e → (recoveredEngines p).lookup id = some e' →
        e.configGeneration.isAtOrBefore e'.configGeneration = true := by
    simp only [List.all_eq_true, Option.all_eq_true]
    constructor
    · intro h id e e' he he'
      exact h id (AList.mem_of_lookup he) e he e' he'
    · intro h id _ e he e' he'
      exact h id e e' he he'
  rw [notRegressed_restored, ← hengines]
  simp [keepsGenerations, hblob, and_assoc]

/-- A definition that passes its checks. -/
theorem defineEngine_next {engine : EngineDefinition} (hvalid : engine.engineId.isValid = true)
    (hroom : s.engines.size < s.opts.maxEngines.toNat) :
    machine.next s (.defineEngine engine) =
      storeEngine (completedEngine (countEngine engine s) engine) (countEngine engine s) := by
  have hwp : wp (step (.defineEngine engine)) (fun _ s' => s' =
      storeEngine (completedEngine (countEngine engine s) engine) (countEngine engine s)) s := by
    refine wp_map (wp_passes (by simp [hvalid]) (wp_modify (wp_get ?_)))
    exact wp_passes (Nat.not_le.mpr hroom) (wp_modify (wp_pure rfl))
  exact wp_iff.mp hwp

/-- No step that meets the check lowers a generation. -/
theorem Transition.notRegressed (h : Transition s op r s')
    (hop : keepsGenerations s op = true) : NotRegressed s s' := by
  cases h with
  | @defineEngine engine stored hvalid hroom hstored =>
    subst hstored
    refine (notRegressed_storeEngine _).mpr fun e he => ?_
    have hfull : ¬ s.opts.maxEngines.toNat ≤ s.engines.size := Nat.not_le.mpr hroom
    have he : s.engines.lookup engine.engineId = some e := he
    show e.configGeneration.isAtOrBefore (completedEngine s engine).configGeneration = true
    simpa [keepsGenerations, hvalid, hfull, he] using hop
  | updateEngineConfig _ _ hengine hlater =>
    refine ⟨isAtOrBefore_refl _, isAtOrBefore_refl _, fun id e e' he he' => ?_⟩
    have he' : (s.engines.modify _ _).lookup id = some e' := he'
    rw [AList.lookup_modify] at he'
    split at he'
    · rename_i hid
      subst hid
      rw [he] at he'
      cases hengine.symm.trans he
      cases he'
      rw [Generation.isAtOrBefore, decide_eq_false_iff_not, UInt64.not_le] at hlater
      exact isAtOrBefore_iff.mpr (Nat.le_of_lt (UInt64.lt_iff_toNat_lt.mp hlater))
    · cases he.symm.trans he'
      exact isAtOrBefore_refl _
  | advanceEpochExhausted hepoch =>
    exact ⟨isAtOrBefore_next hepoch, isAtOrBefore_refl _, fun id e e' he he' => by
      cases he.symm.trans he'
      exact isAtOrBefore_refl _⟩
  | advanceEpoch hepoch hauthority =>
    exact ⟨isAtOrBefore_next hepoch, isAtOrBefore_next hauthority, fun id e e' he he' => by
      cases he.symm.trans he'
      exact isAtOrBefore_refl _⟩
  | load hblob =>
    exact (keepsGenerations_load hblob).mp hop
  | _ => exact notRegressed_of_eq rfl rfl rfl

/-- A step that lowers no generation meets the check. -/
theorem keepsGenerations_of_notRegressed (h : NotRegressed s (machine.next s op)) :
    keepsGenerations s op = true := by
  cases op with
  | defineEngine engine =>
    by_cases hvalid : engine.engineId.isValid = true
    · by_cases hroom : s.engines.size < s.opts.maxEngines.toNat
      · rw [defineEngine_next hvalid hroom] at h
        have hkept := (notRegressed_storeEngine _).mp h
        simp only [keepsGenerations, Bool.or_eq_true, Option.all_eq_true]
        exact .inr fun e he => hkept e he
      · simp [keepsGenerations, Nat.not_lt.mp hroom]
    · simp [keepsGenerations, hvalid]
  | load blob =>
    cases hblob : Persistence.deserializePersistentState blob with
    | error e => simp [keepsGenerations, hblob]
    | ok p =>
      have hversion := (Persistence.wellFormed_of_deserialize hblob).version
      have hnext : machine.next s (.load blob) = restored s p :=
        congrArg Prod.snd (load_ok hblob hversion)
      rw [hnext] at h
      exact (keepsGenerations_load hblob).mpr h
  | _ => rfl

/-! ## Whole runs -/

/-- The generations of a run never go back if and only if every definition and every
recovery of the run brings generations that are not lower. -/
theorem generations_never_regress_iff (opts : RuntimeOptions) (ops : List Op) :
    machine.Along (fun s op => NotRegressed s (machine.next s op)) (Impl.new opts) ops ↔
      machine.Along (fun s op => keepsGenerations s op = true) (Impl.new opts) ops := by
  have hstep (s : Impl) (op : Op) :
      NotRegressed s (machine.next s op) ↔ keepsGenerations s op = true :=
    ⟨keepsGenerations_of_notRegressed, (step_transition s op).notRegressed⟩
  exact Machine.along_congr (I := fun _ => True) trivial (fun _ _ _ => trivial)
    fun s op _ => hstep s op

/-- An engine is defined once more with an older configuration; a runtime whose epoch has
been raised recovers what was saved before. -/
theorem generations_regress :
    ¬ machine.Along (fun s op => NotRegressed s (machine.next s op)) (Impl.new {})
        [.defineEngine { engineId := ⟨1⟩, configGeneration := ⟨5⟩ },
          .defineEngine { engineId := ⟨1⟩, configGeneration := ⟨3⟩ }] ∧
      ¬ machine.Along (fun s op => NotRegressed s (machine.next s op)) (Impl.new {})
        [.advanceEpoch, .load sampleBlob] := by
  constructor
  · rintro ⟨-, hlast, -⟩
    have hconfig := hlast.config ⟨1⟩ _ _ rfl rfl
    exact absurd hconfig (by decide)
  · rintro ⟨-, hlast, -⟩
    exact absurd hlast.epoch (by decide +kernel)

end EngineResidency.Runtime
