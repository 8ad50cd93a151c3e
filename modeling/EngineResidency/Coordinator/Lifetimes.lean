-- SUMMARY: A coordinator that is restarted from what earlier coordinators have saved is never ended by an exception.
import EngineResidency.Coordinator.Responses
import EngineResidency.Runtime.Bounds
import EngineResidency.Runtime.SaveRecover

/-!
# Lifetimes

A coordinator that is started again recovers what one before it has saved, at any time and
perhaps not completely. A recovery checks neither that the engine of an incarnation is there
nor that it can take all the records, so whether it can be relied on is a question about
all the coordinators that have gone before. What carries over from each to the next is that
every incarnation belongs to an engine that is saved with it.
-/

namespace EngineResidency

theorem FitsList.perm {A : Type} {P : A → Prop} {as bs : List A} (h : FitsList P bs)
    (hperm : as.Perm bs) : FitsList P as :=
  ⟨hperm.length_eq ▸ h.length_le, fun a ha => h.all a (hperm.mem_iff.mp ha)⟩

namespace Runtime

variable {s s' : Impl} {op : Op} {r : Except Err Reply} {p p' : PersistentState} {blob file : Str}

/-! ## What is needed to save -/

/-- The operation changes definitions. -/
def Op.Defines : Op → Prop
  | .defineEngine _ | .updateEngineConfig _ _ | .defineProfile _ | .load _ => True
  | _ => False

theorem Op.Defines.of_isLoad (h : op.IsLoad) : op.Defines := by
  cases op with
  | load => trivial
  | _ => exact h.elim

/-- The definitions can be read back. -/
structure DefinitionsFit (s : Impl) : Prop where
  engines : FitsList EngineDefinition.WellFormed s.engines.values
  profiles : FitsList ReadinessProfile.WellFormed s.profiles.values

/-- What a runtime saves can be relied on when it is recovered. -/
structure Reliable (s : Impl) : Prop where
  opts : s.opts = {}
  keyed : WellKeyed s
  anchored : Anchored s
  definitions : DefinitionsFit s
  incarnations : s.incarnations.size ≤ Persistence.kMaxCount

theorem Transition.definitions_eq (h : Transition s op r s') (hop : ¬ op.Defines) :
    s'.engines = s.engines ∧ s'.profiles = s.profiles := by
  cases h with
  | defineEngine | updateEngineConfig | defineProfile | load => exact absurd trivial hop
  | _ => exact ⟨rfl, rfl⟩

theorem Transition.reliable (h : Transition s op r s') (hop : ¬ op.Defines) (hs : Reliable s) :
    Reliable s' := by
  have hload : ¬ op.IsLoad := fun hload => hop (.of_isLoad hload)
  obtain ⟨hengines, hprofiles⟩ := h.definitions_eq hop
  refine ⟨h.opts_eq.trans hs.opts, h.wellKeyed hs.keyed, h.anchored ?_ hs.anchored, ⟨?_, ?_⟩, ?_⟩
  · rintro blob p rfl -
    exact absurd trivial hload
  · exact hengines ▸ hs.definitions.engines
  · exact hprofiles ▸ hs.definitions.profiles
  · refine (h.within hload .incarnations).trans (max_le hs.incarnations ?_)
    rw [hs.opts]
    decide

theorem fitsList_values {K A : Type} [DecidableEq K] {P : A → Prop} {key : A → K} {as : List A}
    (h : FitsList P as) :
    FitsList P (as.foldl (fun (m : UMap K A) a => m.insert (key a) a) ∅).values := by
  refine ⟨?_, fun a ha => ?_⟩
  · have hsize : (as.foldl (fun (m : UMap K A) a => m.insert (key a) (id a)) ∅).size ≤
        0 + as.length := AList.size_foldl_insert_le as ∅
    rw [AList.values, List.length_map]
    exact (hsize.trans (Nat.zero_add _).le).trans h.length_le
  · obtain ⟨k, hk⟩ := AList.mem_values.mp ha
    rcases AList.lookup_foldl_insert (f := id) hk with ⟨x, hx, -, rfl⟩ | hempty
    · exact h.all _ hx
    · simp at hempty

theorem reliable_restored (hopts : s.opts = {}) (hp : p.WellFormed) (hanchored : p.Anchored) :
    Reliable (restored s p) := by
  refine ⟨hopts, wellKeyed_restored, anchored_restored hanchored,
    ⟨fitsList_values hp.engines, fitsList_values hp.profiles⟩, ?_⟩
  exact ((AList.size_foldl_insert_le p.incarnations ∅).trans (Nat.zero_add _).le).trans
    hp.incarnations.length_le

theorem Transition.reliable_load (h : Transition s (.load blob) r s')
    (hp : ∀ p, Persistence.deserializePersistentState blob = .ok p → p.Anchored) (hs : Reliable s) :
    Reliable s' := by
  cases h with
  | refused => exact hs
  | load hblob =>
    exact reliable_restored hs.opts (Persistence.wellFormed_of_deserialize hblob) (hp _ hblob)

/-! ## What is saved and recovered -/

/-- The incarnations that a runtime saves belong to engines that it saves. -/
theorem Collects.anchored (hp : Collects s p) (hs : Reliable s) : p.Anchored := by
  intro i hi
  obtain ⟨id, hid⟩ := AList.mem_values.mp (hp.incarnations.mem_iff.mp hi)
  obtain ⟨e, he⟩ := Option.isSome_iff_exists.mp (hs.anchored id i hid)
  exact ⟨e, hp.engines.mem_iff.mpr (AList.mem_values.mpr ⟨_, he⟩), hs.keyed.engines _ e he⟩

/-- What is accepted of a file that a reliable runtime has left behind is anchored. -/
theorem Collects.accepted (hp : Collects s p) (hs : Reliable s)
    (hsaved : Persistence.serializePersistentState p = .ok blob)
    (hfile : file <+: blob ∨ blob <+: file)
    (haccepted : Persistence.deserializePersistentState file = .ok p') : p'.Anchored := by
  have hcount : p.incarnations.length < 2 ^ 32 := by
    have hlen := hp.incarnations.length_eq
    have hsize := hs.incarnations
    rw [AList.values, List.length_map] at hlen
    exact Nat.lt_of_le_of_lt (hlen.le.trans hsize) (by decide)
  obtain ⟨hengines, hincs⟩ := Persistence.accepted_engines_incarnations hsaved hfile haccepted
    (hs.definitions.engines.perm hp.engines) (hs.definitions.profiles.perm hp.profiles) hcount
  intro i hi
  obtain ⟨e, he, heq⟩ := hp.anchored hs i (hincs ▸ hi)
  exact ⟨e, hengines.symm ▸ he, heq⟩

end Runtime

end EngineResidency

namespace EngineResidency.Coordinator

open EngineResidency.Runtime

variable {state : Option Str} {scs : List (Sched Input)}

/-! ## One lifetime -/

theorem reliable_seeded : Reliable (startup none) := by
  refine ⟨rfl, wellKeyed_exec {} seedReferenceEngine, ?_, ⟨?_, ?_⟩, ?_⟩
  · intro id i hi
    cases hi
  · decide
  · decide
  · decide

/-- A coordinator starts reliably, if it accepts no file but one whose incarnations belong to
engines of that file. -/
theorem reliable_startup (h : ∀ blob p, state = some blob →
    Persistence.deserializePersistentState blob = .ok p → p.Anchored) :
    Reliable (startup state) := by
  cases state with
  | none => exact reliable_seeded
  | some blob =>
    have hloaded : Reliable (machine.next (startup none) (.load blob)) :=
      (step_transition _ _).reliable_load (fun p => h blob p rfl) reliable_seeded
    have hadvanced := (step_transition _ .advanceEpoch).reliable id hloaded
    unfold startup
    dsimp only
    split
    · exact hadvanced
    · exact hloaded

theorem Call.not_defines (c : Call) (now admittedAt : DurationNs) :
    ¬ (c.op now admittedAt).Defines := by
  cases c <;> exact id

theorem reliable_exec (h : Reliable (startup state)) (scs : List (Sched Input)) :
    Reliable (coordinator.machine.exec (listening state) scs).shared.runtime :=
  exec_runtime h (Machine.along_of_mem (C := fun _ _ => True) fun _ _ _ => trivial)
    fun _ _ _ c _ _ hs => (step_transition _ _).reliable (c.not_defines _ _) hs

/-! ## All lifetimes -/

/-- The state files that coordinators leave behind: none, or what a coordinator that was started
with such a file has saved in any state of a run, listed in any order. The file may hold a part
of what was saved, or have more bytes after it. -/
inductive LeftBehind : Option Str → Prop
  | none : LeftBehind none
  | saved {state : Option Str} {scs : List (Sched Input)} {p : PersistentState} {blob file : Str}
    (hstate : LeftBehind state)
    (hp : Collects (coordinator.machine.exec (listening state) scs).shared.runtime p)
    (hblob : Persistence.serializePersistentState p = .ok blob)
    (hfile : file <+: blob ∨ blob <+: file) : LeftBehind (some file)

theorem LeftBehind.reliable (h : LeftBehind state) : Reliable (startup state) := by
  induction h with
  | none => exact reliable_seeded
  | saved _ hp hblob hfile ih =>
    refine reliable_startup fun file p hstate haccepted => ?_
    cases hstate
    exact hp.accepted (reliable_exec ih _) hblob hfile haccepted

/-- However often a coordinator is restarted from what the coordinators before it have left behind,
whenever they have saved and wherever a save was cut off: no message, and no interleaving of the
sessions, makes an exception escape and end the process. -/
theorem never_crashed (h : LeftBehind state) (scs : List (Sched Input)) :
    (coordinator.machine.exec (listening state) scs).shared.crashed = false := by
  obtain ⟨-, hresponsive⟩ := exec_responsive False (fun _ => h.reliable.anchored) scs
  have hpool := System.exec_traced_pool (S := coordinator) (tracing state) scs
  refine Bool.eq_false_iff.mpr fun hcrashed => hresponsive.crashed ?_
  rw [hpool]
  exact hcrashed

/-- A worker registers, its coordinator saves, and the next one hears from the worker again. -/
theorem never_crashed_second :
    ∃ blob, Runtime.serialize
        (coordinator.machine.exec (listening none) sampleRegister).shared.runtime = .ok blob ∧
      (coordinator.machine.exec (listening (some blob)) sampleRegister).shared.crashed = false := by
  obtain ⟨blob, hblob, -⟩ := Persistence.serialize_recovers
    (s := persisted (coordinator.machine.exec (listening none) sampleRegister).shared.runtime)
    (by decide +kernel)
  have hleft : LeftBehind (some blob) :=
    .saved .none (collects_persisted _) hblob (.inl (List.prefix_refl blob))
  exact ⟨blob, hblob, never_crashed hleft sampleRegister⟩

end EngineResidency.Coordinator
