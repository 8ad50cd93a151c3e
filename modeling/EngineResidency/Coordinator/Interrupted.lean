-- SUMMARY: State files that were cut short or run on: no part of a saved state is taken for a state.
import EngineResidency.Coordinator.Session
import EngineResidency.Persistence.ReadBack

/-!
# Interrupted saves

A coordinator that is stopped while it writes its state leaves the beginning of a blob
behind, and one that writes over a longer file without cutting it leaves a blob with more
bytes after it. Recovery reads a blob from front to back, without looking at its length
first; so it needs an argument that neither of the two is taken for a state.
-/

namespace EngineResidency.Persistence

open Codec LoadM

/-- No blob that recovery accepts is the beginning of another one. -/
theorem eq_of_both_accepted {blob blob' : Str} {s s' : PersistentState}
    (h : deserializePersistentState blob = .ok s) (h' : deserializePersistentState blob' = .ok s')
    (hpre : blob <+: blob') : blob = blob' := by
  obtain ⟨hshort, -, hread⟩ := deserialize_ok h
  obtain ⟨-, -, hread'⟩ := deserialize_ok h'
  have hlen := hpre.length_le
  have hbodies : blob.take (blob.length - 8) <+: blob'.take (blob'.length - 8) :=
    List.prefix_of_prefix_length_le ((List.take_prefix _ _).trans hpre) (List.take_prefix _ _)
      (by simp only [List.length_take]; omega)
  have hbody := Local.eq_of_prefix hread hread' hbodies
  -- The bodies have the same length, so the blobs have.
  have hlens := congrArg List.length hbody
  simp only [List.length_take] at hlens
  exact hpre.eq_of_length (by omega)

end EngineResidency.Persistence

namespace EngineResidency.Coordinator

open EngineResidency.Runtime Persistence

/-- A coordinator that refuses its state file starts as if there were none. -/
theorem startup_refused {blob : Str} {msg : String}
    (h : deserializePersistentState blob = .error msg) : startup (some blob) = startup none := by
  have hload : ∀ s : Impl, machine.step (.load blob) s =
      (.error (domainError .persistenceCorrupt msg), s) := by
    intro s
    simp only [machine, step, load, h]
    rfl
  simp only [startup, Machine.result, Machine.next, hload]

/-- A file that is a part of a saved state, or a saved state with more bytes after it, changes
nothing about how the coordinator starts. -/
theorem startup_interrupted {blob file : Str} {s : PersistentState}
    (h : deserializePersistentState blob = .ok s) (hne : file ≠ blob)
    (hcut : file <+: blob ∨ blob <+: file) : startup (some file) = startup none := by
  cases hfile : deserializePersistentState file with
  | error msg => exact startup_refused hfile
  | ok s' =>
    rcases hcut with hpart | hlonger
    · exact absurd (eq_of_both_accepted hfile h hpart) hne
    · exact absurd (eq_of_both_accepted h hfile hlonger).symm hne

/-- A state with a record of every kind, of which the last 123 bytes were not written. -/
theorem startup_interrupted_sample :
    ∃ blob, deserializePersistentState blob = .ok sampleState ∧ blob.length = 1123 ∧
      startup (some (blob.take 1000)) = startup none := by
  obtain ⟨blob, -, hlength, haccepted⟩ := sampleState_saved
  have hne : blob.take 1000 ≠ blob := by
    intro heq
    have hcut := congrArg List.length heq
    simp [hlength] at hcut
  exact ⟨blob, haccepted, hlength,
    startup_interrupted haccepted hne (.inl (List.take_prefix 1000 blob))⟩

end EngineResidency.Coordinator
