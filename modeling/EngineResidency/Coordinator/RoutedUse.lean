-- SUMMARY: A routed execution releases the use it has acquired before its command is answered.
import EngineResidency.Coordinator.Tally

/-!
# The uses of routed executions

The dispatcher of a router acquires a use for an EXECUTE command and answers the command
only when it owes no use. A release that fails is ignored, but it fails only when the use
is released already. So the use is released when the promise of the command is set, and is
counted out once, whatever the worker sends and whatever other sessions do meanwhile.
-/

namespace EngineResidency.Coordinator

open EngineResidency.Runtime

/-- The current round of the thread, as the dispatcher of the router, has taken the command
and has acquired the use. -/
structure Executes (st : Traces) (tid rid ticket : Nat) (x : ServingUseId)
    (id : EngineIncarnationId) (rd : Round Action Action.Res Loop) : Prop where
  round : st.rounds[tid]? = some rd
  dispatches : ∃ l, rd.start = .dispatch l rid
  command : ticket ∈ tickets (removed rid rd.steps)
  acquired : ∃ e ∈ rd.steps, Acquires x id e

section Execution

variable {st st' : Traces} {sc : Sched Input} {tid rid ticket : Nat} {x : ServingUseId}
  {id : EngineIncarnationId} {rd : Round Action Action.Res Loop}

/-- A round that owes nothing has asked for the release of what it has acquired. -/
theorem Executes.releaseAsked (hexecutes : Executes st tid rid ticket x id rd)
    (houtlined : System.Outlined Guarantee Settled st) (howed : owed rd.steps = []) :
    ReleaseAsked (deeds st) x id := by
  obtain ⟨e, he, hacq⟩ := hexecutes.acquired
  have hnot : (x, id) ∉ owed rd.steps := by
    rw [howed]
    exact List.not_mem_nil
  exact (releaseAsked_of_not_owed he hacq hnot).of_sublist (steps_sublist houtlined hexecutes.round)

/-- Until the release is asked for, the command is in hand and its promise is not set. -/
def Unanswered (st : Traces) (tid rid ticket : Nat) (x : ServingUseId) (id : EngineIncarnationId) :
    Prop :=
  ReleaseAsked (deeds st) x id ∨ ((∃ rd, Executes st tid rid ticket x id rd) ∧
    st.pool.shared.registry.replies.lookup ticket = none)

/-- A section that sets the promise of a command in hand is made by its dispatcher, which
owes nothing. -/
theorem Executes.answer (hexecutes : Executes st tid rid ticket x id rd) (hst : Sound st)
    {tid' : Nat} {rd' : Round Action Action.Res Loop} (hround' : st.rounds[tid']? = some rd')
    {f : Registry → Registry} (hcritical : Critical rd'.start rd'.steps f)
    (hunset : st.pool.shared.registry.replies.lookup ticket = none)
    (hset : ((f st.pool.shared.registry).replies.lookup ticket).isSome = true) :
    ReleaseAsked (deeds st) x id := by
  obtain ⟨houtlined, hrouted, hconserved⟩ := hst
  obtain ⟨l, hstart⟩ := hexecutes.dispatches
  have hdeal := hconserved.deal houtlined hrouted hround' hcritical
  have haccepted := hconserved.booked.accepted_of_taken
    (mem_removed_of_sublist (steps_sublist houtlined hexecutes.round) hexecutes.command)
  rcases hdeal.answers hconserved.booked
    (fun _ _ _ _ => mem_removed_of_sublist (steps_sublist houtlined hround')) haccepted hset with
    hbefore | ⟨l', rep, hstart', -, rfl⟩
  · rw [hunset] at hbefore
    cases hbefore
  · obtain rfl := hrouted.unique tid tid' rd rd' rid hexecutes.round hround' (.inl ⟨l, hstart⟩)
      (.inl ⟨l', hstart'⟩)
    cases hexecutes.round.symm.trans hround'
    exact hexecutes.releaseAsked houtlined hcritical.answers.1

theorem Unanswered.advance (hopen : Unanswered st tid rid ticket x id) (hst : Sound st)
    (h : Turns st sc st') : Unanswered st' tid rid ticket x id := by
  rcases hopen with hasked | ⟨⟨rd, hexecutes⟩, hunset⟩
  · obtain ⟨es, hlog⟩ := h.log
    refine .inl ?_
    rw [deeds, hlog, List.map_append]
    exact hasked.append _
  obtain ⟨l, hstart⟩ := hexecutes.dispatches
  cases h with
  | blocked => exact .inr ⟨⟨rd, hexecutes⟩, hunset⟩
  | spawned =>
    obtain ⟨hlt, -⟩ := List.getElem?_eq_some_iff.mp hexecutes.round
    exact .inr ⟨⟨rd, (List.getElem?_append_left hlt).trans hexecutes.round, hexecutes.dispatches,
      hexecutes.command, hexecutes.acquired⟩, hunset⟩
  | @looped tid' _ _ rd' hround' hend =>
    by_cases hne : tid' = tid
    · -- The round ends with nothing owed.
      subst hne
      cases hexecutes.round.symm.trans hround'
      exact .inl (hexecutes.releaseAsked hst.outlined (hend.owed l rid hstart))
    · exact .inr ⟨⟨rd, (List.getElem?_set_ne hne).trans hexecutes.round, hexecutes.dispatches,
        hexecutes.command, hexecutes.acquired⟩, hunset⟩
  | @acted tid' input a k r s rd' _ hround' hguarantee hperform =>
    by_cases hset : (s.registry.replies.lookup ticket).isSome = true
    · refine .inl (deeds_acted ▸ ReleaseAsked.append ?_ _)
      rcases performAlive_registry hperform with ⟨hsame, -⟩ | ⟨ready, f, hdeed, hnext⟩
      · rw [hsame, hunset] at hset
        cases hset
      · cases hdeed
        exact hexecutes.answer hst hround' hguarantee hunset (hnext ▸ hset)
    · refine .inr ⟨?_, by simpa using hset⟩
      by_cases hne : tid' = tid
      · subst hne
        cases hexecutes.round.symm.trans hround'
        obtain ⟨hlt, -⟩ := List.getElem?_eq_some_iff.mp hround'
        obtain ⟨e, he, hacq⟩ := hexecutes.acquired
        refine ⟨_, List.getElem?_set_self hlt, hexecutes.dispatches, ?_,
          e, List.mem_append_left _ he, hacq⟩
        dsimp only
        rw [removed_append, tickets, List.map_append]
        exact List.mem_append_left _ hexecutes.command
      · exact ⟨rd, (List.getElem?_set_ne hne).trans hexecutes.round, hexecutes.dispatches,
          hexecutes.command, hexecutes.acquired⟩

theorem removedBy_of_unlocked {a : Action} (ha : ∀ ready f, a ≠ .locked ready f) {r : a.Res} :
    removedBy rid ⟨a, r⟩ = [] := by
  cases a with
  | locked ready f => exact absurd rfl (ha ready f)
  | _ => rfl

/-- What a dispatcher has just taken off the queue is not answered. -/
theorem Sound.unset_of_taken (hst : Sound st) {tid : Nat} {rd : Round Action Action.Res Loop}
    {l : SessionLocal} (hround : st.rounds[tid]? = some rd) (hstart : rd.start = .dispatch l rid)
    (hmem : ticket ∈ tickets (removed rid rd.steps)) (hopen : ¬ Fulfilled rd.steps ticket) :
    st.pool.shared.registry.replies.lookup ticket = none := by
  by_contra hset
  exact hopen ((hst.conserved.serving tid rd l rid hround hstart).answers ticket hmem
    (Option.isSome_iff_ne_none.mpr hset))

/-- Every command for which a use has been acquired is unanswered until the release of the
use is asked for. -/
def Awaiting (st : Traces) : Prop :=
  ∀ tid rid ticket x id rd, Executes st tid rid ticket x id rd →
    Unanswered st tid rid ticket x id

theorem Awaiting.advance (hawait : Awaiting st) (hst : Sound st) (hst' : Sound st')
    (h : Turns st sc st') : Awaiting st' := by
  intro tid rid ticket x id rd' hexecutes'
  obtain ⟨l, hstart⟩ := hexecutes'.dispatches
  have hcommand := hexecutes'.command
  obtain ⟨e, he, hacq⟩ := hexecutes'.acquired
  rcases h.round hexecutes'.round with
    hold | ⟨hnil, -⟩ | ⟨input, a, k, r, rd, rfl, -, hround, hguarantee, hperform, rfl, -⟩
  · exact (hawait tid rid ticket x id rd' ⟨hold, ⟨l, hstart⟩, hcommand, e, he, hacq⟩).advance hst h
  · rw [hnil] at he
    cases he
  · by_cases hbefore : Executes st tid rid ticket x id rd
    · exact (hawait tid rid ticket x id rd hbefore).advance hst h
    refine .inr ⟨⟨_, hexecutes'⟩, hst'.unset_of_taken hexecutes'.round hstart hcommand ?_⟩
    intro hfulfilled
    rcases List.mem_append.mp he with hold | hnew
    · -- The command was taken by this step, and was queued before it.
      have hnot : ticket ∉ tickets (removed rid rd.steps) := fun hmem =>
        hbefore ⟨hround, ⟨l, hstart⟩, hmem, e, hold, hacq⟩
      dsimp only at hcommand
      rw [removed_append, tickets, List.map_append] at hcommand
      have htaken := (List.mem_append.mp hcommand).resolve_left hnot
      rcases performAlive_registry hperform with ⟨-, hother⟩ | ⟨ready, f, hdeed, -⟩
      · rw [removedBy_of_unlocked hother] at htaken
        cases htaken
      · cases hdeed
        have hunset := hst.conserved.booked.waiting rid ticket (mem_leaving htaken)
        rcases fulfilled_concat hfulfilled with hset | ⟨_, rep, _, heq⟩
        · obtain ⟨e', he', hanswers⟩ := hset.answers
          have hset := hst.conserved.answered e'
            ((steps_sublist hst.outlined hround).mem he') ticket hanswers
          rw [hunset] at hset
          cases hset
        · cases heq
          have hsame := leaving_same (queueOf_of_routers
            (routers_fulfil ticket rep st.pool.shared.registry) rid)
          rw [removedBy_locked, hsame] at htaken
          cases htaken
    · -- The use was acquired by this step, and the round has answered nothing before.
      rw [List.mem_singleton.mp hnew] at hacq
      obtain ⟨wanted, t, hdeed, -⟩ := hacq
      cases hdeed
      rcases fulfilled_concat hfulfilled with hset | ⟨_, _, _, heq⟩
      · exact (hguarantee l rid hstart).2 ticket hset
      · cases heq

end Execution

/-! ## Whole runs -/

theorem exec_sound (state : Option Str) (scs : List (Sched Input)) :
    Sound (coordinator.traced.exec (tracing state) scs) :=
  Machine.exec_always (sound_tracing state) (fun _ sc hst => (hst.next sc).2) scs

theorem exec_awaiting (state : Option Str) (scs : List (Sched Input)) :
    Awaiting (coordinator.traced.exec (tracing state) scs) := by
  refine (Machine.exec_always (I := fun st => Sound st ∧ Awaiting st) ⟨sound_tracing state, ?_⟩
    (fun st sc hst => ?_) scs).2
  · intro tid rid ticket x id rd hexecutes
    cases hexecutes.round
  · obtain ⟨hturn, hnext⟩ := hst.1.next sc
    exact ⟨hnext, hst.2.advance hst.1 hnext hturn⟩

/-- A routed execution does not leak its use. In every run, once a dispatcher has acquired a
use for a command, the use is released in every state in which the promise of the command
is set, and counted out once. -/
theorem routed_use_released (state : Option Str) (scs scs' : List (Sched Input))
    {tid rid ticket : Nat} {x : ServingUseId} {id : EngineIncarnationId}
    {rd : Round Action Action.Res Loop}
    (hexecutes : Executes (coordinator.traced.exec (tracing state) scs) tid rid ticket x id rd)
    (hfit : UsesFit (coordinator.traced.exec (tracing state) (scs ++ scs')).pool.shared.runtime) :
    let st := coordinator.traced.exec (tracing state) (scs ++ scs')
    ((st.pool.shared.registry.replies.lookup ticket).isSome = true →
      isReleased st.pool.shared.runtime x = true ∧ ((deeds st).filterMap countedOutBy).count x = 1) ∧
    st.pool.shared.runtime.activeUseCount.toNat + ((deeds st).filterMap countedOutBy).length =
      ((deeds st).filterMap acquiredBy).length := by
  intro st
  have htally : Tallied (deeds st) st.pool.shared.runtime := exec_tallied state (scs ++ scs') hfit
  have hopen : Unanswered st tid rid ticket x id := by
    have hrun := Machine.exec_always (M := coordinator.traced)
      (I := fun st => Sound st ∧ Unanswered st tid rid ticket x id)
      ⟨exec_sound state scs, exec_awaiting state scs tid rid ticket x id rd hexecutes⟩
      (fun st sc hst => ?_) scs'
    · rw [← Machine.exec_append] at hrun
      exact hrun.2
    · obtain ⟨hturn, hnext⟩ := hst.1.next sc
      exact ⟨hnext, hst.2.advance hst.1 hturn⟩
  refine ⟨fun hset => ?_, htally.total⟩
  rcases hopen with hasked | ⟨-, hunset⟩
  · have hreleased := htally.isReleased hasked
    refine ⟨hreleased, ?_⟩
    rw [htally.released x, hreleased]
    rfl
  · rw [hunset] at hset
    cases hset

/-- The step acquires the use for the incarnation, as a check. -/
def acquires (x : ServingUseId) (id : EngineIncarnationId) : Deed → Bool
  | ⟨.call (.acquireServingUse wanted), .ok (.token t)⟩ =>
    t.useId = x && wanted.incarnationId = id
  | _ => false

theorem acquires_of_check {x : ServingUseId} {id : EngineIncarnationId} {e : Deed}
    (h : acquires x id e = true) : Acquires x id e := by
  unfold acquires at h
  split at h
  · rename_i wanted t
    simp only [Bool.and_eq_true, decide_eq_true_eq] at h
    exact ⟨wanted, t, rfl, h.1, h.2⟩
  · cases h

/-- The thread executes the command with the use, as a check. -/
def executes (st : Traces) (tid rid ticket : Nat) (x : ServingUseId) (id : EngineIncarnationId) :
    Bool :=
  match st.rounds[tid]? with
  | some ⟨.dispatch _ k, steps⟩ =>
    k == rid && (tickets (removed rid steps)).contains ticket && steps.any (acquires x id)
  | _ => false

theorem executes_of_check {st : Traces} {tid rid ticket : Nat} {x : ServingUseId}
    {id : EngineIncarnationId} (h : executes st tid rid ticket x id = true) :
    ∃ rd, Executes st tid rid ticket x id rd := by
  unfold executes at h
  split at h
  · rename_i l k steps hround
    simp only [Bool.and_eq_true, beq_iff_eq, List.contains_iff_mem, List.any_eq_true] at h
    obtain ⟨⟨rfl, hmem⟩, e, he, hacq⟩ := h
    exact ⟨_, hround, ⟨l, rfl⟩, hmem, e, he, acquires_of_check hacq⟩
  · cases h

theorem routed_use_released_sample :
    let st := coordinator.traced.exec (tracing none) (sampleExecuting ++ sampleExecuted)
    (st.pool.shared.registry.replies.lookup 0).isSome = true ∧
      isReleased st.pool.shared.runtime ⟨2⟩ = true ∧
      ((deeds st).filterMap countedOutBy).count ⟨2⟩ = 1 := by
  obtain ⟨hexecutes, hset, hfit⟩ :
      executes (coordinator.traced.exec (tracing none) sampleExecuting) 0 0 0 ⟨2⟩ ⟨2⟩ = true ∧
      ((coordinator.traced.exec (tracing none)
        (sampleExecuting ++ sampleExecuted)).pool.shared.registry.replies.lookup 0).isSome = true ∧
      (coordinator.traced.exec (tracing none)
        (sampleExecuting ++ sampleExecuted)).pool.shared.runtime.activeUses.size < 2 ^ 63 := by
    decide +kernel
  obtain ⟨rd, hrd⟩ := executes_of_check hexecutes
  exact ⟨hset, (routed_use_released none sampleExecuting sampleExecuted hrd hfit).1 hset⟩

end EngineResidency.Coordinator
