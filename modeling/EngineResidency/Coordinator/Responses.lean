-- SUMMARY: What threads get from the runtime and the registry, and that every connection talks by the rules in every run.
import EngineResidency.Coordinator.Conversation

/-!
# Responses

A conversation rests on what the thread is told: a call of the runtime returns the record that
belongs to it or throws an error whose message is one line, a promise holds a reply that can be
written to a connection, and the registry has only grown since the thread has seen it. All of this
holds in every interleaving, and so do the rules of the conversations.
-/

namespace EngineResidency.Coordinator

open EngineResidency.Runtime Prog

variable {reason : Prop} {input : Input} {s s' : SessionShared}

/-! ## The runtime -/

/-- The value of a mapped program is in the image of the map. -/
theorem image_of_result {A B : Type} {f : A → B} {m : Rt A} {i : Impl} {b : B}
    (h : (EStateM.runResult (f <$> m) i).1 = .ok b) : ∃ a, b = f a := by
  have himage : EStateM.wp (f <$> m) (fun r _ => ∀ b, r = .ok b → ∃ a, b = f a) i := by
    refine EStateM.wp_map (EStateM.wp_iff.mpr fun b hb => ?_)
    cases hr : (EStateM.runResult m i).1 with
    | ok a =>
      rw [hr] at hb
      cases hb
      exact ⟨a, rfl⟩
    | error e =>
      rw [hr] at hb
      cases hb
  exact EStateM.wp_iff.mp himage b h

/-- A call that succeeds replies with the record that its handler expects. -/
theorem Call.shapes {c : Call} {now admittedAt : DurationNs} {i : Impl} {reply : Reply}
    (h : machine.result i (c.op now admittedAt) = .ok reply) : c.Shapes reply := by
  cases c with
  | releaseServingUse | requestDrain | acknowledgeBackendCleanup | fenceWorker => trivial
  | _ => exact image_of_result h

theorem Call.proper {c : Call} {now admittedAt : DurationNs} {i : Impl}
    (hi : ¬ reason → Anchored i) {e : Err}
    (h : machine.result i (c.op now admittedAt) = .error e) : e.Proper reason :=
  EStateM.wp_iff.mp (step_throws hi (c.not_isLoad now admittedAt)) e h

theorem proper_evaluateReadiness {i : Impl} {id : EngineIncarnationId}
    {profile : ReadinessProfileId} {now : DurationNs} {e : Err}
    (h : Runtime.evaluateReadiness i id profile now = .error e) : e.Proper reason := by
  unfold Runtime.evaluateReadiness at h
  cases hinc : i.findInc id with
  | none =>
    simp only [hinc] at h
    cases h
    exact proper_domainError (by decide)
  | some inc =>
    cases hprofile : i.profiles.lookup profile with
    | none =>
      simp only [hinc, hprofile] at h
      cases h
      exact proper_domainError (by decide)
    | some prof =>
      simp only [hinc, hprofile] at h
      change (if _ then _ else _) = _ at h
      split at h
      · cases h
        exact proper_domainError (by decide)
      · cases hengine : i.engines.lookup inc.engineId with
        | none =>
          simp only [hengine] at h
          cases h
          exact proper_domainError (by decide)
        | some engine =>
          simp only [hengine] at h
          change (if _ then _ else _) = _ at h
          split at h <;> cases h

theorem proper_currentReadinessGeneration {i : Impl} {id : EngineIncarnationId} {e : Err}
    (h : Runtime.currentReadinessGeneration i id = .error e) : e.Proper reason := by
  unfold Runtime.currentReadinessGeneration at h
  cases hinc : i.findInc id with
  | none =>
    simp only [hinc] at h
    cases h
    exact proper_domainError (by decide)
  | some inc =>
    simp only [hinc] at h
    cases h

theorem proper_serialize {i : Impl} {e : Err} (h : Runtime.serialize i = .error e) :
    e.Proper reason := by
  rw [show e = _ from Persistence.serialize_error h]
  exact proper_domainError (by decide)

/-! ## One action -/

theorem not_crashed_of_performAlive {a : Action} {r : a.Res}
    (h : performAlive input s a = some (r, s')) : s.crashed = false := by
  unfold performAlive at h
  split at h
  · cases h
  · exact Bool.eq_false_iff.mpr ‹_›

/-- The process ends by itself alone. -/
theorem abort_of_crashed {a : Action} {r : a.Res} (h : performAlive input s a = some (r, s'))
    (hcrashed : s'.crashed = true) : a = .abort := by
  have halive := not_crashed_of_performAlive h
  have hkept : s'.crashed = s.crashed → a = .abort := fun hsame => by
    rw [hsame, halive] at hcrashed
    cases hcrashed
  cases a with
  | abort => rfl
  | locked ready f =>
    simp only [performAlive, perform, Option.ite_none_right_eq_some,
      Option.ite_none_left_eq_some, Option.some.injEq] at h
    obtain ⟨-, -, heq⟩ := h
    cases heq
    exact hkept rfl
  | await ticket =>
    simp only [performAlive, perform] at h
    split at h
    · cases h
    · split at h
      · cases h
        exact hkept rfl
      · obtain ⟨rep, -, heq⟩ := Option.map_eq_some_iff.mp h
        cases heq
        exact hkept rfl
  | call c | query q | recv | send m =>
    unfold performAlive at h
    split at h
    · cases h
    · cases h
      exact hkept rfl

theorem crashed_of_abort {r : Action.abort.Res} (h : performAlive input s .abort = some (r, s')) :
    s'.crashed = true := by
  unfold performAlive at h
  split at h
  · cases h
  · cases h
    rfl

/-- Every response is one to expect. -/
theorem performAlive_expected {seen : Registry} (hseen : seen.Extends s.registry)
    (hclean : s.registry.Clean) (hanchored : ¬ reason → Anchored s.runtime) {a : Action} {r : a.Res}
    (h : performAlive input s a = some (r, s')) : Expected reason seen a r := by
  cases a with
  | call c =>
    obtain ⟨hr, -⟩ := performAlive_call h
    subst hr
    exact ⟨fun reply hreply => Call.shapes hreply, fun e he => Call.proper hanchored he⟩
  | query q =>
    simp only [performAlive, perform, Option.ite_none_left_eq_some, Option.some.injEq] at h
    obtain ⟨-, heq⟩ := h
    cases heq
    cases q with
    | currentReadinessGeneration id => exact fun e he => proper_currentReadinessGeneration he
    | evaluateReadiness id profile => exact fun e he => proper_evaluateReadiness he
    | serialize => exact fun e he => proper_serialize he
    | _ => trivial
  | locked ready f =>
    simp only [performAlive, perform, Option.ite_none_right_eq_some,
      Option.ite_none_left_eq_some, Option.some.injEq] at h
    obtain ⟨-, -, heq⟩ := h
    cases heq
    exact hseen
  | await ticket =>
    intro rep hrep
    simp only [performAlive, perform] at h
    split at h
    · cases h
    · split at h
      · cases h
        cases hrep
      · obtain ⟨rep', hlookup, heq⟩ := Option.map_eq_some_iff.mp h
        cases heq
        cases hrep
        exact hclean ticket rep hlookup
  | recv | send m | abort => trivial

/-! ## Runs -/

/-- Where a thread stands. -/
def standing (reason : Prop) (st : Traces) (tid : Nat) : Standing :=
  (manners reason).after {} (System.stepsOf st tid)

/-- What a run keeps for the responses: the promises are clean, every thread has seen the registry
grow, and the process has not ended, unless there is a reason. -/
structure Responsive (reason : Prop) (st : Traces) : Prop where
  routed : Routed st
  clean : st.pool.shared.registry.Clean
  seen : ∀ tid, (standing reason st tid).seen.Extends st.pool.shared.registry
  ended : ∀ tid, (standing reason st tid).phase = .ended → st.pool.shared.crashed = true
  crashed : st.pool.shared.crashed = true → reason
  anchored : ¬ reason → Anchored st.pool.shared.runtime

/-- The threads of the run follow the discipline of the connections. -/
abbrev Minded (reason : Prop) (st : Traces) : Prop :=
  System.Disciplined (manners reason) {} Poised st

variable {st st' : Traces} {sc : Sched Input}

theorem standing_concat {e : Entry} (h : st'.log = st.log ++ [e]) (tid : Nat) :
    standing reason st' tid =
      if e.tid = tid then (standing reason st tid).after e.step else standing reason st tid := by
  unfold standing
  rw [System.stepsOf_concat h]
  split
  · rw [Discipline.after_concat]
    rfl
  · rfl

/-- The response to an action of a thread is one to expect where the thread stands. -/
theorem Responsive.answers (hst : Responsive reason st) {tid : Nat} {a : Action} {r : a.Res}
    (h : performAlive input st.pool.shared a = some (r, s')) :
    (manners reason).answers (standing reason st tid) a r := by
  refine ⟨fun hended => ?_, performAlive_expected (hst.seen tid) hst.clean hst.anchored h⟩
  have halive := not_crashed_of_performAlive h
  rw [hst.ended tid hended] at halive
  cases halive

theorem Phase.ne_ended_of_answered {m reply : ProtocolMessage} {x : Phase}
    (h : Phase.answered m reply = some x) : x ≠ .ended := by
  unfold Phase.answered at h
  split at h
  · split at h <;> cases h <;> nofun
  · cases h

theorem Phase.ne_ended_of_commanded {cmd : ProtocolMessage} {sent : Bool} {x : Phase}
    (h : Phase.commanded cmd sent = some x) : x ≠ .ended := by
  unfold Phase.commanded at h
  split at h
  · cases sent <;> cases h <;> nofun
  · cases h

/-- No other step ends the process. -/
theorem Phase.abort_of_ended {x : Phase} {e : Deed} (h : x.after e = some .ended) :
    e.1 = .abort := by
  obtain ⟨a, r⟩ := e
  cases a with
  | abort => rfl
  | recv => cases x <;> cases r <;> cases h
  | call | query | locked | await => cases x <;> cases h
  | send m =>
    cases x with
    | asked => exact absurd rfl (Phase.ne_ended_of_answered h)
    | commanding => exact absurd rfl (Phase.ne_ended_of_commanded h)
    | _ => cases h

theorem Standing.after_phase {x : Standing} {e : Deed} (h : (x.phase.after e).isSome) :
    x.phase.after e = some (x.after e).phase := by
  obtain ⟨phase, hphase⟩ := Option.isSome_iff_exists.mp h
  have hnext : (x.after e).phase = phase := congrArg (fun p => Option.getD p Phase.ended) hphase
  rw [hphase, hnext]

/-- What an action leaves of the registry and of what its thread has seen. -/
theorem seen_after {x : Standing} {a : Action} {r : a.Res} (hseen : x.seen.Extends s.registry)
    (hext : s.registry.Extends s'.registry) (h : performAlive input s a = some (r, s')) :
    (x.after ⟨a, r⟩).seen.Extends s'.registry := by
  rcases performAlive_registry h with ⟨-, hother⟩ | ⟨ready, f, hdeed, hnext⟩
  · have hsame : (x.after ⟨a, r⟩).seen = x.seen := by
      cases a with
      | locked ready f => exact absurd rfl (hother ready f)
      | _ => rfl
    rw [hsame]
    exact hseen.trans hext
  · rw [hdeed, hnext]
    exact .refl _

theorem clean_after {a : Action} {r : a.Res} (hclean : s.registry.Clean)
    (hmannered : Mannered reason a) (h : performAlive input s a = some (r, s')) :
    s'.registry.Clean := by
  rcases performAlive_registry h with ⟨hsame, -⟩ | ⟨ready, f, hdeed, hnext⟩
  · rw [hsame]
    exact hclean
  · cases hdeed
    rw [hnext]
    exact hmannered _ hclean

theorem anchored_after {a : Action} {r : a.Res} (hs : Anchored s.runtime)
    (h : performAlive input s a = some (r, s')) : Anchored s'.runtime := by
  rcases performAlive_runtime h with hsame | ⟨c, -, hnext⟩
  · rw [hsame]
    exact hs
  · rw [hnext]
    refine (step_transition _ _).anchored (fun blob p hop => ?_) hs
    exact absurd (hop ▸ trivial : (c.op input.now input.admittedAt).IsLoad) (c.not_isLoad _ _)

theorem Responsive.advance (hst : Responsive reason st) (hminded : Minded reason st)
    (h : Turns st sc st') : Responsive reason st' := by
  have hrouted := hst.routed.advance h
  obtain ⟨-, hext⟩ := hst.routed.extends h
  cases h with
  | spawned | blocked | looped =>
    exact ⟨hrouted, hst.clean, hst.seen, hst.ended, hst.crashed, hst.anchored⟩
  | @acted tid input a k r s rd hthread _ _ hperform =>
    have hanswers : (manners reason).answers (standing reason st tid) a r := hst.answers hperform
    obtain ⟨hphase, hmannered⟩ := (hminded.thread tid _ hthread).1.resolve_left hanswers.1
    refine ⟨hrouted, clean_after hst.clean hmannered hperform, fun tid' => ?_, fun tid' hended => ?_,
      fun hcrashed => ?_, fun hno => anchored_after (hst.anchored hno) hperform⟩
    · rw [standing_concat rfl]
      split
      · rename_i heq
        obtain rfl : tid = tid' := heq
        exact seen_after (hst.seen tid) hext hperform
      · exact (hst.seen tid').trans hext
    · rw [standing_concat rfl] at hended
      have habort : a = .abort := by
        split at hended
        · rename_i heq
          obtain rfl : tid = tid' := heq
          exact Phase.abort_of_ended
            ((Standing.after_phase (hphase r)).trans (congrArg some hended))
        · -- Another thread has ended the process before.
          have halive := not_crashed_of_performAlive hperform
          rw [hst.ended tid' hended] at halive
          cases halive
      subst habort
      exact crashed_of_abort hperform
    · have habort := abort_of_crashed hperform hcrashed
      subst habort
      exact hmannered

theorem responsive_tracing {state : Option Str} (hanchored : ¬ reason → Anchored (startup state)) :
    Responsive reason (tracing state) :=
  ⟨routed_tracing state, nofun, fun _ => .refl _, nofun, nofun, hanchored⟩

/-- Every connection of a run talks by the rules, and the process has ended only for a reason. -/
theorem exec_responsive (reason : Prop) {state : Option Str}
    (hanchored : ¬ reason → Anchored (startup state)) (scs : List (Sched Input)) :
    Minded reason (coordinator.traced.exec (tracing state) scs) ∧
      Responsive reason (coordinator.traced.exec (tracing state) scs) := by
  refine System.exec_disciplined (C := fun _ _ => True) outline_runSession
    (fun l x hx => minds_runSession l hx) (.inl rfl) (responsive_tracing hanchored)
    (Machine.along_of_mem fun _ _ _ => trivial) ?_ ?_
  · intro st tid input a k r s _ _ hst _ hperform
    exact hst.answers hperform
  · intro st sc st' _ hminded _ hturns _ hst
    exact hst.advance hminded hturns

/-! ## Conversations -/

/-- Lawful steps go through the phases. -/
theorem phases_of_lawful {es : List Deed} (h : (manners reason).Lawful {} es) :
    es.foldlM Phase.after .idle = some ((manners reason).after {} es).phase :=
  h.foldlM (f := Standing.phase) fun _ e hallows hanswers =>
    Standing.after_phase ((hallows.resolve_left hanswers.1).1 e.2)

/-- Whatever the peers and the other threads do, a thread that is not a dispatcher answers every
message before it receives the next one, once, with the success of that message or an error; a
routed request gets the identity of its command back. A thread that has acknowledged
COMMAND_READY sends executions and drains alone, one at a time, and receives after each.
Nobody talks to a peer that is gone, and nothing is done after the process has ended. -/
theorem conversations (state : Option Str) (scs : List (Sched Input)) (tid : Nat) :
    ((System.stepsOf (coordinator.traced.exec (tracing state) scs) tid).foldlM
      Phase.after .idle).isSome := by
  have hanchored : ¬ True → Anchored (startup state) := absurd trivial
  obtain ⟨hminded, -⟩ := exec_responsive True hanchored scs
  rw [phases_of_lawful (hminded.lawful tid)]
  rfl

end EngineResidency.Coordinator
