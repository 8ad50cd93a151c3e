-- SUMMARY: The order of the phases of a replacement over a whole run, and when a run keeps it.
import EngineResidency.Runtime.Declared

/-!
# Replacement protocol

A replacement goes through its phases in order: it begins in PREPARING, a cutover moves it
to CUTOVER, and the old incarnation is retired when its admitted work is done. `retireOld`
checks only that the plan is stored, and a recovery replaces all plans. `InOrder` is the
check that would be needed before each operation; a run keeps the order exactly when all
its operations pass it.
-/

namespace EngineResidency

/-- The place of a phase in the order of the protocol. -/
def ReplacementPhase.rank (phase : ReplacementPhase) : Nat := (CEnum.raw phase).toNat

namespace Runtime

open CEnum (Declared declared)
open EStateM Persistence

variable {s s' : Impl} {op : Op} {r : Except Err Reply} {rid : ReplacementId}
  {phase : ReplacementPhase} {opts : RuntimeOptions} {ops before : List Op}

/-! ## The order of the protocol -/

/-- The phase of a plan, when it is stored. -/
def planPhase (s : Impl) (rid : ReplacementId) : Option ReplacementPhase :=
  (s.replacementPlans.lookup rid).map (·.phase)

/-- No admitted use of an incarnation is open. -/
def NoOpenUse (s : Impl) (id : EngineIncarnationId) : Prop :=
  ∀ x u, s.activeUses.lookup x = some u → u.incarnationId = id → u.released = true

/-- The plan has been in a phase, in some state of the run. -/
def HasBeen (opts : RuntimeOptions) (ops : List Op) (rid : ReplacementId)
    (phase : ReplacementPhase) : Prop :=
  machine.Visits (Impl.new opts) ops fun s => planPhase s rid = some phase

/-- A run keeps the order of the protocol. -/
structure Ordered (opts : RuntimeOptions) (ops : List Op) : Prop where
  /-- A plan is complete only after it has been in CUTOVER. -/
  complete : ∀ before rid, before <+: ops →
    planPhase (machine.exec (Impl.new opts) before) rid = some .complete →
    HasBeen opts before rid .cutover
  /-- The phase of a plan never moves backwards. -/
  forwards : ∀ before after rid phase phase', before <+: after → after <+: ops →
    planPhase (machine.exec (Impl.new opts) before) rid = some phase →
    planPhase (machine.exec (Impl.new opts) after) rid = some phase' → phase.rank ≤ phase'.rank
  /-- The old incarnation keeps its authority until a cutover, and no admitted work is
  retired. -/
  retired : ∀ before rid p, before ++ [.retireOld rid] <+: ops →
    machine.result (machine.exec (Impl.new opts) before) (.retireOld rid) =
      .ok (.replacement p) →
    HasBeen opts before rid .cutover ∧
      NoOpenUse (machine.exec (Impl.new opts) before) p.oldIncarnation

/-- The checks of the beginning of a replacement. -/
def mayReplace (s : Impl) (plan : ReplacementPlan) : Bool :=
  plan.epoch == s.authority.epoch && plan.authority == s.authority.authority &&
    (s.findInc plan.candidateIncarnation).any fun cand =>
      cand.state.lifecycle == .running &&
        (s.findInc plan.oldIncarnation).any fun old => cand.incarnationId != old.incarnationId

/-- The plan of an identity in a decoded blob: the last of them, which a recovery keeps. -/
def lastPlan (p : PersistentState) (rid : ReplacementId) : Option ReplacementPlan :=
  p.replacements.reverse.find? fun q => q.replacementId = rid

/-- What keeps the order at one operation, after the operations before it. The old
incarnation of a plan is retired after a cutover, when its uses are closed; a new plan gets
an identity that no plan beyond PREPARING has had; and a recovery brings no plan back to an
earlier phase, and none to COMPLETE that has not been in CUTOVER. -/
def InOrder (opts : RuntimeOptions) (before : List Op) : Op → Prop
  | .retireOld rid =>
    ∀ p, (machine.exec (Impl.new opts) before).replacementPlans.lookup rid = some p →
      HasBeen opts before rid .cutover ∧
        NoOpenUse (machine.exec (Impl.new opts) before) p.oldIncarnation
  | .beginReplacement plan =>
    mayReplace (machine.exec (Impl.new opts) before) plan = true →
      ∀ phase, HasBeen opts before
        (nextReplacement (machine.exec (Impl.new opts) before) plan).replacementId phase →
        phase.rank ≤ ReplacementPhase.preparing.rank
  | .load blob =>
    ∀ p, Persistence.deserializePersistentState blob = .ok p →
      ∀ rid q, lastPlan p rid = some q →
        (∀ phase, HasBeen opts before rid phase → phase.rank ≤ q.phase.rank) ∧
          (q.phase = .complete → HasBeen opts before rid .cutover)
  | _ => True

/-! ## What an operation does to a plan -/

/-- What an operation does to the phase of one plan. -/
inductive PhaseChange (s : Impl) (rid : ReplacementId) : Op → Impl → Prop
  | kept {op : Op} {s' : Impl} (h : planPhase s' rid = planPhase s rid) : PhaseChange s rid op s'
  | begun {plan : ReplacementPlan} {s' : Impl} (hmay : mayReplace s plan = true)
    (hid : (nextReplacement s plan).replacementId = rid)
    (hphase : planPhase s' rid = some .preparing) : PhaseChange s rid (.beginReplacement plan) s'
  | cut {s' : Impl} (hbefore : planPhase s rid = some .preparing)
    (hphase : planPhase s' rid = some .cutover) : PhaseChange s rid (.commitCutover rid) s'
  | retired {p : ReplacementPlan} {s' : Impl} (hplan : s.replacementPlans.lookup rid = some p)
    (hphase : planPhase s' rid = some .complete) : PhaseChange s rid (.retireOld rid) s'
  | recovered {blob : Str} {p : PersistentState} {s' : Impl}
    (hblob : Persistence.deserializePersistentState blob = .ok p) (hs' : s' = restored s p) :
    PhaseChange s rid (.load blob) s'

/-- A change of the phase of one plan, or of another one. -/
theorem planPhase_modifyReplacement (s : Impl) (key rid : ReplacementId)
    (phase : ReplacementPhase) :
    planPhase (s.modifyReplacement key (setPhase phase)) rid =
      if rid = key then (planPhase s rid).map fun _ => phase else planPhase s rid := by
  simp only [planPhase, Impl.modifyReplacement, AList.lookup_modify]
  split
  · rename_i heq
    subst heq
    cases s.replacementPlans.lookup rid <;> rfl
  · rfl

theorem planPhase_restored (s : Impl) (p : PersistentState) (rid : ReplacementId) :
    planPhase (restored s p) rid = (lastPlan p rid).map (·.phase) := by
  have hlookup : (restored s p).replacementPlans.lookup rid = (lastPlan p rid).map fun q => q :=
    AList.lookup_foldl_insert_last p.replacements rid
  rw [planPhase, hlookup, Option.map_map]
  rfl

theorem Transition.phaseChange (h : Transition s op r s') (rid : ReplacementId) :
    PhaseChange s rid op s' := by
  cases h with
  | @beginReplacement plan cand old hepoch hauthority hcand hrunning hold hne =>
    by_cases hid : (nextReplacement s plan).replacementId = rid
    · refine .begun ?_ hid ?_
      · simp [mayReplace, hepoch, hauthority, hcand, hrunning, hold, hne]
      · simp only [planPhase, storeReplacement, hid, AList.lookup_insert]
        rfl
    · refine .kept ?_
      simp only [planPhase, storeReplacement, AList.lookup_insert_ne (Ne.symm hid)]
  | @commitCutover key p cand hplan hphase =>
    have hchange := planPhase_modifyReplacement (cutover p cand s) key rid .cutover
    have hplans : planPhase (cutover p cand s) rid = planPhase s rid := rfl
    rw [hplans] at hchange
    by_cases hid : rid = key
    · subst hid
      rw [if_pos rfl] at hchange
      refine .cut ?_ ?_
      · rw [planPhase, hplan, Option.map_some, hphase]
      · rw [hchange, planPhase, hplan]
        rfl
    · rw [if_neg hid] at hchange
      exact .kept hchange
  | @retireOld key p hplan =>
    have hchange :=
      planPhase_modifyReplacement (s.modifyInc p.oldIncarnation retired) key rid .complete
    have hplans : planPhase (s.modifyInc p.oldIncarnation retired) rid = planPhase s rid := rfl
    rw [hplans] at hchange
    by_cases hid : rid = key
    · subst hid
      rw [if_pos rfl] at hchange
      refine .retired hplan ?_
      rw [hchange, planPhase, hplan]
      rfl
    · rw [if_neg hid] at hchange
      exact .kept hchange
  | load hblob => exact .recovered hblob rfl
  | _ => exact .kept rfl

/-! ### Operations that succeed -/

theorem beginReplacement_phase {plan : ReplacementPlan} (hmay : mayReplace s plan = true) :
    planPhase (machine.next s (.beginReplacement plan)) (nextReplacement s plan).replacementId =
      some .preparing := by
  simp only [mayReplace, Bool.and_eq_true, beq_iff_eq, Option.any_eq_true, bne_iff_ne] at hmay
  obtain ⟨⟨hepoch, hauthority⟩, cand, hcand, hrunning, old, hold, hne⟩ := hmay
  have hwp : wp (step (.beginReplacement plan)) (fun _ s' => s' =
      storeReplacement (nextReplacement s plan) s) s :=
    wp_map (wp_get (wp_passes (not_not.mpr hepoch) (wp_passes (not_not.mpr hauthority)
      (wp_found_of_eq hcand (wp_passes (not_not.mpr hrunning) (wp_found_of_eq hold
        (wp_passes hne (wp_modify (wp_pure rfl)))))))))
  have hnext : machine.next s (.beginReplacement plan) =
      storeReplacement (nextReplacement s plan) s := wp_iff.mp hwp
  rw [hnext]
  simp only [planPhase, storeReplacement, AList.lookup_insert]
  rfl

/-- A stored plan is always retired. -/
theorem retireOld_result {p : ReplacementPlan} (hplan : s.replacementPlans.lookup rid = some p) :
    machine.result s (.retireOld rid) = .ok (.replacement (setPhase .complete p)) := by
  have hwp : wp (step (.retireOld rid))
      (fun r _ => r = .ok (.replacement (setPhase .complete p))) s :=
    wp_map (wp_get (wp_found_of_eq hplan (wp_modify (wp_pure rfl))))
  exact wp_iff.mp hwp

/-- Only a stored plan is retired. -/
theorem retireOld_ok {q : ReplacementPlan}
    (h : machine.result s (.retireOld rid) = .ok (.replacement q)) :
    ∃ p, s.replacementPlans.lookup rid = some p ∧ q = setPhase .complete p := by
  have hstep := step_transition s (.retireOld rid)
  rw [h] at hstep
  generalize machine.next s (.retireOld rid) = s' at hstep
  cases hstep with
  | retireOld hplan => exact ⟨_, hplan, rfl⟩

theorem load_next {blob : Str} {p : PersistentState}
    (h : Persistence.deserializePersistentState blob = .ok p) :
    machine.next s (.load blob) = restored s p :=
  congrArg Prod.snd (load_ok h (wellFormed_of_deserialize h).version)

/-! ### The phases that are stored -/

/-- Every stored plan is in a phase of the protocol. -/
def PlansDeclared (s : Impl) : Prop := s.replacementPlans.All ReplacementPlan.EnumsDeclared

theorem Transition.plansDeclared (h : Transition s op r s') (hs : PlansDeclared s) :
    PlansDeclared s' := by
  cases h with
  | beginReplacement => exact AList.All.insert hs ⟨declared rfl⟩
  | commitCutover => exact AList.All.modify hs fun _ _ => ⟨declared rfl⟩
  | retireOld => exact AList.All.modify hs fun _ _ => ⟨declared rfl⟩
  | load hblob =>
    exact (declaredState_restored (wellFormed_of_deserialize hblob).enumsDeclared).replacements
  | _ => exact hs

theorem plansDeclared_exec (opts : RuntimeOptions) (ops : List Op) :
    PlansDeclared (machine.exec (Impl.new opts) ops) :=
  machine.exec_always AList.All.empty (fun s op hs => (step_transition s op).plansDeclared hs) ops

/-- No phase comes after COMPLETE. -/
theorem rank_le_complete (h : HasBeen opts ops rid phase) :
    phase.rank ≤ ReplacementPhase.complete.rank := by
  obtain ⟨before, -, hphase⟩ := h
  obtain ⟨p, hplan, rfl⟩ := Option.map_eq_some_iff.mp hphase
  have hlt := CEnum.declared_iff.mp (plansDeclared_exec opts before rid p hplan).phase
  have hseven : (CEnum.enumerators (E := ReplacementPhase)).length = 7 := rfl
  have hsix : ReplacementPhase.complete.rank = 6 := by decide
  unfold ReplacementPhase.rank at hsix ⊢
  omega

/-! ## Runs in order -/

theorem ordered_nil (opts : RuntimeOptions) : Ordered opts [] where
  complete before rid hbefore hphase := by
    rw [List.prefix_nil.mp hbefore] at hphase
    cases hphase
  forwards before after rid phase phase' _ hafter _ hphase' := by
    rw [List.prefix_nil.mp hafter] at hphase'
    cases hphase'
  retired before rid p hbefore := by
    simp at hbefore

/-- What a plan has been in, it is not behind. -/
theorem Ordered.rank_le (h : Ordered opts ops) {phase' : ReplacementPhase}
    (hbeen : HasBeen opts ops rid phase)
    (hnow : planPhase (machine.exec (Impl.new opts) ops) rid = some phase') :
    phase.rank ≤ phase'.rank := by
  obtain ⟨before, hbefore, hphase⟩ := hbeen
  exact h.forwards before ops rid phase phase' hbefore (List.prefix_refl ops) hphase hnow

/-- The phase after an operation in order is not behind any phase of the run, and a plan is
complete only after it has been in CUTOVER. -/
theorem Ordered.phase_next (h : Ordered opts ops) (hop : InOrder opts ops op)
    {phase' : ReplacementPhase}
    (hnext : planPhase (machine.next (machine.exec (Impl.new opts) ops) op) rid = some phase') :
    (∀ phase, HasBeen opts ops rid phase → phase.rank ≤ phase'.rank) ∧
      (phase' = .complete → HasBeen opts ops rid .cutover) := by
  cases (step_transition (machine.exec (Impl.new opts) ops) op).phaseChange rid with
  | kept hkept =>
    rw [hkept] at hnext
    refine ⟨fun phase hbeen => h.rank_le hbeen hnext, ?_⟩
    rintro rfl
    exact h.complete ops rid (List.prefix_refl ops) hnext
  | begun hmay hid hphase =>
    cases hphase.symm.trans hnext
    exact ⟨fun phase hbeen => hop hmay phase (hid ▸ hbeen), fun heq => by cases heq⟩
  | cut hbefore hphase =>
    cases hphase.symm.trans hnext
    refine ⟨fun phase hbeen => (h.rank_le hbeen hbefore).trans ?_, fun heq => by cases heq⟩
    decide
  | retired hplan hphase =>
    cases hphase.symm.trans hnext
    exact ⟨fun phase hbeen => rank_le_complete hbeen, fun _ => (hop _ hplan).1⟩
  | recovered hblob hs' =>
    rw [hs', planPhase_restored] at hnext
    obtain ⟨q, hq, rfl⟩ := Option.map_eq_some_iff.mp hnext
    exact hop _ hblob rid q hq

theorem Ordered.concat (h : Ordered opts ops) (hop : InOrder opts ops op) :
    Ordered opts (ops ++ [op]) where
  complete before rid hbefore hphase := by
    rcases List.prefix_concat_iff.mp hbefore with rfl | hbefore
    · rw [Machine.exec_concat] at hphase
      exact ((h.phase_next hop hphase).2 rfl).mono (List.prefix_append ops [op])
    · exact h.complete before rid hbefore hphase
  forwards before after rid phase phase' hle hafter hphase hphase' := by
    rcases List.prefix_concat_iff.mp hafter with rfl | hafter
    · rcases List.prefix_concat_iff.mp hle with rfl | hbefore
      · cases hphase.symm.trans hphase'
        exact Nat.le_refl _
      · rw [Machine.exec_concat] at hphase'
        exact (h.phase_next hop hphase').1 phase ⟨before, hbefore, hphase⟩
    · exact h.forwards before after rid phase phase' hle hafter hphase hphase'
  retired before rid q hbefore hresult := by
    rcases List.prefix_concat_iff.mp hbefore with heq | hbefore
    · obtain ⟨rfl, hlast⟩ := List.append_inj' heq rfl
      cases hlast
      obtain ⟨p, hplan, rfl⟩ := retireOld_ok hresult
      exact hop p hplan
    · exact h.retired before rid q hbefore hresult

/-- A part of an ordered run is ordered. -/
theorem Ordered.part (h : Ordered opts (ops ++ [op])) : Ordered opts ops where
  complete before rid hbefore := h.complete before rid (hbefore.trans (List.prefix_append _ _))
  forwards before after rid phase phase' hle hafter :=
    h.forwards before after rid phase phase' hle (hafter.trans (List.prefix_append _ _))
  retired before rid p hbefore := h.retired before rid p (hbefore.trans (List.prefix_append _ _))

/-- In an ordered run, the last operation was in order. -/
theorem Ordered.inOrder (h : Ordered opts (ops ++ [op])) : InOrder opts ops op := by
  have hbehind : ∀ rid phase phase',
      planPhase (machine.next (machine.exec (Impl.new opts) ops) op) rid = some phase' →
      HasBeen opts ops rid phase → phase.rank ≤ phase'.rank := by
    intro rid phase phase' hphase' hbeen
    rw [← Machine.exec_concat] at hphase'
    exact h.rank_le (hbeen.mono (List.prefix_append ops [op])) hphase'
  cases op with
  | retireOld rid =>
    intro p hplan
    exact h.retired ops rid (setPhase .complete p) (List.prefix_refl _) (retireOld_result hplan)
  | beginReplacement plan =>
    intro hmay phase hbeen
    exact hbehind _ phase _ (beginReplacement_phase hmay) hbeen
  | load blob =>
    intro p hblob rid q hq
    have hphase : planPhase (machine.next (machine.exec (Impl.new opts) ops) (.load blob)) rid =
        some q.phase := by
      rw [load_next hblob, planPhase_restored, hq, Option.map_some]
    refine ⟨fun phase => hbehind rid phase q.phase hphase, fun hcomplete => ?_⟩
    rw [← Machine.exec_concat, hcomplete] at hphase
    have hbeen := h.complete _ rid (List.prefix_refl _) hphase
    rcases Machine.visits_concat.mp hbeen with hbefore | hlast
    · exact hbefore
    · cases hphase.symm.trans hlast
  | _ => trivial

/-- A run keeps the order of the protocol if and only if each of its operations is in
order. -/
theorem replacement_ordered_iff (opts : RuntimeOptions) (ops : List Op) :
    Ordered opts ops ↔ Machine.Stepwise (InOrder opts) ops := by
  induction ops using List.reverseRecOn with
  | nil =>
    refine ⟨fun _ before op hbefore => ?_, fun _ => ordered_nil opts⟩
    simp at hbefore
  | append_singleton ops op ih =>
    rw [Machine.stepwise_concat, ← ih]
    exact ⟨fun h => ⟨h.part, h.inOrder⟩, fun h => h.1.concat h.2⟩

/-- Start an old incarnation and a candidate, admit a use of the old one, and begin a
replacement. -/
def sampleReplacementRun : List Op :=
  sampleStart ++
    [.issueRegistrationPermit ⟨2⟩ ⟨1⟩,
     .registerIncarnation { engineId := ⟨1⟩, workerId := ⟨2⟩, workerBoot := ⟨1⟩ }
       { permitId := ⟨3⟩ } 0,
     .markRunning ⟨3⟩ 0,
     sampleAcquire,
     .beginReplacement
       { oldIncarnation := ⟨2⟩, candidateIncarnation := ⟨3⟩, epoch := ⟨1⟩, authority := ⟨1⟩ }]

/-- The old incarnation is retired before the cutover, under an open use, and the plan is
complete. -/
theorem replacement_skips_cutover :
    (∃ p, machine.result (machine.exec (Impl.new {}) sampleReplacementRun) (.retireOld ⟨2⟩) =
      .ok (.replacement p) ∧
      ¬ NoOpenUse (machine.exec (Impl.new {}) sampleReplacementRun) p.oldIncarnation) ∧
    planPhase (machine.exec (Impl.new {}) (sampleReplacementRun ++ [.retireOld ⟨2⟩])) ⟨2⟩ =
      some .complete ∧
    ¬ HasBeen {} (sampleReplacementRun ++ [.retireOld ⟨2⟩]) ⟨2⟩ .cutover ∧
    ¬ Ordered {} (sampleReplacementRun ++ [.retireOld ⟨2⟩]) := by
  have hopen : ¬ NoOpenUse (machine.exec (Impl.new {}) sampleReplacementRun) ⟨2⟩ := by
    intro hnone
    have hreleased := hnone ⟨2⟩ _ rfl rfl
    cases hreleased
  have hcomplete : planPhase (machine.exec (Impl.new {}) (sampleReplacementRun ++ [.retireOld ⟨2⟩]))
      ⟨2⟩ = some .complete := rfl
  have hnever : ¬ HasBeen {} (sampleReplacementRun ++ [.retireOld ⟨2⟩]) ⟨2⟩ .cutover := by
    rintro ⟨before, hbefore, hphase⟩
    have hall : ∀ before ∈ (sampleReplacementRun ++ [Op.retireOld ⟨2⟩]).inits,
        planPhase (machine.exec (Impl.new {}) before) ⟨2⟩ ≠ some .cutover := by decide
    exact hall before ((List.mem_inits _ _).mpr hbefore) hphase
  exact ⟨⟨_, rfl, hopen⟩, hcomplete, hnever, fun h =>
    hnever (h.complete _ _ (List.prefix_refl _) hcomplete)⟩

end Runtime

end EngineResidency
