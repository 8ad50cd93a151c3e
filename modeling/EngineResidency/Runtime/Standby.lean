-- SUMMARY: Which incarnations the standby accounting of the runtime counts, and when all of them can be used.
import EngineResidency.Runtime.Cutover
import EngineResidency.Runtime.SaveRecover
import EngineResidency.Standby

/-!
# Standby capacity

The query scans the incarnations of an engine and hands those that the evaluator serves to
the accounting. It goes past the public query: neither the recovery state nor the marks of a
fence, a drain or a cutover are read, so the places go to incarnations that carry them.
-/

namespace EngineResidency.Runtime

variable {s : Impl} {policy : StandbyPoolPolicy} {i : EngineIncarnation}

/-! ## The query -/

/-- What the scan of the incarnations has gathered. -/
structure StandbyScan where
  eligible : List EngineIncarnation := []
  blocked : List EngineIncarnation := []
  readiness : UMap EngineIncarnationId ReadinessOutcome := ∅
  active : UInt32 := 0

/-- Whether an incarnation is lost to the pool. -/
def lostToPool (i : EngineIncarnation) : Bool :=
  i.state.health == .lost || i.state.health == .fenced || i.state.lifecycle.isDead

/-- The best outcome over the profiles of the engine. The first profile that is ready ends
the loop; the clock is read for each evaluation. -/
def bestOutcome (s : Impl) (policy : StandbyPoolPolicy) (i : EngineIncarnation)
    (clock : ReadinessProfileId → DurationNs) (best : ReadinessOutcome) :
    List ReadinessProfile → Except Err ReadinessOutcome
  | [] => .ok best
  | profile :: profiles =>
    if profile.engineId ≠ policy.engineId then bestOutcome s policy i clock best profiles
    else do
      let engine ← (s.engines.lookup i.engineId).elim (.error .outOfRange) .ok
      let r := EngineResidency.evaluateReadiness engine profile i (s.evidenceFor i.incarnationId)
        (clock profile.profileId)
      if r.outcome = .ready then return .ready
      else bestOutcome s policy i clock (if r.outcome = .degraded then .degraded else best) profiles

/-- One round of the scan. -/
def scanIncarnation (s : Impl) (policy : StandbyPoolPolicy)
    (clock : EngineIncarnationId → ReadinessProfileId → DurationNs) (scan : StandbyScan)
    (i : EngineIncarnation) : Except Err StandbyScan :=
  if i.engineId ≠ policy.engineId then .ok scan
  else if lostToPool i then .ok { scan with blocked := scan.blocked ++ [i] }
  else if i.state.activation = .active then .ok { scan with active := scan.active + 1 }
  else do
    let best ← bestOutcome s policy i (clock i.incarnationId) .unknown s.profiles.values
    let scan := { scan with readiness := scan.readiness.insert i.incarnationId best }
    return if best.serves then { scan with eligible := scan.eligible ++ [i] }
      else { scan with blocked := scan.blocked ++ [i] }

def scanStandby (s : Impl) (policy : StandbyPoolPolicy)
    (clock : EngineIncarnationId → ReadinessProfileId → DurationNs) : Except Err StandbyScan :=
  s.incarnations.values.foldlM (scanIncarnation s policy clock) {}

/-- The standby accounting of the runtime. -/
def reconcileStandby (s : Impl) (policy : StandbyPoolPolicy)
    (clock : EngineIncarnationId → ReadinessProfileId → DurationNs) :
    Except Err StandbyAccounting := do
  let scan ← scanStandby s policy clock
  return EngineResidency.reconcileStandby policy s.slots.keys scan.eligible scan.blocked
    scan.readiness scan.active

/-- The incarnations that the accounting counts as eligible. -/
def counted (s : Impl) (policy : StandbyPoolPolicy)
    (clock : EngineIncarnationId → ReadinessProfileId → DurationNs) : List EngineIncarnation :=
  match scanStandby s policy clock with
  | .ok scan => countedStandby s.slots.keys (eligibleStandby scan.eligible scan.readiness)
  | .error _ => []

/-! ## What standby capacity should be -/

/-- Standby capacity that can be used: a running incarnation that does not serve, that no
fence, drain or cutover keeps out, and that the public query authorizes for a profile. -/
structure Usable (s : Impl) (engineId : EngineId) (i : EngineIncarnation)
    (clock : ReadinessProfileId → DurationNs) : Prop where
  running : i.state.lifecycle = .running
  resting : i.state.activation ≠ .active
  registration : i.state.registration ≠ .fenced
  health : i.state.health ≠ .fenced
  activation : i.state.activation ≠ .fenced
  boot : s.bootFenced i.workerId i.workerBoot = false
  recovery : i.state.recovery = .nominal
  admission : s.admissionFenced i.incarnationId = false
  ready : ∃ profId profile, s.profiles.lookup profId = some profile ∧
    profile.engineId = engineId ∧ servesFor s i.incarnationId profId (clock profId) = true

/-- If the query answers, then every incarnation that it lists or counts can be used. -/
def CountsUsable (s : Impl) (policy : StandbyPoolPolicy)
    (clock : EngineIncarnationId → ReadinessProfileId → DurationNs) : Prop :=
  ∀ acc, reconcileStandby s policy clock = .ok acc →
    (∀ id ∈ acc.candidates, ∃ i, s.findInc id = some i ∧ Usable s policy.engineId i (clock id)) ∧
    ∀ i ∈ counted s policy clock, Usable s policy.engineId i (clock i.incarnationId)

/-- The evaluator serves an incarnation for a profile of the engine. -/
def evaluatesToServe (s : Impl) (policy : StandbyPoolPolicy)
    (clock : ReadinessProfileId → DurationNs) (i : EngineIncarnation) : Bool :=
  (s.engines.lookup i.engineId).any fun engine =>
    s.profiles.values.any fun profile => profile.engineId == policy.engineId &&
      decide (EngineResidency.evaluateReadiness engine profile i (s.evidenceFor i.incarnationId)
        (clock profile.profileId)).outcome.serves

/-- What the code asks of standby capacity. -/
def standsBy (s : Impl) (policy : StandbyPoolPolicy)
    (clock : EngineIncarnationId → ReadinessProfileId → DurationNs) (i : EngineIncarnation) : Bool :=
  i.engineId == policy.engineId && !lostToPool i && i.atRest &&
    evaluatesToServe s policy (clock i.incarnationId) i

/-- There is a slot for an incarnation behind those that stand by with a smaller id. -/
def hasPlace (s : Impl) (policy : StandbyPoolPolicy)
    (clock : EngineIncarnationId → ReadinessProfileId → DurationNs) (i : EngineIncarnation) : Bool :=
  s.slots.keys.isEmpty || decide (s.incarnations.count (fun j => standsBy s policy clock j &&
    decide (j.incarnationId.raw.toNat < i.incarnationId.raw.toNat)) < s.slots.keys.length)

/-- What the code leaves out: no fence, drain or cutover has marked the incarnation, and it
awaits no revalidation. -/
def unmarked (s : Impl) (i : EngineIncarnation) : Bool :=
  i.state.registration != .fenced && i.state.activation != .fenced &&
    !s.bootFenced i.workerId i.workerBoot && i.state.recovery == .nominal &&
    !s.admissionFenced i.incarnationId

/-- No incarnation that stands by in a place is marked. -/
def placesUnmarked (s : Impl) (policy : StandbyPoolPolicy)
    (clock : EngineIncarnationId → ReadinessProfileId → DurationNs) : Bool :=
  s.incarnations.values.all fun i =>
    !(standsBy s policy clock i && hasPlace s policy clock i) || unmarked s i

/-! ## The scan -/

section Scan

variable {clock : EngineIncarnationId → ReadinessProfileId → DurationNs}

theorem evaluatesToServe_iff {readings : ReadinessProfileId → DurationNs} :
    evaluatesToServe s policy readings i = true ↔ ∃ engine,
      s.engines.lookup i.engineId = some engine ∧ ∃ profile ∈ s.profiles.values,
        profile.engineId = policy.engineId ∧
          (EngineResidency.evaluateReadiness engine profile i (s.evidenceFor i.incarnationId)
            (readings profile.profileId)).outcome.serves := by
  simp only [evaluatesToServe, Option.any_eq_true, List.any_eq_true, Bool.and_eq_true, beq_iff_eq,
    decide_eq_true_eq]

/-- The best outcome serves exactly when the loop began with one that does, or the evaluator
serves for a profile of the engine. -/
theorem bestOutcome_serves {readings : ReadinessProfileId → DurationNs}
    {profiles : List ReadinessProfile} {best outcome : ReadinessOutcome}
    (h : bestOutcome s policy i readings best profiles = .ok outcome) :
    outcome.serves ↔ best.serves ∨ ∃ engine, s.engines.lookup i.engineId = some engine ∧
      ∃ profile ∈ profiles, profile.engineId = policy.engineId ∧
        (EngineResidency.evaluateReadiness engine profile i (s.evidenceFor i.incarnationId)
          (readings profile.profileId)).outcome.serves := by
  induction profiles generalizing best with
  | nil =>
    cases h
    simp
  | cons profile profiles ih =>
    rw [bestOutcome] at h
    split at h
    · rename_i hother
      rw [ih h]
      simp [hother]
    rename_i hown
    rw [not_not] at hown
    cases hengine : s.engines.lookup i.engineId with
    | none => simp [hengine, bind, Except.bind] at h
    | some engine =>
      simp only [hengine, Option.elim, bind, Except.bind, pure, Except.pure] at h
      split at h
      · rename_i hready
        cases h
        exact iff_of_true (.inl rfl)
          (.inr ⟨engine, rfl, profile, List.mem_cons_self, hown, .inl hready⟩)
      · rename_i hready
        rw [ih h, hengine]
        split
        · rename_i hdegraded
          exact iff_of_true (.inl (.inr rfl))
            (.inr ⟨engine, rfl, profile, List.mem_cons_self, hown, .inr hdegraded⟩)
        · rename_i hdegraded
          have hno : ¬ (EngineResidency.evaluateReadiness engine profile i
              (s.evidenceFor i.incarnationId) (readings profile.profileId)).outcome.serves :=
            not_or.mpr ⟨hready, hdegraded⟩
          simp [hno]

/-- The loop ends without an exception if the engine is defined. -/
theorem bestOutcome_total {engine : EngineDefinition} (readings : ReadinessProfileId → DurationNs)
    (profiles : List ReadinessProfile) (best : ReadinessOutcome)
    (hengine : s.engines.lookup i.engineId = some engine) :
    ∃ outcome, bestOutcome s policy i readings best profiles = .ok outcome := by
  induction profiles generalizing best with
  | nil => exact ⟨best, rfl⟩
  | cons profile profiles ih =>
    rw [bestOutcome]
    split
    · exact ih _
    · simp only [hengine, Option.elim, bind, Except.bind]
      split
      · exact ⟨.ready, rfl⟩
      · exact ih _

/-- What the scan asks of a candidate. -/
def scanned (s : Impl) (policy : StandbyPoolPolicy)
    (clock : EngineIncarnationId → ReadinessProfileId → DurationNs) (i : EngineIncarnation) : Bool :=
  i.engineId == policy.engineId && !lostToPool i && i.state.activation != .active &&
    evaluatesToServe s policy (clock i.incarnationId) i

/-- One round of the scan: it adds the incarnation to the candidates if it is one, and says
nothing of the others. -/
theorem scanIncarnation_ok {scan scan' : StandbyScan}
    (h : scanIncarnation s policy clock scan i = .ok scan') :
    scan'.eligible = scan.eligible ++ (if scanned s policy clock i then [i] else []) ∧
      (∀ j : EngineIncarnation, j.incarnationId ≠ i.incarnationId →
        foundServing scan'.readiness j = foundServing scan.readiness j) ∧
      (scanned s policy clock i = true → foundServing scan'.readiness i = true) := by
  unfold scanIncarnation at h
  split at h
  · rename_i hother
    cases h
    exact ⟨by simp [scanned, hother], fun _ _ => rfl, by simp [scanned, hother]⟩
  rename_i hown
  split at h
  · rename_i hlost
    cases h
    exact ⟨by simp [scanned, hlost], fun _ _ => rfl, by simp [scanned, hlost]⟩
  rename_i hkept
  split at h
  · rename_i hactive
    cases h
    exact ⟨by simp [scanned, hactive], fun _ _ => rfl, by simp [scanned, hactive]⟩
  rename_i hresting
  cases hbest : bestOutcome s policy i (clock i.incarnationId) .unknown s.profiles.values with
  | error e => simp [hbest, bind, Except.bind] at h
  | ok outcome =>
    have hscanned : scanned s policy clock i = true ↔ outcome.serves := by
      rw [bestOutcome_serves hbest, scanned, Bool.and_eq_true, evaluatesToServe_iff]
      simp [not_not.mp hown, hkept, hresting, ReadinessOutcome.serves]
    have hfound : foundServing (scan.readiness.insert i.incarnationId outcome) i =
        decide outcome.serves := by
      simp [foundServing]
    have hframe : ∀ j : EngineIncarnation, j.incarnationId ≠ i.incarnationId →
        foundServing (scan.readiness.insert i.incarnationId outcome) j =
          foundServing scan.readiness j := by
      intro j hj
      simp [foundServing, AList.lookup_insert_ne hj]
    simp only [hbest, bind, Except.bind, pure, Except.pure, Except.ok.injEq] at h
    by_cases hserves : outcome.serves
    · rw [if_pos hserves] at h
      subst h
      exact ⟨by simp [hscanned.mpr hserves], hframe, fun _ => by simp [hfound, hserves]⟩
    · rw [if_neg hserves] at h
      subst h
      have hno : scanned s policy clock i = false :=
        Bool.eq_false_iff.mpr fun h => hserves (hscanned.mp h)
      exact ⟨by simp [hno], hframe, fun h => absurd (hscanned.mp h) hserves⟩

/-- The scan of a list of incarnations with different ids. -/
theorem scan_ok {scan scan' : StandbyScan} {l : List EngineIncarnation}
    (hids : (l.map EngineIncarnation.incarnationId).Nodup)
    (h : l.foldlM (scanIncarnation s policy clock) scan = .ok scan') :
    scan'.eligible = scan.eligible ++ l.filter (scanned s policy clock) ∧
      (∀ j : EngineIncarnation, j.incarnationId ∉ l.map EngineIncarnation.incarnationId →
        foundServing scan'.readiness j = foundServing scan.readiness j) ∧
      ∀ j ∈ l, scanned s policy clock j = true → foundServing scan'.readiness j = true := by
  induction l generalizing scan with
  | nil =>
    cases h
    exact ⟨by simp, fun _ _ => rfl, fun _ hj => absurd hj List.not_mem_nil⟩
  | cons i l ih =>
    obtain ⟨hnew, hids⟩ := List.nodup_cons.mp hids
    rw [List.foldlM_cons] at h
    cases hround : scanIncarnation s policy clock scan i with
    | error e =>
      rw [hround] at h
      cases h
    | ok scan₁ =>
      rw [hround] at h
      obtain ⟨heligible₁, hframe₁, hfound₁⟩ := scanIncarnation_ok hround
      obtain ⟨heligible, hframe, hfound⟩ := ih hids h
      refine ⟨?_, ?_, ?_⟩
      · rw [heligible, heligible₁, List.append_assoc, List.filter_cons]
        split <;> simp
      · intro j hj
        rw [List.map_cons, List.mem_cons, not_or] at hj
        rw [hframe j hj.2, hframe₁ j hj.1]
      · intro j hj hscanned
        rcases List.mem_cons.mp hj with rfl | hj
        · rw [hframe j hnew]
          exact hfound₁ hscanned
        · exact hfound j hj hscanned

/-- The scan answers if the engine of the pool is defined. -/
theorem scan_total {engine : EngineDefinition} (scan : StandbyScan) (l : List EngineIncarnation)
    (hengine : s.engines.lookup policy.engineId = some engine) :
    ∃ scan', l.foldlM (scanIncarnation s policy clock) scan = .ok scan' := by
  induction l generalizing scan with
  | nil => exact ⟨scan, rfl⟩
  | cons i l ih =>
    obtain ⟨scan₁, hround⟩ : ∃ scan₁, scanIncarnation s policy clock scan i = .ok scan₁ := by
      unfold scanIncarnation
      split
      · exact ⟨_, rfl⟩
      rename_i hown
      split
      · exact ⟨_, rfl⟩
      split
      · exact ⟨_, rfl⟩
      rw [← not_not.mp hown] at hengine
      obtain ⟨outcome, hbest⟩ := @bestOutcome_total _ policy _ _ (clock i.incarnationId)
        s.profiles.values .unknown hengine
      rw [hbest]
      exact ⟨_, rfl⟩
    rw [List.foldlM_cons, hround]
    exact ih scan₁

/-! ## What is counted -/

theorem standsBy_eq (i : EngineIncarnation) :
    standsBy s policy clock i = (i.atRest && scanned s policy clock i) := by
  unfold standsBy scanned EngineIncarnation.atRest
  rw [Bool.eq_iff_iff]
  simp only [Bool.and_eq_true]
  tauto

theorem reconcileStandby_ok {scan : StandbyScan} (h : scanStandby s policy clock = .ok scan) :
    reconcileStandby s policy clock = .ok (EngineResidency.reconcileStandby policy s.slots.keys
      scan.eligible scan.blocked scan.readiness scan.active) := by
  rw [reconcileStandby, h]
  rfl

/-- An answer of the query is about the incarnations that are counted. -/
theorem reconcileStandby_counts {acc : StandbyAccounting}
    (h : reconcileStandby s policy clock = .ok acc) :
    acc.eligible = UInt32.ofNat (counted s policy clock).length ∧
      ∀ id ∈ acc.candidates, ∃ i ∈ counted s policy clock, i.incarnationId = id := by
  unfold counted
  cases hscan : scanStandby s policy clock with
  | error e =>
    rw [reconcileStandby, hscan] at h
    cases h
  | ok scan =>
    cases (reconcileStandby_ok hscan).symm.trans h
    exact ⟨eligible_eq_counted, fun _ => mem_counted_of_candidates⟩

/-- Which incarnations are counted. -/
theorem mem_counted {scan : StandbyScan} (hkeyed : WellKeyed s)
    (hscan : scanStandby s policy clock = .ok scan) :
    i ∈ counted s policy clock ↔ i ∈ s.incarnations.values ∧ standsBy s policy clock i = true ∧
      hasPlace s policy clock i = true := by
  have hids : (s.incarnations.values.map EngineIncarnation.incarnationId).Nodup :=
    hkeyed.incarnations.nodup_map (.refl _)
  obtain ⟨heligible, -, hfound⟩ := scan_ok hids hscan
  rw [List.nil_append] at heligible
  have hcandidates : (scan.eligible.map EngineIncarnation.incarnationId).Nodup := by
    rw [heligible]
    exact hids.sublist (List.filter_sublist.map _)
  -- The second filter of the accounting leaves out those that do not run.
  have hcount : scan.eligible.countP (fun a => a.atRest && foundServing scan.readiness a &&
      decide (a.incarnationId.raw.toNat < i.incarnationId.raw.toNat)) =
        s.incarnations.count fun j => standsBy s policy clock j &&
          decide (j.incarnationId.raw.toNat < i.incarnationId.raw.toNat) := by
    rw [heligible, List.countP_filter, AList.count]
    refine List.countP_congr fun j hj => ?_
    rw [standsBy_eq]
    cases hscanned : scanned s policy clock j with
    | false => simp
    | true => simp [hfound j hj hscanned]
  rw [counted, hscan]
  simp only
  rw [mem_counted_iff hcandidates, hcount, heligible, List.mem_filter, standsBy_eq, hasPlace,
    Bool.and_eq_true, Bool.or_eq_true, List.isEmpty_iff, decide_eq_true_iff]
  constructor
  · rintro ⟨⟨hmem, hscanned⟩, hrest, -, hplace⟩
    exact ⟨hmem, ⟨hrest, hscanned⟩, hplace⟩
  · rintro ⟨hmem, ⟨hrest, hscanned⟩, hplace⟩
    exact ⟨⟨hmem, hscanned⟩, hrest, hfound i hmem hscanned, hplace⟩

end Scan

/-! ## Which of them can be used -/

theorem findInc_of_mem_values (hkeyed : WellKeyed s) (hi : i ∈ s.incarnations.values) :
    s.findInc i.incarnationId = some i := by
  obtain ⟨id, hid⟩ := AList.mem_values.mp hi
  rw [hkeyed.incarnations id i hid]
  exact hid

theorem unmarked_iff : unmarked s i = true ↔
    i.state.registration ≠ .fenced ∧ i.state.activation ≠ .fenced ∧
      s.bootFenced i.workerId i.workerBoot = false ∧ i.state.recovery = .nominal ∧
      s.admissionFenced i.incarnationId = false := by
  simp only [unmarked, Bool.and_eq_true, bne_iff_ne, beq_iff_eq, Bool.not_eq_true', and_assoc]

theorem Usable.unmarked {engineId : EngineId} {readings : ReadinessProfileId → DurationNs}
    (h : Usable s engineId i readings) : unmarked s i = true :=
  unmarked_iff.mpr ⟨h.registration, h.activation, h.boot, h.recovery, h.admission⟩

/-- An incarnation that stands by and is not marked can be used: the evaluator and the public
query agree on it. -/
theorem usable_of_unmarked {clock : EngineIncarnationId → ReadinessProfileId → DurationNs}
    (hkeyed : WellKeyed s) (hi : i ∈ s.incarnations.values)
    (hstands : standsBy s policy clock i = true) (hunmarked : unmarked s i = true) :
    Usable s policy.engineId i (clock i.incarnationId) := by
  obtain ⟨hregistration, hactivation, hboot, hrecovery, hadmission⟩ := unmarked_iff.mp hunmarked
  simp only [standsBy, lostToPool, EngineIncarnation.atRest, Bool.and_eq_true, beq_iff_eq,
    Bool.not_eq_true', Bool.or_eq_false_iff, bne_iff_ne, beq_eq_false_iff_ne] at hstands
  obtain ⟨⟨⟨hown, ⟨-, hhealth⟩, -⟩, hrunning, hresting⟩, hserves⟩ := hstands
  obtain ⟨engine, hengine, profile, hprofile, howner, hserves⟩ := evaluatesToServe_iff.mp hserves
  obtain ⟨profId, hlookup⟩ := AList.mem_values.mp hprofile
  have hid : profile.profileId = profId := hkeyed.profiles profId profile hlookup
  refine ⟨hrunning, hresting, hregistration, hhealth, hactivation, hboot, hrecovery, hadmission,
    profId, profile, hlookup, howner, ?_⟩
  refine (servesFor_iff (findInc_of_mem_values hkeyed hi)).mpr
    ⟨profile, engine, hlookup, howner.trans hown.symm, hengine, ?_, ?_⟩
  · rw [hrecovery]
    rfl
  · rw [← hid]
    exact hserves

/-- In every reachable state, the incarnations that the standby accounting lists or counts can
all be used if and only if none that stands by in a place is marked. -/
theorem standby_counts_usable_iff (opts : RuntimeOptions) (ops : List Op)
    (policy : StandbyPoolPolicy)
    (clock : EngineIncarnationId → ReadinessProfileId → DurationNs) :
    CountsUsable (machine.exec (Impl.new opts) ops) policy clock ↔
      placesUnmarked (machine.exec (Impl.new opts) ops) policy clock = true := by
  have hkeyed := wellKeyed_exec opts ops
  generalize machine.exec (Impl.new opts) ops = s at hkeyed ⊢
  simp only [placesUnmarked, List.all_eq_true, Bool.or_eq_true, Bool.not_eq_true']
  constructor
  · intro husable i hi
    by_cases hplace : (standsBy s policy clock i && hasPlace s policy clock i) = true
    case neg => exact .inl (Bool.eq_false_iff.mpr hplace)
    rw [Bool.and_eq_true] at hplace
    obtain ⟨hstands, hplace⟩ := hplace
    -- The engine is defined, or no evaluation would have served.
    have hparts := hstands
    simp only [standsBy, Bool.and_eq_true, beq_iff_eq] at hparts
    obtain ⟨engine, hengine, -⟩ := evaluatesToServe_iff.mp hparts.2
    rw [hparts.1.1.1] at hengine
    obtain ⟨scan, hscan⟩ := @scan_total _ _ clock _ {} s.incarnations.values hengine
    have hcounted := (mem_counted hkeyed hscan).mpr ⟨hi, hstands, hplace⟩
    exact .inr ((husable _ (reconcileStandby_ok hscan)).2 i hcounted).unmarked
  · intro hplaces acc hacc
    have hcounted : ∀ i ∈ counted s policy clock,
        i ∈ s.incarnations.values ∧ Usable s policy.engineId i (clock i.incarnationId) := by
      intro i hi
      cases hscan : scanStandby s policy clock with
      | error e => simp [counted, hscan] at hi
      | ok scan =>
        obtain ⟨hmem, hstands, hplace⟩ := (mem_counted hkeyed hscan).mp hi
        have hunmarked : unmarked s i = true := by
          refine (hplaces i hmem).resolve_left ?_
          simp [hstands, hplace]
        exact ⟨hmem, usable_of_unmarked hkeyed hmem hstands hunmarked⟩
    refine ⟨fun id hid => ?_, fun i hi => (hcounted i hi).2⟩
    obtain ⟨i, hi, rfl⟩ := (reconcileStandby_counts hacc).2 id hid
    exact ⟨i, findInc_of_mem_values hkeyed (hcounted i hi).1, (hcounted i hi).2⟩

/-- The sample incarnation was verified before the epoch changed. -/
def sampleUnvalidated : List Op := sampleDemanding ++ [samplePublish ⟨1⟩ 10, .advanceEpoch]

/-- The sample incarnation was verified, and a second one has taken over from it. -/
def sampleReplaced : List Op :=
  sampleDemanding ++
  [samplePublish ⟨1⟩ 10,
   .issueRegistrationPermit ⟨2⟩ ⟨1⟩,
   .registerIncarnation { engineId := ⟨1⟩, workerId := ⟨2⟩, workerBoot := ⟨1⟩ }
     { permitId := ⟨3⟩ } 0,
   .markRunning ⟨3⟩ 0,
   .beginReplacement
     { oldIncarnation := ⟨2⟩, candidateIncarnation := ⟨3⟩, epoch := ⟨1⟩, authority := ⟨1⟩ },
   .commitCutover ⟨2⟩]

/-- A pool of the sample engine that wants one standby. -/
def samplePool : StandbyPoolPolicy := { engineId := ⟨1⟩, targetStandby := 1 }

theorem not_countsUsable {clock : EngineIncarnationId → ReadinessProfileId → DurationNs}
    (h : (counted s policy clock).any (fun i => !unmarked s i) = true) :
    ¬ CountsUsable s policy clock := by
  intro husable
  obtain ⟨i, hi, hmarked⟩ := List.any_eq_true.mp h
  cases hscan : scanStandby s policy clock with
  | error e => simp [counted, hscan] at hi
  | ok scan =>
    have hunmarked := ((husable _ (reconcileStandby_ok hscan)).2 i hi).unmarked
    simp [hunmarked] at hmarked

/-- An incarnation that awaits revalidation is counted, and so is the old incarnation after a
cutover. -/
theorem standby_counts_marked :
    ((reconcileStandby (machine.exec (Impl.new {}) sampleUnvalidated) samplePool
      fun _ _ => 20).toOption.map StandbyAccounting.eligible = some 1 ∧
      ¬ CountsUsable (machine.exec (Impl.new {}) sampleUnvalidated) samplePool fun _ _ => 20) ∧
    (reconcileStandby (machine.exec (Impl.new {}) sampleReplaced) samplePool
      fun _ _ => 20).toOption.map StandbyAccounting.eligible = some 1 ∧
      ¬ CountsUsable (machine.exec (Impl.new {}) sampleReplaced) samplePool fun _ _ => 20 := by
  have hunvalidated : (reconcileStandby (machine.exec (Impl.new {}) sampleUnvalidated) samplePool
      fun _ _ => 20).toOption.map StandbyAccounting.eligible = some 1 ∧
      (counted (machine.exec (Impl.new {}) sampleUnvalidated) samplePool fun _ _ => 20).any
        (fun i => !unmarked (machine.exec (Impl.new {}) sampleUnvalidated) i) = true := by
    decide +kernel
  have hreplaced : (reconcileStandby (machine.exec (Impl.new {}) sampleReplaced) samplePool
      fun _ _ => 20).toOption.map StandbyAccounting.eligible = some 1 ∧
      (counted (machine.exec (Impl.new {}) sampleReplaced) samplePool fun _ _ => 20).any
        (fun i => !unmarked (machine.exec (Impl.new {}) sampleReplaced) i) = true := by
    decide +kernel
  exact ⟨⟨hunvalidated.1, not_countsUsable hunvalidated.2⟩, hreplaced.1,
    not_countsUsable hreplaced.2⟩

end EngineResidency.Runtime
