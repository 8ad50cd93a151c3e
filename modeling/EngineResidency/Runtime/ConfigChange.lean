-- SUMMARY: When a change of the configuration of an engine supersedes the readiness it had.
import EngineResidency.Readiness.Relations
import EngineResidency.Runtime.Cutover
import EngineResidency.Runtime.Evidence

/-!
# Configuration changes

A change of the configuration invalidates the preparation of the incarnations and counts
their readiness generations on. The evidence stays as it is, and readiness is evaluated
from the evidence: it is superseded only where the evidence can satisfy nothing.
-/

namespace EngineResidency.Runtime

open EStateM

variable {s s' : Impl} {op : Op} {r : Except Err Reply} {id : EngineIncarnationId}

/-! ## Inert evidence -/

/-- The record satisfies nothing at any time: its state does not count, or it expires and
the time of its observation is not known. -/
def isInert (e : ComponentEvidence) : Bool :=
  decide (e.state.rank < 0) || (e.maxAgeNs != 0 && e.observedAtNs == 0)

/-- Whatever is asked for, what is selected is inert. -/
def SelectsInert (evidence : List ComponentEvidence) : Prop :=
  ∀ category subject e, bestEvidence evidence category subject [] = some e → isInert e = true

theorem selectsInert_of_void {evidence : List ComponentEvidence}
    (h : ∀ e ∈ evidence, e.state = .revalidationRequired) : SelectsInert evidence := by
  intro category subject e hselected
  rw [isInert, h e (bestEvidence_mem hselected).1]
  rfl

/-- An inert record does not do for any requirement. -/
theorem rejects_of_inert {engine : EngineDefinition} {now : DurationNs} {req : ProfileRequirement}
    {e : ComponentEvidence} (h : isInert e = true) : req.Rejects engine now e := by
  rw [isInert, Bool.or_eq_true, decide_eq_true_eq, Bool.and_eq_true, bne_iff_ne, beq_iff_eq] at h
  rcases h with hrank | ⟨hexpires, hunknown⟩
  · refine .inl (Bool.eq_false_iff.mpr fun hstrong => ?_)
    simp only [stateSatisfies, Bool.and_eq_true, decide_eq_true_eq] at hstrong
    omega
  · exact .inr (.inr (by rw [ComponentEvidence.isFresh, if_neg hexpires, if_pos hunknown]))

theorem not_serves_of_selectsInert {engine : EngineDefinition} {profile : ReadinessProfile}
    {inc : EngineIncarnation} {evidence : List ComponentEvidence} {now : DurationNs}
    (h : SelectsInert evidence) {req : ProfileRequirement} (hreq : req ∈ profile.requirements)
    (hdemanded : req.IsDemanded) :
    ¬ (EngineResidency.evaluateReadiness engine profile inc evidence now).outcome.serves := by
  intro hserves
  obtain ⟨hfree, hyoung⟩ := outcome_serves_iff.mp hserves
  obtain ⟨e, he⟩ := satisfies_of_serves hserves hreq hdemanded
  rcases (found_iff_rejects he.selected (.inl hdemanded)).mpr
    (rejects_of_inert (h _ _ e he.selected)) with hi | hm | hs
  · exact hfree ⟨req, hreq, .inl hi⟩
  · exact hfree ⟨req, hreq, .inr hm⟩
  · exact hyoung ⟨req, hreq, hs⟩

/-! ## What runs without publications keep -/

theorem EvidenceChange.selectsInert (h : EvidenceChange s op r s')
    (hnone : returnedEvidence id (op, r) = none) (hs : SelectsInert (s.evidenceFor id)) :
    SelectsInert (s'.evidenceFor id) := by
  cases h with
  | kept h =>
    rw [evidenceFor_congr h]
    exact hs
  | @published ev now _ hepoch h =>
    rw [evidenceFor_push h]
    split
    · rename_i hid
      simp [returnedEvidence, stampedEvidence, hid] at hnone
    · exact hs
  | voided h =>
    rw [evidenceFor_void h]
    split
    · refine selectsInert_of_void fun e he => ?_
      obtain ⟨e, -, rfl⟩ := List.mem_map.mp he
      rfl
    · exact hs
  | recovered => exact selectsInert_of_void fun e => restored_evidenceFor

theorem selectsInert_exec (ops : List Op) (hnone : publishedFor id s ops = [])
    (hs : SelectsInert (s.evidenceFor id)) : SelectsInert ((machine.exec s ops).evidenceFor id) := by
  induction ops generalizing s with
  | nil => exact hs
  | cons op ops ih =>
    rw [publishedFor_cons, List.append_eq_nil_iff, Option.toList_eq_nil_iff] at hnone
    exact ih hnone.2 ((step_transition s op).evidence.selectsInert hnone.1 hs)

/-! ## What reopens an incarnation -/

/-- The operation left the tables that readiness is evaluated from as they were. -/
structure SameTables (s s' : Impl) : Prop where
  profiles : s'.profiles = s.profiles
  engines : s'.engines = s.engines
  evidence : s'.evidence = s.evidence

/-- A revalidation opens every incarnation to evaluation, also when it then throws. -/
theorem revalidate_opens {i : EngineIncarnation} (hi : s.findInc id = some i) :
    SameTables s (machine.next s (.revalidate id)) ∧
      ∃ i', (machine.next s (.revalidate id)).findInc id = some i' ∧ i'.engineId = i.engineId ∧
        i'.state.recovery.awaitsRevalidation = false := by
  have hlookup : s.incarnations.lookup id = some i := hi
  have h : wp (step (.revalidate id)) (fun _ s' => SameTables s s' ∧ ∃ i', s'.findInc id = some i' ∧
      i'.engineId = i.engineId ∧ i'.state.recovery.awaitsRevalidation = false) s := by
    have hreinstated : (reinstate id i s).incarnations.lookup id = some (revalidated i) :=
      (AList.lookup_modify_self _ _ _).trans (congrArg _ hlookup)
    refine wp_map (wp_get (wp_found_of_eq hi (wp_modify ?_)))
    refine wp_unwrap (fun e _ => ?_) fun gen _ => wp_modify (wp_pure ?_)
    · exact ⟨⟨rfl, rfl, rfl⟩, revalidated i, hreinstated, rfl, rfl⟩
    · refine ⟨⟨rfl, rfl, rfl⟩, setReadiness gen (revalidated i), ?_, rfl, rfl⟩
      refine (AList.lookup_modify_self _ _ _).trans ?_
      rw [hreinstated]
      rfl
  exact wp_iff.mp h

/-- A profile is stored for any engine that is there. -/
theorem defineProfile_next {profile : ReadinessProfile} {engine : EngineDefinition}
    (hengine : s.engines.lookup profile.engineId = some engine) :
    machine.next s (.defineProfile profile) =
      storeProfile (completedProfile (countProfile profile s) profile) (countProfile profile s) := by
  have h : wp (step (.defineProfile profile)) (fun _ s' => s' =
      storeProfile (completedProfile (countProfile profile s) profile) (countProfile profile s)) s :=
    wp_map (wp_modify (wp_get (wp_found_of_eq hengine (wp_modify (wp_pure rfl)))))
  exact wp_iff.mp h

/-! ## The change -/

/-- After a change of the configuration no incarnation that the engine had is served for a
profile with a requirement, until new evidence is published for it. -/
def SupersedesReadiness (s : Impl) (engineId : EngineId) (newGen : EngineConfigGeneration) : Prop :=
  ∀ id i, s.findInc id = some i → i.engineId = engineId → ∀ ops,
    publishedFor id (machine.next s (.updateEngineConfig engineId newGen)) ops = [] →
    ∀ profId profile now,
      (machine.exec s (.updateEngineConfig engineId newGen :: ops)).profiles.lookup profId =
        some profile →
      (∃ req ∈ profile.requirements, req.kind = .required) →
      servesFor (machine.exec s (.updateEngineConfig engineId newGen :: ops)) id profId now = false

/-- What a successful change leaves alone. -/
theorem updateEngineConfig_keeps {engineId : EngineId} {newGen : EngineConfigGeneration}
    (hok : machine.result s (.updateEngineConfig engineId newGen) = .ok .done) :
    (machine.next s (.updateEngineConfig engineId newGen)).evidence = s.evidence ∧
      (∃ engine, (machine.next s (.updateEngineConfig engineId newGen)).engines.lookup engineId =
        some engine) ∧
      ∀ id i, s.findInc id = some i → ∃ i',
        (machine.next s (.updateEngineConfig engineId newGen)).findInc id = some i' ∧
          i'.engineId = i.engineId := by
  have h := step_transition s (.updateEngineConfig engineId newGen)
  rw [hok] at h
  generalize machine.next s (.updateEngineConfig engineId newGen) = s' at h ⊢
  have hincs := h.incarnations
  cases h with
  | @updateEngineConfig _ _ _ _ engine hr hf hengine =>
    refine ⟨rfl, ?_, fun id i hi => ?_⟩
    · exact ⟨_, (AList.lookup_modify_self _ _ _).trans (congrArg _ hengine)⟩
    · rcases hincs with hchanged | ⟨inc, now, henr⟩ | ⟨blob, p, hload, -⟩
      · obtain ⟨i', hi', hchange⟩ := hchanged.findInc_next hi
        exact ⟨i', hi', hchange.sameIdentity.engineId⟩
      · obtain ⟨permit, hregister⟩ := henr.op_eq
        cases hregister
      · cases hload

/-- A profile that asks for nothing but a record. -/
def askingFor (engineId : EngineId) (category : ComponentCategory) (subject : Str) :
    ReadinessProfile :=
  { profileId := ⟨1⟩
    engineId
    requirements := [{ category, subject, minState := .absent }] }

/-- A record that is not inert does for such a profile at the time of its observation. -/
theorem serves_askingFor {engine : EngineDefinition} {engineId : EngineId}
    {profile : ReadinessProfile} {inc : EngineIncarnation} {evidence : List ComponentEvidence}
    {category : ComponentCategory} {subject : Str} {e : ComponentEvidence}
    (hprofile : profile.requirements = (askingFor engineId category subject).requirements)
    (hselected : bestEvidence evidence category subject [] = some e) (hlive : isInert e = false) :
    (EngineResidency.evaluateReadiness engine profile inc evidence e.observedAtNs).outcome.serves := by
  rw [isInert, Bool.or_eq_false_iff, decide_eq_false_iff_not, Bool.and_eq_false_iff, bne_eq_false_iff_eq,
    beq_eq_false_iff_ne] at hlive
  obtain ⟨hrank, htime⟩ := hlive
  have hdoes : ∀ req ∈ profile.requirements,
      ¬ (IsIncompatible engine evidence req ∨ IsMissing evidence req ∨
        IsStale engine evidence e.observedAtNs req) := by
    intro req hreq
    rw [hprofile] at hreq
    cases List.mem_singleton.mp hreq
    rw [found_iff_rejects hselected (.inl (.inl rfl))]
    rintro (hweak | hmismatches | hold)
    · have hleast : ComponentState.absent.rank = 0 := rfl
      simp only [stateSatisfies, hleast, Bool.and_eq_false_iff, decide_eq_false_iff_not] at hweak
      omega
    · rcases hmismatches with ⟨hkey, -⟩ | hgeneration
      · cases hkey
      · cases hgeneration
    · rcases htime with hlasting | hknown
      · simp [ComponentEvidence.isFresh, hlasting] at hold
      · simp [ComponentEvidence.isFresh, hknown] at hold
  refine outcome_serves_iff.mpr ⟨?_, ?_⟩
  · rintro ⟨req, hreq, hi | hm⟩
    · exact hdoes req hreq (.inl hi)
    · exact hdoes req hreq (.inr (.inl hm))
  · rintro ⟨req, hreq, hs⟩
    exact hdoes req hreq (.inr (.inr hs))

/-- Only an incarnation that is there is served. -/
theorem findInc_of_servesFor {profId : ReadinessProfileId} {now : DurationNs}
    (h : servesFor s id profId now = true) : ∃ inc, s.findInc id = some inc := by
  cases hinc : s.findInc id with
  | none => simp [servesFor, evaluateReadiness, hinc, bind, Except.bind] at h
  | some inc => exact ⟨inc, rfl⟩

/-- An incarnation whose evidence is not inert is served once a profile that asks for a live
record is defined and the incarnation is opened to evaluation. -/
theorem served_of_live {engineId : EngineId} {engine : EngineDefinition} {i : EngineIncarnation}
    {category : ComponentCategory} {subject : Str} {e : ComponentEvidence}
    (hengine : s.engines.lookup engineId = some engine) (hi : s.findInc id = some i)
    (howner : i.engineId = engineId)
    (hselected : bestEvidence (s.evidenceFor id) category subject [] = some e)
    (hlive : isInert e = false) :
    ∃ profId profile,
      (machine.exec s [.defineProfile (askingFor engineId category subject),
        .revalidate id]).profiles.lookup profId = some profile ∧
      profile.requirements = (askingFor engineId category subject).requirements ∧
      servesFor (machine.exec s [.defineProfile (askingFor engineId category subject),
        .revalidate id]) id profId e.observedAtNs = true := by
  simp only [Machine.exec_cons, Machine.exec_nil]
  have hdefined := @defineProfile_next s (askingFor engineId category subject) engine hengine
  generalize hstored : completedProfile (countProfile (askingFor engineId category subject) s)
    (askingFor engineId category subject) = stored at hdefined
  have hi₁ : (machine.next s (.defineProfile (askingFor engineId category subject))).findInc id =
      some i := by
    rw [hdefined]
    exact hi
  obtain ⟨htables, i₂, hi₂, howner₂, hopen⟩ := revalidate_opens hi₁
  have hprofile : (machine.next (machine.next s (.defineProfile (askingFor engineId category subject)))
      (.revalidate id)).profiles.lookup stored.profileId = some stored := by
    rw [htables.profiles, hdefined]
    exact AList.lookup_insert _
  have hrequirements : stored.requirements = (askingFor engineId category subject).requirements := by
    rw [← hstored]
    rfl
  refine ⟨stored.profileId, stored, hprofile, hrequirements, (servesFor_iff hi₂).mpr
    ⟨stored, engine, hprofile, ?_, ?_, hopen, serves_askingFor hrequirements ?_ hlive⟩⟩
  · rw [howner₂, howner, ← hstored]
    rfl
  · rw [howner₂, howner, htables.engines, hdefined]
    exact hengine
  · rw [evidenceFor_congr htables.evidence, hdefined]
    exact hselected

/-- A change of the configuration supersedes readiness exactly when all evidence that may be
selected for the incarnations of the engine is inert. -/
theorem config_change_supersedes_iff (opts : RuntimeOptions) (ops : List Op) (engineId : EngineId)
    (newGen : EngineConfigGeneration)
    (hok : machine.result (machine.exec (Impl.new opts) ops) (.updateEngineConfig engineId newGen) =
      .ok .done) :
    SupersedesReadiness (machine.exec (Impl.new opts) ops) engineId newGen ↔
      ∀ id i, (machine.exec (Impl.new opts) ops).findInc id = some i → i.engineId = engineId →
        SelectsInert ((machine.exec (Impl.new opts) ops).evidenceFor id) := by
  generalize machine.exec (Impl.new opts) ops = s at hok ⊢
  obtain ⟨hevidence, ⟨engine, hengine⟩, hincs⟩ := updateEngineConfig_keeps hok
  constructor
  · intro h id i hi howner category subject e hselected
    by_contra hlive
    obtain ⟨i', hi', howner'⟩ := hincs id i hi
    rw [← evidenceFor_congr hevidence] at hselected
    obtain ⟨profId, profile, hprofile, hrequirements, hserves⟩ :=
      served_of_live hengine hi' (howner'.trans howner) hselected (Bool.not_eq_true _ ▸ hlive)
    -- The profile is defined and the incarnation revalidated; nothing is published.
    have hnever := h id i hi howner
      [.defineProfile (askingFor engineId category subject), .revalidate id] rfl profId profile
      e.observedAtNs hprofile
      ⟨_, by rw [hrequirements]; exact List.mem_singleton_self _, rfl⟩
    exact Bool.eq_false_iff.mp hnever hserves
  · intro h id i hi howner more hnone profId profile now hprofile ⟨req, hreq, hkind⟩
    have hinert : SelectsInert ((machine.exec s
        (.updateEngineConfig engineId newGen :: more)).evidenceFor id) := by
      refine selectsInert_exec more hnone ?_
      rw [evidenceFor_congr hevidence]
      exact h id i hi howner
    refine Bool.eq_false_iff.mpr fun hserves => ?_
    obtain ⟨inc, hinc⟩ := findInc_of_servesFor hserves
    obtain ⟨profile', engine', hprofile', -, -, -, houtcome⟩ := (servesFor_iff hinc).mp hserves
    cases hprofile.symm.trans hprofile'
    exact not_serves_of_selectsInert hinert hreq (.inl hkind) houtcome

/-- The evidence of the sample incarnation was invalidated before the change. -/
def sampleVoided : List Op :=
  sampleDemanding ++ [samplePublish ⟨1⟩ 0, .invalidateIncarnationComponents ⟨2⟩ []]

theorem config_change_supersedes_sample :
    ((machine.exec (Impl.new {}) sampleVoided).evidenceFor ⟨2⟩).map (·.state) =
        [.revalidationRequired] ∧
      SupersedesReadiness (machine.exec (Impl.new {}) sampleVoided) ⟨1⟩ ⟨2⟩ := by
  refine ⟨by decide, (config_change_supersedes_iff {} sampleVoided ⟨1⟩ ⟨2⟩ rfl).mpr ?_⟩
  intro id i hi _
  have hkeys : (machine.exec (Impl.new {}) sampleVoided).incarnations.keys = [⟨2⟩] := by decide
  have hid := AList.mem_keys.mp (AList.mem_of_lookup hi)
  rw [hkeys, List.mem_singleton] at hid
  subst hid
  exact selectsInert_of_void (by decide)

/-- An incarnation whose model was verified before the change is served after it, without a
new publication. -/
theorem readiness_outlives_config_change :
    machine.result (machine.exec (Impl.new {}) (sampleDemanding ++ [samplePublish ⟨1⟩ 0]))
        (.updateEngineConfig ⟨1⟩ ⟨2⟩) = .ok .done ∧
      ¬ SupersedesReadiness (machine.exec (Impl.new {}) (sampleDemanding ++ [samplePublish ⟨1⟩ 0]))
        ⟨1⟩ ⟨2⟩ := by
  refine ⟨rfl, fun h => ?_⟩
  have hserves := h ⟨2⟩ _ rfl rfl [] rfl ⟨1⟩ _ 0 rfl ⟨{}, List.mem_singleton_self _, rfl⟩
  exact absurd hserves (by decide +kernel)

end EngineResidency.Runtime
