-- SUMMARY: Every command that is sent to a connection was asked for, and names an incarnation that this connection has registered.
import EngineResidency.Coordinator.Sources

/-!
# Owners

What the threads put into the tables of the registry adds up to a fact about whole runs. A session is
run by one thread as long as identities are not given out twice, which takes as many connections as
there are identities. What its thread has registered belongs to the connection, and the commands for
it reach no other.
-/

namespace EngineResidency.Coordinator

open EngineResidency.Runtime

/-! ## Sessions and their threads -/

/-- The identity that a step has taken. -/
def takenBy : Deed → Option UInt64
  | ⟨.locked _ _, g⟩ => some g.nextSession
  | _ => none

/-- The identity of the session of a round, once it has one. -/
def sidOf (rd : Round Action Action.Res Loop) : Option UInt64 :=
  match rd.start with
  | .start => rd.steps.head?.bind takenBy
  | .session s => some s.sid
  | .dispatch s _ => some s.sid

/-- The thread runs the session. -/
def Runs (st : Traces) (tid : Nat) (sid : UInt64) : Prop :=
  ∃ rd, st.rounds[tid]? = some rd ∧ sidOf rd = some sid

/-- A turn of the coordinator whose threads do what is said of the tables. -/
abbrev Goes (st : Traces) (sc : Sched Input) (st' : Traces) : Prop :=
  System.Advances coordinator Addresses LeadsOn st sc st'

section Runs

variable {st st' : Traces} {sc : Sched Input} {tid : Nat} {sid : UInt64}

/-- A thread takes its session along. -/
theorem Leads.sidOf {l : Loop} {rd : Round Action Action.Res Loop} (h : Leads rd.steps rd.start l) :
    sidOf { start := l } = sidOf rd := by
  obtain ⟨first, steps⟩ := rd
  cases h with
  | begins hh hsid =>
    cases hh
    exact congrArg some hsid
  | stays hsid | dispatches hsid => exact congrArg some hsid
  | goesOn => rfl

/-- A step leaves the session of its round alone, or it takes one. -/
theorem Addresses.sidOf {rd : Round Action Action.Res Loop} {a : Action}
    (h : Addresses rd.start rd.steps a) (r : a.Res) :
    sidOf { rd with steps := rd.steps ++ [⟨a, r⟩] } = sidOf rd ∨
      (sidOf rd = none ∧ ∃ ready g, (⟨a, r⟩ : Deed) = ⟨.locked ready takeSession, g⟩ ∧
        sidOf { rd with steps := rd.steps ++ [⟨a, r⟩] } = some g.nextSession) := by
  obtain ⟨first, steps⟩ := rd
  cases first with
  | session s | dispatch s rid => exact .inl rfl
  | start =>
    cases steps with
    | cons e steps => exact .inl rfl
    | nil =>
      cases a with
      | locked ready f =>
        cases h with
        | homely hl => exact absurd rfl hl
        | take _ _ hf =>
          subst hf
          exact .inr ⟨rfl, ready, r, rfl, rfl⟩
        | bind hl | enqueue hl => cases hl
      | _ => exact .inl rfl

theorem Runs.advance (hruns : Runs st tid sid) (h : Goes st sc st') : Runs st' tid sid := by
  obtain ⟨rd, hround, hsid⟩ := hruns
  obtain ⟨hlt, -⟩ := List.getElem?_eq_some_iff.mp hround
  cases h with
  | blocked => exact ⟨rd, hround, hsid⟩
  | spawned => exact ⟨rd, (List.getElem?_append_left hlt).trans hround, hsid⟩
  | @looped tid' _ l rd' hround' hend =>
    by_cases heq : tid' = tid
    · subst heq
      cases hround.symm.trans hround'
      exact ⟨_, List.getElem?_set_self hlt, (hend l rfl).sidOf.trans hsid⟩
    · exact ⟨rd, (List.getElem?_set_ne heq).trans hround, hsid⟩
  | @acted tid' _ a k r s rd' _ hround' haddresses =>
    by_cases heq : tid' = tid
    · subst heq
      cases hround.symm.trans hround'
      refine ⟨_, List.getElem?_set_self hlt, ?_⟩
      rcases haddresses.sidOf r with hsame | ⟨hnone, -⟩
      · exact hsame.trans hsid
      · cases hnone.symm.trans hsid
    · exact ⟨rd, (List.getElem?_set_ne heq).trans hround, hsid⟩

/-- A thread has run its session before, or has just taken it. -/
theorem Goes.runs (h : Goes st sc st') (hruns : Runs st' tid sid) :
    Runs st tid sid ∨ ((∀ sid, ¬ Runs st tid sid) ∧ (∃ input, sc = .move tid input) ∧
      sid = st.pool.shared.registry.nextSession ∧
      st'.pool.shared.registry = takeSession st.pool.shared.registry) := by
  obtain ⟨rd', hround', hsid⟩ := hruns
  rcases h.round hround' with
    hold | ⟨hnil, hbegun⟩ | ⟨input, a, k, r, rd, hmove, -, hround, haddresses, hperform, rfl, -⟩
  · exact .inl ⟨rd', hold, hsid⟩
  · obtain ⟨first, steps⟩ := rd'
    cases hnil
    rcases hbegun with hstart | ⟨rd, hround, hend⟩
    · cases hstart
      cases hsid
    · exact .inl ⟨rd, hround, (hend _ rfl).sidOf.symm.trans hsid⟩
  · rcases haddresses.sidOf r with hsame | ⟨hnone, ready, g, hdeed, htaken⟩
    · exact .inl ⟨rd, hround, hsame.symm.trans hsid⟩
    · cases hdeed
      refine .inr ⟨fun sid' hruns => ?_, ⟨input, hmove⟩, ?_⟩
      · obtain ⟨rd', hround', hsid'⟩ := hruns
        cases hround'.symm.trans hround
        cases hnone.symm.trans hsid'
      · rcases performAlive_registry hperform with ⟨-, hother⟩ | ⟨ready', f, hdeed, hnext⟩
        · exact absurd rfl (hother ready takeSession)
        · cases hdeed
          exact ⟨Option.some.inj (hsid.symm.trans htaken), hnext⟩

/-! ## Identities of sessions -/

theorem countP_set_add {A : Type} {p : A → Bool} {xs : List A} {i : Nat} {x y : A}
    (h : xs[i]? = some x) :
    (xs.set i y).countP p + (if p x then 1 else 0) = xs.countP p + (if p y then 1 else 0) := by
  obtain ⟨hlt, rfl⟩ := List.getElem?_eq_some_iff.mp h
  have hle : (if p xs[i] then 1 else 0) ≤ xs.countP p := List.boole_getElem_le_countP hlt
  rw [List.countP_set hlt]
  omega

/-- The number of threads that have taken an identity. -/
def served (st : Traces) : Nat := st.rounds.countP fun rd => (sidOf rd).isSome

theorem served_le (st : Traces) : served st ≤ st.rounds.length := List.countP_le_length

section Set

variable {rd rd' : Round Action Action.Res Loop}

theorem served_lt_set (hround : st.rounds[tid]? = some rd) (hnone : sidOf rd = none)
    (hsome : sidOf rd' = some sid) :
    served st < (st.rounds.set tid rd').countP fun rd => (sidOf rd).isSome := by
  have hcount := countP_set_add (p := fun rd => (sidOf rd).isSome) (y := rd') hround
  simp only [hnone, hsome, Option.isSome_none, Option.isSome_some, if_true] at hcount
  exact Nat.lt_of_succ_le (Nat.le_of_eq hcount.symm)

theorem served_le_set (hround : st.rounds[tid]? = some rd)
    (hsid : sidOf rd' = sidOf rd ∨ sidOf rd = none ∧ ∃ sid, sidOf rd' = some sid) :
    served st ≤ (st.rounds.set tid rd').countP fun rd => (sidOf rd).isSome := by
  rcases hsid with hsame | ⟨hnone, sid, hsome⟩
  · have hcount := countP_set_add (p := fun rd => (sidOf rd).isSome) (y := rd') hround
    rw [hsame] at hcount
    exact Nat.le_of_eq (Nat.add_right_cancel hcount).symm
  · exact Nat.le_of_lt (served_lt_set hround hnone hsome)

end Set

theorem tables_enqueueCommand (rid : Nat) (cmd : WorkerCommand) (g : Registry) :
    (enqueueCommand rid cmd g).nextSession = g.nextSession ∧
      (enqueueCommand rid cmd g).sessionInc = g.sessionInc ∧
      (enqueueCommand rid cmd g).workerRouter = g.workerRouter := by
  unfold enqueueCommand Registry.fulfil
  dsimp only
  repeat' split
  all_goals exact ⟨rfl, rfl, rfl⟩

/-- A turn takes no identity, or one thread more has one. -/
theorem Goes.served (h : Goes st sc st') : served st ≤ served st' ∧
    (st'.pool.shared.registry.nextSession = st.pool.shared.registry.nextSession ∨
      (st'.pool.shared.registry = takeSession st.pool.shared.registry ∧
        served st < served st')) := by
  cases h with
  | blocked => exact ⟨Nat.le_refl _, .inl rfl⟩
  | spawned => exact ⟨by simp [Coordinator.served], .inl rfl⟩
  | looped hround hend => exact ⟨served_le_set hround (.inl (hend _ rfl).sidOf), .inl rfl⟩
  | @acted _ _ a k r s rd _ hround haddresses hperform =>
    have hsid := haddresses.sidOf r
    refine ⟨served_le_set hround (hsid.imp_right fun ⟨hnone, _, _, _, hsome⟩ => ⟨hnone, _, hsome⟩), ?_⟩
    rcases performAlive_registry hperform with ⟨hsame, -⟩ | ⟨ready, f, hdeed, hnext⟩
    · exact .inl (congrArg Registry.nextSession hsame)
    · cases hdeed
      cases haddresses with
      | homely _ hf => exact .inl (hnext ▸ hf.nextSession _)
      | bind _ _ hf =>
        subst hf
        exact .inl (hnext ▸ rfl)
      | enqueue _ _ _ hf =>
        subst hf
        exact .inl ((congrArg Registry.nextSession hnext).trans (tables_enqueueCommand ..).1)
      | take hl hh hf =>
        subst hf
        refine .inr ⟨hnext, ?_⟩
        have hnone : sidOf rd = none := by simp [sidOf, hl, hh]
        exact served_lt_set hround hnone (by simp [sidOf, hl, hh, takenBy]; rfl)

/-- What a run keeps of the identities, as long as there are fewer threads. -/
structure Sessions (st : Traces) : Prop where
  counted : st.pool.shared.registry.nextSession.toNat ≤ 1 + served st
  below : ∀ tid sid, Runs st tid sid → sid.toNat < st.pool.shared.registry.nextSession.toNat
  unique : ∀ tid tid' sid, Runs st tid sid → Runs st tid' sid → tid = tid'

/-- The next identity has not been given out. -/
theorem Sessions.nextSession (hst : Sessions st) (h : Goes st sc st')
    (hroom : st'.rounds.length < 2 ^ 64 - 1) :
    st'.pool.shared.registry.nextSession.toNat ≤ 1 + served st' ∧
      st.pool.shared.registry.nextSession.toNat ≤ st'.pool.shared.registry.nextSession.toNat ∧
      (st'.pool.shared.registry = takeSession st.pool.shared.registry →
        st'.pool.shared.registry.nextSession.toNat =
          st.pool.shared.registry.nextSession.toNat + 1) := by
  have hcounted := hst.counted
  have hfew := served_le st'
  obtain ⟨hle, hsame | ⟨htaken, hlt⟩⟩ := h.served
  · rw [hsame]
    refine ⟨by omega, Nat.le_refl _, fun htaken => ?_⟩
    rw [htaken] at hsame
    exact absurd (UInt64.add_eq_left.mp hsame) (by decide)
  · have hnext : st'.pool.shared.registry.nextSession.toNat =
        st.pool.shared.registry.nextSession.toNat + 1 := by
      rw [htaken]
      exact (UInt64.toNat_add _ _).trans (Nat.mod_eq_of_lt (by simp; omega))
    exact ⟨by omega, by omega, fun _ => hnext⟩

theorem Sessions.advance (hst : Sessions st) (h : Goes st sc st')
    (hroom : st'.rounds.length < 2 ^ 64 - 1) : Sessions st' := by
  obtain ⟨hcounted, hle, hnext⟩ := hst.nextSession h hroom
  refine ⟨hcounted, fun tid sid hruns => ?_, fun tid tid' sid hruns hruns' => ?_⟩
  · rcases h.runs hruns with hold | ⟨-, -, rfl, htaken⟩
    · exact Nat.lt_of_lt_of_le (hst.below tid sid hold) hle
    · exact hnext htaken ▸ Nat.lt_succ_self _
  · rcases h.runs hruns with hold | ⟨-, ⟨input, hmove⟩, hsid, -⟩
    · rcases h.runs hruns' with hold' | ⟨-, -, hsid', -⟩
      · exact hst.unique tid tid' sid hold hold'
      · exact absurd (hsid' ▸ hst.below tid sid hold) (Nat.lt_irrefl _)
    · rcases h.runs hruns' with hold' | ⟨-, ⟨input', hmove'⟩, -, -⟩
      · exact absurd (hsid ▸ hst.below tid' sid hold') (Nat.lt_irrefl _)
      · cases hmove.symm.trans hmove'
        rfl

end Runs

/-! ## Incarnations and their connections -/

/-- The thread has registered the incarnation. -/
def RegisteredBy (st : Traces) (tid : Nat) (id : EngineIncarnationId) : Prop :=
  ∃ worker permit inc, (⟨.call (.registerIncarnation worker permit), .ok (.incarnation inc)⟩ : Deed) ∈
    System.stepsOf st tid ∧ inc.incarnationId = id

/-- The thread of the session has registered the incarnation. -/
def Owns (st : Traces) (sid : UInt64) (id : EngineIncarnationId) : Prop :=
  ∃ tid, Runs st tid sid ∧ RegisteredBy st tid id

/-- The router is bound to an incarnation of the session. -/
def Serves (st : Traces) (sid : UInt64) (rid : Nat) : Prop :=
  ∃ id, st.pool.shared.registry.Binds rid id ∧ Owns st sid id

/-- A connection has received a message that asks for the command, and the router is bound to the
incarnation that the command names. -/
def Wanted (st : Traces) (rid : Nat) (cmd : WorkerCommand) : Prop :=
  st.pool.shared.registry.Binds rid cmd.target ∧
    ∃ i msg t, (⟨.recv, some msg⟩ : Deed) ∈ System.stepsOf st i ∧
      cmd = { routedCommand msg.type msg (parsePayload msg.payload) with ticket := t }

/-- What a run keeps of the tables, and of what its threads have found in them. -/
structure Addressed (st : Traces) : Prop where
  named : ∀ tid id, RegisteredBy st tid id → id ≠ {}
  bound : ∀ sid id, st.pool.shared.registry.sessionInc.lookup sid = some id →
    id = {} ∨ Owns st sid id
  filed : ∀ id rid, st.pool.shared.registry.workerRouter.lookup id = some rid →
    st.pool.shared.registry.Binds rid id ∧ id ≠ {}
  found : ∀ (tid : Nat) rd id rid, st.rounds[tid]? = some rd → FoundRoute rd.steps id rid →
    st.pool.shared.registry.Binds rid id
  own : ∀ (tid : Nat) rd sid rid, st.rounds[tid]? = some rd → FoundOwn rd.steps sid rid →
    Serves st sid rid
  dispatches : ∀ (tid : Nat) rd s rid, st.rounds[tid]? = some rd → rd.start = .dispatch s rid →
    Serves st s.sid rid
  dispatched : ∀ tid rid, Dispatched st tid rid → ∃ sid, Runs st tid sid ∧ Serves st sid rid
  queued : ∀ rid cmd, cmd ∈ (deeds st).flatMap (joinedBy rid) → Wanted st rid cmd

section Addressed

variable {st st' : Traces} {sc : Sched Input} {tid : Nat} {sid : UInt64} {rid : Nat}
  {id : EngineIncarnationId}

theorem addressed_tracing (state : Option Str) : Addressed (tracing state) where
  named := by
    rintro tid id ⟨_, _, _, hmem, -⟩
    cases hmem
  bound := nofun
  filed := nofun
  found := nofun
  own := nofun
  dispatches := nofun
  dispatched := by
    rintro tid rid ⟨_, hmem, -⟩
    cases hmem
  queued := nofun

theorem RegisteredBy.advance (h : RegisteredBy st tid id) (hturn : Turns st sc st') :
    RegisteredBy st' tid id := by
  obtain ⟨worker, permit, inc, hmem, hid⟩ := h
  obtain ⟨es, hlog⟩ := hturn.log
  obtain ⟨ds, hgrows⟩ := stepsOf_grows hlog tid
  exact ⟨worker, permit, inc, hgrows ▸ List.mem_append_left ds hmem, hid⟩

theorem Owns.advance (h : Owns st sid id) (hturn : Turns st sc st') (hgoes : Goes st sc st') :
    Owns st' sid id := by
  obtain ⟨tid, hruns, hregistered⟩ := h
  exact ⟨tid, hruns.advance hgoes, hregistered.advance hturn⟩

theorem Serves.advance (h : Serves st sid rid) (hst : Routed st) (hturn : Turns st sc st')
    (hgoes : Goes st sc st') : Serves st' sid rid := by
  obtain ⟨id, hbinds, howns⟩ := h
  exact ⟨id, (hst.extends hturn).2.binds hbinds, howns.advance hturn hgoes⟩

theorem Wanted.advance {cmd : WorkerCommand} (h : Wanted st rid cmd) (hst : Routed st)
    (hturn : Turns st sc st') : Wanted st' rid cmd := by
  obtain ⟨hbinds, i, msg, t, hmem, hcmd⟩ := h
  obtain ⟨es, hlog⟩ := hturn.log
  obtain ⟨ds, hgrows⟩ := stepsOf_grows hlog i
  exact ⟨(hst.extends hturn).2.binds hbinds, i, msg, t, hgrows ▸ List.mem_append_left ds hmem, hcmd⟩

/-- What a thread has seen, it has seen before, or it is so right now. -/
theorem Goes.saw (h : Goes st sc st') {rd' : Round Action Action.Res Loop}
    (hround' : st'.rounds[tid]? = some rd') {P : Registry → Prop} (hsaw : Saw rd'.steps P) :
    (∃ rd, st.rounds[tid]? = some rd ∧ Saw rd.steps P) ∨ P st.pool.shared.registry := by
  obtain ⟨ready, f, g, hmem, hg⟩ := hsaw
  rcases h.round hround' with hold | ⟨hnil, -⟩ | ⟨_, a, _, r, rd, -, -, hround, -, hperform, rfl, -⟩
  · exact .inl ⟨rd', hold, ready, f, g, hmem, hg⟩
  · rw [hnil] at hmem
    cases hmem
  · rcases locked_mem_append hperform hmem with hold | ⟨rfl, -⟩
    · exact .inl ⟨rd, hround, ready, f, g, hold, hg⟩
    · exact .inr hg

/-- The registry after a turn: as before, or as a section has left it. -/
theorem Goes.files (h : Goes st sc st') :
    st'.pool.shared.registry = st.pool.shared.registry ∨
      ∃ (tid : Nat) (rd : Round Action Action.Res Loop) (f : Registry → Registry),
        st.rounds[tid]? = some rd ∧ Files rd.start rd.steps f ∧
        st'.pool.shared.registry = f st.pool.shared.registry := by
  rcases h.shared with hsame | ⟨tid, input, a, r, rd, -, hround, haddresses, hperform⟩
  · exact .inl (congrArg SessionShared.registry hsame)
  · rcases performAlive_registry hperform with ⟨hsame, -⟩ | ⟨ready, f, hdeed, hnext⟩
    · exact .inl hsame
    · cases hdeed
      exact .inr ⟨tid, rd, f, hround, haddresses, hnext⟩

theorem owns_justRegistered (hsound : Sound st) {rd : Round Action Action.Res Loop}
    (hround : st.rounds[tid]? = some rd) {s : SessionLocal} (hl : rd.start = .session s)
    {inc : EngineIncarnation} (hjust : JustRegistered rd.steps inc) :
    Owns st s.sid inc.incarnationId := by
  obtain ⟨before, worker, permit, hsteps⟩ := hjust
  obtain ⟨rounds, hall⟩ := hsound.stepsOf_round hround
  refine ⟨tid, ⟨rd, hround, by simp [sidOf, hl]⟩, worker, permit, inc, ?_, rfl⟩
  rw [hall, hsteps]
  simp

/-- What joins a queue was asked for, of the router that was found. -/
theorem Files.joined {l : Loop} {h : List Deed} {f : Registry → Registry} {g : Registry}
    (hfiles : Files l h f) (hdeal : Deal l h g f)
    (hunnamed : g.replies.lookup g.nextTicket = none) {cmd : WorkerCommand}
    (hmem : cmd ∈ joining rid g (f g)) :
    ∃ cmd₀, cmd = ticketed cmd₀ g ∧ Asked h cmd₀ ∧ FoundRoute h cmd₀.target rid := by
  have hnone : joining rid g (f g) ≠ [] := List.ne_nil_of_mem hmem
  cases hdeal.change hunnamed rid with
  | same hqueue => exact absurd (joining_same hqueue) hnone
  | started _ _ _ hqueue | swept _ _ hqueue => exact absurd (by simp [joining, hqueue]) hnone
  | joined _ _ _ hqueue hnext =>
    have hticket : (f g).nextTicket ≠ g.nextTicket := hnext ▸ Nat.succ_ne_self _
    cases hfiles with
    | homely _ hf => exact absurd (hf.nextTicket g) hticket
    | take _ _ hf | bind _ _ hf =>
      subst hf
      exact absurd rfl hticket
    | @enqueue s k cmd₀ hl hasked hroute hf =>
      subst hf
      cases haccepts : (g.routers.lookup k).any accepts with
      | false =>
        have hrouters := (enqueueCommand_refused cmd₀ haccepts hunnamed).1
        exact absurd (joining_same (queueOf_of_routers hrouters rid)) hnone
      | true =>
        obtain ⟨hself, hother, -⟩ := enqueueCommand_accepted cmd₀ haccepts
        by_cases heq : rid = k
        · subst heq
          refine ⟨cmd₀, ?_, hasked, hroute⟩
          simpa [joining, hself] using hmem
        · exact absurd (joining_same (hother rid heq)) hnone

/-! ### Every turn -/

/-- An identity that is given out is not the empty one. -/
theorem Addressed.named_next {base : Nat} (hst : Addressed st)
    (hnumbered : NumberedSince base st.pool.shared.runtime) (h : Turns st sc st')
    (hregistered : RegisteredBy st' tid id) : id ≠ {} := by
  obtain ⟨worker, permit, inc, hmem, hid⟩ := hregistered
  cases h with
  | blocked | spawned | looped => exact hst.named tid id ⟨worker, permit, inc, hmem, hid⟩
  | @acted tid' input a k r s rd _ hround _ hperform =>
    rw [System.stepsOf_concat rfl] at hmem
    split at hmem
    · rcases List.mem_append.mp hmem with hold | hnew
      · exact hst.named tid id ⟨worker, permit, inc, hold, hid⟩
      · cases List.mem_singleton.mp hnew
        obtain ⟨hr, hnext⟩ := performAlive_call hperform
        have hstep := step_transition st.pool.shared.runtime
          ((Call.registerIncarnation worker permit).op input.now input.admittedAt)
        rw [← hr, ← hnext] at hstep
        have hnumber := (hstep.registered_id hnumbered).1
        rintro rfl
        rw [hid] at hnumber
        exact absurd hnumber.symm (Nat.succ_ne_zero _)
    · exact hst.named tid id ⟨worker, permit, inc, hmem, hid⟩

theorem Addressed.bound_next (hst : Addressed st) (hsound : Sound st) (h : Turns st sc st')
    (hgoes : Goes st sc st')
    (hlookup : st'.pool.shared.registry.sessionInc.lookup sid = some id) :
    id = {} ∨ Owns st' sid id := by
  have hkept : st.pool.shared.registry.sessionInc.lookup sid = some id →
      id = {} ∨ Owns st' sid id := fun hold =>
    (hst.bound sid id hold).imp_right fun howns => howns.advance h hgoes
  rcases hgoes.files with hsame | ⟨tid, rd, f, hround, hfiles, hnext⟩
  · exact hkept (hsame ▸ hlookup)
  · rw [hnext] at hlookup
    cases hfiles with
    | homely _ hf => exact (hf.sessionInc _ _ _ hlookup).elim hkept .inl
    | take _ _ hf =>
      subst hf
      exact hkept hlookup
    | enqueue _ _ _ hf =>
      subst hf
      exact hkept ((tables_enqueueCommand ..).2.1 ▸ hlookup)
    | bind hl hjust hf =>
      subst hf
      simp only [bindSession, AList.lookup_insert'] at hlookup
      split at hlookup
      · rename_i heq
        subst heq
        cases hlookup
        exact .inr ((owns_justRegistered hsound hround hl hjust).advance h hgoes)
      · exact hkept hlookup

theorem Addressed.filed_next (hst : Addressed st) (hsound : Sound st) (h : Turns st sc st')
    (hgoes : Goes st sc st')
    (hlookup : st'.pool.shared.registry.workerRouter.lookup id = some rid) :
    st'.pool.shared.registry.Binds rid id ∧ id ≠ {} := by
  have hkept : st.pool.shared.registry.workerRouter.lookup id = some rid →
      st'.pool.shared.registry.Binds rid id ∧ id ≠ {} := fun hold =>
    (hst.filed id rid hold).imp_left (hsound.routed.extends h).2.binds
  rcases hgoes.files with hsame | ⟨tid, rd, f, hround, hfiles, hnext⟩
  · exact hkept (hsame ▸ hlookup)
  · rw [hnext] at hlookup
    cases hfiles with
    | homely _ hf => exact hkept (hf.workerRouter _ _ _ hlookup)
    | take _ _ hf =>
      subst hf
      exact hkept hlookup
    | enqueue _ _ _ hf =>
      subst hf
      exact hkept ((tables_enqueueCommand ..).2.2 ▸ hlookup)
    | bind hl hjust hf =>
      subst hf
      obtain ⟨tid, -, hregistered⟩ := owns_justRegistered hsound hround hl hjust
      simp only [bindSession, AList.lookup_insert'] at hlookup
      split at hlookup
      · rename_i heq
        subst heq
        cases hlookup
        refine ⟨hnext ▸ ⟨_, (Registry.lookup_bindSession ..).trans (if_pos rfl), rfl⟩, ?_⟩
        exact hst.named tid _ hregistered
      · exact hkept hlookup

theorem Addressed.own_next (hst : Addressed st) (hsound : Sound st) (h : Turns st sc st')
    (hgoes : Goes st sc st') {rd' : Round Action Action.Res Loop}
    (hround' : st'.rounds[tid]? = some rd') (hown : FoundOwn rd'.steps sid rid) :
    Serves st' sid rid := by
  rcases hgoes.saw hround' hown with ⟨rd, hround, hold⟩ | ⟨r, hnow⟩
  · exact (hst.own tid rd sid rid hround hold).advance hsound.routed h hgoes
  · obtain ⟨id, hid, hrest⟩ := Option.bind_eq_some_iff.mp hnow
    obtain ⟨rid', hrid, hr⟩ := Option.bind_eq_some_iff.mp hrest
    obtain ⟨r', -, heq⟩ := Option.bind_eq_some_iff.mp hr
    cases heq
    obtain ⟨hbinds, hnamed⟩ := hst.filed id rid hrid
    have howns := (hst.bound sid id hid).resolve_left hnamed
    exact Serves.advance ⟨id, hbinds, howns⟩ hsound.routed h hgoes

theorem Addressed.dispatches_next (hst : Addressed st) (hsound : Sound st) (h : Turns st sc st')
    (hgoes : Goes st sc st') {rd' : Round Action Action.Res Loop}
    (hround' : st'.rounds[tid]? = some rd') {s : SessionLocal} (hstart : rd'.start = .dispatch s rid) :
    Serves st' s.sid rid := by
  refine Serves.advance ?_ hsound.routed h hgoes
  rcases hgoes.round hround' with
    hold | ⟨hnil, hbegun⟩ | ⟨_, a, _, r, rd, -, -, hround, -, -, rfl, -⟩
  · exact hst.dispatches tid rd' s rid hold hstart
  · rcases hbegun with hfirst | ⟨rd, hround, hend⟩
    · cases hfirst.symm.trans hstart
    · have hleads := hend _ rfl
      rw [hstart] at hleads
      generalize hl : rd.start = l at hleads
      cases hleads with
      | dispatches hsid hown =>
        rw [hsid]
        exact hst.own tid rd _ rid hround hown
      | goesOn => exact hst.dispatches tid rd s rid hround hl
  · exact hst.dispatches tid rd s rid hround hstart

theorem Addressed.dispatched_next (hst : Addressed st) (hsound : Sound st) (h : Turns st sc st')
    (hgoes : Goes st sc st') (hdispatched : Dispatched st' tid rid) :
    ∃ sid, Runs st' tid sid ∧ Serves st' sid rid := by
  have hkept : Dispatched st tid rid → ∃ sid, Runs st' tid sid ∧ Serves st' sid rid := fun hold => by
    obtain ⟨sid, hruns, hserves⟩ := hst.dispatched tid rid hold
    exact ⟨sid, hruns.advance hgoes, hserves.advance hsound.routed h hgoes⟩
  obtain ⟨e, hmem, htid, s, hstart⟩ := hdispatched
  have hturn := h
  cases h with
  | blocked | spawned | looped => exact hkept ⟨e, hmem, htid, s, hstart⟩
  | @acted tid' input a k r s' rd _ hround =>
    rcases List.mem_append.mp hmem with hold | hnew
    · exact hkept ⟨e, hold, htid, s, hstart⟩
    · cases List.mem_singleton.mp hnew
      cases htid
      have hruns : Runs st tid' s.sid := ⟨rd, hround, by simp [sidOf, show rd.start = _ from hstart]⟩
      have hserves := hst.dispatches tid' rd s rid hround hstart
      exact ⟨s.sid, hruns.advance hgoes, hserves.advance hsound.routed hturn hgoes⟩

theorem Addressed.queued_next (hst : Addressed st) (hsound : Sound st)
    (hwalks : System.Outlined Addresses LeadsOn st) (h : Turns st sc st') {cmd : WorkerCommand}
    (hmem : cmd ∈ (deeds st').flatMap (joinedBy rid)) : Wanted st' rid cmd := by
  have hkept : cmd ∈ (deeds st).flatMap (joinedBy rid) → Wanted st' rid cmd := fun hold =>
    (hst.queued rid cmd hold).advance hsound.routed h
  have hturn := h
  cases h with
  | blocked | spawned | looped => exact hkept hmem
  | @acted tid input a k r s rd hthread hround hguarantee hperform =>
    rw [deeds_acted, List.flatMap_append] at hmem
    rcases List.mem_append.mp hmem with hold | hnew
    · exact hkept hold
    · rw [List.flatMap_singleton] at hnew
      have haddresses := (hwalks.thread tid _ rd hthread hround).1
      rcases performAlive_registry hperform with ⟨-, hother⟩ | ⟨ready, f, hdeed, -⟩
      · cases a with
        | locked ready f => exact absurd rfl (hother ready f)
        | _ => cases hnew
      · cases hdeed
        have hdeal := hsound.conserved.deal hsound.outlined hsound.routed hround hguarantee
        obtain ⟨cmd₀, rfl, ⟨msg, rest, hsteps, rfl⟩, hroute⟩ :=
          Files.joined haddresses hdeal hsound.conserved.booked.unnamed hnew
        have hbinds := hst.found tid rd _ rid hround hroute
        refine Wanted.advance ⟨hbinds, tid, msg, _, ?_, rfl⟩ hsound.routed hturn
        obtain ⟨rounds, hall⟩ := hsound.stepsOf_round hround
        rw [hall, hsteps]
        simp

theorem Addressed.advance {base : Nat} (hst : Addressed st) (hsound : Sound st)
    (hnumbered : NumberedSince base st.pool.shared.runtime)
    (hwalks : System.Outlined Addresses LeadsOn st) (h : Turns st sc st') (hgoes : Goes st sc st') :
    Addressed st' where
  named _ _ := hst.named_next hnumbered h
  bound _ _ := hst.bound_next hsound h hgoes
  filed _ _ := hst.filed_next hsound h hgoes
  found tid rd' id rid hround' hfound := by
    refine (hsound.routed.extends h).2.binds ?_
    rcases hgoes.saw hround' hfound with ⟨rd, hround, hold⟩ | hnow
    · exact hst.found tid rd id rid hround hold
    · exact (hst.filed id rid hnow).1
  own _ _ _ _ := hst.own_next hsound h hgoes
  dispatches _ _ _ _ hround' hstart := hst.dispatches_next hsound h hgoes hround' hstart
  dispatched _ _ := hst.dispatched_next hsound h hgoes
  queued _ _ := hst.queued_next hsound hwalks h

/-! ## Commands and cleanups -/

/-- Every command that was sent has joined the queue of the router that its thread dispatches. -/
def Sent (st : Traces) : Prop :=
  ∀ tid frame sent, (⟨.send frame, sent⟩ : Deed) ∈ System.stepsOf st tid →
    frame.type = .execute ∨ frame.type = .drain →
    ∃ rid cmd, Dispatched st tid rid ∧ cmd ∈ (deeds st).flatMap (joinedBy rid) ∧
      frame = commandFrame cmd

/-- A dispatcher of the incarnation has received a message right after it has sent a drain. -/
def Drained (st : Traces) (id : EngineIncarnationId) : Prop :=
  ∃ tid rid frame resp, st.pool.shared.registry.Binds rid id ∧ Dispatched st tid rid ∧
    frame.type = .drain ∧ Exchanged st tid frame resp

theorem Drained.advance (h : Drained st id) (hst : Routed st) (hturn : Turns st sc st') :
    Drained st' id := by
  obtain ⟨tid, rid, frame, resp, hbinds, hdispatched, hdrain, hexchanged⟩ := h
  obtain ⟨es, hlog⟩ := hturn.log
  exact ⟨tid, rid, frame, resp, (hst.extends hturn).2.binds hbinds, hdispatched.advance hlog,
    hdrain, hexchanged.advance hlog⟩

theorem Sent.advance (hst : Sent st) (hsound : Sound st) (haccounted : Accounted st)
    (hwalks : System.Outlined Addresses LeadsOn st) (h : Turns st sc st') : Sent st' := by
  intro tid frame sent hmem htype
  obtain ⟨es, hlog⟩ := h.log
  have hgrows : ∀ rid cmd, cmd ∈ (deeds st).flatMap (joinedBy rid) →
      cmd ∈ (deeds st').flatMap (joinedBy rid) := fun rid cmd hcmd => by
    rw [deeds, hlog, List.map_append, List.flatMap_append]
    exact List.mem_append_left _ hcmd
  have hkept : (⟨.send frame, sent⟩ : Deed) ∈ System.stepsOf st tid → ∃ rid cmd,
      Dispatched st' tid rid ∧ cmd ∈ (deeds st').flatMap (joinedBy rid) ∧
        frame = commandFrame cmd := fun hold => by
    obtain ⟨rid, cmd, hdispatched, hcmd, hframe⟩ := hst tid frame sent hold htype
    exact ⟨rid, cmd, hdispatched.advance hlog, hgrows rid cmd hcmd, hframe⟩
  cases h with
  | blocked | spawned | looped => exact hkept hmem
  | @acted tid' input a k r s rd hthread hround =>
    rw [System.stepsOf_concat rfl] at hmem
    split at hmem
    · rename_i htid
      subst htid
      rcases List.mem_append.mp hmem with hold | hnew
      · exact hkept hold
      · cases List.mem_singleton.mp hnew
        obtain ⟨s, rid, hstart⟩ := (hwalks.thread tid' _ rd hthread hround).1 htype
        obtain ⟨cmd, hframe, hremoved⟩ :=
          (haccounted.expects.thread tid' _ rd hthread hround).1 s rid hstart
        have hcmd : cmd ∈ removed rid rd.steps := hremoved ▸ List.mem_singleton_self cmd
        have htaken : cmd ∈ removed rid (deeds st) :=
          ((steps_sublist hsound.outlined hround).flatMap _).mem hcmd
        have hjoined := haccounted.sourced.matched.known rid cmd (.inr htaken)
        refine ⟨rid, cmd, ⟨_, ?_, rfl, s, hstart⟩, hgrows rid cmd hjoined, hframe⟩
        exact List.mem_append_right _ (List.mem_singleton_self _)
    · exact hkept hmem

/-- A cleanup is acknowledged after a drain. -/
theorem drained_next (hst : ∀ id, acknowledgedFor st.pool.shared.runtime id = true → Drained st id)
    (hsound : Sound st) (h : Turns st sc st')
    (hack : acknowledgedFor st'.pool.shared.runtime id = true) : Drained st' id := by
  have hkept : acknowledgedFor st.pool.shared.runtime id = true → Drained st' id := fun hold =>
    (hst id hold).advance hsound.routed h
  rcases h.shared with hsame | ⟨tid, input, a, r, rd, -, hround, hguarantee, hperform⟩
  · exact hkept (hsame ▸ hack)
  rcases performAlive_runtime hperform with hsame | ⟨c, rfl, hnext⟩
  · exact hkept (hsame ▸ hack)
  rw [hnext] at hack
  have hstep := step_transition st.pool.shared.runtime (c.op input.now input.admittedAt)
  rcases hstep.acknowledgedFor id with hop | hsame
  · cases c with
    | acknowledgeBackendCleanup id' =>
      cases hop
      obtain ⟨s, rid, hstart, hseen, before, d, m, hdrain, hsteps⟩ := hguarantee
      obtain ⟨rounds, hall⟩ := hsound.stepsOf_round hround
      have hlogged : (⟨tid, rd.start, .recv, some m⟩ : Entry) ∈ st.log :=
        hsound.logged hround (by simp [hsteps])
      refine Drained.advance ⟨tid, rid, d, m, hsound.routed.seen tid rd hround rid _ hseen,
        ⟨_, hlogged, rfl, s, hstart⟩, hdrain, .inr hdrain, rounds ++ before, [], ?_⟩ hsound.routed h
      rw [hall, hsteps]
      simp
    | _ => cases hop
  · exact hkept (hsame ▸ hack)

end Addressed

/-! ## Whole runs -/

/-- What a run keeps of the owners of incarnations. -/
structure Owned (st : Traces) : Prop where
  sound : Sound st
  accounted : Accounted st
  goes : System.Outlined Addresses LeadsOn st
  numbered : ∃ base, NumberedSince base st.pool.shared.runtime
  sessions : st.rounds.length < 2 ^ 64 - 1 → Sessions st
  addressed : Addressed st
  sent : Sent st
  drained : ∀ id, acknowledgedFor st.pool.shared.runtime id = true → Drained st id

section Owned

variable {st : Traces} {tid rid : Nat} {id : EngineIncarnationId}

theorem owned_tracing (state : Option Str) : Owned (tracing state) where
  sound := sound_tracing state
  accounted := accounted_tracing state
  goes := ⟨rfl, nofun, nofun⟩
  numbered := ⟨_, (registered_tracing state).numbered⟩
  sessions _ := by
    have hnone : ∀ tid sid, ¬ Runs (tracing state) tid sid := by
      rintro tid sid ⟨_, hround, -⟩
      cases hround
    exact ⟨Nat.le_refl _, fun tid sid hruns => absurd hruns (hnone tid sid),
      fun tid tid' sid hruns => absurd hruns (hnone tid sid)⟩
  addressed := addressed_tracing state
  sent := by
    rintro tid frame sent hmem -
    cases hmem
  drained id hack := by
    rw [tracing, System.tracedInitial, System.initial, acknowledgedFor_startup] at hack
    cases hack

theorem Owned.next (h : Owned st) (sc : Sched Input) : Owned (coordinator.traced.next st sc) := by
  obtain ⟨hturn, hsound⟩ := h.sound.next sc
  have hgoes : Goes st sc _ := h.goes.advances sc
  obtain ⟨base, hnumbered⟩ := h.numbered
  have hrounds : st.rounds.length ≤ (coordinator.traced.next st sc).rounds.length := by
    generalize coordinator.traced.next st sc = st' at hturn
    cases hturn <;> simp
  exact {
    sound := hsound
    accounted := h.accounted.next h.sound sc
    goes := hgoes.outlined addresses_runSession h.goes
    numbered := ⟨base, (numberedSince_advance hturn hnumbered).1⟩
    sessions := fun hroom => (h.sessions (Nat.lt_of_le_of_lt hrounds hroom)).advance hgoes hroom
    addressed := h.addressed.advance h.sound hnumbered h.goes hturn hgoes
    sent := h.sent.advance h.sound h.accounted h.goes hturn
    drained := fun _ => drained_next h.drained h.sound hturn }

theorem exec_owned (state : Option Str) (scs : List (Sched Input)) :
    Owned (coordinator.traced.exec (tracing state) scs) :=
  Machine.exec_always (owned_tracing state) (fun _ sc h => h.next sc) scs

/-- Who dispatches the commands for an incarnation has registered it. -/
theorem Owned.registered (h : Owned st) (hroom : st.pool.threads.length < 2 ^ 64 - 1)
    (hdispatched : Dispatched st tid rid) (hbinds : st.pool.shared.registry.Binds rid id) :
    RegisteredBy st tid id := by
  obtain ⟨sid, hruns, id', hbinds', tid', hruns', hregistered⟩ :=
    h.addressed.dispatched tid rid hdispatched
  have hid : id' = id := by
    obtain ⟨r, hr, rfl⟩ := hbinds
    obtain ⟨r', hr', rfl⟩ := hbinds'
    rw [Option.some.inj (hr.symm.trans hr')]
  have htid := (h.sessions (h.sound.outlined.length ▸ hroom)).unique tid tid' sid hruns hruns'
  rw [htid, ← hid]
  exact hregistered

end Owned

/-- Every command that was sent to a connection was asked for by a message that some connection has
received, and the message names an incarnation that the connection it was sent to has registered. -/
def OnlyToOwners (st : Traces) : Prop :=
  ∀ tid frame sent, (⟨.send frame, sent⟩ : Deed) ∈ System.stepsOf st tid →
    frame.type = .execute ∨ frame.type = .drain →
    ∃ i msg, (⟨.recv, some msg⟩ : Deed) ∈ System.stepsOf st i ∧
      frame = commandFrame (routedCommand msg.type msg (parsePayload msg.payload)) ∧
      RegisteredBy st tid ⟨u (parsePayload msg.payload) "target_incarnation" 0⟩

/-- In every run with fewer connections than there are identities for their sessions, a command for
an incarnation is sent to the connection that has registered it, and to no other. -/
theorem commands_addressed (state : Option Str) (scs : List (Sched Input))
    (hroom : (coordinator.traced.exec (tracing state) scs).pool.threads.length < 2 ^ 64 - 1) :
    OnlyToOwners (coordinator.traced.exec (tracing state) scs) := by
  intro tid frame sent hsent htype
  have howned := exec_owned state scs
  obtain ⟨rid, cmd, hdispatched, hcmd, hframe⟩ := howned.sent tid frame sent hsent htype
  obtain ⟨hbinds, i, msg, t, hmsg, rfl⟩ := howned.addressed.queued rid cmd hcmd
  exact ⟨i, msg, hmsg, hframe, howned.registered hroom hdispatched hbinds⟩

/-- The entry has sent a drain. -/
def isDrain : Entry → Bool
  | ⟨_, _, .send m, true⟩ => m.type = .drain
  | _ => false

/-- The thread 1 asks for a drain, which is sent to the worker of the thread 0. -/
theorem commands_addressed_sample :
    let st := coordinator.traced.exec (tracing none) (sampleCleanup .drainResult)
    st.log.any isDrain = true ∧ OnlyToOwners st :=
  ⟨by decide +kernel, commands_addressed none (sampleCleanup .drainResult) (by decide +kernel)⟩

end EngineResidency.Coordinator
