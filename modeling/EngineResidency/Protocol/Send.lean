-- SUMMARY: Sending frames over a socket that takes them in parts, and what the peer receives of them.
import EngineResidency.Protocol.Stream

/-!
# Sending frames

The operating system takes the bytes of a frame in as many parts as it likes. `send` goes
on until all of them are taken, and gives up at the first call that fails; the bytes that
were taken until then are on their way. Its callers may ignore the failure and send the
next frame.
-/

namespace EngineResidency.Protocol

open Coordinator (ProtocolMessage)

/-! ## The loop of `send` -/

/-- What a call of the system's `send` answers: the number of bytes it took, or none for
an error. -/
abbrev Answer := Option Nat

/-- An error, or a call that took nothing. -/
def Answer.Fails (a : Answer) : Prop := a.getD 0 = 0

instance (a : Answer) : Decidable a.Fails := inferInstanceAs (Decidable (_ = _))

/-- What became of the bytes: whether all of them were taken, which ones were, and what
later calls will answer. -/
structure Sent where
  ok : Bool
  written : Str
  answers : List Answer
  deriving DecidableEq, Repr

/-- The loop of `TcpSocket::send` over the bytes that are left. When the answers have run
out, every further call fails. -/
def sendLoop : List Answer → Str → Sent
  | [], data => { ok := data.isEmpty, written := [], answers := [] }
  | answer :: answers, data =>
    if data.isEmpty then { ok := true, written := [], answers := answer :: answers }
    else if answer.getD 0 = 0 then { ok := false, written := [], answers }
    else
      let n := answer.getD 0
      let rest := sendLoop answers (data.drop n)
      { rest with written := data.take n ++ rest.written }

def sendFrame (answers : List Answer) (m : ProtocolMessage) : Sent :=
  sendLoop answers (encodeFrame m [])

/-- What became of several messages: the ones whose `send_frame` has succeeded, and all
bytes that were taken. -/
structure SentFrames where
  taken : List ProtocolMessage
  written : Str
  deriving DecidableEq, Repr

/-- Send messages one after the other, whatever becomes of each. -/
def sendFrames (answers : List Answer) : List ProtocolMessage → SentFrames
  | [] => { taken := [], written := [] }
  | m :: ms =>
    let first := sendFrame answers m
    let rest := sendFrames first.answers ms
    { taken := if first.ok then m :: rest.taken else rest.taken
      written := first.written ++ rest.written }

/-! ## What a loop has written -/

/-- A connection that has failed stays broken. -/
def StaysBroken (answers : List Answer) : Prop :=
  answers.Pairwise fun a b => a.Fails → b.Fails

instance (answers : List Answer) : Decidable (StaysBroken answers) :=
  inferInstanceAs (Decidable (List.Pairwise _ _))

theorem sendLoop_suffix (answers : List Answer) (data : Str) :
    (sendLoop answers data).answers <:+ answers := by
  induction answers generalizing data with
  | nil => exact List.suffix_refl _
  | cons answer answers ih =>
    simp only [sendLoop]
    split_ifs
    · exact List.suffix_refl _
    · exact List.suffix_cons answer answers
    · exact (ih _).trans (List.suffix_cons answer answers)

/-- A loop that succeeds has written everything. -/
theorem sendLoop_ok {answers : List Answer} {data : Str} (h : (sendLoop answers data).ok = true) :
    (sendLoop answers data).written = data := by
  induction answers generalizing data with
  | nil => exact (List.isEmpty_iff.mp h).symm
  | cons answer answers ih =>
    simp only [sendLoop] at h ⊢
    split_ifs at h ⊢ with hdata
    · exact (List.isEmpty_iff.mp hdata).symm
    · rw [ih h, List.take_append_drop]

/-- A loop that fails has written a part, and not the last byte. -/
theorem sendLoop_torn {answers : List Answer} {data : Str}
    (h : (sendLoop answers data).ok = false) :
    (sendLoop answers data).written <+: data ∧
      (sendLoop answers data).written.length < data.length := by
  induction answers generalizing data with
  | nil =>
    refine ⟨List.nil_prefix, List.length_pos_iff.mpr ?_⟩
    simpa [sendLoop] using h
  | cons answer answers ih =>
    simp only [sendLoop] at h ⊢
    split_ifs at h ⊢ with hdata
    · exact ⟨List.nil_prefix, List.length_pos_iff.mpr (by simpa using hdata)⟩
    · obtain ⟨⟨rest, hrest⟩, hlt⟩ := ih h
      constructor
      · refine ⟨rest, ?_⟩
        rw [List.append_assoc, hrest, List.take_append_drop]
      · rw [List.length_drop] at hlt
        rw [List.length_append, List.length_take]
        omega

/-- After a loop has failed, a connection that stays broken fails. -/
theorem sendLoop_breaks {answers : List Answer} {data : Str} (hbroken : StaysBroken answers)
    (h : (sendLoop answers data).ok = false) : ∀ a ∈ (sendLoop answers data).answers, a.Fails := by
  induction answers generalizing data with
  | nil =>
    intro a ha
    cases ha
  | cons answer answers ih =>
    obtain ⟨hhead, htail⟩ := List.pairwise_cons.mp hbroken
    simp only [sendLoop] at h ⊢
    split_ifs at h ⊢ with hdata hfails
    · exact fun a ha => hhead a ha hfails
    · exact ih htail h

theorem frame_ne_nil (m : ProtocolMessage) : frame m ≠ [] := by
  intro h
  have hlen := length_frame m
  rw [h] at hlen
  exact absurd hlen (by simp [header]; omega)

/-- Nothing more is written to a connection that fails. -/
theorem sendFrames_failing {answers : List Answer} (h : ∀ a ∈ answers, a.Fails)
    (ms : List ProtocolMessage) : sendFrames answers ms = { taken := [], written := [] } := by
  induction ms generalizing answers with
  | nil => rfl
  | cons m ms ih =>
    have hfirst : (sendFrame answers m).ok = false ∧ (sendFrame answers m).written = [] := by
      have hdata : (encodeFrame m []).isEmpty = false :=
        Bool.eq_false_iff.mpr fun hempty => frame_ne_nil m (List.isEmpty_iff.mp hempty)
      cases answers with
      | nil => exact ⟨hdata, rfl⟩
      | cons answer answers =>
        have hfails : answer.getD 0 = 0 := h answer List.mem_cons_self
        simp [sendFrame, sendLoop, hdata, hfails]
    have hsuffix := sendLoop_suffix answers (encodeFrame m [])
    have hrest : sendFrames (sendFrame answers m).answers ms = { taken := [], written := [] } :=
      ih fun a ha => h a (hsuffix.subset ha)
    simp [sendFrames, hfirst, hrest]

/-! ## What the peer receives -/

instance (m : ProtocolMessage) : Decidable (Framable m) := inferInstanceAs (Decidable (_ ≤ _))

/-- No frame of another message stands at the front of a frame. -/
theorem framable_of_complete {m m' : ProtocolMessage} (hsize : m.payload.length < 2 ^ 32)
    (h : Framable m') (rest : Str) (hpre : frame m' <+: frame m ++ rest) : Framable m := by
  obtain ⟨more, heq⟩ := hpre
  rw [frame_eq, frame_eq, List.append_assoc, List.append_assoc] at heq
  obtain ⟨hheader, -⟩ := List.append_inj heq (by simp)
  have hplen (m : ProtocolMessage) :
      getU32 ((headerOf m).drop 14) = UInt32.ofNat m.payload.length := by
    generalize hdata : headerOf m = data
    have hfields : data = [0x45, 0x52, 0x46, 0x46, protoVersion, typeNumber m.type] ++
        putU32 m.epoch ++ putU32 m.authority ++ (putU32 (UInt32.ofNat m.payload.length) ++
          putU32 (protoChecksum m.payload)) := by
      simp only [← hdata, headerOf, List.append_assoc]
    exact getU32_field ([0x45, 0x52, 0x46, 0x46, protoVersion, typeNumber m.type] ++
      putU32 m.epoch ++ putU32 m.authority) hfields
  have hwords : (UInt32.ofNat m.payload.length).toNat = m'.payload.length := by
    rw [← hplen m, ← hheader, hplen m', payload_length_toNat h]
  rw [UInt32.toNat_ofNat_of_lt' hsize] at hwords
  exact hwords.trans_le h

/-- The peer does not get past a message that is too large. -/
theorem messages_unframable {m : ProtocolMessage} (hsize : m.payload.length < 2 ^ 32)
    (h : ¬ Framable m) (rest : Str) : frames.messages (frame m ++ rest) = [] := by
  apply frames.messages_not_done
  intro b n hdone
  obtain ⟨hb, hpre, -⟩ := verdict_done.mp hdone
  exact h (framable_of_complete hsize hb rest hpre)

/-- A torn frame gives no message. -/
theorem messages_torn {m : ProtocolMessage} (hsize : m.payload.length < 2 ^ 32) {part : Str}
    (hpart : part <+: frame m) (hlt : part.length < (frame m).length) :
    frames.messages part = [] := by
  obtain ⟨rest, hrest⟩ := hpart
  apply frames.messages_not_done
  intro b n hdone
  have hwhole := frames.done_append hdone rest
  rw [hrest] at hwhole
  obtain ⟨hb, hpre, rfl⟩ := verdict_done.mp hwhole
  have hm : Framable m :=
    framable_of_complete hsize hb [] (by rwa [List.append_nil])
  rw [frames_decode_frame hm] at hwhole
  cases hwhole
  exact absurd (frames.used_le hdone) (by omega)

/-- What is written is what the peer makes of the messages that were taken. -/
theorem messages_sendFrames {answers : List Answer} (hbroken : StaysBroken answers)
    {ms : List ProtocolMessage} (hsize : ∀ m ∈ ms, m.payload.length < 2 ^ 32) :
    frames.messages (sendFrames answers ms).written =
      (sendFrames answers ms).taken.takeWhile fun m => Framable m := by
  induction ms generalizing answers with
  | nil =>
    have hnil : ∀ m ∈ ([] : List ProtocolMessage), Framable m := by simp
    exact messages_flatMap hnil
  | cons m ms ih =>
    have hsuffix := sendLoop_suffix answers (encodeFrame m [])
    have hm := hsize m List.mem_cons_self
    cases hok : (sendFrame answers m).ok with
    | true =>
      have hwritten : (sendFrame answers m).written = frame m := sendLoop_ok hok
      have hrest := ih (hbroken.sublist hsuffix.sublist) fun x hx => hsize x (List.mem_cons_of_mem m hx)
      simp only [sendFrames, hok, if_true, hwritten]
      by_cases hfits : Framable m
      · rw [frames.messages_append (frames_decode_frame hfits), List.takeWhile_cons,
          if_pos (decide_eq_true hfits)]
        exact congrArg (m :: ·) hrest
      · rw [messages_unframable hm hfits, List.takeWhile_cons, if_neg (by simpa using hfits)]
    | false =>
      -- From here on nothing more is written.
      obtain ⟨hpart, hlt⟩ := sendLoop_torn hok
      have hrest := sendFrames_failing (sendLoop_breaks hbroken hok) ms
      simp only [sendFrame] at hok
      simp only [sendFrames, sendFrame, hok, hrest, List.append_nil]
      exact messages_torn hm hpart hlt

/-- What is taken is what was to be sent, up to the first failure. -/
theorem taken_first {answers : List Answer} (hbroken : StaysBroken answers)
    (ms : List ProtocolMessage) : (sendFrames answers ms).taken <+: ms := by
  induction ms generalizing answers with
  | nil => exact List.prefix_refl _
  | cons m ms ih =>
    have hsuffix := sendLoop_suffix answers (encodeFrame m [])
    cases hok : (sendFrame answers m).ok with
    | true =>
      simp only [sendFrames, hok, if_true]
      exact List.prefix_cons_inj m |>.mpr (ih (hbroken.sublist hsuffix.sublist))
    | false =>
      have hrest := sendFrames_failing (sendLoop_breaks hbroken hok) ms
      simp only [sendFrame] at hok
      simp only [sendFrames, sendFrame, hok, hrest]
      exact List.nil_prefix

/-- However the sending system takes the bytes, and however the receiving one divides them,
the peer gets the messages whose sending has succeeded, whole and in order, up to the first
one that is too large for a frame; and these are the first ones of those that were to be sent. -/
theorem frames_delivered {answers : List Answer} (hbroken : StaysBroken answers)
    {ms : List ProtocolMessage} (hsize : ∀ m ∈ ms, m.payload.length < 2 ^ 32) {chunks : List Str}
    (hdivision : Division (sendFrames answers ms).written chunks) (m : ProtocolMessage) :
    (sendFrames answers ms).taken <+: ms ∧
      receiveAll { incoming := chunks } m =
        (sendFrames answers ms).taken.takeWhile fun m => Framable m := by
  refine ⟨taken_first hbroken ms, ?_⟩
  rw [hdivision.receiveAll m, messages_sendFrames hbroken hsize]

/-- Three messages. The system takes the first frame in two parts and the second one in part,
and then fails; the peer reads what has arrived in one piece. -/
theorem frames_delivered_torn :
    let ms : List ProtocolMessage :=
      [{ type := .hello }, { type := .register, payload := lit "a=1" }, { type := .shutdown }]
    let sent := sendFrames [some 10, some 12, some 7, none] ms
    sent.taken <+: ms ∧ receiveAll { incoming := [sent.written] } {} =
      sent.taken.takeWhile fun m => Framable m := by
  intro ms sent
  have hsent : sent.written.length = 29 := by decide
  have hdivision : Division sent.written [sent.written] :=
    ⟨by simp, by simp [← List.length_pos_iff, hsent], by simp [hsent]⟩
  exact frames_delivered (by decide) (by decide) hdivision {}

end EngineResidency.Protocol
