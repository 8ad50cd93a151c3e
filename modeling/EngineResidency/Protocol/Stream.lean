-- SUMMARY: Reading frames from a socket: the messages do not depend on how the stream was cut.
import EngineResidency.Base.Framing
import EngineResidency.Protocol.Frame

/-!
# Frame streams

A socket keeps the bytes that no frame has taken yet. `recv_frame` decodes from them and
reads at most 4096 more when the frame is incomplete; it fails on an error and at the end
of the stream.
-/

namespace EngineResidency.Protocol

open Coordinator (ProtocolMessage)

/-! ## The socket -/

/-- An open socket: the bytes that it holds, and what the next calls of `recv` return before
the end of the stream. -/
structure TcpSocket where
  rxbuf : Str := []
  incoming : List Str := []
  deriving DecidableEq, Repr

/-- The loop of `recv_frame`: its result, what it leaves in `m`, and the socket after it. -/
def recvLoop (rxbuf : Str) (m : ProtocolMessage) :
    List Str → Bool × ProtocolMessage × TcpSocket
  | [] =>
    let r := decodeFrame rxbuf m ""
    if r.ok then (true, r.out, { rxbuf := rxbuf.drop r.used })
    else (false, r.out, { rxbuf })
  | buf :: incoming =>
    let r := decodeFrame rxbuf m ""
    if r.ok then (true, r.out, { rxbuf := rxbuf.drop r.used, incoming := buf :: incoming })
    else if r.error ≠ "" then (false, r.out, { rxbuf, incoming := buf :: incoming })
    -- a read of no bytes counts as the end of the stream
    else if buf.length = 0 then (false, r.out, { rxbuf, incoming })
    else recvLoop (rxbuf ++ buf) r.out incoming

def recvFrame (s : TcpSocket) (m : ProtocolMessage) : Bool × ProtocolMessage × TcpSocket :=
  recvLoop s.rxbuf m s.incoming

/-! ## The decoder of frames -/

/-- What a result of `decode_frame` tells its caller. -/
def verdict (r : DecodeResult) : Framing.Verdict ProtocolMessage :=
  if r.ok then .done r.out r.used else if r.error ≠ "" then .bad else .more

/-- The caller's message does not matter. -/
theorem verdict_decodeFrame (data : Str) (out out' : ProtocolMessage) :
    verdict (decodeFrame data out "") = verdict (decodeFrame data out' "") := by
  rw [decodeFrame_out data out' out ""]
  unfold verdict
  split_ifs <;> rfl

theorem verdict_done {data : Str} {out m : ProtocolMessage} {n : Nat} :
    verdict (decodeFrame data out "") = .done m n ↔
      Framable m ∧ frame m <+: data ∧ n = (frame m).length := by
  constructor
  · intro h
    unfold verdict at h
    split_ifs at h with hok
    obtain ⟨hm, rest, hrest⟩ := decodeFrame_ok hok
    cases h
    refine ⟨hm, ⟨rest, hrest⟩, ?_⟩
    conv_lhs => rw [← hrest]
    rw [decodeFrame_frame hm]
  · rintro ⟨hm, ⟨rest, rfl⟩, rfl⟩
    rw [decodeFrame_frame hm]
    rfl

/-- Frames, as a decoder that keeps its verdict. -/
def frames : Framing.Decoder UInt8 ProtocolMessage where
  decode data := verdict (decodeFrame data {} "")
  used_pos h := by
    obtain ⟨-, -, rfl⟩ := verdict_done.mp h
    rw [length_frame]
    exact Nat.add_pos_left (by decide) _
  used_le h := by
    obtain ⟨-, hpre, rfl⟩ := verdict_done.mp h
    exact hpre.length_le
  done_append h ys := by
    obtain ⟨hm, hpre, hn⟩ := verdict_done.mp h
    exact verdict_done.mpr ⟨hm, hpre.trans (List.prefix_append _ ys), hn⟩
  bad_append := by
    intro data h more m n hdone
    unfold verdict at h
    split_ifs at h with hok herr
    obtain ⟨hm, hpre, -⟩ := verdict_done.mp hdone
    exact decodeFrame_error (Bool.eq_false_iff.mpr hok) herr more m hm hpre

/-- A frame at the front of a stream is the next message. -/
theorem frames_decode_frame {m : ProtocolMessage} (h : Framable m) :
    frames.decode (frame m) = .done m (frame m).length :=
  verdict_done.mpr ⟨h, List.prefix_refl _, rfl⟩

/-! ## The messages of a socket -/

/-- The decoder says what `decode_frame` says, whatever message the caller brings. -/
theorem frames_decode (rxbuf : Str) (m : ProtocolMessage) :
    frames.decode rxbuf = verdict (decodeFrame rxbuf m "") :=
  verdict_decodeFrame rxbuf {} m

theorem recvLoop_nil (rxbuf : Str) (m : ProtocolMessage) :
    recvLoop rxbuf m [] =
      match frames.decode rxbuf with
      | .done out n => (true, out, { rxbuf := rxbuf.drop n })
      | _ => (false, m, { rxbuf }) := by
  rw [frames_decode rxbuf m]
  cases hok : (decodeFrame rxbuf m "").ok with
  | true => simp [recvLoop, verdict, hok]
  | false =>
    have hout := (decodeFrame_not_ok hok).1
    by_cases herr : (decodeFrame rxbuf m "").error = "" <;> simp [recvLoop, verdict, hok, herr, hout]

/-- One round of the loop, in terms of what the decoder says. -/
theorem recvLoop_cons (rxbuf : Str) (m : ProtocolMessage) (buf : Str) (incoming : List Str) :
    recvLoop rxbuf m (buf :: incoming) =
      match frames.decode rxbuf with
      | .done out n => (true, out, { rxbuf := rxbuf.drop n, incoming := buf :: incoming })
      | .bad => (false, m, { rxbuf, incoming := buf :: incoming })
      | .more =>
        if buf = [] then (false, m, { rxbuf, incoming })
        else recvLoop (rxbuf ++ buf) m incoming := by
  rw [frames_decode rxbuf m]
  cases hok : (decodeFrame rxbuf m "").ok with
  | true => simp [recvLoop, verdict, hok]
  | false =>
    have hout := (decodeFrame_not_ok hok).1
    by_cases herr : (decodeFrame rxbuf m "").error = "" <;> simp [recvLoop, verdict, hok, herr, hout]

/-- A call of `recv_frame` that succeeds returns the next message. -/
theorem recvLoop_true {rxbuf : Str} {m out : ProtocolMessage} {incoming : List Str}
    {s : TcpSocket} (h : recvLoop rxbuf m incoming = (true, out, s)) :
    frames.next rxbuf incoming = some (out, s.rxbuf, s.incoming) := by
  induction incoming generalizing rxbuf with
  | nil =>
    cases hdec : frames.decode rxbuf with
    | done b n =>
      simp only [recvLoop_nil, hdec] at h
      cases h
      simp only [Framing.Decoder.next, hdec]
    | bad => simp [recvLoop_nil, hdec] at h
    | more => simp [recvLoop_nil, hdec] at h
  | cons buf incoming ih =>
    cases hdec : frames.decode rxbuf with
    | done b n =>
      simp only [recvLoop_cons, hdec] at h
      cases h
      simp only [Framing.Decoder.next, hdec]
    | bad => simp [recvLoop_cons, hdec] at h
    | more =>
      simp only [recvLoop_cons, hdec] at h
      simp only [Framing.Decoder.next, hdec]
      split_ifs at h
      · cases h
      · exact ih h

/-- A call of `recv_frame` that fails has reached bytes that are no message, or the end of
the stream, when no piece of it is empty. -/
theorem recvLoop_false {rxbuf : Str} {m out : ProtocolMessage} {incoming : List Str}
    {s : TcpSocket} (hpieces : ∀ buf ∈ incoming, buf ≠ [])
    (h : recvLoop rxbuf m incoming = (false, out, s)) : frames.next rxbuf incoming = none := by
  induction incoming generalizing rxbuf with
  | nil =>
    cases hdec : frames.decode rxbuf with
    | done b n => simp [recvLoop_nil, hdec] at h
    | bad => simp only [Framing.Decoder.next, hdec]
    | more => simp only [Framing.Decoder.next, hdec]
  | cons buf incoming ih =>
    cases hdec : frames.decode rxbuf with
    | done b n => simp [recvLoop_cons, hdec] at h
    | bad => simp only [Framing.Decoder.next, hdec]
    | more =>
      simp only [recvLoop_cons, hdec, if_neg (hpieces buf List.mem_cons_self)] at h
      simp only [Framing.Decoder.next, hdec]
      exact ih (fun b hb => hpieces b (List.mem_cons_of_mem _ hb)) h

/-- The bytes that a socket has still to give. -/
def TcpSocket.bytes (s : TcpSocket) : Str := s.rxbuf ++ s.incoming.flatten

theorem recvFrame_bytes {s s' : TcpSocket} {m out : ProtocolMessage}
    (h : recvFrame s m = (true, out, s')) : s'.bytes.length < s.bytes.length :=
  frames.next_length (recvLoop_true h)

/-- The messages that calls of `recv_frame` return before one of them fails. -/
def receiveAll (s : TcpSocket) (m : ProtocolMessage) : List ProtocolMessage :=
  match h : recvFrame s m with
  | (true, out, s') =>
    have := recvFrame_bytes h
    out :: receiveAll s' out
  | (false, _, _) => []
termination_by s.bytes.length
decreasing_by assumption

/-- A socket gives the messages at the front of the bytes it receives. -/
theorem receiveAll_eq {s : TcpSocket} (m : ProtocolMessage)
    (hpieces : ∀ buf ∈ s.incoming, buf ≠ []) :
    receiveAll s m = frames.messages s.bytes := by
  rw [TcpSocket.bytes, ← frames.received_eq_messages]
  induction s, m using receiveAll.induct with
  | case1 s m out s' h _ ih =>
    have hnext := recvLoop_true h
    have hsub := frames.next_suffix hnext
    rw [receiveAll, frames.received_some hnext]
    split
    · next heq =>
      rw [h] at heq
      cases heq
      rw [ih fun buf hbuf => hpieces buf (hsub.subset hbuf)]
    · next heq =>
      rw [h] at heq
      cases heq
  | case2 s m out s' h =>
    rw [receiveAll, frames.received_none (recvLoop_false hpieces h)]
    split
    · next heq =>
      rw [h] at heq
      cases heq
    · rfl

/-- The frames of some messages are received as these messages. -/
theorem messages_flatMap {ms : List ProtocolMessage} (h : ∀ m ∈ ms, Framable m) :
    frames.messages (ms.flatMap frame) = ms := by
  induction ms with
  | nil =>
    apply frames.messages_not_done
    intro m n hdone
    have hused := frames.used_le hdone
    have hpos := frames.used_pos hdone
    simp only [List.flatMap_nil, List.length_nil] at hused
    omega
  | cons m ms ih =>
    rw [List.flatMap_cons, frames.messages_append (frames_decode_frame (h m List.mem_cons_self)),
      ih fun x hx => h x (List.mem_cons_of_mem m hx)]

/-- A division of a stream into what successive reads return. -/
structure Division (stream : Str) (chunks : List Str) : Prop where
  flatten : chunks.flatten = stream
  nonempty : ∀ chunk ∈ chunks, chunk ≠ []
  bounded : ∀ chunk ∈ chunks, chunk.length ≤ 4096

/-- A divided stream gives the messages at its front. -/
theorem Division.receiveAll {stream : Str} {chunks : List Str} (h : Division stream chunks)
    (m : ProtocolMessage) :
    receiveAll { incoming := chunks } m = frames.messages stream := by
  rw [receiveAll_eq m h.nonempty, TcpSocket.bytes, List.nil_append, h.flatten]

/-- The messages received do not depend on how the stream was divided, and a stream of the
frames of some messages gives exactly these messages. -/
theorem receiveAll_division {stream : Str} {chunks chunks' : List Str}
    (h : Division stream chunks) (h' : Division stream chunks') (m m' : ProtocolMessage) :
    receiveAll { incoming := chunks } m = receiveAll { incoming := chunks' } m' ∧
    ∀ ms : List ProtocolMessage, (∀ x ∈ ms, x.payload.length ≤ protoMaxPayload) →
      stream = ms.flatMap (fun x => encodeFrame x []) →
      receiveAll { incoming := chunks } m = ms := by
  refine ⟨(h.receiveAll m).trans (h'.receiveAll m').symm, ?_⟩
  intro ms hms hstream
  rw [h.receiveAll m, hstream]
  exact messages_flatMap hms

/-- The frame of a small message, in one piece and cut inside its header. -/
theorem receiveAll_division_cut :
    let m : ProtocolMessage := { type := .register, epoch := 3, payload := lit "a=1" }
    let stream := encodeFrame m []
    receiveAll { incoming := [stream] } {} =
        receiveAll { incoming := [stream.take 10, stream.drop 10] } {} ∧
      receiveAll { incoming := [stream] } {} = [m] := by
  intro m stream
  have hwhole : Division stream [stream] := ⟨by simp, by simp [stream, m, encodeFrame], by
    simp [stream, m, encodeFrame, putU32, lit]⟩
  have hcut : Division stream [stream.take 10, stream.drop 10] :=
    ⟨by simp, by simp [stream, m, encodeFrame, putU32], by
      simp [stream, m, encodeFrame, putU32, lit]⟩
  have h := receiveAll_division hwhole hcut {} {}
  exact ⟨h.1, h.2 [m] (by simp [m, lit, protoMaxPayload]) (by simp [stream])⟩

end EngineResidency.Protocol
