-- SUMMARY: The binary frames of the control plane: their checksum, their encoder and their decoder.
import EngineResidency.Base.Codec
import EngineResidency.Coordinator.Message
import Mathlib.Tactic.IntervalCases

/-!
# Frames

A frame is a header of 22 bytes and a payload. The header holds the magic number, the
protocol version, the message type and four little-endian words: the epoch, the authority
generation, the length of the payload and its checksum. The decoder looks at the bytes
received so far: it asks for more while the frame is incomplete, and reports an error for
bytes that no frame starts with.
-/

namespace EngineResidency.Protocol

open Coordinator (MessageType ProtocolMessage)

/-! ## The code of frames -/

/-- The number of a message type. -/
def typeNumber : MessageType → UInt8
  | .hello => 1
  | .register => 2
  | .registerAck => 3
  | .publishBackend => 4
  | .publishDevice => 5
  | .publishComponent => 6
  | .prepare => 7
  | .prepareResult => 8
  | .warmupResult => 9
  | .queryReadiness => 10
  | .assignStandby => 11
  | .activate => 12
  | .acquireUse => 13
  | .releaseUse => 14
  | .executionResult => 15
  | .invalidate => 16
  | .drain => 17
  | .drainResult => 18
  | .replace => 19
  | .fenceWorker => 20
  | .revalidate => 21
  | .save => 22
  | .shutdown => 23
  | .error => 24
  | .execute => 25
  | .commandReady => 26
  | .queryDrain => 27

/-- The message type with a number. The decoder casts numbers from 1 to 27 only. -/
def typeOfNumber (mt : UInt8) : MessageType :=
  match mt.toNat with
  | 1 => .hello
  | 2 => .register
  | 3 => .registerAck
  | 4 => .publishBackend
  | 5 => .publishDevice
  | 6 => .publishComponent
  | 7 => .prepare
  | 8 => .prepareResult
  | 9 => .warmupResult
  | 10 => .queryReadiness
  | 11 => .assignStandby
  | 12 => .activate
  | 13 => .acquireUse
  | 14 => .releaseUse
  | 15 => .executionResult
  | 16 => .invalidate
  | 17 => .drain
  | 18 => .drainResult
  | 19 => .replace
  | 20 => .fenceWorker
  | 21 => .revalidate
  | 22 => .save
  | 23 => .shutdown
  | 24 => .error
  | 25 => .execute
  | 26 => .commandReady
  | _ => .queryDrain

def protoVersion : UInt8 := 1

/-- `kProtoMaxPayload`, one MiB. -/
def protoMaxPayload : Nat := 2 ^ 20

/-- The size of a frame's header. -/
def header : Nat := 4 + 1 + 1 + 4 + 4 + 4 + 4

/-- FNV-1a. -/
def protoChecksum (bytes : Str) : UInt32 :=
  bytes.foldl (fun h c => (h ^^^ c.toUInt32) * 16777619) 2166136261

def putU32 (v : UInt32) : Str :=
  [((v >>> 0) &&& 0xFF).toUInt8, ((v >>> 8) &&& 0xFF).toUInt8, ((v >>> 16) &&& 0xFF).toUInt8,
    ((v >>> 24) &&& 0xFF).toUInt8]

/-- The word whose first byte is at `p`. -/
def getU32 (p : Str) : UInt32 :=
  (p.getD 0 0).toUInt32 ||| (p.getD 1 0).toUInt32 <<< 8 ||| (p.getD 2 0).toUInt32 <<< 16 |||
    (p.getD 3 0).toUInt32 <<< 24

/-- Append the frame of `m` to `out`. -/
def encodeFrame (m : ProtocolMessage) (out : Str) : Str :=
  out ++ [0x45, 0x52, 0x46, 0x46] ++ [protoVersion] ++ [typeNumber m.type] ++ putU32 m.epoch ++
    putU32 m.authority ++ putU32 (UInt32.ofNat m.payload.length) ++
    putU32 (protoChecksum m.payload) ++ m.payload

/-- What `decode_frame` returns, and what it leaves in `out`, `used` and `error`. -/
structure DecodeResult where
  ok : Bool
  out : ProtocolMessage
  used : Nat
  error : String
  deriving DecidableEq, Repr

/-- Read one frame from the front of `data`. -/
def decodeFrame (data : Str) (out : ProtocolMessage) (error : String) : DecodeResult :=
  let fail error : DecodeResult := { ok := false, out, used := 0, error }
  if data.length < header then fail error
  else if data.getD 0 0 ≠ 0x45 ∨ data.getD 1 0 ≠ 0x52 ∨ data.getD 2 0 ≠ 0x46 ∨
      data.getD 3 0 ≠ 0x46 then fail "bad magic"
  else if data.getD 4 0 ≠ protoVersion then fail "unsupported version"
  else
    let mt := data.getD 5 0
    if mt < 1 ∨ mt > 27 then fail "invalid message type"
    else
      let epoch := getU32 (data.drop 6)
      let authority := getU32 (data.drop 10)
      let plen := (getU32 (data.drop 14)).toNat
      let chk := getU32 (data.drop 18)
      if plen > protoMaxPayload then fail "oversized payload"
      else if header + plen > data.length then fail error
      else
        let payload := (data.drop header).take plen
        if protoChecksum payload ≠ chk then fail "checksum mismatch"
        else
          { ok := true, out := { type := typeOfNumber mt, epoch, authority, payload },
            used := header + plen, error }

/-! ## Fields of the header -/

theorem typeNumber_mem (t : MessageType) : ¬ (typeNumber t < 1 ∨ typeNumber t > 27) := by
  cases t <;> decide

@[simp] theorem typeOfNumber_typeNumber (t : MessageType) : typeOfNumber (typeNumber t) = t := by
  cases t <;> rfl

theorem typeNumber_typeOfNumber {mt : UInt8} (h : ¬ (mt < 1 ∨ mt > 27)) :
    typeNumber (typeOfNumber mt) = mt := by
  have hlo : 1 ≤ mt.toNat := by
    have := UInt8.not_lt.mp fun hlt => h (.inl hlt)
    exact UInt8.le_iff_toNat_le.mp this
  have hhi : mt.toNat ≤ 27 := by
    have := UInt8.not_lt.mp fun hlt => h (.inr hlt)
    exact UInt8.le_iff_toNat_le.mp this
  rw [← UInt8.toNat_inj]
  unfold typeOfNumber
  generalize mt.toNat = n at hlo hhi ⊢
  interval_cases n <;> rfl

/-- The bytes of a word are its little-endian bytes. -/
theorem putU32_eq (v : UInt32) : putU32 v = Codec.leBytes 4 v.toNat := by
  have hbyte : ∀ k : UInt32, ((v >>> k) &&& 0xFF).toUInt8 =
      UInt8.ofNat (v.toNat >>> (k.toNat % 32) % 256) := by
    intro k
    rw [← UInt8.toNat_inj]
    simp [Nat.and_two_pow_sub_one_eq_mod _ 8]
  simp only [putU32, hbyte, Codec.leBytes]
  simp [Nat.shiftRight_eq_div_pow, Nat.div_div_eq_div_mul]

/-- Bytes that do not overlap are or-ed as they are added. -/
theorem or_shiftLeft {a b i : Nat} (h : a < 2 ^ i) : a ||| b <<< i = a + 2 ^ i * b := by
  rw [Nat.or_comm, ← Nat.shiftLeft_add_eq_or_of_lt h, Nat.shiftLeft_eq, Nat.add_comm,
    Nat.mul_comm]

/-- A word is read from its little-endian bytes. -/
theorem getU32_toNat (a b c d : UInt8) (rest : Str) :
    (getU32 (a :: b :: c :: d :: rest)).toNat = Codec.ofLeBytes [a, b, c, d] := by
  have ha := a.toNat_lt
  have hb := b.toNat_lt
  have hc := c.toNat_lt
  have hd := d.toNat_lt
  have hshift : ∀ (x : UInt8) (k : Nat), k ≤ 24 → x.toNat <<< k % 2 ^ 32 = x.toNat <<< k := by
    intro x k hk
    apply Nat.mod_eq_of_lt
    calc x.toNat <<< k = x.toNat * 2 ^ k := Nat.shiftLeft_eq _ _
      _ < 2 ^ 8 * 2 ^ k := Nat.mul_lt_mul_of_pos_right x.toNat_lt (Nat.two_pow_pos k)
      _ = 2 ^ (8 + k) := (Nat.pow_add _ _ _).symm
      _ ≤ 2 ^ 32 := Nat.pow_le_pow_right (by decide) (by omega)
  simp only [getU32, List.getD_cons_zero, List.getD_cons_succ, UInt32.toNat_or,
    UInt32.toNat_shiftLeft, UInt8.toNat_toUInt32, UInt32.reduceToNat, Nat.reduceMod]
  rw [hshift b 8 (by decide), hshift c 16 (by decide), hshift d 24 (by decide)]
  rw [or_shiftLeft (i := 8) (by omega), or_shiftLeft (i := 16) (by omega),
    or_shiftLeft (i := 24) (by omega)]
  simp only [Codec.ofLeBytes]
  omega

/-- A word is read back from its bytes. -/
theorem getU32_putU32 (v : UInt32) (rest : Str) : getU32 (putU32 v ++ rest) = v := by
  rw [← UInt32.toNat_inj, putU32_eq]
  exact (getU32_toNat _ _ _ _ rest).trans (Codec.ofLeBytes_leBytes 4 v.toNat v.toNat_lt)

/-- A word is read at the place where its bytes stand. -/
theorem getU32_field {data rest : Str} {v : UInt32} (before : Str)
    (h : data = before ++ (putU32 v ++ rest)) : getU32 (data.drop before.length) = v := by
  rw [h, List.drop_left, getU32_putU32]

/-- The bytes of a word are those it was read from. -/
theorem putU32_getU32 {p : Str} (h : 4 ≤ p.length) : putU32 (getU32 p) = p.take 4 := by
  rcases p with _ | ⟨a, _ | ⟨b, _ | ⟨c, _ | ⟨d, rest⟩⟩⟩⟩
  case cons.cons.cons.cons =>
    rw [putU32_eq, getU32_toNat]
    exact Codec.leBytes_ofLeBytes [a, b, c, d]
  all_goals exact absurd h (by simp)

/-! ## The frame grammar -/

/-- A message that fits in a frame. -/
def Framable (m : ProtocolMessage) : Prop := m.payload.length ≤ protoMaxPayload

/-- The frame of `m`. -/
def frame (m : ProtocolMessage) : Str := encodeFrame m []

/-- The header of the frame of `m`. -/
def headerOf (m : ProtocolMessage) : Str :=
  [0x45, 0x52, 0x46, 0x46, protoVersion, typeNumber m.type] ++ (putU32 m.epoch ++
    (putU32 m.authority ++ (putU32 (UInt32.ofNat m.payload.length) ++
      putU32 (protoChecksum m.payload))))

theorem frame_eq (m : ProtocolMessage) : frame m = headerOf m ++ m.payload := by
  simp [frame, encodeFrame, headerOf]

@[simp] theorem length_headerOf (m : ProtocolMessage) : (headerOf m).length = header := rfl

theorem length_frame (m : ProtocolMessage) : (frame m).length = header + m.payload.length := by
  rw [frame_eq, List.length_append, length_headerOf]

theorem payload_length_toNat {m : ProtocolMessage} (h : Framable m) :
    (UInt32.ofNat m.payload.length).toNat = m.payload.length := by
  apply UInt32.toNat_ofNat_of_lt'
  exact lt_of_le_of_lt h (by decide)

/-- The header of `m` up to the checksum. -/
def fieldsOfHeader (m : ProtocolMessage) : Str :=
  [0x45, 0x52, 0x46, 0x46, protoVersion, typeNumber m.type] ++ (putU32 m.epoch ++
    (putU32 m.authority ++ putU32 (UInt32.ofNat m.payload.length)))

theorem headerOf_eq (m : ProtocolMessage) :
    headerOf m = fieldsOfHeader m ++ putU32 (protoChecksum m.payload) := by
  simp [headerOf, fieldsOfHeader]

/-- After the fields of `m` and any checksum, the decoder wants as many bytes as `m` has, with
that checksum. -/
theorem decodeFrame_fieldsOfHeader {m : ProtocolMessage} (h : Framable m) (chk : UInt32)
    (rest : Str) (out : ProtocolMessage) (error : String) :
    decodeFrame (fieldsOfHeader m ++ (putU32 chk ++ rest)) out error =
      if rest.length < m.payload.length then { ok := false, out, used := 0, error }
      else if protoChecksum (rest.take m.payload.length) ≠ chk then
        { ok := false, out, used := 0, error := "checksum mismatch" }
      else
        { ok := true, out := { m with payload := rest.take m.payload.length },
          used := header + m.payload.length, error } := by
  generalize hdata : fieldsOfHeader m ++ (putU32 chk ++ rest) = data
  have hepoch : getU32 (data.drop 6) = m.epoch :=
    getU32_field [0x45, 0x52, 0x46, 0x46, protoVersion, typeNumber m.type] hdata.symm
  have hauthority : getU32 (data.drop 10) = m.authority :=
    getU32_field ([0x45, 0x52, 0x46, 0x46, protoVersion, typeNumber m.type] ++ putU32 m.epoch)
      hdata.symm
  have hplen : getU32 (data.drop 14) = UInt32.ofNat m.payload.length :=
    getU32_field ([0x45, 0x52, 0x46, 0x46, protoVersion, typeNumber m.type] ++ putU32 m.epoch ++
      putU32 m.authority) hdata.symm
  have hchk : getU32 (data.drop 18) = chk := getU32_field (fieldsOfHeader m) hdata.symm
  have hpayload : data.drop header = rest := by
    rw [← hdata, ← List.append_assoc]
    exact List.drop_left' rfl
  have hmagic : data.getD 0 0 = 0x45 ∧ data.getD 1 0 = 0x52 ∧ data.getD 2 0 = 0x46 ∧
      data.getD 3 0 = 0x46 := by
    subst hdata
    exact ⟨rfl, rfl, rfl, rfl⟩
  have hversion : data.getD 4 0 = protoVersion := hdata ▸ rfl
  have htype : data.getD 5 0 = typeNumber m.type := hdata ▸ rfl
  have hlen : data.length = header + rest.length := by
    rw [← hdata, ← List.append_assoc, List.length_append]
    rfl
  simp only [decodeFrame, hmagic, hversion, htype, hepoch, hauthority, hplen, hchk,
    payload_length_toNat h, hpayload, hlen, typeOfNumber_typeNumber]
  rw [if_neg (by omega), if_neg (by simp), if_neg (by simp), if_neg (typeNumber_mem m.type),
    if_neg (not_lt.mpr h)]
  apply if_congr _ rfl rfl
  omega

/-- After the header of `m`, the decoder wants as many bytes as `m` has, with its checksum. -/
theorem decodeFrame_headerOf {m : ProtocolMessage} (h : Framable m) (rest : Str)
    (out : ProtocolMessage) (error : String) :
    decodeFrame (headerOf m ++ rest) out error =
      if rest.length < m.payload.length then { ok := false, out, used := 0, error }
      else if protoChecksum (rest.take m.payload.length) ≠ protoChecksum m.payload then
        { ok := false, out, used := 0, error := "checksum mismatch" }
      else
        { ok := true, out := { m with payload := rest.take m.payload.length },
          used := header + m.payload.length, error } := by
  rw [headerOf_eq, List.append_assoc, decodeFrame_fieldsOfHeader h]

/-- A frame is decoded to its message, whatever follows it. -/
theorem decodeFrame_frame {m : ProtocolMessage} (h : Framable m) (rest : Str)
    (out : ProtocolMessage) (error : String) :
    decodeFrame (frame m ++ rest) out error =
      { ok := true, out := m, used := (frame m).length, error } := by
  rw [frame_eq, List.append_assoc, decodeFrame_headerOf h]
  simp

/-- The decoder asks for more when it has seen a part of a frame. -/
theorem decodeFrame_part {m : ProtocolMessage} {data : Str} (h : Framable m)
    (hpart : data <+: frame m) (hlt : data.length < (frame m).length) (out : ProtocolMessage)
    (error : String) :
    decodeFrame data out error = { ok := false, out, used := 0, error } := by
  by_cases hshort : data.length < header
  · simp [decodeFrame, hshort]
  · have hhead : headerOf m <+: data := by
      apply List.prefix_of_prefix_length_le ⟨m.payload, (frame_eq m).symm⟩ hpart
      rw [length_headerOf]
      omega
    obtain ⟨rest, rfl⟩ := hhead
    rw [length_frame, List.length_append, length_headerOf] at hlt
    rw [decodeFrame_headerOf h, if_pos (by omega)]

/-- The bytes at the front of a buffer, read one by one. -/
theorem take_six {data : Str} (h : 6 ≤ data.length) :
    data.take 6 = [data.getD 0 0, data.getD 1 0, data.getD 2 0, data.getD 3 0, data.getD 4 0,
      data.getD 5 0] := by
  rcases data with _ | ⟨a, _ | ⟨b, _ | ⟨c, _ | ⟨d, _ | ⟨e, _ | ⟨f, rest⟩⟩⟩⟩⟩⟩
  case cons.cons.cons.cons.cons.cons => rfl
  all_goals exact absurd h (by simp)

/-- A buffer is its next `k` bytes after the first `n` and what follows them. -/
theorem drop_eq (data : Str) (n k : Nat) :
    data.drop n = (data.drop n).take k ++ data.drop (n + k) := by
  rw [← List.drop_drop, List.take_append_drop]

/-- What is decoded is a message that fits, and its frame is at the front of the buffer. -/
theorem decodeFrame_ok {data : Str} {out : ProtocolMessage} {error : String}
    (h : (decodeFrame data out error).ok = true) :
    Framable (decodeFrame data out error).out ∧
      frame (decodeFrame data out error).out <+: data := by
  unfold decodeFrame at h ⊢
  simp only [] at h ⊢
  split_ifs at h ⊢ with hlen hmagic hversion htype hplen hmore hchk
  rw [not_lt] at hlen hplen hmore
  rw [not_not] at hchk
  have hheader : header = 22 := rfl
  have hsix : [0x45, 0x52, 0x46, 0x46, protoVersion, data.getD 5 0] = data.take 6 := by
    push Not at hmagic hversion
    obtain ⟨h0, h1, h2, h3⟩ := hmagic
    rw [take_six (by omega), h0, h1, h2, h3, hversion]
  have hword : ∀ n, n + 4 ≤ header → putU32 (getU32 (data.drop n)) = (data.drop n).take 4 := by
    intro n hn
    apply putU32_getU32
    rw [List.length_drop]
    omega
  have hpayload : ((data.drop header).take (getU32 (data.drop 14)).toNat).length =
      (getU32 (data.drop 14)).toNat := by
    rw [List.length_take, List.length_drop]
    omega
  refine ⟨hpayload.trans_le hplen, data.drop (header + (getU32 (data.drop 14)).toNat), ?_⟩
  rw [frame_eq]
  simp only [headerOf, hpayload, hchk, typeNumber_typeOfNumber htype, UInt32.ofNat_toNat,
    List.append_assoc]
  -- each field of the header is put back where it was read, the last one first
  rw [hword 6 (by decide), hword 10 (by decide), hword 14 (by decide), hword 18 (by decide),
    ← drop_eq data header, hheader, ← drop_eq data 18 4, ← drop_eq data 14 4,
    ← drop_eq data 10 4, ← drop_eq data 6 4, hsix, List.take_append_drop]

/-- What the decoder finds in a buffer: a message, the beginning of one, or an error. The
message that the caller brings and its error have no part in it. -/
inductive Decoded (data : Str) : Prop where
  | accepted (m : ProtocolMessage) (used : Nat)
      (eq : ∀ out error, decodeFrame data out error = { ok := true, out := m, used, error })
  | waiting (eq : ∀ out error, decodeFrame data out error = { ok := false, out, used := 0, error })
  | rejected (cause : String)
      (eq : ∀ out error, decodeFrame data out error =
        { ok := false, out, used := 0, error := cause })

theorem decodeFrame_decoded (data : Str) : Decoded data := by
  by_cases hlen : data.length < header
  · exact .waiting fun out error => if_pos hlen
  by_cases hmagic : data.getD 0 0 ≠ 0x45 ∨ data.getD 1 0 ≠ 0x52 ∨ data.getD 2 0 ≠ 0x46 ∨
      data.getD 3 0 ≠ 0x46
  · exact .rejected _ fun out error => (if_neg hlen).trans (if_pos hmagic)
  by_cases hversion : data.getD 4 0 ≠ protoVersion
  · exact .rejected _ fun out error =>
      (if_neg hlen).trans ((if_neg hmagic).trans (if_pos hversion))
  have hfields : ∀ out error, decodeFrame data out error = _ := fun out error =>
    (if_neg hlen).trans ((if_neg hmagic).trans (if_neg hversion))
  by_cases htype : data.getD 5 0 < 1 ∨ data.getD 5 0 > 27
  · exact .rejected _ fun out error => (hfields out error).trans (if_pos htype)
  by_cases hplen : (getU32 (data.drop 14)).toNat > protoMaxPayload
  · exact .rejected _ fun out error =>
      (hfields out error).trans ((if_neg htype).trans (if_pos hplen))
  by_cases hmore : header + (getU32 (data.drop 14)).toNat > data.length
  · exact .waiting fun out error =>
      (hfields out error).trans ((if_neg htype).trans ((if_neg hplen).trans (if_pos hmore)))
  have hpayload : ∀ out error, decodeFrame data out error = _ := fun out error =>
    (hfields out error).trans ((if_neg htype).trans ((if_neg hplen).trans (if_neg hmore)))
  by_cases hchk : protoChecksum ((data.drop header).take (getU32 (data.drop 14)).toNat) ≠
      getU32 (data.drop 18)
  · exact .rejected _ fun out error => (hpayload out error).trans (if_pos hchk)
  · exact .accepted _ _ fun out error => (hpayload out error).trans (if_neg hchk)

/-- When nothing is decoded, the message is left as it was and no byte is used. -/
theorem decodeFrame_not_ok {data : Str} {out : ProtocolMessage} {error : String}
    (h : (decodeFrame data out error).ok = false) :
    (decodeFrame data out error).out = out ∧ (decodeFrame data out error).used = 0 := by
  cases decodeFrame_decoded data with
  | accepted m used heq =>
    rw [heq] at h
    cases h
  | waiting heq => exact heq out error ▸ ⟨rfl, rfl⟩
  | rejected cause heq => exact heq out error ▸ ⟨rfl, rfl⟩

/-- The caller's message is returned when nothing is decoded, and does not matter otherwise. -/
theorem decodeFrame_out (data : Str) (out out' : ProtocolMessage) (error : String) :
    decodeFrame data out' error =
      { decodeFrame data out error with
        out := if (decodeFrame data out error).ok then (decodeFrame data out error).out
          else out' } := by
  cases decodeFrame_decoded data with
  | accepted m used heq =>
    rw [heq, heq]
    rfl
  | waiting heq =>
    rw [heq, heq]
    rfl
  | rejected cause heq =>
    rw [heq, heq]
    rfl

/-- A buffer is accepted when it starts with the frame of some message. -/
theorem decodeFrame_accepts {data : Str} (out : ProtocolMessage) (error : String) :
    (decodeFrame data out error).ok = true ↔ ∃ m, Framable m ∧ frame m <+: data := by
  constructor
  · intro h
    exact ⟨_, decodeFrame_ok h⟩
  · rintro ⟨m, hm, rest, rfl⟩
    rw [decodeFrame_frame hm]

/-- After an error, no bytes that may still arrive make a frame. -/
theorem decodeFrame_error {data : Str} {out : ProtocolMessage} {error : String}
    (h : (decodeFrame data out error).ok = false)
    (herr : (decodeFrame data out error).error ≠ error) (more : Str) (m : ProtocolMessage)
    (hm : Framable m) : ¬ frame m <+: data ++ more := by
  intro hframe
  rcases List.prefix_or_prefix_of_prefix hframe (List.prefix_append data more) with hpre | hpart
  · rw [(decodeFrame_accepts out error).mpr ⟨m, hm, hpre⟩] at h
    cases h
  · rcases hpart.length_le.lt_or_eq with hlt | heq
    · exact herr (by rw [decodeFrame_part hm hpart hlt])
    · rw [(decodeFrame_accepts out error).mpr ⟨m, hm, hpart.eq_of_length heq ▸ List.prefix_refl _⟩] at h
      cases h

/-- `decode_frame` accepts exactly the buffers that start with the frame of a message, and
then returns that message and the length of its frame. Otherwise it returns no message and
no length, and an error stands for good. -/
theorem decodeFrame_grammar (data : Str) (out : ProtocolMessage) :
    ((decodeFrame data out "").ok = true ↔
      ∃ m : ProtocolMessage, m.payload.length ≤ protoMaxPayload ∧ encodeFrame m [] <+: data) ∧
    (∀ m : ProtocolMessage, m.payload.length ≤ protoMaxPayload → encodeFrame m [] <+: data →
      (decodeFrame data out "").out = m ∧
        (decodeFrame data out "").used = (encodeFrame m []).length) ∧
    ((decodeFrame data out "").ok = false →
      (decodeFrame data out "").out = out ∧ (decodeFrame data out "").used = 0) ∧
    ((decodeFrame data out "").ok = false → (decodeFrame data out "").error ≠ "" →
      ∀ more out', (decodeFrame (data ++ more) out' "").ok = false) := by
  refine ⟨decodeFrame_accepts out "", ?_, decodeFrame_not_ok, ?_⟩
  · rintro m hm ⟨rest, rfl⟩
    have hdec := decodeFrame_frame hm rest out ""
    rw [frame] at hdec
    rw [hdec]
    exact ⟨rfl, rfl⟩
  · intro hok herr more out'
    by_contra hacc
    rw [Bool.not_eq_false, decodeFrame_accepts] at hacc
    obtain ⟨m, hm, hframe⟩ := hacc
    exact decodeFrame_error hok herr more m hm hframe

end EngineResidency.Protocol
