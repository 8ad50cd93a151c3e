-- SUMMARY: Every corruption of a single byte of a blob or of a frame is detected by its checksum.
import EngineResidency.Base.Checksum
import EngineResidency.Persistence.RoundTrip
import EngineResidency.Protocol.Frame

/-!
# Corruption

Both checksums are FNV-1a, over words of 64 and of 32 bits. A step of FNV-1a is an
exclusive or with a byte and a product with an odd prime, which has an inverse: it
loses nothing.
-/

namespace EngineResidency

open Codec

/-! ## Blobs -/

namespace Persistence

theorem fnv1a_mixing :
    Mixing fun (h : UInt64) (b : UInt8) => (h ^^^ b.toUInt64) * 1099511628211 := by
  have hxor : Mixing fun (h : UInt64) (b : UInt8) => h ^^^ b.toUInt64 :=
    ⟨fun b _ _ h => (UInt64.xor_left_inj b.toUInt64).mp h,
      fun w _ _ h => UInt8.toUInt64_inj.mp ((UInt64.xor_right_inj w).mp h)⟩
  have hinverse : (1099511628211 : UInt64) * 14886173955864302971 = 1 := rfl
  apply hxor.map (f := (· * 1099511628211))
  apply Function.LeftInverse.injective (g := (· * 14886173955864302971))
  intro w
  simp only [UInt64.mul_assoc, hinverse, UInt64.mul_one]

/-- A blob within bounds that does not end in the checksum of its body is rejected. -/
theorem deserialize_mismatch {blob : Str} (hshort : 16 ≤ blob.length)
    (hlong : blob.length ≤ kMaxSerializedBytes)
    (hne : (fnv1a (blob.take (blob.length - 8))).toNat ≠ ofLeBytes (blob.drop (blob.length - 8))) :
    deserializePersistentState blob = .error "checksum mismatch" := by
  unfold deserializePersistentState
  rw [if_neg (by omega), if_neg (by omega)]
  exact if_pos hne

theorem deserialize_differsOnce {blob blob' : Str} {s : PersistentState}
    (h : deserializePersistentState blob = .ok s) (hdiff : DiffersOnce blob blob') :
    deserializePersistentState blob' = .error "checksum mismatch" := by
  obtain ⟨hshort, hlong, -⟩ := deserialize_ok h
  have hchk := checksum_of_deserialize h
  have hlen := hdiff.1
  apply deserialize_mismatch (hlen ▸ hshort) (hlen ▸ hlong)
  rw [← hlen]
  rcases hdiff.cut (blob.length - 8) with ⟨hbody, hsum⟩ | ⟨hbody, hsum⟩
  · rw [← hsum, ← hchk, Ne, UInt64.toNat_inj]
    exact (fnv1a_mixing.foldl_ne hbody _).symm
  · rw [← hbody, hchk]
    exact fun heq => hsum.ne (ofLeBytes_injective hsum.1 heq)

end Persistence

/-! ## Frames -/

namespace Protocol

open Coordinator (ProtocolMessage)

theorem protoChecksum_mixing :
    Mixing fun (h : UInt32) (c : UInt8) => (h ^^^ c.toUInt32) * 16777619 := by
  have hxor : Mixing fun (h : UInt32) (c : UInt8) => h ^^^ c.toUInt32 :=
    ⟨fun c _ _ h => (UInt32.xor_left_inj c.toUInt32).mp h,
      fun w _ _ h => UInt8.toUInt32_inj.mp ((UInt32.xor_right_inj w).mp h)⟩
  have hinverse : (16777619 : UInt32) * 899433627 = 1 := rfl
  apply hxor.map (f := (· * 16777619))
  apply Function.LeftInverse.injective (g := (· * 899433627))
  intro w
  simp only [UInt32.mul_assoc, hinverse, UInt32.mul_one]

/-- The place of the checksum in a frame; the payload stands behind it. -/
def checksumStart : Nat := 18

@[simp] theorem length_fieldsOfHeader (m : ProtocolMessage) :
    (fieldsOfHeader m).length = checksumStart := rfl

theorem frame_fieldsOfHeader (m : ProtocolMessage) :
    frame m = fieldsOfHeader m ++ (putU32 (protoChecksum m.payload) ++ m.payload) := by
  rw [frame_eq, headerOf_eq, List.append_assoc]

/-- Where a checksum and a payload of the announced length do not match, decoding fails. -/
theorem decodeFrame_mismatch {m : ProtocolMessage} (h : Framable m) {chk : UInt32} {payload : Str}
    (hlen : payload.length = m.payload.length) (hne : protoChecksum payload ≠ chk) (rest : Str)
    (out : ProtocolMessage) (error : String) :
    decodeFrame (fieldsOfHeader m ++ (putU32 chk ++ payload) ++ rest) out error =
      { ok := false, out, used := 0, error := "checksum mismatch" } := by
  rw [List.append_assoc, List.append_assoc, decodeFrame_fieldsOfHeader h, if_neg (by simp [hlen]),
    if_pos]
  rwa [← hlen, List.take_left]

/-- A frame that differs from the frame of `m` in one byte, in its checksum or its payload, is
rejected whatever follows it. -/
theorem decodeFrame_differsOnce {m : ProtocolMessage} (h : Framable m) {data : Str}
    (hdiff : DiffersOnce (frame m) data) (hplace : data.take checksumStart = fieldsOfHeader m)
    (rest : Str) (out : ProtocolMessage) (error : String) :
    decodeFrame (data ++ rest) out error =
      { ok := false, out, used := 0, error := "checksum mismatch" } := by
  have hrest : (frame m).drop checksumStart = putU32 (protoChecksum m.payload) ++ m.payload := by
    rw [frame_fieldsOfHeader, ← length_fieldsOfHeader m, List.drop_left]
  -- the fields are as they were, so the difference is behind them
  have hbehind : DiffersOnce (putU32 (protoChecksum m.payload) ++ m.payload)
      (data.drop checksumStart) := by
    rcases hdiff.cut checksumStart with ⟨hfront, -⟩ | ⟨-, hbehind⟩
    · refine absurd ?_ hfront.ne
      rw [hplace, frame_fieldsOfHeader, ← length_fieldsOfHeader m, List.take_left]
    · rwa [hrest] at hbehind
  rw [← List.take_append_drop checksumStart data, hplace]
  generalize data.drop checksumStart = tail at hbehind
  rcases hbehind.cut 4 with ⟨hsum, hpayload⟩ | ⟨hsum, hpayload⟩
  · -- a byte of the checksum
    have hsum' : DiffersOnce (putU32 (protoChecksum m.payload)) (tail.take 4) := hsum
    have hword : putU32 (getU32 tail) = tail.take 4 := by
      apply putU32_getU32
      rw [← hbehind.1, List.length_append]
      exact Nat.le_add_right 4 m.payload.length
    rw [← List.take_append_drop 4 tail, ← hword, ← show m.payload = tail.drop 4 from hpayload]
    apply decodeFrame_mismatch h rfl
    intro heq
    apply hsum'.ne
    rw [← hword, heq]
  · -- a byte of the payload
    have hsum' : putU32 (protoChecksum m.payload) = tail.take 4 := hsum
    have hpayload' : DiffersOnce m.payload (tail.drop 4) := hpayload
    rw [← List.take_append_drop 4 tail, ← hsum']
    apply decodeFrame_mismatch h hpayload'.1.symm
    exact (protoChecksum_mixing.foldl_ne hpayload' _).symm

end Protocol

open Coordinator (ProtocolMessage)

/-- A blob that recovery accepts is rejected when any one of its bytes is another one, and so is
the frame of a message when one byte of its checksum or its payload is another one. -/
theorem single_byte_corruption_detected :
    (∀ (blob blob' : Str) (s : PersistentState),
      Persistence.deserializePersistentState blob = .ok s → DiffersOnce blob blob' →
      Persistence.deserializePersistentState blob' = .error "checksum mismatch") ∧
    ∀ (m : ProtocolMessage) (data rest : Str) (out : ProtocolMessage) (error : String),
      m.payload.length ≤ Protocol.protoMaxPayload → DiffersOnce (Protocol.encodeFrame m []) data →
      (∀ i : ℕ, (Protocol.encodeFrame m [])[i]? ≠ data[i]? → Protocol.checksumStart ≤ i) →
      Protocol.decodeFrame (data ++ rest) out error =
        { ok := false, out, used := 0, error := "checksum mismatch" } := by
  refine ⟨fun blob blob' s => Persistence.deserialize_differsOnce, ?_⟩
  intro m data rest out error hm hdiff hplace
  apply Protocol.decodeFrame_differsOnce hm hdiff
  -- in front of the checksum nothing differs
  apply List.ext_getElem?
  intro i
  by_cases hi : i < Protocol.checksumStart
  · rw [List.getElem?_take_of_lt hi]
    by_contra hne
    refine absurd (hplace i fun heq => hne ?_) (not_le.mpr hi)
    rw [← heq]
    change (Protocol.frame m)[i]? = _
    rw [Protocol.frame_fieldsOfHeader, List.getElem?_append_left (by simpa using hi)]
  · rw [List.getElem?_take_eq_none (not_lt.mp hi), List.getElem?_eq_none]
    simpa using not_lt.mp hi

/-- Another identity for the engine in a blob with a record of every kind, and a flipped bit in the
payload of a frame. -/
theorem single_byte_corruption_detected_sample :
    ∃ blob, Persistence.deserializePersistentState blob = .ok Persistence.sampleState ∧
      Persistence.deserializePersistentState (blob.set 36 3) = .error "checksum mismatch" ∧
      Protocol.decodeFrame ((Protocol.encodeFrame { payload := lit "k=v\n" } []).set 22 106) {} "" =
        { ok := false, out := {}, used := 0, error := "checksum mismatch" } := by
  obtain ⟨blob, hser, hlength, haccepted⟩ := Persistence.sampleState_saved
  have hplace : 36 < blob.length := by
    rw [hlength]
    decide
  have hbyte : blob[36] ≠ 3 := by
    have hid : (Persistence.serializePersistentState Persistence.sampleState).map (·[36]?) =
        .ok (some 1) := by
      decide +kernel
    rw [hser] at hid
    have hone : blob[36]? = some 1 := Except.ok.inj hid
    rw [List.getElem?_eq_getElem hplace, Option.some.injEq] at hone
    rw [hone]
    decide
  refine ⟨blob, haccepted, ?_, ?_⟩
  · exact single_byte_corruption_detected.1 _ _ _ haccepted (.set hplace hbyte)
  · rw [← List.append_nil (List.set _ _ _)]
    apply single_byte_corruption_detected.2 _ _ [] {} "" (by decide) (.set (by decide) (by decide))
    intro i hi
    by_contra hlt
    rw [not_le] at hlt
    exact hi (List.getElem?_set_ne (by unfold Protocol.checksumStart at hlt; omega)).symm

end EngineResidency
