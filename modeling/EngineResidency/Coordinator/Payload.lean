-- SUMMARY: Which fields a payload carries faithfully, and that parsed fields are forwarded as they are.
import EngineResidency.Coordinator.Programs
import Mathlib.Data.List.TakeWhile

/-!
# Payloads

A payload is written line by line and read line by line. What is read back is what was
written exactly when every field stands on its line: no key has a `=` or a newline, and
no value has a newline. The fields that are read from any bytes at all are such fields, so
what a coordinator has read it forwards as it is.
-/

namespace EngineResidency.Coordinator

open Prog

/-- Both sets of fields have the same value under every key. -/
def SameFields (f g : Fields) : Prop := ∀ k, f.lookup k = g.lookup k

/-- A field that stands on its line, with its key in front of the first `=`. -/
def OnLine (k v : Str) : Prop := equals ∉ k ∧ newline ∉ k ∧ newline ∉ v

instance (k v : Str) : Decidable (OnLine k v) :=
  inferInstanceAs (Decidable (equals ∉ k ∧ newline ∉ k ∧ newline ∉ v))

/-- Every field stands on its line. -/
def Fields.OnLines (f : Fields) : Prop := ∀ k v, f.lookup k = some v → OnLine k v

/-! ## Lines -/

/-- The line of a field. -/
def fieldLine (kv : Str × Str) : Str := kv.1 ++ equals :: kv.2

theorem parseLine_fieldLine {k v : Str} (h : equals ∉ k) :
    parseLine (fieldLine (k, v)) = some (k, v) := by
  have hkey : ∀ c ∈ k, (c != equals) = true := fun c hc => by
    rw [bne_iff_ne]
    exact fun heq => h (heq ▸ hc)
  have hspan : (fieldLine (k, v)).span (· != equals) = (k, equals :: v) := by
    rw [fieldLine, List.span_eq_takeWhile_dropWhile, List.takeWhile_append_of_pos hkey,
      List.dropWhile_append_of_pos hkey]
    simp
  rw [parseLine, hspan]

/-- What is read from a line is the text in front of its first `=` and the text behind it. -/
theorem parseLine_eq_some {line k v : Str} (h : parseLine line = some (k, v)) :
    equals ∉ k ∧ line = fieldLine (k, v) := by
  rw [parseLine, List.span_eq_takeWhile_dropWhile] at h
  have hline := List.takeWhile_append_dropWhile (p := (· != equals)) (l := line)
  cases htail : line.dropWhile (· != equals) with
  | nil => simp [htail] at h
  | cons c value =>
    rw [htail] at h hline
    obtain ⟨rfl, rfl⟩ := Prod.mk.inj (Option.some.inj h)
    have hc : c = equals := by
      have hhead := List.head?_dropWhile_not (· != equals) line
      simpa [htail] using hhead
    refine ⟨fun hmem => ?_, ?_⟩
    · simpa using List.mem_takeWhile_imp hmem
    · subst hc
      exact hline.symm

/-! ## Payloads -/

/-- The fields in the order of their keys. -/
def sortedFields (f : Fields) : List (Str × Str) :=
  (f.entries.map fun e => (e.1, e.2)).insertionSort fun a b => a.1 ≤ b.1

theorem makePayload_eq (f : Fields) :
    makePayload f = ((sortedFields f).map fieldLine).flatMap fun l => l ++ [newline] := by
  rw [makePayload, sortedFields, List.flatMap_map]
  apply congrArg (List.flatMap · _)
  funext kv
  simp [fieldLine]

theorem mem_sortedFields {f : Fields} {k v : Str} :
    (k, v) ∈ sortedFields f ↔ f.lookup k = some v := by
  rw [AList.lookup_eq_some_iff, sortedFields, List.mem_insertionSort, List.mem_map]
  constructor
  · rintro ⟨⟨k', v'⟩, hmem, heq⟩
    obtain ⟨rfl, rfl⟩ := Prod.mk.inj heq
    exact hmem
  · intro hmem
    exact ⟨⟨k, v⟩, hmem, rfl⟩

theorem nodup_sortedFields (f : Fields) : ((sortedFields f).map Prod.fst).Nodup := by
  have hperm : ((sortedFields f).map Prod.fst).Perm f.keys := by
    have h := (List.perm_insertionSort (fun a b : Str × Str => a.1 ≤ b.1)
      (f.entries.map fun e => (e.1, e.2))).map Prod.fst
    rwa [List.map_map] at h
  exact hperm.nodup_iff.mpr f.nodupKeys

/-- Fields that stand on their lines are read back. -/
theorem Fields.OnLines.sameFields {f : Fields} (h : f.OnLines) :
    SameFields (parsePayload (makePayload f)) f := by
  have hlines : ∀ l ∈ (sortedFields f).map fieldLine, newline ∉ l := by
    intro l hl
    obtain ⟨⟨k, v⟩, hmem, rfl⟩ := List.mem_map.mp hl
    obtain ⟨-, hk, hv⟩ := h k v (mem_sortedFields.mp hmem)
    rw [fieldLine, List.mem_append, List.mem_cons, not_or, not_or]
    exact ⟨hk, by decide, hv⟩
  have hparsed : ((sortedFields f).map fieldLine).filterMap parseLine = sortedFields f := by
    rw [List.filterMap_map]
    calc (sortedFields f).filterMap (parseLine ∘ fieldLine)
        = (sortedFields f).filterMap some := List.filterMap_congr fun kv hkv =>
          parseLine_fieldLine (h kv.1 kv.2 (mem_sortedFields.mp hkv)).1
      _ = sortedFields f := List.filterMap_some
  intro k
  rw [parsePayload, makePayload_eq, List.splitOn_terminated hlines, List.filterMap_append, hparsed]
  have hend : [([] : Str)].filterMap parseLine = [] := rfl
  rw [hend, List.append_nil]
  cases hfound : f.lookup k with
  | some v =>
    exact AList.lookup_foldl_insert_of_mem (nodup_sortedFields f) (mem_sortedFields.mpr hfound)
  | none =>
    rw [AList.lookup_foldl_insert_of_not_mem, AList.lookup_empty]
    intro hmem
    obtain ⟨⟨_, v⟩, hkv, rfl⟩ := List.mem_map.mp hmem
    rw [mem_sortedFields.mp hkv] at hfound
    cases hfound

/-- Whatever the bytes, the fields that are read from them stand on their lines. -/
theorem onLines_parsePayload (payload : Str) : (parsePayload payload).OnLines := by
  intro k v hfound
  rcases AList.lookup_foldl_insert hfound with ⟨⟨k', v'⟩, hmem, rfl, rfl⟩ | hnone
  · obtain ⟨line, hline, hparsed⟩ := List.mem_filterMap.mp hmem
    obtain ⟨hkey, rfl⟩ := parseLine_eq_some hparsed
    have hnewline := List.not_mem_of_mem_splitOn hline
    rw [fieldLine, List.mem_append, List.mem_cons, not_or, not_or] at hnewline
    exact ⟨hkey, hnewline.1, hnewline.2.2⟩
  · rw [AList.lookup_empty] at hnone
    cases hnone

/-- A payload carries its fields exactly when they stand on their lines. -/
theorem sameFields_iff (f : Fields) : SameFields (parsePayload (makePayload f)) f ↔ f.OnLines := by
  constructor
  · intro h k v hfound
    exact onLines_parsePayload (makePayload f) k v ((h k).trans hfound)
  · exact Fields.OnLines.sameFields

/-! ## Fields that are put together -/

theorem Fields.OnLines.insert {f : Fields} {k v : Str} (h : f.OnLines) (hkv : OnLine k v) :
    Fields.OnLines (f.insert k v) := by
  intro k' v' hfound
  rw [AList.lookup_insert'] at hfound
  split at hfound
  · rename_i hk
    cases hfound
    exact hk ▸ hkv
  · exact h k' v' hfound

theorem onLines_fieldsOf {kvs : List (String × Str)} (h : ∀ kv ∈ kvs, OnLine (lit kv.1) kv.2) :
    (fieldsOf kvs).OnLines := by
  intro k v hfound
  rcases AList.lookup_foldl_insert hfound with ⟨kv, hmem, rfl, rfl⟩ | hnone
  · exact h kv hmem
  · rw [AList.lookup_empty] at hnone
    cases hnone

/-- A field that is read with a default is on its line as the default is. -/
theorem Fields.OnLines.get {f : Fields} (h : f.OnLines) {key default : String}
    (hdefault : newline ∉ lit default) : newline ∉ get f key default := by
  rw [Coordinator.get]
  cases hfound : f.lookup (lit key) with
  | none => exact hdefault
  | some v => exact (h _ v hfound).2.2

theorem newline_not_mem_decimal (n : Nat) : newline ∉ decimal n := by
  intro hmem
  obtain ⟨c, hc, heq⟩ := List.mem_map.mp hmem
  have hdigit := Nat.isDigit_of_mem_toDigits (by decide) (by decide) hc
  have hrange : 48 ≤ c.toNat ∧ c.toNat ≤ 57 := by
    simpa [Char.isDigit, UInt32.le_iff_toNat_le] using hdigit
  have hbyte : c.toNat % 256 = 10 := by simpa [newline] using congrArg UInt8.toNat heq
  omega

/-! ## Forwarding -/

/-- The fields of the reply to a controller. -/
def replyFields (rep : CommandReply) (cmdId : UInt64) : Fields :=
  let fields := rep.fields.insert (lit "cmd_id") (decimal cmdId.toNat)
  let fields := if !rep.ok && (fields.lookup (lit "msg")).isNone
    then fields.insert (lit "msg") rep.detail else fields
  if (fields.lookup (lit "detail")).isNone then fields.insert (lit "detail") rep.detail else fields

/-- A controller is sent the fields of its reply. -/
theorem replyToController_sends (rep : CommandReply) (cmdId : UInt64) (epoch authority : UInt32) :
    replyToController rep cmdId epoch authority =
      send { type := if rep.ok then .registerAck else .error, epoch, authority,
             payload := makePayload (replyFields rep cmdId) } >>= fun _ => pure () := rfl

theorem onLines_replyFields {rep : CommandReply} (h : rep.fields.OnLines)
    (hdetail : newline ∉ rep.detail) (cmdId : UInt64) : (replyFields rep cmdId).OnLines := by
  have hid := h.insert (k := lit "cmd_id") ⟨by decide, by decide, newline_not_mem_decimal cmdId.toNat⟩
  unfold replyFields
  dsimp only
  split
  · have hmsg := hid.insert (k := lit "msg") ⟨by decide, by decide, hdetail⟩
    split
    · exact hmsg.insert ⟨by decide, by decide, hdetail⟩
    · exact hmsg
  · split
    · exact hid.insert ⟨by decide, by decide, hdetail⟩
    · exact hid

/-- The answer of a worker has its fields, and a detail, on their lines. -/
theorem onLines_answeredReply {ok : Bool} {f : Fields} {detail : Str} (h : f.OnLines)
    (hdetail : newline ∉ detail) : (answeredReply ok f detail).fields.OnLines := by
  unfold answeredReply
  dsimp only
  split
  · exact h.insert ⟨by decide, by decide, hdetail⟩
  · exact h

/-- Parameters that are read under given names, with defaults, are on their lines. -/
theorem onLine_params {params : Fields} (h : params.OnLines) (names : List (String × String))
    (hnames : ∀ n ∈ names, OnLine (lit n.1) (lit n.2)) :
    ∀ kv ∈ names.map fun n => (n.1, get params n.1 n.2), OnLine (lit kv.1) kv.2 := by
  intro kv hkv
  obtain ⟨n, hn, rfl⟩ := List.mem_map.mp hkv
  obtain ⟨hequals, hnewline, hdefault⟩ := hnames n hn
  exact ⟨hequals, hnewline, h.get hdefault⟩

theorem onLine_executeFields {cmd : WorkerCommand} (h : cmd.params.OnLines) :
    ∀ kv ∈ executeFields cmd, OnLine (lit kv.1) kv.2 :=
  onLine_params h [("seed", "42"), ("batch", "1"), ("seq_len", "16"), ("hold_iters", "0"),
    ("marker", ""), ("hold_barrier", "")] (by decide)

theorem onLine_drainFields {cmd : WorkerCommand} (h : cmd.params.OnLines) :
    ∀ kv ∈ drainFields cmd, OnLine (lit kv.1) kv.2 :=
  onLine_params h [("marker", "")] (by decide)

/-- The fields of a forwarded command are read back from its frame. -/
theorem sameFields_forwarded {cmd : WorkerCommand} {kvs : List (String × Str)}
    (h : ∀ kv ∈ kvs, OnLine (lit kv.1) kv.2) :
    SameFields (parsePayload (forwarded cmd kvs).payload)
      (fieldsOf (("cmd_id", decimal cmd.commandId.toNat) :: kvs)) := by
  apply Fields.OnLines.sameFields
  apply onLines_fieldsOf
  intro kv hkv
  rcases List.mem_cons.mp hkv with rfl | hkv
  · have hkey : OnLine (lit "cmd_id") [] := by decide
    exact ⟨hkey.1, hkey.2.1, newline_not_mem_decimal _⟩
  · exact h kv hkv

/-- The frames of a command whose parameters were read from a payload carry its fields. -/
theorem forwards_read (cmd : WorkerCommand) (hparams : cmd.params.OnLines) (rid : Nat)
    (r : WorkerRouter) : (process rid r cmd).Only fun action => ∀ m, action = .send m →
      ∃ kvs, (kvs = executeFields cmd ∨ kvs = drainFields cmd) ∧
        SameFields (parsePayload m.payload)
          (fieldsOf (("cmd_id", decimal cmd.commandId.toNat) :: kvs)) := by
  refine (forwards_process rid r).mono fun action hforwards m haction => ?_
  subst haction
  rcases hforwards with rfl | rfl
  · exact ⟨_, .inl rfl, sameFields_forwarded (onLine_executeFields hparams)⟩
  · exact ⟨_, .inr rfl, sameFields_forwarded (onLine_drainFields hparams)⟩

/-- The codec of payloads: it is faithful exactly on the fields that stand on their lines, and
on everything that was read before. So every frame that a dispatcher sends its worker for a
command that was read from a controller carries the fields of the command, and the answer that
was read from a worker reaches the controller as the fields of the reply. -/
theorem payload_codec :
    (∀ f : Fields, SameFields (parsePayload (makePayload f)) f ↔
      ∀ k v, f.lookup k = some v → equals ∉ k ∧ newline ∉ k ∧ newline ∉ v) ∧
    (∀ p : Str, SameFields (parsePayload (makePayload (parsePayload p))) (parsePayload p)) ∧
    (∀ (cmd : WorkerCommand) (p : Str) (rid : Nat) (r : WorkerRouter),
      let cmd := { cmd with params := parsePayload p }
      (process rid r cmd).Only fun action => ∀ m, action = .send m →
        ∃ kvs, (kvs = executeFields cmd ∨ kvs = drainFields cmd) ∧
          SameFields (parsePayload m.payload)
            (fieldsOf (("cmd_id", decimal cmd.commandId.toNat) :: kvs))) ∧
    ∀ (ok : Bool) (p : Str) (cmdId : UInt64) (epoch authority : UInt32),
      let rep := answeredReply ok (parsePayload p) (get (parsePayload p) "detail" "execute result")
      ∃ m, replyToController rep cmdId epoch authority = (send m >>= fun _ => pure ()) ∧
        SameFields (parsePayload m.payload) (replyFields rep cmdId) := by
  refine ⟨sameFields_iff, fun p => (onLines_parsePayload p).sameFields, ?_, ?_⟩
  · intro cmd p rid r cmd'
    exact forwards_read cmd' (onLines_parsePayload p) rid r
  · intro ok p cmdId epoch authority rep
    have hfields := onLines_parsePayload p
    have hdetail : newline ∉ get (parsePayload p) "detail" "execute result" :=
      hfields.get (by decide)
    refine ⟨_, replyToController_sends rep cmdId epoch authority, ?_⟩
    exact (onLines_replyFields (onLines_answeredReply hfields hdetail) hdetail cmdId).sameFields

end EngineResidency.Coordinator
