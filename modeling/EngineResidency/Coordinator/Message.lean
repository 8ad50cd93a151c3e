-- SUMMARY: The messages of the control plane, their key-value payloads and how sessions read them.
import EngineResidency.Base.UMap
import EngineResidency.Records
import Mathlib.Data.List.Sort

/-!
# Messages

A message carries its fields as lines `key=value`. A session reads a field as a
string with a default, or as a number with a default: a field that is missing, that
does not start with a number or whose number does not fit counts as the default.
-/

namespace EngineResidency.Coordinator

/-- The message types; the frame layer rejects every other number. -/
inductive MessageType where
  | hello | register | registerAck | publishBackend | publishDevice | publishComponent | prepare
  | prepareResult | warmupResult | queryReadiness | assignStandby | activate | acquireUse
  | releaseUse | executionResult | invalidate | drain | drainResult | replace | fenceWorker
  | revalidate | save | shutdown | error | execute | commandReady | queryDrain
  deriving DecidableEq, Repr

structure ProtocolMessage where
  type : MessageType := .hello
  epoch : UInt32 := 0
  authority : UInt32 := 0
  payload : Str := []
  deriving DecidableEq, Repr

/-! ## Payloads -/

/-- The fields of a payload. -/
abbrev Fields := UMap Str Str

def newline : UInt8 := 10

def equals : UInt8 := 61

/-- The fields in the order of their keys, one line each. -/
def makePayload (f : Fields) : Str :=
  ((f.entries.map fun e => (e.1, e.2)).insertionSort fun a b => a.1 ≤ b.1).flatMap fun kv =>
    kv.1 ++ [equals] ++ kv.2 ++ [newline]

/-- One line of a payload; a line without `=` holds no field. -/
def parseLine (line : Str) : Option (Str × Str) :=
  match line.span (· != equals) with
  | (_, []) => none
  | (key, _ :: value) => some (key, value)

/-- The last of several lines with one key counts. -/
def parsePayload (payload : Str) : Fields :=
  ((payload.splitOn newline).filterMap parseLine).foldl (fun f kv => f.insert kv.1 kv.2) ∅

/-- The fields of a reply. -/
def fieldsOf (kvs : List (String × Str)) : Fields :=
  kvs.foldl (fun f kv => f.insert (lit kv.1) kv.2) ∅

def get (f : Fields) (key : String) (default : String) : Str := (f.lookup (lit key)).getD (lit default)

/-! ## Numbers -/

/-- The characters that `std::stoull` skips. -/
def isSpace (c : UInt8) : Bool := c == 32 || (9 ≤ c && c ≤ 13)

def isDigit (c : UInt8) : Bool := 48 ≤ c && c ≤ 57

/-- An optional sign: whether it is a minus, and what follows it. -/
def readSign : Str → Bool × Str
  | 45 :: rest => (true, rest)
  | 43 :: rest => (false, rest)
  | s => (false, s)

def readDigits (digits : Str) : Nat := digits.foldl (fun n c => 10 * n + (c.toNat - 48)) 0

/-- `std::stoull`: the number that a string starts with. It throws when there is none
and when the number does not fit; a number after a minus wraps around. -/
def stoull (s : Str) : Option UInt64 :=
  let (negative, rest) := readSign (s.dropWhile isSpace)
  let digits := rest.takeWhile isDigit
  if digits.isEmpty then none
  else if readDigits digits < 2 ^ 64 then
    let v := UInt64.ofNat (readDigits digits)
    some (if negative then 0 - v else v)
  else none

/-- A numeric field. -/
def u (f : Fields) (key : String) (default : UInt64) : UInt64 :=
  match f.lookup (lit key) with
  | none => default
  | some v => (stoull v).getD default

/-- `std::to_string` of a number. -/
def decimal (n : Nat) : Str := (Nat.toDigits 10 n).map fun c => UInt8.ofNat c.toNat

/-- `std::to_string` of an `int`. -/
def signedDecimal (n : Int32) : Str :=
  if n < 0 then lit "-" ++ decimal n.toInt.natAbs else decimal n.toInt.natAbs

end EngineResidency.Coordinator
