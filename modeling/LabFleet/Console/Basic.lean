import LabFleet.Error
import LabFleet.Bytes
import LabFleet.Json.Basic
import LabFleet.Decode.Message

/-!
The JSON console: every part of the library reachable with a JSON request and answered in
JSON. A request is an object; an answer is a value, or an error object. Failures of the
library are written with their category, their cause and their message; a request the
console cannot read is answered `bad_input`, and a kind it cannot read `kind_parse`.

This module holds what every area of the console shares: reading request fields, writing
failures, and bytes as hex text.
-/

namespace LabFleet

/-- The name of a failure's cause. -/
def Error.causeName : Error → String
  | .configuration .. => "Configuration"
  | .alreadyRunning _ => "AlreadyRunning"
  | .unknownProfile .. => "UnknownProfile"
  | .unknownService _ => "UnknownService"
  | .alreadyLocked .. => "AlreadyLocked"
  | .resourceBusy .. => "ResourceBusy"
  | .timedOut .. => "TimedOut"
  | .crashLoop .. => "SubprocessCrashLoop"
  | .unknownObject _ => "UnknownObject"
  | .invalidArgument _ => "InvalidArgument"
  | .supervisorUnavailable _ => "SupervisorUnavailable"
  | .remote .. => "Remote"
  | .io _ => "Io"
  | .internal _ => "Internal"
  | .panicked _ => "Panic"

/-- The JSON form of a failure: category, cause and message; a configuration failure also
names its entry and field. -/
def Error.toJson (e : Error) : Json :=
  let base := [("error", Json.string e.kind.wireName), ("variant", .string e.causeName),
    ("message", .string e.message)]
  match e with
  | .configuration name field _ => .object (base ++ [("name", .string name), ("field", .string field)])
  | _ => .object base

/-- A hex digit, lowercase. -/
def hexDigit (n : Nat) : Char := if n < 10 then Char.ofNat (48 + n) else Char.ofNat (87 + n)

/-- Bytes as lowercase hex text. -/
def hexOf (bytes : List UInt8) : String :=
  String.ofList (bytes.flatMap fun b => [hexDigit (b.toNat / 16), hexDigit (b.toNat % 16)])

/-- The value of a hex digit of either case. -/
def hexValue? (c : Char) : Option Nat :=
  if '0' ≤ c ∧ c ≤ '9' then some (c.toNat - 48)
  else if 'a' ≤ c ∧ c ≤ 'f' then some (c.toNat - 87)
  else if 'A' ≤ c ∧ c ≤ 'F' then some (c.toNat - 55)
  else none

/-- The byte a group of two characters spells: two hex digits, or a `+` sign and one. -/
def hexPair? (a b : Char) : Option UInt8 := do
  let lo ← hexValue? b
  if a == '+' then return lo.toUInt8
  else return ((← hexValue? a) * 16 + lo).toUInt8

/-- The bytes hex text spells, one per group of two characters. -/
def bytesOfHex : List Char → Option (List UInt8)
  | [] => some []
  | a :: b :: rest => do
    return (← hexPair? a b) :: (← bytesOfHex rest)
  | [_] => none

end LabFleet

namespace LabFleet.Console

/-- A field of a request. -/
def get? (j : Json) (k : String) : Option Json := j.field? k

/-- A string field. -/
def str? (j : Json) (k : String) : Option String :=
  match j.field? k with
  | some (.string s) => some s
  | _ => none

/-- A field holding a whole number. -/
def nat? (j : Json) (k : String) : Option Nat :=
  match j.field? k with
  | some (.number (.nat n)) => some n
  | _ => none

/-- A field holding an integer. -/
def int? (j : Json) (k : String) : Option Int :=
  match j.field? k with
  | some (.number n) => n.toInt?
  | _ => none

/-- A boolean field. -/
def bool? (j : Json) (k : String) : Option Bool :=
  match j.field? k with
  | some (.bool b) => some b
  | _ => none

/-- The items of an array field; none when absent. -/
def listOf (j : Json) (k : String) : List Json :=
  match get? j k with
  | some (.array xs) => xs
  | _ => []

/-- The strings of an array field. -/
def stringsOf (j : Json) (k : String) : List String :=
  (listOf j k).filterMap fun | .string s => some s | _ => none

/-- An object. -/
def obj (fields : List (String × Json)) : Json := .object fields

/-- An optional number. -/
def optNat (o : Option Nat) : Json := match o with
  | some n => Json.nat n
  | none => .null

/-- An optional string. -/
def optStr (o : Option String) : Json := match o with
  | some s => .string s
  | none => .null

/-- The answer to a request the console cannot read. -/
def badInput (msg : String) : Json := obj [("error", .string "bad_input"), ("message", .string msg)]

/-- The answer to a kind the library refuses. -/
def kindParse (msg : String) : Json := obj [("error", .string "kind_parse"), ("message", .string msg)]

/-- The answer to a value typed decoding refuses. -/
def decodeError (msg : String) : Json := obj [("error", .string "decode"), ("message", .string msg)]

/-- The failure of a library call. -/
def errorJson (e : Error) : Json := e.toJson

/-- A success as `ok`, or the failure. -/
def resultJson (r : Result Json) : Json :=
  match r with
  | .ok v => obj [("ok", v)]
  | .error e => errorJson e

/-- A success. -/
def okJson (v : Json) : Json := obj [("ok", v)]

/-- The complaint about a field that is missing or of the wrong type. -/
def missingField (k : String) : Json := badInput s!"missing or invalid field '{k}'"

/-- A required string field. -/
def need (j : Json) (k : String) : Except Json String :=
  match str? j k with
  | some s => .ok s
  | none => .error (missingField k)

/-- A required whole-number field. -/
def needNat (j : Json) (k : String) : Except Json Nat :=
  match nat? j k with
  | some n => .ok n
  | none => .error (missingField k)

/-- A required profile kind. -/
def profileKind (j : Json) (k : String) : Except Json ProfileKind := do
  let t ← need j k
  match ProfileKind.parse t with
  | .ok kind => .ok kind
  | .error m => .error (kindParse m)

/-- A required entry kind. -/
def entryKind (j : Json) (k : String) : Except Json EntryKind := do
  let t ← need j k
  match EntryKind.parse t with
  | .ok kind => .ok kind
  | .error m => .error (kindParse m)

/-- A required failure category. -/
def errorKind (j : Json) (k : String) : Except Json ErrorKind := do
  match get? j k with
  | some (.string s) =>
    match ErrorKind.ofWireName? s with
    | some kind => .ok kind
    | none => .error (badInput (k ++ ": " ++ Decode.unknownVariant s (ErrorKind.all.map (·.wireName))))
  | _ => .error (missingField k)

/-- The bytes of hex text; text of an odd number of bytes is refused before its digits are
read. -/
def decodeHex (t : String) : Except Json (List UInt8) :=
  if t.utf8ByteSize % 2 = 1 then .error (badInput "odd-length hex")
  else
    match bytesOfHex t.toList with
    | some b => .ok b
    | none => .error (badInput "bad hex")

/-- A required field of hex text. -/
def needHex (j : Json) (k : String) : Except Json (List UInt8) := do
  decodeHex (← need j k)

/-- The answer, whether it is a success or a complaint. -/
def unwrap (r : Except Json Json) : Json :=
  match r with
  | .ok v => v
  | .error e => e

end LabFleet.Console
