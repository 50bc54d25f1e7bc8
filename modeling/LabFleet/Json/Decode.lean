import LabFleet.Json.Basic
import LabFleet.Decode.Message

/-!
Typed reading of JSON values. A reader takes a value and gives a typed result or the
message refusing it, in the words typed decoding uses (`invalid type: string "x", expected
u32`). A record is read from an object field by field, in the object's order: a field it does
not know is passed over, a field it knows is read at once (so the first refused field in
object order is the one reported), a field given twice is refused, and a required field that
never came is reported after all fields are read.
-/

namespace LabFleet.Json

/-- What a JSON value is, as refusals name it. -/
def found : Json → Decode.Found
  | .null => .unit
  | .bool b => .bool b
  | .number (.nat k) => .unsigned k
  | .number (.neg k) => .signed k
  | .number (.float f) => .float f
  | .string s => .str s
  | .array _ => .seq
  | .object _ => .map

/-- Reading a typed value: the value, or the message refusing it. -/
abbrev Decoder (α : Type) := Json → Except String α

namespace Decoder

/-- A refusal of a value of the wrong type. -/
def wrongType (j : Json) (expected : String) : Except String α :=
  .error (Decode.invalidType .json (found j) expected)

/-- An unsigned integer below `2 ^ bits`; `label` names the type in refusals. -/
def unsigned (bits : Nat) (label : String) : Decoder Nat
  | .number (.nat k) =>
    if k < Nat.pow 2 bits then .ok k else .error (Decode.invalidValue .json (.unsigned k) label)
  | .number (.neg k) => .error (Decode.invalidValue .json (.signed k) label)
  | j => wrongType j label

/-- A signed integer of `bits` bits; `label` names the type in refusals. -/
def signed (bits : Nat) (label : String) : Decoder Int
  | .number (.nat k) =>
    if k < Nat.pow 2 (bits - 1) then .ok k else .error (Decode.invalidValue .json (.unsigned k) label)
  | .number (.neg k) =>
    if -((Nat.pow 2 (bits - 1) : Nat) : Int) ≤ k then .ok k else .error (Decode.invalidValue .json (.signed k) label)
  | j => wrongType j label

/-- A boolean. -/
def bool : Decoder Bool
  | .bool b => .ok b
  | j => wrongType j "a boolean"

/-- A string. -/
def string : Decoder String
  | .string s => .ok s
  | j => wrongType j "a string"

/-- A value that may be null. -/
def optional (read : Decoder α) : Decoder (Option α)
  | .null => .ok none
  | j => some <$> read j

/-- A list of values. -/
def list (read : Decoder α) : Decoder (List α)
  | .array items => items.mapM read
  | j => wrongType j "a sequence"

end Decoder

/-- How a record reads its fields: for a known field name, a step setting it from a value. -/
abbrev FieldSteps (α : Type) := String → Option (α → Decoder α)

/-- Reads a record from the fields of an object in their order, starting from `init`.
`required` lists, in declaration order, the fields that have no default. -/
def readFields (steps : FieldSteps α) (required : List String) (init : α)
    (fields : List (String × Json)) : Except String α := do
  let mut record := init
  let mut seen : List String := []
  for (name, value) in fields do
    match steps name with
    | none => pure ()
    | some set =>
      if seen.contains name then throw (Decode.duplicateField name)
      seen := name :: seen
      record ← set record value
  match required.find? (fun f => !seen.contains f) with
  | some f => throw (Decode.missingField f)
  | none => return record

/-- Reads a record from an object; `what` names the record in refusals of other values. -/
def readRecord (what : String) (steps : FieldSteps α) (required : List String) (init : α) :
    Decoder α
  | .object fields => readFields steps required init fields
  | j => Decoder.wrongType j what

end LabFleet.Json
