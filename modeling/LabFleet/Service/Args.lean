import LabFleet.Error
import LabFleet.Json.Decode

/-!
Arguments of a remote call. One JSON value carries them: an array gives them by position,
an object by name, `null` gives none, and any other value is the first positional argument.
An operation asks for an argument by both its position and its name, so a caller may use
either style. An argument that is absent or `null` counts as missing; one of the wrong type
is refused with the typed-decoding message, prefixed with the argument's name.
-/

namespace LabFleet.Service

/-- The arguments of one call. -/
structure Args where
  value : Json

namespace Args

/-- The argument at `index`, or named `name`. -/
def get? (a : Args) (index : Nat) (name : String) : Option Json :=
  match a.value with
  | .array items => items[index]?
  | .object _ => a.value.field? name
  | .null => none
  | single => if index = 0 then some single else none

/-- Every positional argument, for operations that take any number of them. -/
def positional (a : Args) : List Json :=
  match a.value with
  | .array items => items
  | .null | .object _ => []
  | single => [single]

/-- An argument that may be missing, read with `read`. -/
def optional {α : Type} (a : Args) (index : Nat) (name : String) (read : Json.Decoder α) :
    Result (Option α) :=
  match a.get? index name with
  | none | some .null => .ok none
  | some v =>
    match read v with
    | .ok x => .ok (some x)
    | .error m => .error (.invalidArgument s!"argument '{name}': {m}")

/-- An argument that must be given, read with `read`. -/
def required {α : Type} (a : Args) (index : Nat) (name : String) (read : Json.Decoder α) :
    Result α := do
  match ← a.optional index name read with
  | some x => pure x
  | none => throw (.invalidArgument s!"missing argument '{name}'")

end Args

/-- Any value. -/
def anyValue : Json.Decoder Json := pure

/-- A double: any number, integers converted to the nearest double. -/
def double : Json.Decoder Float
  | .number n => .ok n.toFloat
  | j => Json.Decoder.wrongType j "f64"

/-- A signed 64-bit integer. -/
def int64 : Json.Decoder Int := Json.Decoder.signed 64 "i64"

/-- A list of any values. -/
def values : Json.Decoder (List Json) := Json.Decoder.list pure

/-- A list of strings. -/
def strings : Json.Decoder (List String) := Json.Decoder.list Json.Decoder.string

/-- One remotely callable entry point of a service, as its description lists it. -/
structure Operation where
  name : String
  params : List String
  returns : String
  summary : String
  deriving Repr, Inhabited

/-- The JSON form of an operation. -/
def Operation.toJson (o : Operation) : Json :=
  .object [("name", .string o.name), ("params", Json.strings o.params),
    ("returns", .string o.returns), ("summary", .string o.summary)]

end LabFleet.Service
