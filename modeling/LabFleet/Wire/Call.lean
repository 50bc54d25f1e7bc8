import LabFleet.Wire.Reply
import LabFleet.Json.Decode
import LabFleet.Json.Read

/-!
Remote calls and their typed reading from JSON values. A call names an object, a method and
its arguments (any JSON, `null` when absent). A call is an object with those fields, or an
array of two or three items in that order.

A reply is tagged by its `status` field, `ok` or `error`: the tag is read first, wherever it
stands, and the other fields are kept in their order and read afterwards as the fields of
the tagged variant, `value` for `ok` (`null` when absent) and `error` for `error`. A reply
may also be an array whose first item is the tag. Refusals use the words of typed decoding;
the fields kept for the variant are read without positions.
-/

namespace LabFleet.Wire

open Json

/-- A remote call. -/
structure Call where
  object : String
  method : String
  args : Json := .null
  deriving Inhabited

/-- The JSON form of a call: object, method, args. -/
def Call.toJson (c : Call) : Json :=
  .object [("object", .string c.object), ("method", .string c.method), ("args", c.args)]

/-- The words naming a call in refusals. -/
def callWhat : String := "struct Call"

/-- "N element(s) in sequence" as refusals of surplus items say it. -/
def elementsText (n : Nat) : String :=
  if n = 1 then "1 element in sequence" else s!"{n} elements in sequence"

/-- An item count that is wrong. -/
def invalidLength (n : Nat) (expected : String) : String := s!"invalid length {n}, expected {expected}"

/-- How a call reads its fields. -/
def callSteps : FieldSteps Call
  | "object" => some fun c j => (fun s => { c with object := s }) <$> Decoder.string j
  | "method" => some fun c j => (fun s => { c with method := s }) <$> Decoder.string j
  | "args" => some fun c j => pure { c with args := j }
  | _ => none

/-- A call from a JSON value in the map view. -/
def Call.ofJson : Decoder Call
  | .object fields => readFields callSteps ["object", "method"] default fields
  | .array items => do
    let what := "struct Call with 3 elements"
    match items with
    | [] => throw (invalidLength 0 what)
    | [o] => do
      let _ ← Decoder.string o
      throw (invalidLength 1 what)
    | o :: m :: rest => do
      let object ← Decoder.string o
      let method ← Decoder.string m
      if rest.length > 1 then throw (invalidLength items.length "fewer elements in array")
      return { object, method, args := rest.headD .null }
  | j => Decoder.wrongType j callWhat

/-- The variants of a reply. -/
inductive ReplyTag where
  | ok
  | error
  deriving DecidableEq, Repr

/-- The words naming a reply in refusals. -/
def replyWhat : String := "internally tagged enum Reply"

/-- Reads a reply's tag from a string. -/
def ReplyTag.ofString (s : String) : Except String ReplyTag :=
  match s with
  | "ok" => .ok .ok
  | "error" => .ok .error
  | _ => .error (Decode.unknownVariant s ["ok", "error"])

/-- Reads a reply's tag from a value. -/
def ReplyTag.ofJson : Decoder ReplyTag
  | .string s => ReplyTag.ofString s
  | j => Decoder.wrongType j "variant identifier"

/-- A category from a kept value: its name, or a map of its name to nothing. -/
def categoryOfContent : Decoder ErrorKind
  | .string s =>
    match ErrorKind.ofWireName? s with
    | some k => .ok k
    | none => .error (Decode.unknownVariant s (ErrorKind.all.map (·.wireName)))
  | .object [(s, v)] => do
    let k ← match ErrorKind.ofWireName? s with
      | some k => pure k
      | none => throw (Decode.unknownVariant s (ErrorKind.all.map (·.wireName)))
    match v with
    | .null => return k
    | .object [] => return k
    | other => Decoder.wrongType other "unit"
  | .object _ => .error (Decode.invalidValue .json .map "map with a single key")
  | j => Decoder.wrongType j "string or map"

/-- How a failure reads its fields. -/
def remoteSteps : FieldSteps RemoteError
  | "kind" => some fun r j => (fun k => { r with kind := k }) <$> categoryOfContent j
  | "message" => some fun r j => (fun m => { r with message := m }) <$> Decoder.string j
  | "detail" => some fun r j => pure { r with detail := normalize j }
  | _ => none

/-- A failure from a kept value. -/
def remoteOfContent : Decoder RemoteError
  | .object fields => readFields remoteSteps ["kind", "message"] ⟨.internal, "", .null⟩ fields
  | .array items => do
    let what := "struct RemoteError with 3 elements"
    match items with
    | [] => throw (invalidLength 0 what)
    | [k] => do
      let _ ← categoryOfContent k
      throw (invalidLength 1 what)
    | k :: m :: rest => do
      let kind ← categoryOfContent k
      let message ← Decoder.string m
      if rest.length > 1 then throw (invalidLength items.length (elementsText 3))
      return { kind, message, detail := normalize (rest.headD .null) }
  | j => Decoder.wrongType j "struct RemoteError"

/-- How the `ok` variant reads its fields. -/
def okSteps : FieldSteps Json
  | "value" => some fun _ j => pure (normalize j)
  | _ => none

/-- How the `error` variant reads its fields. -/
def errorSteps : FieldSteps (Option RemoteError)
  | "error" => some fun _ j => some <$> remoteOfContent j
  | _ => none

/-- A reply from its tag and its other fields, kept as an object in their order or as the
array of the items after the tag. -/
def Reply.ofContent (tag : ReplyTag) : Decoder Reply
  | .object fields =>
    match tag with
    | .ok => Reply.ok <$> readFields okSteps [] .null fields
    | .error => do
      match ← readFields errorSteps ["error"] none fields with
      | some r => return .error r
      | none => throw (Decode.missingField "error")
  | .array items =>
    match tag with
    | .ok =>
      if items.length > 1 then .error (invalidLength items.length (elementsText 1))
      else .ok (.ok (normalize (items.headD .null)))
    | .error =>
      match items with
      | [] => .error (invalidLength 0 "struct variant Reply::Error with 1 element")
      | [e] => Reply.error <$> remoteOfContent e
      | e :: _ => do
        let _ ← remoteOfContent e
        throw (invalidLength items.length (elementsText 1))
  | j => Decoder.wrongType j (match tag with
    | .ok => "struct variant Reply::Ok"
    | .error => "struct variant Reply::Error")

/-- A reply from a JSON value in the map view. -/
def Reply.ofJson : Decoder Reply
  | .object fields =>
    match fields.find? (·.1 == "status") with
    | none => .error (Decode.missingField "status")
    | some (_, t) => do
      let tag ← ReplyTag.ofJson t
      Reply.ofContent tag (.object (fields.filter (·.1 != "status")))
  | .array items =>
    match items with
    | [] => .error (Decode.missingField "status")
    | t :: rest => do
      let tag ← ReplyTag.ofJson t
      Reply.ofContent tag (.array rest)
  | j => Decoder.wrongType j replyWhat

end LabFleet.Wire
