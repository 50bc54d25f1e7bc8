import LabFleet.Console.Basic
import LabFleet.Wire.Address
import LabFleet.Wire.Frame

/-!
The console's view of the object transport: addresses, and calls and replies in frames.
-/

namespace LabFleet.Console

/-- The JSON form of an endpoint. -/
def endpointJson : Wire.Endpoint → Json
  | .tcp host port => obj [("tcp", obj [("host", .string host), ("port", Json.nat port)])]
  | .unix path => obj [("unix", .string path)]

/-- An address with its parts and written forms. -/
def addressFields (a : Wire.Address) : List (String × Json) :=
  [("object", .string a.object), ("endpoint", endpointJson a.endpoint),
    ("display", .string a.text), ("endpoint_display", .string a.endpoint.text),
    ("serde", .string a.text)]

/-- An endpoint from its JSON form. -/
def endpointOf (j : Json) : Except Json Wire.Endpoint :=
  let bad := badInput "endpoint must be \x7btcp:\x7bhost,port\x7d\x7d or \x7bunix:path\x7d"
  match get? j "tcp", get? j "unix" with
  | some t, _ =>
    match str? t "host", nat? t "port" with
    | some host, some port =>
      if port < 65536 then .ok (.tcp host port) else .error (badInput "port out of range")
    | _, _ => .error bad
  | none, some (.string path) => .ok (.unix path)
  | _, _ => .error bad

/-- Reads an address from its text, or builds one from its parts, and reads its text back. -/
def address (input : Json) : Json := unwrap do
  match str? input "text" with
  | some text =>
    match Wire.Address.parse text with
    | .error e => return errorJson e
    | .ok a =>
      let again := Wire.Address.parse a.text
      return obj (addressFields a ++ [("reparse_equal", .bool (match again with | .ok b => b == a | .error _ => false))])
  | none =>
    let object ← need input "object"
    let endpoint ← endpointOf ((get? input "endpoint").getD .null)
    let a : Wire.Address := { object, endpoint }
    let reparse := match Wire.Address.parse a.text with
      | .ok b => obj [("object", .string b.object), ("endpoint", endpointJson b.endpoint),
          ("equal", .bool (b == a))]
      | .error e => errorJson e
    return obj (addressFields a ++ [("reparse", reparse)])

/-- Reads an address from a JSON value, which must be its text. -/
def addressJson (input : Json) : Json :=
  match Json.Decoder.string ((get? input "value").getD .null) with
  | .error m => decodeError m
  | .ok text =>
    match Wire.Address.parse text with
    | .ok a => obj (addressFields a)
    | .error e => decodeError e.message

/-- The host clients dial for a bind host. -/
def connectHost (input : Json) : Json := .string (Wire.connectHost ((str? input "host").getD ""))

/-- Whether a request is about replies (`as: reply`) or calls. -/
def frameKind (input : Json) : Except Json Bool :=
  match (str? input "as").getD "call" with
  | "call" => .ok false
  | "reply" => .ok true
  | other => .error (badInput s!"unknown frame type '{other}'")

/-- Reads a call or reply from a JSON value and writes its frame. -/
def writeFrame (input : Json) : Json := unwrap do
  let isReply ← frameKind input
  let value := (get? input "value").getD .null
  let body ← if isReply then
      match Wire.Reply.ofJson value with
      | .ok r => pure r.body
      | .error m => throw (decodeError m)
    else
      match Wire.Call.ofJson value with
      | .ok c => pure c.body
      | .error m => throw (decodeError m)
  match Wire.frame body with
  | .error e => return errorJson e
  | .ok framed =>
    return obj [("hex", .string (hexOf framed)), ("length", Json.nat body.length),
      ("body", .string (String.fromUTF8! (ByteArray.mk body.toArray)))]

/-- The frames of a byte stream, read one after another. -/
def frameResults {α : Type} (decode : List UInt8 → Except Json.ReadError α) (render : α → Json)
    (input : List UInt8) : Json :=
  .array ((Wire.readFrames decode 65 input).map fun
    | .ok (some a) => render a
    | .ok none => obj [("eof", .bool true)]
    | .error e => errorJson e)

/-- Reads the frames of a byte stream, given as hex or as one text framed whole. -/
def readFrame (input : Json) : Json := unwrap do
  let isReply ← frameKind input
  let bytes ← match str? input "text" with
    | some t => pure (littleEndian 4 t.utf8ByteSize ++ t.toUTF8.toList)
    | none => decodeHex ((str? input "hex").getD "")
  let frames := if isReply then
      frameResults Wire.Reply.ofText (fun r => obj [("ok", r.toJson),
        ("result", match r.toResult with
          | .ok v => obj [("ok", v)]
          | .error e => errorJson e)]) bytes
    else frameResults Wire.Call.ofText (fun c => obj [("ok", c.toJson)]) bytes
  return obj [("frames", frames)]

end LabFleet.Console
