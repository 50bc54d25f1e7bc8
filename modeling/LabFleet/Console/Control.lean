import LabFleet.Console.Basic
import LabFleet.Control.Frame

/-!
The console's view of the control plane: requests and responses in their JSON forms,
archived in frames and read back.
-/

namespace LabFleet.Console

/-- The written forms of profile references. -/
def refsJson (refs : List Control.ProfileRef) : Json := Json.strings (refs.map (·.text))

/-- A request from its JSON form: `type`, and the fields of that request. -/
def requestOf (j : Json) : Except Json Control.Request := do
  let ty ← need j "type"
  match ty with
  | "ping" => return .ping
  | "shutdown" => return .shutdown
  | "reload" => return .reload
  | "start" => return .start (← profileKind j "kind") (← need j "name")
  | "stop" => return .stop (← profileKind j "kind") (← need j "name")
  | "status" =>
    if (get? j "kind").isSome || (get? j "name").isSome then
      return .status (.one (← profileKind j "kind") (← need j "name"))
    else return .status .all
  | "rename" => return .rename (← profileKind j "kind") (← need j "old") (← need j "new")
  | "rename_service" => return .renameService (← need j "old") (← need j "new")
  | "logs" =>
    let kind ← profileKind j "kind"
    let name ← need j "name"
    let lines ← needNat j "lines"
    if lines ≥ Nat.pow 2 32 then throw (badInput "lines out of range")
    return .logs kind name lines
  | other => throw (badInput s!"unknown request '{other}'")

/-- A process state by name. -/
def stateOf (t : String) : Except Json Control.ProcessState :=
  match t with
  | "starting" => .ok .starting
  | "running" => .ok .running
  | "crashed" => .ok .crashed
  | "stopped" => .ok .stopped
  | other => .error (badInput s!"unknown state '{other}'")

/-- A snapshot from its JSON form; absent fields take the values of an idle record. -/
def snapshotOf (j : Json) : Except Json Control.ProcessSnapshot := do
  return { kind := ← profileKind j "kind", name := ← need j "name",
           state := ← stateOf ((str? j "state").getD "stopped"), pid := nat? j "pid",
           startedAtMs := int? j "started_at_ms", uptimeSecs := nat? j "uptime_secs",
           restarts := (nat? j "restarts").getD 0, incarnation := (nat? j "incarnation").getD 0,
           lastError := str? j "last_error", crashLooped := (bool? j "crash_looped").getD false,
           adopted := (bool? j "adopted").getD false }

/-- A profile reference from its JSON form. -/
def refOf (j : Json) : Except Json Control.ProfileRef := do
  return { kind := ← profileKind j "kind", name := ← need j "name" }

/-- A payload from its JSON form, by `type`. -/
def payloadOf (j : Json) : Except Json Control.Payload := do
  match (str? j "type").getD "none" with
  | "none" => return .none
  | "pong" =>
    return .pong ((nat? j "uptime_secs").getD 0) ((str? j "version").getD "") ((nat? j "pid").getD 0)
  | "records" => return .records (← (listOf j "records").mapM snapshotOf)
  | "logs" => return .logs (stringsOf j "lines")
  | "reload" =>
    return .reload { stopped := ← (listOf j "stopped").mapM refOf,
                     restarted := ← (listOf j "restarted").mapM refOf,
                     unchanged := ← (listOf j "unchanged").mapM refOf }
  | other => throw (badInput s!"unknown payload '{other}'")

/-- A response from its JSON form: a `failure` category makes it a failure. -/
def responseOf (j : Json) : Except Json Control.Response := do
  let verdict ← match get? j "failure" with
    | some _ => Control.Verdict.failure <$> errorKind j "failure"
    | none => pure .success
  let payload ← match get? j "payload" with
    | some p => payloadOf p
    | none => pure .none
  return { verdict, message := (str? j "message").getD "", warnings := stringsOf j "warnings",
           payload }

/-- The JSON form of a snapshot. -/
def snapshotJson (s : Control.ProcessSnapshot) : Json :=
  obj [("kind", .string s.kind.name), ("name", .string s.name), ("state", .string s.state.name),
    ("pid", optNat s.pid),
    ("started_at_ms", match s.startedAtMs with | some t => Json.int t | none => .null),
    ("uptime_secs", optNat s.uptimeSecs), ("restarts", Json.nat s.restarts),
    ("incarnation", Json.nat s.incarnation), ("last_error", optStr s.lastError),
    ("crash_looped", .bool s.crashLooped), ("adopted", .bool s.adopted)]

/-- The JSON form of a payload, tagged by `type`; references are written as text. -/
def payloadJson : Control.Payload → Json
  | .none => obj [("type", .string "none")]
  | .pong uptime version pid =>
    obj [("type", .string "pong"), ("uptime_secs", Json.nat uptime), ("version", .string version),
      ("pid", Json.nat pid)]
  | .records rs => obj [("type", .string "records"), ("records", .array (rs.map snapshotJson))]
  | .logs lines => obj [("type", .string "logs"), ("lines", Json.strings lines)]
  | .reload r =>
    obj [("type", .string "reload"), ("stopped", refsJson r.stopped),
      ("restarted", refsJson r.restarted), ("unchanged", refsJson r.unchanged)]

/-- The JSON form of a response. -/
def decodedJson (r : Control.Response) : Json :=
  obj [("message", .string r.message),
    ("outcome", match r.verdict with
      | .success => .string "success"
      | .failure k => obj [("failure", .string k.wireName)]),
    ("payload", payloadJson r.payload), ("warnings", Json.strings r.warnings)]

/-- The answer to an archive that does not check. -/
def archiveError : Json := obj [("error", .string "rkyv"), ("message", .string "invalid archive")]

/-- The response an archive body holds, or the refusal. -/
def decodeResult (body : List UInt8) : Json :=
  match Control.Response.ofArchive? body.toArray with
  | some r => obj [("ok", decodedJson r)]
  | none => archiveError

/-- Archives a request or a response in a frame and reads it back, or reads a response
from an archive given as hex. -/
def controlFrame (input : Json) : Json := unwrap do
  match get? input "request", get? input "response", get? input "decode_response" with
  | some rj, _, _ =>
    let r ← requestOf rj
    let framed := Control.frame r.archive
    let back := match Control.readFrame framed with
      | .ok body => Control.Request.ofArchive? body.toArray
      | .error _ => none
    return obj [("operation", .string r.operation), ("hex", .string (hexOf framed)),
      ("roundtrip", .bool (back == some r))]
  | none, some sj, _ =>
    let r ← responseOf sj
    let body := r.archive
    let framed := Control.frame body
    let back := match Control.readFrame framed with
      | .ok b => Control.Response.ofArchive? b.toArray
      | .error _ => none
    return obj [("hex", .string (hexOf framed)), ("length", Json.nat body.length),
      ("roundtrip", .bool (back == some r)), ("is_success", .bool r.isSuccess),
      ("into_result", match r.toResult with
        | .ok r => obj [("ok", .string r.message)]
        | .error e => errorJson e),
      ("decoded", decodedJson r)]
  | none, none, some _ => return decodeResult (← needHex input "decode_response")
  | none, none, none => throw (badInput "missing request, response or decode_response")

/-- Reads one control frame from hex bytes. -/
def readControl (input : Json) : Json := unwrap do
  let bytes ← needHex input "hex"
  match Control.readFrame bytes with
  | .ok body =>
    let decoded := match Control.Response.ofArchive? body.toArray with
      | some r => decodedJson r
      | none => archiveError
    return obj [("length", Json.nat body.length), ("decoded", decoded)]
  | .error .early =>
    return obj [("error", .string "io"), ("io_kind", .string "UnexpectedEof"),
      ("message", .string "early eof")]
  | .error (.tooLong n) =>
    return obj [("error", .string "io"), ("io_kind", .string "InvalidData"),
      ("message", .string s!"control message of {n} bytes exceeds limit")]

end LabFleet.Console
