import LabFleet.Error
import LabFleet.Json.Basic

/-!
The answer to one remote call: a value, or a failure carried as its category, its message
and an optional structured detail. Lock conflicts carry the service and the holder, an
unknown object carries its name. A receiver turns a failure back into a `remote` error with
the same category and message.
-/

namespace LabFleet.Wire

/-- A failure as it crosses the wire. -/
structure RemoteError where
  kind : ErrorKind
  message : String
  /-- Structured detail; `null` when there is none. -/
  detail : Json := .null

/-- The answer to a call. -/
inductive Reply where
  | ok (value : Json)
  | error (e : RemoteError)

namespace RemoteError

/-- The wire form of a failure, with its detail. -/
def ofError (e : Error) : RemoteError :=
  let detail : Json := match e with
    | .alreadyLocked service holder | .resourceBusy service holder =>
      .object [("holder", .string holder), ("service", .string service)]
    | .unknownObject name => .object [("name", .string name)]
    | _ => .null
  { kind := e.kind, message := e.message, detail }

/-- The failure a receiver rebuilds. -/
def toError (r : RemoteError) : Error := .remote r.kind r.message

/-- The JSON form: kind, message, and the detail unless it is null. -/
def toJson (r : RemoteError) : Json :=
  let base := [("kind", Json.string r.kind.wireName), ("message", .string r.message)]
  match r.detail with
  | .null => .object base
  | d => .object (base ++ [("detail", d)])

end RemoteError

namespace Reply

/-- The answer for a result. -/
def ofResult : Result Json → Reply
  | .ok v => .ok v
  | .error e => .error (RemoteError.ofError e)

/-- The result a receiver takes from an answer. -/
def toResult : Reply → Result Json
  | .ok v => .ok v
  | .error r => .error r.toError

/-- The JSON form, tagged by its status. -/
def toJson : Reply → Json
  | .ok v => .object [("status", .string "ok"), ("value", v)]
  | .error r => .object [("status", .string "error"), ("error", r.toJson)]

end Reply

end LabFleet.Wire
