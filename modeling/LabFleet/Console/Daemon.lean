import LabFleet.Console.Wire
import LabFleet.Config.Load
import LabFleet.Wire.Reply
import LabFleet.Daemon.Host
import LabFleet.Daemon.Registration
import LabFleet.Nameserver.Directory

/-!
The console's view of daemons and nameservers: a daemon's lock table, the host serving calls
from several connections, the directory a nameserver keeps, and what a daemon registers.
Everything that reads the clock takes the time as an argument.

A directory step is a call to the directory, or something done to its store from outside:
reopen it, overwrite its file, make the file unwritable or writable again, show the file, or
drop the entries whose endpoints do not answer (here, all of them).
-/

namespace LabFleet.Console

/-- The JSON form of a lock, with its description. -/
def lockJson (l : Daemon.Lock) : Json :=
  obj [("holder", Json.nat l.holder), ("user", optStr l.user), ("describe", .string l.describe)]

/-- A lock slot: its lock, or null when free. -/
def optLockJson : Option Daemon.Lock → Json
  | some l => lockJson l
  | none => .null

/-- One step on a lock table at time now. -/
def lockStep (now : Timestamp) (t : Daemon.LockTable) (step : Json) : Daemon.LockTable × Json :=
  let fail (e : Json) : Daemon.LockTable × Json := (t, e)
  match str? step "do" with
  | some "acquire" =>
    match need step "service", needNat step "holder" with
    | .ok service, .ok holder =>
      match t.acquire service holder (str? step "user") now with
      | .ok t' => (t', obj [("ok", .null)])
      | .error e => (t, errorJson e)
    | .error e, _ => fail e
    | _, .error e => fail e
  | some "release" =>
    match need step "service", needNat step "holder" with
    | .ok service, .ok holder =>
      match t.release service holder with
      | .ok (b, t') => (t', obj [("ok", .bool b)])
      | .error e => (t, errorJson e)
    | .error e, _ => fail e
    | _, .error e => fail e
  | some "enter" =>
    match need step "service", needNat step "holder" with
    | .ok service, .ok holder =>
      (t, resultJson ((fun _ => Json.bool true) <$> t.enter service holder))
    | .error e, _ => fail e
    | _, .error e => fail e
  | some "holder" =>
    match need step "service" with
    | .ok service => (t, resultJson (optLockJson <$> t.holder service))
    | .error e => fail e
  | some "release_all" =>
    match needNat step "holder" with
    | .ok holder =>
      let (freed, t') := t.releaseAll holder
      (t', obj [("ok", Json.strings freed)])
    | .error e => fail e
  | some "force_release" =>
    match need step "service" with
    | .ok service =>
      match t.forceRelease service with
      | .ok (prev, t') => (t', obj [("ok", optLockJson prev)])
      | .error e => (t, errorJson e)
    | .error e => fail e
  | some "snapshot" => (t, obj [("ok", .object (t.slots.map fun (n, s) => (n, optLockJson s)))])
  | some other => fail (badInput s!"unknown lock step '{other}'")
  | none => fail (missingField "do")

/-- Steps one after another on one table. -/
def runLockSteps (now : Timestamp) : Daemon.LockTable → List Json → List Json
  | _, [] => []
  | t, step :: rest =>
    let (t', out) := lockStep now t step
    out :: runLockSteps now t' rest

/-- A lock table over some services, driven by steps at time now. -/
def locks (now : Timestamp) (input : Json) : Json :=
  let table := Daemon.LockTable.new (stringsOf input "services")
  obj [("steps", .array (runLockSteps now table (listOf input "steps")))]

/-- The call a step describes; defaultObject stands in for a missing object. -/
def callOf (step : Json) (defaultObject : Option String) : Except Json Wire.Call := do
  let object ← match defaultObject with
    | some d => pure ((str? step "object").getD d)
    | none => need step "object"
  let method ← need step "method"
  return { object, method, args := (get? step "args").getD .null }

/-- Calls from connections, disconnections and closes, one after another on one host. -/
def daemonSteps (now : Timestamp) (h : Daemon.Host) : List Json → Except Json (List Json)
  | [] => .ok []
  | step :: rest =>
    match get? step "disconnect", get? step "close" with
    | some c, _ =>
      let conn := match c with | .number (.nat n) => n | _ => 0
      return obj [("disconnected", Json.nat conn)] :: (← daemonSteps now (h.disconnected conn) rest)
    | none, some _ =>
      return obj [("closed", .bool true)] :: (← daemonSteps now h.close rest)
    | none, none => do
      let call ← callOf step none
      let conn := (nat? step "conn").getD 1
      let (r, h') := h.dispatch conn now call
      return (Wire.Reply.ofResult r).toJson :: (← daemonSteps now h' rest)

/-- The host of a daemon of a configuration, built at now and driven by steps. -/
def daemon (now : Timestamp) (input : Json) : Json := unwrap do
  let yaml ← need input "yaml"
  let name ← need input "daemon"
  match ({} : Config.Loader).load yaml with
  | .error e => return errorJson e
  | .ok config =>
    match Daemon.Host.build name config now with
    | .error e => return errorJson e
    | .ok host =>
      let steps ← daemonSteps now host (listOf input "steps")
      return obj [("services", Json.strings host.serviceNames), ("steps", .array steps)]

/-- One step on a directory at time now: a call, or something done to its store. -/
def directoryStep (now : Timestamp) (d : Nameserver.Directory) (step : Json) :
    Except Json (Nameserver.Directory × Json) := do
  match str? step "do" with
  | some "reopen" =>
    let d' := Nameserver.Directory.load d.store d.file
    return (d', obj [("ok", Json.nat d'.entries.length)])
  | some "corrupt" =>
    let text ← need step "text"
    return ({ d with file := { d.file with text := some text } }, obj [("ok", .null)])
  | some "file" =>
    let shown := match d.file.text with
      | none => Json.null
      | some text =>
        match Json.ofString text with
        | .ok j => j
        | .error _ => obj [("unparsed", .string text)]
    return (d, obj [("ok", shown)])
  | some "autoclean" =>
    match d.autoclean (fun _ => false) with
    | .ok (names, d') => return (d', obj [("ok", Json.strings names)])
    | .error e => return (d, errorJson e)
  | some "break_store" => return ({ d with file := { d.file with writable := false } }, obj [("ok", .null)])
  | some "fix_store" => return ({ d with file := { d.file with writable := true } }, obj [("ok", .null)])
  | some other => throw (badInput s!"unknown directory step '{other}'")
  | none =>
    let call ← callOf step (some "nameserver")
    let (r, d') := d.dispatch now call
    return (d', (Wire.Reply.ofResult r).toJson)

/-- Steps one after another on one directory. -/
def directorySteps (now : Timestamp) (d : Nameserver.Directory) : List Json → Except Json (List Json)
  | [] => .ok []
  | step :: rest => do
    let (d', out) ← directoryStep now d step
    return out :: (← directorySteps now d' rest)

/-- A directory on a store, driven by steps at time now. -/
def directory (now : Timestamp) (input : Json) : Json := unwrap do
  let store ← match (str? input "store").getD "memory" with
    | "memory" => pure Nameserver.Store.memory
    | "snapshot" => pure .snapshot
    | other => throw (badInput s!"unknown store '{other}'")
  let d := Nameserver.Directory.load store {}
  let steps ← directorySteps now d (listOf input "steps")
  return obj [("steps", .array steps)]

/-- What a daemon publishes into its nameservers when bound to an endpoint. -/
def registrations (input : Json) : Json := unwrap do
  let yaml ← need input "yaml"
  let name ← need input "daemon"
  let bound ← endpointOf ((get? input "bound").getD .null)
  match ({} : Config.Loader).load yaml with
  | .error e => return errorJson e
  | .ok config =>
    match config.daemon name with
    | .error e => return errorJson e
    | .ok profile =>
      let published := Daemon.publishedEndpoint profile bound
      match Daemon.registrations name config published with
      | .error e => return errorJson e
      | .ok plan =>
        return obj [("published", .string published.text),
          ("plan", .array (plan.map fun r => obj [("nameserver", .string r.nameserver),
            ("nameserver_address", .string r.nameserverAddress.text), ("name", .string r.name),
            ("address", .string r.address.text), ("metadata", Json.strings r.metadata)]))]

end LabFleet.Console
