import LabFleet.Console.Basic
import LabFleet.Config.Load
import LabFleet.Daemon.Host
import LabFleet.Nameserver.Directory
import LabFleet.Wire.Server

/-!
The console's view of the transport: an object server on a Unix socket, serving a daemon's
host or a nameserver's directory, and named clients that connect to it, call it and close.
A client is a proxy for one object, or a nameserver client, which wraps a proxy for the
directory object with typed calls: the address it registers is read before it is sent, and
the answers of lookups and listings are read back as addresses.
-/

namespace LabFleet.Console

open Wire

/-- The clients of a session with one server, by name. -/
structure Clients (σ : Type) where
  server : Server σ
  proxies : NameMap Proxy := []
  nameservers : NameMap Proxy := []

/-- The failure of connecting to a socket that is not there. -/
def missingSocket : Error := .io "No such file or directory (os error 2)"

namespace Clients

/-- Opens a connection to `object` on the server's socket; a client of the same name
is closed once the new one is open. -/
def connect (d : Dispatcher σ) (socket : String) (cs : Clients σ) (object : String) :
    Proxy × Clients σ :=
  let (conn, server) := cs.server.accept d
  ({ address := ⟨object, .unix socket⟩, connection := conn }, { cs with server })

/-- Closes a proxy's connection. -/
def hangUp (d : Dispatcher σ) (cs : Clients σ) (p : Proxy) : Clients σ :=
  { cs with server := cs.server.hangUp d p.connection }

/-- A call through a proxy, which is stored back under its name. -/
def callAs (d : Dispatcher σ) (cs : Clients σ) (name : String) (p : Proxy) (nameserver : Bool)
    (method : String) (args : Json) : Result Json × Clients σ :=
  let (r, p, server) := cs.server.call d p method args
  let cs := { cs with server }
  (r, if nameserver then { cs with nameservers := cs.nameservers.insert name p }
      else { cs with proxies := cs.proxies.insert name p })

end Clients

/-- An address a nameserver answered with. -/
def answeredAddress (context : String) : Json → Result Address
  | .string s =>
    match Address.parse s with
    | .ok a => .ok a
    | .error e => .error (.internal s!"{context}: {e.message}")
  | j =>
    let complaint := Decode.invalidType .json (Json.found j) "a string"
    .error (.internal (context ++ ": " ++ complaint))

/-- The listing a nameserver answered with, as addresses by name. -/
def answeredListing : Json → Result Json
  | .object entries => do
    let pairs ← entries.mapM fun (name, entry) => do
      match entry.field? "address" with
      | some (.string s) => return (name, Json.string (← Address.parse s).text)
      | _ => throw (.internal "list entry without address")
    return .object (NameMap.ofList pairs)
  | _ => .error (.internal "malformed list reply")

/-- A nameserver client's action. -/
def nameserverAction (d : Dispatcher σ) (cs : Clients σ) (name : String) (p : Proxy)
    (step : Json) : Except Json (Json × Clients σ) := do
  let run (method : String) (args : Json) (read : Json → Result Json) :
      Json × Clients σ :=
    let (r, cs) := cs.callAs d name p true method args
    (resultJson (r.bind read), cs)
  match str? step "action" with
  | some "ping" => return run "ping" .null fun _ => .ok .null
  | some "register" =>
    let entry ← need step "name"
    let text ← need step "address"
    match Address.parse text with
    | .error e => return (errorJson e, cs)
    | .ok address =>
      let args := Json.array [.string entry, .string address.text,
        Json.strings (stringsOf step "metadata")]
      return run "register" args fun _ => .ok .null
  | some "lookup" =>
    let entry ← need step "name"
    return run "lookup" (.array [.string entry]) fun v =>
      (fun a => Json.string a.text) <$> answeredAddress "malformed lookup reply" v
  | some "remove" =>
    let entry ← need step "name"
    return run "remove" (.array [.string entry]) fun v => match v with
      | .bool b => .ok (.bool b)
      | _ => .ok (.bool false)
  | some "list" =>
    return run "list" (.array [optStr (str? step "prefix")]) answeredListing
  | some other => throw (badInput s!"unknown nameserver action '{other}'")
  | none => throw (missingField "action")

/-- The complaint about a client that is not connected. -/
def unknownClient (name : String) : Json := badInput s!"unknown client '{name}'"

/-- One step of a transport session on the server at `socket`. -/
def transportStep (d : Dispatcher σ) (socket : String) (cs : Clients σ) (step : Json) :
    Except Json (Json × Clients σ) := do
  match str? step "do" with
  | some "connect" | some "ns_connect" =>
    let name ← need step "client"
    let nameserver := str? step "do" == some "ns_connect"
    if (get? step "path").isSome then return (errorJson missingSocket, cs)
    let object := if nameserver then Nameserver.directoryObject
      else (str? step "object").getD Nameserver.directoryObject
    let (p, cs) := cs.connect d socket object
    let previous := (cs.proxies.find? name).orElse fun _ => cs.nameservers.find? name
    let cs := { cs with proxies := cs.proxies.erase name, nameservers := cs.nameservers.erase name }
    let cs := match previous with
      | some old => cs.hangUp d old
      | none => cs
    let cs := if nameserver then { cs with nameservers := cs.nameservers.insert name p }
      else { cs with proxies := cs.proxies.insert name p }
    return (okJson .null, cs)
  | some "call" =>
    let name ← need step "client"
    let method ← need step "method"
    match cs.proxies.find? name with
    | none => throw (unknownClient name)
    | some p =>
      let (r, cs) := cs.callAs d name p false method ((get? step "args").getD .null)
      return (resultJson r, cs)
  | some "ns" =>
    let name ← need step "client"
    match cs.nameservers.find? name with
    | none => throw (unknownClient name)
    | some p => nameserverAction d cs name p step
  | some "close" =>
    let name ← need step "client"
    match (cs.proxies.find? name).orElse fun _ => cs.nameservers.find? name with
    | none => throw (unknownClient name)
    | some p =>
      let cs := { cs with proxies := cs.proxies.erase name, nameservers := cs.nameservers.erase name }
      return (okJson .null, cs.hangUp d p)
  | some "probe" =>
    if (get? step "path").isSome then return (okJson (.bool false), cs)
    return (okJson (.bool true), { cs with server := cs.server.probe d })
  | some other => throw (badInput s!"unknown transport step '{other}'")
  | none => throw (missingField "do")

/-- Steps one after another; a step that cannot be read is answered and changes nothing. -/
def transportSteps (d : Dispatcher σ) (socket : String) : Clients σ → List Json → List Json
  | _, [] => []
  | cs, step :: rest =>
    match transportStep d socket cs step with
    | .ok (out, cs') => out :: transportSteps d socket cs' rest
    | .error out => out :: transportSteps d socket cs rest

/-- The dispatcher of a daemon's host at time `now`. -/
def hostDispatcher (now : Timestamp) : Dispatcher Daemon.Host where
  dispatch conn call h := h.dispatch conn now call
  disconnected conn h := h.disconnected conn

/-- The dispatcher of a directory at time `now`. -/
def directoryDispatcher (now : Timestamp) : Dispatcher Nameserver.Directory where
  dispatch _ call d := d.dispatch now call
  disconnected _ d := d

/-- The workers of a concurrency mode. -/
def workersOf (concurrency : Config.Concurrency) (maxWorkers : Nat) : Workers :=
  match concurrency with
  | .threaded => .pool maxWorkers
  | .multiplexed => .serial

/-- The number of the first task the server starts: the console's runtime has started the
tasks before it for its own setting up. -/
def firstServerTask : Nat := 22

/-- An object server on `socket` at time `now`, serving a daemon of a configuration
or else an in-memory directory, driven by client steps. -/
def transport (now : Timestamp) (socket : String) (input : Json) : Json := unwrap do
  let steps := listOf input "steps"
  match str? input "daemon" with
  | some name =>
    let yaml ← need input "yaml"
    match ({} : Config.Loader).load yaml with
    | .error e => return errorJson e
    | .ok config =>
      match config.daemon name, Daemon.Host.build name config now with
      | .ok profile, .ok host =>
        let server : Server Daemon.Host :=
          { target := host, workers := workersOf profile.concurrency profile.maxWorkers,
            nextTask := firstServerTask }
        return obj [("steps", .array (transportSteps (hostDispatcher now) socket { server } steps))]
      | .error e, _ | _, .error e => return errorJson e
  | none =>
    let concurrency ← match (str? input "concurrency").getD "threaded" with
      | "threaded" => pure Config.Concurrency.threaded
      | "multiplexed" => pure .multiplexed
      | other => throw (badInput s!"unknown concurrency '{other}'")
    let maxWorkers := (nat? input "max_workers").getD 64
    let server : Server Nameserver.Directory :=
      { target := Nameserver.Directory.load .memory {}, workers := workersOf concurrency maxWorkers,
        nextTask := firstServerTask }
    return obj [("steps", .array (transportSteps (directoryDispatcher now) socket { server } steps))]

end LabFleet.Console
