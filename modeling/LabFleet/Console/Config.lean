import LabFleet.Console.Basic
import LabFleet.Config.Load
import LabFleet.Config.Render
import LabFleet.Control.Message
import LabFleet.Wire.Reply

/-!
The console's view of failures and configurations: failure categories and causes, kinds,
loading documents and the operations on a loaded configuration.
-/

namespace LabFleet.Console

/-- Every failure category with its texts and exit code. -/
def errorKinds : Json :=
  .array (ErrorKind.all.map fun k => obj [("kind", .string k.wireName), ("text", .string k.text),
    ("display", .string k.text), ("exit_code", Json.nat k.exitCode)])

/-- How a text reads as a profile kind and as an entry kind. -/
def kinds (input : Json) : Json :=
  let text := (str? input "text").getD ""
  let profile := match ProfileKind.parse text with
    | .ok k => obj [("ok", obj [("name", .string k.name), ("section", .string k.sectionName),
        ("display", .string k.name)])]
    | .error m => kindParse m
  let entry := match EntryKind.parse text with
    | .ok k => obj [("ok", obj [("name", .string k.name), ("section", .string k.sectionName),
        ("profile", match k.profile? with | some p => .string p.name | none => .null)])]
    | .error m => kindParse m
  obj [("profile", profile), ("entry", entry)]

/-- A failure described by a request: its cause and the fields of that cause. -/
def buildError (input : Json) : Except Json Error := do
  let variant ← need input "variant"
  match variant with
  | "configuration" => return .configuration (← need input "name") (← need input "field") (← need input "reason")
  | "already_running" =>
    match get? input "pid" with
    | none | some .null => return .alreadyRunning none
    | some (.number (.nat n)) =>
      if n < Nat.pow 2 32 then return .alreadyRunning (some n) else throw (badInput "pid out of range")
    | _ => throw (badInput "pid out of range")
  | "unknown_profile" => return .unknownProfile (← profileKind input "kind") (← need input "name")
  | "unknown_service" => return .unknownService (← need input "name")
  | "already_locked" => return .alreadyLocked (← need input "service") (← need input "holder")
  | "resource_busy" => return .resourceBusy (← need input "service") (← need input "holder")
  | "timed_out" => return .timedOut (← need input "operation") (← needNat input "secs")
  | "crash_loop" =>
    return .crashLoop (← profileKind input "kind") (← need input "name") (← needNat input "crashes")
      (← needNat input "window_secs")
  | "unknown_object" => return .unknownObject (← need input "name")
  | "invalid_argument" => return .invalidArgument (← need input "message")
  | "supervisor_unavailable" => return .supervisorUnavailable (← need input "message")
  | "io" => return .io (← need input "message")
  | "internal" => return .internal (← need input "message")
  | "remote" => return .remote (← errorKind input "kind") (← need input "message")
  | other => throw (badInput s!"unknown error variant '{other}'")

/-- A failure with its category, message and exit code, as a reply carries it, as a
receiver rebuilds it, and as a control response carries it. -/
def errorReport (input : Json) : Json := unwrap do
  let e ← buildError input
  let reply := Wire.Reply.ofResult (.error e)
  let rebuilt := match reply.toResult with
    | .error r => errorJson r
    | .ok v => v
  let response := Control.Response.failure e
  let relayed := match response.toResult with
    | .error r => errorJson r
    | .ok _ => .null
  return obj [("kind", .string e.kind.wireName), ("message", .string e.message),
    ("exit_code", Json.nat e.kind.exitCode), ("reply", reply.toJson), ("rebuilt", rebuilt),
    ("response_message", .string response.message),
    ("response_success", .bool response.isSuccess), ("relayed", relayed)]

/-- The loader a request asks for: strict or lenient, with the built-in or an empty catalog. -/
def loaderOf (input : Json) : Config.Loader :=
  { strict := (bool? input "strict").getD false,
    catalog := some (if str? input "catalog" == some "empty" then Catalog.empty else Catalog.builtin) }

/-- Loads a document: its rendered views, whether they load back to the same
configuration, and its counts. -/
def configLoad (input : Json) : Json := unwrap do
  let yaml ← need input "yaml"
  let loader := loaderOf input
  match loader.load yaml with
  | .error e => return errorJson e
  | .ok config =>
    let roundtrip (view : Config.RenderView) : Json :=
      match loader.load (config.render view) with
      | .ok again => .bool (again == config)
      | .error e => errorJson e
    return obj [("merged", .string (config.render .merged)), ("diff", .string (config.render .diff)),
      ("diff_roundtrip", roundtrip .diff), ("merged_roundtrip", roundtrip .merged),
      ("counts", obj [("nameservers", Json.nat config.nameservers.length),
        ("daemons", Json.nat config.daemons.length), ("services", Json.nat config.services.length)])]

/-- One step on a configuration: the configuration after it and the answer. -/
def configStep (loader : Config.Loader) (config : Config.LabConfig) (step : Json) :
    Config.LabConfig × Json :=
  let attempt (r : Except Json (Config.LabConfig × Json)) : Config.LabConfig × Json :=
    match r with
    | .ok result => result
    | .error j => (config, j)
  attempt do
    match str? step "do" with
    | some "rename" =>
      let kind ← profileKind step "kind"
      let old ← need step "old"
      let new ← need step "new"
      match config.rename kind old new with
      | .ok c => return (c, okJson .null)
      | .error e => return (config, errorJson e)
    | some "rename_service" =>
      let old ← need step "old"
      let new ← need step "new"
      match config.renameService old new with
      | .ok c => return (c, okJson .null)
      | .error e => return (config, errorJson e)
    | some "validate" =>
      let catalog := if str? step "catalog" == some "none" then none else loader.catalog
      return (config, resultJson ((fun _ => Json.null) <$> config.validate catalog))
    | some "fingerprint" =>
      let kind ← profileKind step "kind"
      let name ← need step "name"
      return (config, okJson (match config.fingerprint kind name with
        | some f => .string f
        | none => .null))
    | some "dependencies" =>
      let daemon ← need step "daemon"
      return (config, okJson (Json.strings (config.daemonDependencies daemon)))
    | some "dependents" =>
      let ns ← need step "nameserver"
      return (config, okJson (Json.strings (config.nameserverDependents ns)))
    | some "services_for_daemon" =>
      let daemon ← need step "daemon"
      return (config, okJson (Json.strings (config.servicesForDaemon daemon).keys))
    | some "names" =>
      let kind ← profileKind step "kind"
      return (config, okJson (Json.strings (config.names kind)))
    | some "contains" =>
      let kind ← profileKind step "kind"
      let name ← need step "name"
      return (config, okJson (.bool (config.contains kind name)))
    | some "render" =>
      match str? step "view" with
      | some "merged" => return (config, okJson (.string (config.render .merged)))
      | some "diff" => return (config, okJson (.string (config.render .diff)))
      | some other => throw (badInput s!"unknown view '{other}'")
      | none => throw (missingField "view")
    | some "render_entry" =>
      let kind ← entryKind step "kind"
      let name ← need step "name"
      return (config, resultJson (Json.string <$> config.renderEntry kind name))
    | some other => throw (badInput s!"unknown config step '{other}'")
    | none => throw (missingField "do")

/-- Steps one after another, each on the configuration the one before left. -/
def runSteps (loader : Config.Loader) : Config.LabConfig → List Json → List Json
  | _, [] => []
  | config, step :: rest =>
    let (config, result) := configStep loader config step
    result :: runSteps loader config rest

/-- Loads a document, then runs steps on it. -/
def configOps (input : Json) : Json := unwrap do
  let yaml ← need input "yaml"
  let loader := loaderOf input
  let steps := listOf input "steps"
  match loader.load yaml with
  | .error e => return errorJson e
  | .ok config => return obj [("steps", .array (runSteps loader config steps))]

end LabFleet.Console
