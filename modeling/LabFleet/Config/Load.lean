import LabFleet.Config.Basic
import LabFleet.Config.Decode
import LabFleet.Yaml.Load

/-!
Loading a configuration document, all or nothing. The document is read as one YAML value,
which must be a mapping (an empty document is an empty one). Its top-level keys are checked
first, then `version`, then the sections `nameservers`, `daemons` and `services` in that
order, then `autolaunch`, and last the whole configuration is validated; the first problem
found is the one reported.

A section is a mapping from names to records, or a list of single-entry mappings. All names
of a mapping section are checked before any record is read; a list section checks each
entry, and refuses a name given twice, before reading the records. In strict mode a key the
document does not define is refused; otherwise it is passed over.
-/

namespace LabFleet.Config

open Yaml

/-- Top-level keys of a document. -/
def topLevelFields : List String := ["version", "nameservers", "daemons", "services", "autolaunch"]

/-- Loads configuration documents. -/
structure Loader where
  /-- Refuse unknown keys instead of passing over them. -/
  strict : Bool := false
  /-- The catalog implementations are checked against, if any. -/
  catalog : Option Catalog := some Catalog.builtin
  deriving Inhabited

namespace Loader

/-- The string a key holds, looking through tags. -/
def keyText (k : Node) : Option String :=
  match Read.untag k with
  | .string s => some s
  | _ => none

/-- The value at a string key of a mapping. -/
def lookup (entries : List (Node × Node)) (key : String) : Option Node :=
  (entries.find? fun e => match e.1 with
    | .string s => s == key
    | _ => false).map (·.2)

/-- Refuses an unknown key in strict mode. -/
def unknownField (l : Loader) (label field : String) : Result Unit :=
  if l.strict then .error (.configuration label field "unknown field") else .ok ()

/-- The name of a section entry, checked. -/
def entryName (sectionName : String) (k : Node) : Result String := do
  match keyText k with
  | none => throw (.configuration sectionName "name" "profile names must be strings")
  | some name =>
    checkName sectionName name
    return name

/-- The named entries of a section, written as a mapping or a list of single-entry
mappings. -/
def sectionEntries (sectionName : String) (value : Option Node) : Result (List (String × Node)) :=
  match value with
  | none | some .null => .ok []
  | some (.mapping entries) => entries.mapM fun (k, v) => do
      return (← entryName sectionName k, v)
  | some (.sequence items) => do
    let mut seen : List String := []
    let mut out := []
    for item in items do
      match item with
      | .mapping [(k, v)] =>
        let name ← entryName sectionName k
        if seen.contains name then
          throw (.configuration (sectionName ++ "." ++ name) "name" "duplicate name")
        seen := name :: seen
        out := out ++ [(name, v)]
      | _ =>
        throw (.configuration sectionName "-" "list entries must be single-key mappings")
    return out
  | some _ => .error (.configuration sectionName "-" "expected a mapping or a list of mappings")

/-- Reads one record of a section (`name` is `-` for a record that is not named). -/
def record (l : Loader) (reader : FieldReader α) (init : α) (fields : List String)
    (sectionName name : String) (value : Node) : Result α := do
  let label := if name == "-" then sectionName else sectionName ++ "." ++ name
  match value with
  | .null => return init
  | .mapping entries =>
    for (k, _) in entries do
      match keyText k with
      | none => throw (.configuration label "-" "field names must be strings")
      | some key => if !fields.contains key then l.unknownField label key
    match readRecord reader init entries with
    | .ok r => return r
    | .error (field, msg) => throw (.configuration label field msg)
  | _ => throw (.configuration label "-" "expected a mapping of fields")

/-- Refuses, in strict mode, the top-level keys a document does not define. -/
def checkTopLevel (l : Loader) (entries : List (Node × Node)) : Result Unit := do
  for (k, _) in entries do
    let key := (keyText k).getD "<non-string>"
    if !topLevelFields.contains key then l.unknownField "<document>" key

/-- The version a document gives, or the default one. -/
def readVersion (entries : List (Node × Node)) : Result Nat :=
  match lookup entries "version" with
  | some v =>
    match Read.untag v with
    | .number (.nat k) =>
      if k < Nat.pow 2 32 then .ok k
      else throw (.configuration "<document>" "version" "must be a positive integer")
    | _ => throw (.configuration "<document>" "version" "must be a positive integer")
  | none => .ok ({} : LabConfig).version

/-- Reads the records of a section, setting each in `init` under its name. -/
def readSection (l : Loader) (reader : FieldReader α) (base : α) (fields : List String)
    (sectionName : String) (entries : List (Node × Node)) (init : NameMap α) :
    Result (NameMap α) := do
  let mut records := init
  for (name, v) in ← sectionEntries sectionName (lookup entries sectionName) do
    let p ← l.record reader base fields sectionName name v
    records := records.insert name p
  return records

/-- The autolaunch set a document gives, or the default one. -/
def readAutolaunch (l : Loader) (entries : List (Node × Node)) : Result Autolaunch :=
  match lookup entries "autolaunch" with
  | some v => l.record Autolaunch.reader {} Autolaunch.fields "autolaunch" "-" v
  | none => .ok {}

/-- The top-level entries of a document's value: an empty document has none. -/
def topLevelEntries (root : Node) : Result (List (Node × Node)) :=
  match root with
  | .null => .ok []
  | .mapping es => .ok es
  | _ => throw (.configuration "<document>" "-" "top level must be a mapping")

/-- Reads a document's value into a validated configuration. -/
def loadNode (l : Loader) (root : Node) : Result LabConfig := do
  let entries ← topLevelEntries root
  l.checkTopLevel entries
  let version ← readVersion entries
  let base : LabConfig := {}
  let nameservers ← l.readSection NameserverProfile.reader {} NameserverProfile.fields
    "nameservers" entries base.nameservers
  let daemons ← l.readSection DaemonProfile.reader {} DaemonProfile.fields "daemons" entries
    base.daemons
  let services ← l.readSection ServiceBinding.reader {} ServiceBinding.fields "services" entries
    base.services
  let autolaunch ← l.readAutolaunch entries
  let config : LabConfig := { version, nameservers, daemons, services, autolaunch }
  config.validate l.catalog
  return config

/-- The value of a document's text. -/
def readDocument (text : String) : Result Node :=
  match Node.load text with
  | .ok n => .ok n
  | .error e => throw (.configuration "<document>" "-" e.render)

/-- Loads a document into a validated configuration. -/
def load (l : Loader) (text : String) : Result LabConfig := do
  let root ← readDocument text
  l.loadNode root

end Loader

end LabFleet.Config
