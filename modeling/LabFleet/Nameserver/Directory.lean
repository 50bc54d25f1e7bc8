import LabFleet.Json.Read
import LabFleet.NameMap
import LabFleet.Timestamp
import LabFleet.Service.Args
import LabFleet.Wire.Address
import LabFleet.Wire.Call

/-!
The directory a nameserver serves: a table from names to the addresses services are
published at, with free-form metadata and the time of registration. Registering a name that
is present replaces its entry.

A directory keeps its table in memory or in a snapshot file that is written whole again after
every change. The table changes only once the store has taken the new contents, so a write
that fails leaves it as it was. Opening a snapshot that cannot be read as a table starts
empty.
-/

namespace LabFleet.Nameserver

open Wire Service

/-- The object name the directory is served under. -/
def directoryObject : String := "nameserver"

/-- One registration. -/
structure Entry where
  address : Address
  metadata : List String := []
  registeredAt : Timestamp
  deriving DecidableEq, Repr

/-- Where the table survives restarts. -/
inductive Store where
  | memory
  /-- A snapshot of the whole table in a file. -/
  | snapshot
  deriving DecidableEq, Repr

/-- The snapshot file as the file system holds it. -/
structure SnapshotFile where
  /-- The file's text, if it exists. -/
  text : Option String := none
  /-- Whether the store can write it. -/
  writable : Bool := true
  deriving DecidableEq, Repr

/-- A directory. -/
structure Directory where
  entries : NameMap Entry
  store : Store
  file : SnapshotFile
  deriving Repr

/-- The snapshot form of an entry. -/
def Entry.toJson (e : Entry) : Json :=
  .object [("address", .string e.address.text), ("metadata", Json.strings e.metadata),
    ("registered_at", .string (e.registeredAt.toText .auto))]

/-- The text of a table's snapshot. -/
def snapshotText (entries : NameMap Entry) : String :=
  (Json.object (entries.map fun (n, e) => (n, e.toJson))).writePretty

/-- An address from its written form in a value. -/
def addressValue : Json.Decoder Address
  | .string s =>
    match Address.parse s with
    | .ok a => .ok a
    | .error e => .error e.message
  | j => Json.Decoder.wrongType j "a string"

/-- An instant from its written form in a value. -/
def instantValue : Json.Decoder Timestamp
  | .string s =>
    match Timestamp.parse s with
    | some t => .ok t
    | none => .error "input contains invalid characters"
  | j => Json.Decoder.wrongType j "a formatted date and time string or a unix timestamp"

/-- An entry as far as read from a snapshot. -/
structure EntryDraft where
  address : Option Address := none
  metadata : List String := []
  registeredAt : Option Timestamp := none

/-- How an entry reads its fields. -/
def entrySteps : Json.FieldSteps EntryDraft
  | "address" => some fun d j => (fun a => { d with address := some a }) <$> addressValue j
  | "metadata" => some fun d j => (fun m => { d with metadata := m }) <$> strings j
  | "registered_at" => some fun d j => (fun t => { d with registeredAt := some t }) <$> instantValue j
  | _ => none

/-- An entry from its snapshot form. -/
def entryValue : Json.Decoder Entry := fun j => do
  let d ← Json.readRecord "struct Entry" entrySteps ["address", "registered_at"] {} j
  match d.address, d.registeredAt with
  | some address, some registeredAt => return { address, metadata := d.metadata, registeredAt }
  | _, _ => throw (Decode.missingField "address")

/-- The table a snapshot holds, or `none` when it cannot be read as one. -/
def readSnapshot (text : String) : Option (NameMap Entry) :=
  match Json.ofBytesOrdered text.toUTF8.toList with
  | .ok (.object fields) =>
    match fields.mapM fun (n, v) => (n, ·) <$> entryValue v with
    | .ok pairs => some (NameMap.ofList pairs)
    | .error _ => none
  | _ => none

namespace Directory

/-- Opens a directory on a store: the table of its snapshot, or an empty one. -/
def load (store : Store) (file : SnapshotFile) : Directory :=
  let entries := match store, file.text with
    | .snapshot, some text => (readSnapshot text).getD []
    | _, _ => []
  { entries, store, file }

/-- Hands a new table to the store, then takes it. -/
def persist (d : Directory) (next : NameMap Entry) : Result Directory :=
  match d.store with
  | .memory => .ok { d with entries := next }
  | .snapshot =>
    if d.file.writable then
      .ok { d with entries := next, file := { d.file with text := some (snapshotText next) } }
    else .error (.io "Is a directory (os error 21)")

/-- Registers a name, replacing any entry it had. -/
def register (d : Directory) (name : String) (address : Address) (metadata : List String)
    (now : Timestamp) : Result Directory :=
  d.persist (d.entries.insert name { address, metadata, registeredAt := now })

/-- The entry of a name. -/
def lookup (d : Directory) (name : String) : Result Entry :=
  match d.entries.find? name with
  | some e => .ok e
  | none => .error (.unknownObject name)

/-- Removes a name: `false` when it was absent. -/
def remove (d : Directory) (name : String) : Result (Bool × Directory) :=
  if d.entries.contains name then (true, ·) <$> d.persist (d.entries.erase name)
  else .ok (false, d)

/-- The entries whose names start with `prefix`, or all of them. -/
def list (d : Directory) (pre : Option String) : NameMap Entry :=
  match pre with
  | some p => d.entries.filter (·.1.startsWith p)
  | none => d.entries

/-- The first half of a cleaning pass, made without holding the table: the names whose
endpoint does not accept connections, each with the address it had. -/
def probe (d : Directory) (reachable : Endpoint → Bool) : List (String × Address) :=
  (d.entries.filter fun (_, e) => !reachable e.address.endpoint).map fun (n, e) => (n, e.address)

/-- One probed name in the second half of a cleaning pass: it is dropped, and noted, when it
still has the probed address. -/
def sweepStep (acc : List String × NameMap Entry) (probed : String × Address) :
    List String × NameMap Entry :=
  if (acc.2.find? probed.1).any (·.address == probed.2) then
    (acc.1 ++ [probed.1], acc.2.erase probed.1)
  else acc

/-- The second half, holding the table: drops each probed name that still has the probed
address, so a name registered again in the meantime stays; gives the names dropped. -/
def sweep (d : Directory) (dead : List (String × Address)) : Result (List String × Directory) :=
  if dead.isEmpty then .ok ([], d)
  else
    let (removed, next) := dead.foldl sweepStep ([], d.entries)
    if removed.isEmpty then .ok ([], d)
    else (removed, ·) <$> d.persist next

/-- Drops the entries whose endpoint does not accept connections; gives their names. -/
def autoclean (d : Directory) (reachable : Endpoint → Bool) : Result (List String × Directory) :=
  d.sweep (d.probe reachable)

/-- The listing form of an entry. -/
def entryJson (e : Entry) : Json :=
  .object [("address", .string e.address.text), ("metadata", Json.strings e.metadata),
    ("registered_at", .string (e.registeredAt.toText .auto))]

/-- Serves one call to the directory object. -/
def dispatch (d : Directory) (now : Timestamp) (call : Call) : Result Json × Directory :=
  if call.object ≠ directoryObject then (.error (.unknownObject call.object), d)
  else
    let args : Args := ⟨call.args⟩
    let answer (r : Result Json) : Result Json × Directory := (r, d)
    match call.method with
    | "ping" => answer (.ok (.string "pong"))
    | "register" =>
      let step : Result Directory := do
        let name ← args.required 0 "name" Json.Decoder.string
        let address ← args.required 1 "address" addressValue
        let metadata ← args.optional 2 "metadata" strings
        d.register name address (metadata.getD []) now
      match step with
      | .ok d' => (.ok .null, d')
      | .error e => answer (.error e)
    | "lookup" => answer do
      let name ← args.required 0 "name" Json.Decoder.string
      return .string (← d.lookup name).address.text
    | "remove" =>
      let step : Result (Bool × Directory) := do
        let name ← args.required 0 "name" Json.Decoder.string
        d.remove name
      match step with
      | .ok (b, d') => (.ok (.bool b), d')
      | .error e => answer (.error e)
    | "list" => answer do
      let pre ← args.optional 0 "prefix" Json.Decoder.string
      return .object ((d.list pre).map fun (n, e) => (n, entryJson e))
    | other => answer (.error (.unknownObject s!"{directoryObject}.{other}"))

end Directory

end LabFleet.Nameserver
