import LabFleet.Config.Profile
import LabFleet.Yaml.Node
import LabFleet.Decode.Message

/-!
Reading configuration records out of YAML values. Each field has a reader that accepts the
values of its type and refuses everything else with a message naming what it found and what
it expected (`invalid type: string "many", expected u16`). A tag on a value is looked
through, except where the reading is of an enumeration, which may take its value from a tag.

A record is read field by field in the order the document writes them; fields it does not
know are passed over, and fields it leaves out keep their defaults. When a field is refused,
the record reports that field's name with the message.
-/

namespace LabFleet.Config

open Yaml

namespace Read

/-- Reading a value: the result, or the message refusing it. -/
abbrev Reading (α : Type) := Except String α

/-- A value with its tags removed. -/
def untag : Node → Node
  | .tagged _ v => untag v
  | n => n

/-- What a value is, as refusals name it. -/
def found : Node → Decode.Found
  | .null => .unit
  | .bool b => .bool b
  | .number (.nat k) => .unsigned k
  | .number (.neg k) => .signed k
  | .number (.float f) => .float f
  | .string s => .str s
  | .sequence _ => .seq
  | .mapping _ => .map
  | .tagged .. => .enum

/-- A refusal of a value of the wrong type. -/
def wrongType (n : Node) (expected : String) : Reading α :=
  .error (Decode.invalidType .document (found n) expected)

/-- A string. -/
def string (n : Node) : Reading String :=
  match untag n with
  | .string s => .ok s
  | other => wrongType other "a string"

/-- A file system path, written as a string. -/
def path (n : Node) : Reading String :=
  match untag n with
  | .string s => .ok s
  | other => wrongType other "path string"

/-- An unsigned integer of `bits` bits; `label` names the type in refusals. -/
def unsigned (bits : Nat) (label : String) (n : Node) : Reading Nat :=
  match untag n with
  | .number (.nat k) =>
    if k < Nat.pow 2 bits then .ok k else .error (Decode.invalidValue .document (.unsigned k) label)
  | .number (.neg k) => .error (Decode.invalidValue .document (.signed k) label)
  | other => wrongType other label

/-- A value that may be null, meaning absent. -/
def optional (read : Node → Reading α) (n : Node) : Reading (Option α) :=
  match n with
  | .null => .ok none
  | _ => some <$> read n

/-- A sequence; null reads as an empty one. -/
def sequence (read : Node → Reading α) (n : Node) : Reading (List α) :=
  match untag n with
  | .sequence items => items.mapM read
  | .null => .ok []
  | other => wrongType other "a sequence"

/-- A value of an enumeration, from its name or from a tag holding its name over null. -/
def choice [Spelled α] (n : Node) : Reading α :=
  let byName (s : String) : Reading α :=
    match Spelled.parse? s with
    | some v => .ok v
    | none => .error (Decode.unknownVariant s (Spelled.accepted α))
  match n with
  | .string s => byName s
  | .tagged t v => do
    let value ← byName (Node.bareTag t)
    match v with
    | .null => .ok value
    | other => wrongType other "unit"
  | other => wrongType other "a Value::Tagged enum"

/-- Whether a value holds a tag anywhere. -/
def hasTag : Node → Bool
  | .tagged .. => true
  | .sequence items => hasTagItems items
  | .mapping entries => hasTagEntries entries
  | _ => false
where
  hasTagItems : List Node → Bool
    | [] => false
    | x :: rest => hasTag x || hasTagItems rest
  hasTagEntries : List (Node × Node) → Bool
    | [] => false
    | (k, v) :: rest => hasTag k || hasTag v || hasTagEntries rest

mutual
/-- The parameter a value is, trying each shape in turn: a boolean, a 64-bit integer, a
double (which takes any integer), a string, a list, a map with string keys. -/
def param : Node → Option ParamValue
  | .bool b => some (.bool b)
  | .number (.nat k) => some (if k < Nat.pow 2 63 then .int k else .float (Number.nat k).toFloat)
  | .number (.neg k) => some (.int k)
  | .number (.float f) => some (.float f)
  | .string s => some (.str s)
  | .sequence items => (paramItems items).map .list
  | .mapping entries => (paramEntries entries []).map .map
  | _ => none

/-- The parameters of a list, if every item is one. -/
def paramItems : List Node → Option (List ParamValue)
  | [] => some []
  | x :: rest => do
    let p ← param x
    let ps ← paramItems rest
    return p :: ps

/-- The parameters of a map with string keys, if every value is one. -/
def paramEntries : List (Node × Node) → Parameters → Option Parameters
  | [], acc => some acc
  | (.string k, v) :: rest, acc => do
    let p ← param v
    paramEntries rest (acc.insert k p)
  | _ :: _, _ => none
end

/-- A parameter value. -/
def paramValue (n : Node) : Reading ParamValue :=
  if hasTag n then .error "untagged and internally tagged enums do not support enum input"
  else match param n with
    | some p => .ok p
    | none => .error "data did not match any variant of untagged enum ParamValue"

/-- Constructor parameters: a map from strings; null reads as an empty one. -/
def parameters (n : Node) : Reading Parameters :=
  match untag n with
  | .mapping entries =>
    let step (acc : Parameters) (e : Node × Node) : Reading Parameters := do
      let key ← string e.1
      let value ← paramValue e.2
      return acc.insert key value
    entries.foldlM step []
  | .null => .ok []
  | other => wrongType other "a map"

/-- A list of names. -/
def names (n : Node) : Reading (List String) := sequence string n

end Read

/-- How a record reads its fields: for a known field name, a step setting that field from a
value. -/
abbrev FieldReader (α : Type) := String → Option (α → Node → Read.Reading α)

/-- Nameserver profile fields. -/
def NameserverProfile.reader : FieldReader NameserverProfile
  | "host" => some fun p n => return { p with host := ← Read.string n }
  | "port" => some fun p n => return { p with port := ← Read.unsigned 16 "u16" n }
  | "broadcast_host" => some fun p n =>
    return { p with broadcastHost := ← Read.optional Read.string n }
  | "broadcast_port" => some fun p n => return { p with broadcastPort := ← Read.unsigned 16 "u16" n }
  | "autoclean_secs" => some fun p n => return { p with autocleanSecs := ← Read.unsigned 64 "u64" n }
  | "storage" => some fun p n => return { p with storage := ← Read.choice n }
  | "storage_path" => some fun p n => return { p with storagePath := ← Read.optional Read.path n }
  | _ => none

/-- Daemon profile fields. -/
def DaemonProfile.reader : FieldReader DaemonProfile
  | "variant" => some fun p n => return { p with variant := ← Read.choice n }
  | "host" => some fun p n => return { p with host := ← Read.string n }
  | "port" => some fun p n => return { p with port := ← Read.unsigned 16 "u16" n }
  | "concurrency" => some fun p n => return { p with concurrency := ← Read.choice n }
  | "max_workers" => some fun p n => return { p with maxWorkers := ← Read.unsigned 64 "usize" n }
  | "unix_socket" => some fun p n => return { p with unixSocket := ← Read.optional Read.path n }
  | "nat_host" => some fun p n => return { p with natHost := ← Read.optional Read.string n }
  | "nat_port" => some fun p n =>
    return { p with natPort := ← Read.optional (Read.unsigned 16 "u16") n }
  | "nameservers" => some fun p n => return { p with nameservers := ← Read.names n }
  | "comm_timeout_secs" => some fun p n =>
    return { p with commTimeoutSecs := ← Read.unsigned 64 "u64" n }
  | _ => none

/-- Service binding fields. -/
def ServiceBinding.reader : FieldReader ServiceBinding
  | "implementation" => some fun b n => return { b with implementation := ← Read.string n }
  | "parameters" => some fun b n => return { b with parameters := ← Read.parameters n }
  | "description" => some fun b n => return { b with description := ← Read.string n }
  | "instance_mode" => some fun b n => return { b with instanceMode := ← Read.choice n }
  | "daemon" => some fun b n => return { b with daemon := ← Read.string n }
  | "nameservers" => some fun b n => return { b with nameservers := ← Read.names n }
  | _ => none

/-- Autolaunch fields. -/
def Autolaunch.reader : FieldReader Autolaunch
  | "nameservers" => some fun a n => return { a with nameservers := ← Read.names n }
  | "daemons" => some fun a n => return { a with daemons := ← Read.names n }
  | _ => none

/-- The name of a field key, looking through tags. -/
def fieldName (k : Node) : Option String :=
  match Read.untag k with
  | .string s => some s
  | _ => none

/-- Reads a record from the entries of a mapping, starting from `init`. A field given twice
is refused. -/
def readFields (reader : FieldReader α) (init : α) (entries : List (Node × Node)) :
    Read.Reading α := do
  let mut record := init
  let mut seen : List String := []
  for (k, v) in entries do
    match fieldName k with
    | none => pure ()
    | some name =>
      match reader name with
      | none => pure ()
      | some set =>
        if seen.contains name then throw (Decode.duplicateField name)
        seen := name :: seen
        record ← set record v
  return record

/-- Reads a record; a refusal names the first entry refused on its own (`-` if none is). -/
def readRecord (reader : FieldReader α) (init : α) (entries : List (Node × Node)) :
    Except (String × String) α :=
  match readFields reader init entries with
  | .ok r => .ok r
  | .error msg =>
    let field := entries.find? (fun e => (readFields reader init [e]).toBool == false)
      |>.bind (fun e => fieldName e.1) |>.getD "-"
    .error (field, msg)

end LabFleet.Config
