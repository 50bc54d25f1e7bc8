import LabFleet.Json.Decode
import LabFleet.Toml.Document

/-!
The supervisor's tunables. Every setting has a default, and a settings source gives only the
ones it changes; names it does not know are passed over. Durations that must not be zero
(the health check period and the request bound) are raised to their least unit when used.

Settings are read from a JSON object or from a TOML document. Each setting has a type (an
unsigned integer of some width, or a boolean) and a value of another type or out of range is
refused with a message naming both; a TOML refusal is shown on the line of the value.
-/

namespace LabFleet.Supervisor

/-- Supervisor tunables. -/
structure Settings where
  /-- Period of the health check, in milliseconds. -/
  healthIntervalMs : Nat := 2000
  /-- Grace between the polite and the forced end of a stopped process, in seconds. -/
  stopGraceSecs : Nat := 10
  /-- Bound on one control request, in seconds. -/
  requestTimeoutSecs : Nat := 30
  /-- Rolling window of crash-loop detection, in seconds. -/
  crashWindowSecs : Nat := 60
  /-- Crashes tolerated inside the window before a profile is left stopped. -/
  crashCeiling : Nat := 5
  /-- Whether the lab configuration is loaded strictly. -/
  strictConfig : Bool := false
  /-- Lines kept per profile in the in-memory log tail. -/
  logLines : Nat := 10000
  /-- Registration attempts made by a starting daemon. -/
  registrationAttempts : Nat := 10
  /-- Pause between registration attempts, in milliseconds. -/
  registrationBackoffMs : Nat := 500
  deriving DecidableEq, Repr, Inhabited

/-- The type of a setting's value. -/
inductive SettingType where
  /-- An unsigned integer below `2 ^ bits`, named `label` in refusals. -/
  | unsigned (bits : Nat) (label : String)
  | boolean
  deriving DecidableEq, Repr, Inhabited

/-- A setting's value. -/
inductive SettingValue where
  | nat (n : Nat)
  | bool (b : Bool)
  deriving DecidableEq, Repr, Inhabited

namespace Settings

/-- The health check period in milliseconds, at least one. -/
def healthInterval (s : Settings) : Nat := max s.healthIntervalMs 1

/-- The request bound in seconds, at least one. -/
def requestTimeout (s : Settings) : Nat := max s.requestTimeoutSecs 1

/-- The grace between the polite and the forced end of a stopped process, in nanoseconds. -/
def stopGrace (s : Settings) : Nat := s.stopGraceSecs * 1000000000

/-- The type of each setting, by name. -/
def typeOf? : String → Option SettingType
  | "health_interval_ms" | "stop_grace_secs" | "request_timeout_secs" | "crash_window_secs"
  | "registration_backoff_ms" => some (.unsigned 64 "u64")
  | "crash_ceiling" | "registration_attempts" => some (.unsigned 32 "u32")
  | "log_lines" => some (.unsigned 64 "usize")
  | "strict_config" => some .boolean
  | _ => none

/-- Sets a setting by name. -/
def set (s : Settings) (name : String) (v : SettingValue) : Settings :=
  match name, v with
  | "health_interval_ms", .nat n => { s with healthIntervalMs := n }
  | "stop_grace_secs", .nat n => { s with stopGraceSecs := n }
  | "request_timeout_secs", .nat n => { s with requestTimeoutSecs := n }
  | "crash_window_secs", .nat n => { s with crashWindowSecs := n }
  | "crash_ceiling", .nat n => { s with crashCeiling := n }
  | "strict_config", .bool b => { s with strictConfig := b }
  | "log_lines", .nat n => { s with logLines := n }
  | "registration_attempts", .nat n => { s with registrationAttempts := n }
  | "registration_backoff_ms", .nat n => { s with registrationBackoffMs := n }
  | _, _ => s

/-- Every setting by name, in declaration order. -/
def entries (s : Settings) : List (String × SettingValue) :=
  [("health_interval_ms", .nat s.healthIntervalMs), ("stop_grace_secs", .nat s.stopGraceSecs),
   ("request_timeout_secs", .nat s.requestTimeoutSecs),
   ("crash_window_secs", .nat s.crashWindowSecs), ("crash_ceiling", .nat s.crashCeiling),
   ("strict_config", .bool s.strictConfig), ("log_lines", .nat s.logLines),
   ("registration_attempts", .nat s.registrationAttempts),
   ("registration_backoff_ms", .nat s.registrationBackoffMs)]

/-- A setting's value from JSON. -/
def jsonValue (t : SettingType) : Json.Decoder SettingValue :=
  match t with
  | .unsigned bits label => fun j => SettingValue.nat <$> Json.Decoder.unsigned bits label j
  | .boolean => fun j => SettingValue.bool <$> Json.Decoder.bool j

/-- How each setting is read from a JSON value. -/
def jsonSteps : Json.FieldSteps Settings := fun name =>
  (typeOf? name).map fun t s j => (s.set name ·) <$> jsonValue t j

/-- Settings from a JSON object. -/
def ofJson : Json.Decoder Settings :=
  Json.readRecord "struct SupervisorSettings" jsonSteps [] {}

/-- Whether an integer fits a signed word of `bits` bits. -/
def fitsSigned (bits : Nat) (i : Int) : Bool :=
  -((Nat.pow 2 (bits - 1) : Nat) : Int) ≤ i && i < ((Nat.pow 2 (bits - 1) : Nat) : Int)

/-- Whether an integer fits an unsigned word of `bits` bits. -/
def fitsUnsigned (bits : Nat) (i : Int) : Bool := 0 ≤ i && i < ((Nat.pow 2 bits : Nat) : Int)

/-- What a TOML integer is, as refusals name it. An integer is handed on as a 64-bit word
when it fits one, signed first; otherwise as a 128-bit word, which no setting takes and
which refusals name with its width. One that fits no word is `none`. -/
def integerFound (i : Int) : Option Decode.Found :=
  if fitsSigned 64 i then some (if i < 0 then .signed i else .unsigned i.toNat)
  else if fitsUnsigned 64 i then some (.unsigned i.toNat)
  else if fitsSigned 128 i then some (.other ("integer \x60" ++ toString i ++ "\x60 as i128"))
  else if fitsUnsigned 128 i then some (.other ("integer \x60" ++ toString i ++ "\x60 as u128"))
  else none

/-- The refusal of an integer too large for any word. -/
def integerOverflow : String := "integer number overflowed"

/-- The refusal of a float too large for a double. -/
def floatOverflow : String := "floating-point number overflowed"

/-- What a TOML value is, as refusals name it; dates and times read as maps. A number too
large for every word, or a float too large for a double, is refused before its type is
looked at. -/
def tomlFound : Toml.Value → Except String Decode.Found
  | .string s => .ok (.str s)
  | .integer digits radix =>
    match (Toml.readInteger digits radix).bind integerFound with
    | some found => .ok found
    | none => .error integerOverflow
  | .float text =>
    match Toml.readFloat text with
    | some f => .ok (.float f)
    | none => .error floatOverflow
  | .boolean b => .ok (.bool b)
  | .datetime _ => .ok .map
  | .array .. => .ok .seq
  | .table .. => .ok .map

/-- A setting's value from TOML, or the message refusing it. An integer within a 64-bit word
is checked against the setting's range; a wider one is refused as of the wrong type. -/
def tomlValue (t : SettingType) (v : Toml.Value) : Except String SettingValue := do
  let found ← tomlFound v
  match t, found with
  | .unsigned _ label, .signed i => .error (Decode.invalidValue .document (.signed i) label)
  | .unsigned bits label, .unsigned n =>
    if n < Nat.pow 2 bits then .ok (.nat n)
    else .error (Decode.invalidValue .document (.unsigned n) label)
  | .unsigned _ label, other => .error (Decode.invalidType .document other label)
  | .boolean, .bool b => .ok (.bool b)
  | .boolean, other => .error (Decode.invalidType .document other "a boolean")

mutual

/-- The first refusal met when a value is read only to be passed over: a number too large,
inside arrays in order and inside tables by key order. -/
def overflowIn : Toml.Value → Toml.Span → Option (String × Toml.Span)
  | .integer digits radix, span =>
    match (Toml.readInteger digits radix).bind integerFound with
    | some _ => none
    | none => some (integerOverflow, span)
  | .float text, span =>
    match Toml.readFloat text with
    | some _ => none
    | none => some (floatOverflow, span)
  | .array items _, _ => overflowInItems items
  | .table entries _, _ => (overflowInEntries entries).map (·.2)
  | _, _ => none

/-- The first refusal among the items of an array. -/
def overflowInItems : List (Toml.Value × Toml.Span) → Option (String × Toml.Span)
  | [] => none
  | (v, span) :: rest =>
    match overflowIn v span with
    | some found => some found
    | none => overflowInItems rest

/-- The refusal of the entry with the least key among those of a table that have one, with
that key. -/
def overflowInEntries : List Toml.Entry → Option (String × String × Toml.Span)
  | [] => none
  | (k, v, span) :: rest =>
    match (overflowIn v span).map (k, ·), overflowInEntries rest with
    | some here, some later => if later.1 < here.1 then some later else some here
    | some here, none => some here
    | none, later => later

end

/-- Settings from a TOML document, or the shown failure. The root's entries are read in key
order; one that names no setting is still read through, so that a number too large for
every word is refused there too. -/
def ofToml (text : String) : Except String Settings := do
  let root ← match Toml.parse text with
    | .ok root => pure root
    | .error e => throw (e.render text)
  let sorted := root.mergeSort fun a b => !decide (b.1 < a.1)
  let mut s : Settings := {}
  for (name, v, span) in sorted do
    match typeOf? name with
    | none =>
      match overflowIn v span with
      | some (m, near) => throw (Toml.ReadError.render ⟨m, none, some near⟩ text)
      | none => pure ()
    | some t =>
      match tomlValue t v with
      | .ok x => s := s.set name x
      | .error m => throw (Toml.ReadError.render ⟨m, none, some span⟩ text)
  return s

end Settings

end LabFleet.Supervisor
