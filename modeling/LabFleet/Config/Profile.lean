import LabFleet.NameMap
import LabFleet.Config.Kind

/-!
The records of a lab configuration: nameserver profiles, daemon profiles, service bindings
and the autolaunch set, each with the value every field takes when a document leaves it out.
Fields with a few possible values are enumerations that document text names; some values
have a second accepted name (`dbm` for keyed storage, `single` for one instance).
-/

namespace LabFleet.Config

/-- The name that always resolves to a built-in profile unless a document overrides it. -/
def defaultProfile : String := "default"

/-- The name reserved for "every profile" in requests; never a profile name. -/
def reservedAll : String := "all"

/-- An enumeration that document text names. -/
class Spelled (α : Type) where
  /-- Every value, in declaration order. -/
  all : List α
  /-- The name a value is written with. -/
  name : α → String
  /-- Further names accepted when reading. -/
  aliases : α → List String

namespace Spelled

/-- All names a value is read from, sorted. -/
def namesOf [Spelled α] (v : α) : List String :=
  (name v :: aliases v).mergeSort (fun a b => decide (a ≤ b))

/-- Every accepted name, value by value, as refusals list them. -/
def accepted (α : Type) [Spelled α] : List String := (all (α := α)).flatMap namesOf

/-- The value a name stands for. -/
def parse? [Spelled α] (s : String) : Option α :=
  (all (α := α)).find? fun v => name v == s || (aliases v).contains s

end Spelled

/-- Where a nameserver keeps its registrations. -/
inductive Storage where
  | memory
  | keyed
  | relational
  deriving DecidableEq, Repr, Inhabited

instance : Spelled Storage where
  all := [.memory, .keyed, .relational]
  name
    | .memory => "memory"
    | .keyed => "keyed"
    | .relational => "relational"
  aliases
    | .memory => []
    | .keyed => ["dbm"]
    | .relational => ["sql"]

/-- Whether a daemon's services can be locked by one client. -/
inductive DaemonVariant where
  | plain
  | lockable
  deriving DecidableEq, Repr, Inhabited

instance : Spelled DaemonVariant where
  all := [.plain, .lockable]
  name
    | .plain => "plain"
    | .lockable => "lockable"
  aliases _ := []

/-- How a daemon serves its connections. -/
inductive Concurrency where
  | threaded
  | multiplexed
  deriving DecidableEq, Repr, Inhabited

instance : Spelled Concurrency where
  all := [.threaded, .multiplexed]
  name
    | .threaded => "threaded"
    | .multiplexed => "multiplexed"
  aliases
    | .threaded => ["thread"]
    | .multiplexed => ["multiplex"]

/-- How many instances of a service a daemon makes: one, one per client session, or one
per call. -/
inductive InstanceMode where
  | singleton
  | perSession
  | perCall
  deriving DecidableEq, Repr, Inhabited

instance : Spelled InstanceMode where
  all := [.singleton, .perSession, .perCall]
  name
    | .singleton => "singleton"
    | .perSession => "per-session"
    | .perCall => "per-call"
  aliases
    | .singleton => ["single"]
    | .perSession => ["session"]
    | .perCall => ["percall"]

/-- A constructor parameter of a service: only shapes the wire can carry. -/
inductive ParamValue where
  | bool (b : Bool)
  /-- A 64-bit signed integer. -/
  | int (i : Int)
  | float (f : Float)
  | str (s : String)
  | list (items : List ParamValue)
  /-- A map with sorted, distinct keys. -/
  | map (entries : List (String × ParamValue))
  deriving Inhabited

mutual
/-- Equality of parameters; doubles compare as doubles, so a NaN equals nothing. -/
def ParamValue.beq : ParamValue → ParamValue → Bool
  | .bool a, .bool b => a == b
  | .int a, .int b => a == b
  | .float a, .float b => a == b
  | .str a, .str b => a == b
  | .list a, .list b => ParamValue.beqItems a b
  | .map a, .map b => ParamValue.beqEntries a b
  | _, _ => false

/-- Equality of parameter lists. -/
def ParamValue.beqItems : List ParamValue → List ParamValue → Bool
  | [], [] => true
  | x :: xs, y :: ys => ParamValue.beq x y && ParamValue.beqItems xs ys
  | _, _ => false

/-- Equality of parameter maps, entry by entry. -/
def ParamValue.beqEntries : List (String × ParamValue) → List (String × ParamValue) → Bool
  | [], [] => true
  | (k, x) :: xs, (l, y) :: ys => k == l && ParamValue.beq x y && ParamValue.beqEntries xs ys
  | _, _ => false
end

instance : BEq ParamValue := ⟨ParamValue.beq⟩

/-- Constructor parameters by name. -/
abbrev Parameters := NameMap ParamValue

/-- A nameserver profile. -/
structure NameserverProfile where
  host : String := "localhost"
  port : Nat := 9090
  /-- Host the broadcast responder binds; none disables it. -/
  broadcastHost : Option String := none
  broadcastPort : Nat := 9091
  /-- Seconds between sweeps of dead registrations; 0 disables them. -/
  autocleanSecs : Nat := 0
  storage : Storage := .memory
  storagePath : Option String := none
  deriving DecidableEq, Repr, Inhabited

/-- A daemon profile. -/
structure DaemonProfile where
  variant : DaemonVariant := .plain
  host : String := "localhost"
  /-- 0 picks a free port. -/
  port : Nat := 0
  concurrency : Concurrency := .threaded
  /-- Worker pool ceiling under threaded concurrency. -/
  maxWorkers : Nat := 16
  unixSocket : Option String := none
  natHost : Option String := none
  natPort : Option Nat := none
  /-- Nameserver profiles the daemon registers itself with. -/
  nameservers : List String := []
  /-- Connections silent this long are closed; 0 waits forever. -/
  commTimeoutSecs : Nat := 0
  deriving DecidableEq, Repr, Inhabited

/-- A service binding: which implementation a daemon hosts under a name. -/
structure ServiceBinding where
  /-- Catalog reference, `<module>.<Class>`. -/
  implementation : String := ""
  parameters : Parameters := []
  description : String := ""
  instanceMode : InstanceMode := .singleton
  daemon : String := defaultProfile
  nameservers : List String := []
  deriving Inhabited

instance : BEq ServiceBinding where
  beq a b := a.implementation == b.implementation && a.parameters == b.parameters &&
    a.description == b.description && a.instanceMode == b.instanceMode &&
    a.daemon == b.daemon && a.nameservers == b.nameservers

/-- The profiles started with the supervisor. -/
structure Autolaunch where
  nameservers : List String := []
  daemons : List String := []
  deriving DecidableEq, Repr, Inhabited

/-- Whether nothing is started with the supervisor. -/
def Autolaunch.isEmpty (a : Autolaunch) : Bool := a.nameservers.isEmpty && a.daemons.isEmpty

/-- The autolaunch names of one kind. -/
def Autolaunch.names (a : Autolaunch) : ProfileKind → List String
  | .nameserver => a.nameservers
  | .daemon => a.daemons

/-- Replaces the autolaunch names of one kind. -/
def Autolaunch.setNames (a : Autolaunch) (kind : ProfileKind) (names : List String) :
    Autolaunch :=
  match kind with
  | .nameserver => { a with nameservers := names }
  | .daemon => { a with daemons := names }

/-- Field names of each record, in the order they are written. -/
def NameserverProfile.fields : List String :=
  ["host", "port", "broadcast_host", "broadcast_port", "autoclean_secs", "storage",
   "storage_path"]

def DaemonProfile.fields : List String :=
  ["variant", "host", "port", "concurrency", "max_workers", "unix_socket", "nat_host",
   "nat_port", "nameservers", "comm_timeout_secs"]

def ServiceBinding.fields : List String :=
  ["implementation", "parameters", "description", "instance_mode", "daemon", "nameservers"]

def Autolaunch.fields : List String := ["nameservers", "daemons"]

end LabFleet.Config
