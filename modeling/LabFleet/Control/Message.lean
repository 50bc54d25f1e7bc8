import LabFleet.Error

/-!
Messages of the control plane between an operator's tool and the supervisor. A request asks
for one operation; a response carries whether it succeeded (and if not, the category of the
failure), a human-readable message, warnings that did not stop the operation, and a payload.
A failed response turns back into a `remote` failure with the same category and message.
-/

namespace LabFleet.Control

/-- Which records a status request asks for. -/
inductive StatusTarget where
  | all
  | one (kind : ProfileKind) (name : String)
  deriving DecidableEq, Repr

/-- A control request. -/
inductive Request where
  | ping
  | shutdown
  | start (kind : ProfileKind) (name : String)
  | stop (kind : ProfileKind) (name : String)
  | status (target : StatusTarget)
  | reload
  | rename (kind : ProfileKind) (old new : String)
  | renameService (old new : String)
  | logs (kind : ProfileKind) (name : String) (lines : Nat)
  deriving DecidableEq, Repr

/-- The short name of a request's operation, used in messages. -/
def Request.operation : Request → String
  | .ping => "ping"
  | .shutdown => "shutdown"
  | .start k n => s!"start {k.name} {n}"
  | .stop k n => s!"stop {k.name} {n}"
  | .status _ => "status"
  | .reload => "reload"
  | .rename k o n => s!"rename {k.name} {o} {n}"
  | .renameService o n => s!"rename service {o} {n}"
  | .logs k n _ => s!"logs {k.name} {n}"

/-- The observed state of a supervised process. -/
inductive ProcessState where
  | starting
  | running
  | crashed
  | stopped
  deriving DecidableEq, Repr, Inhabited

/-- The name of a state. -/
def ProcessState.name : ProcessState → String
  | .starting => "starting"
  | .running => "running"
  | .crashed => "crashed"
  | .stopped => "stopped"

/-- A process counts as running while it starts and once it runs. -/
def ProcessState.isRunning : ProcessState → Bool
  | .starting | .running => true
  | _ => false

/-- A profile named with its kind. -/
structure ProfileRef where
  kind : ProfileKind
  name : String
  deriving DecidableEq, Repr

/-- The written form of a profile reference: kind, a space, name. -/
def ProfileRef.text (r : ProfileRef) : String := r.kind.name ++ " " ++ r.name

/-- What a reload did to each profile. -/
structure ReloadReport where
  stopped : List ProfileRef := []
  restarted : List ProfileRef := []
  unchanged : List ProfileRef := []
  deriving DecidableEq, Repr

/-- A point-in-time view of one process record. -/
structure ProcessSnapshot where
  kind : ProfileKind
  name : String
  state : ProcessState
  pid : Option Nat := none
  /-- Wall-clock start, milliseconds since the epoch. -/
  startedAtMs : Option Int := none
  uptimeSecs : Option Nat := none
  restarts : Nat := 0
  /-- Spawn counter, prefixed to every captured log line. -/
  incarnation : Nat := 0
  lastError : Option String := none
  crashLooped : Bool := false
  adopted : Bool := false
  deriving DecidableEq, Repr

/-- The snapshot of a configured profile that has no process record. -/
def ProcessSnapshot.idle (kind : ProfileKind) (name : String) : ProcessSnapshot :=
  { kind, name, state := .stopped }

/-- Whether a request succeeded, and the category of its failure. -/
inductive Verdict where
  | success
  | failure (kind : ErrorKind)
  deriving DecidableEq, Repr

/-- The structured part of a response. -/
inductive Payload where
  | none
  | pong (uptimeSecs : Nat) (version : String) (pid : Nat)
  | records (records : List ProcessSnapshot)
  | logs (lines : List String)
  | reload (report : ReloadReport)
  deriving DecidableEq, Repr

/-- A control response. -/
structure Response where
  verdict : Verdict
  message : String
  warnings : List String := []
  payload : Payload := .none
  deriving DecidableEq, Repr

namespace Response

/-- A successful response with a message. -/
def success (message : String) : Response := { verdict := .success, message }

/-- The response for a failure: its category and its message. -/
def failure (e : Error) : Response := { verdict := .failure e.kind, message := e.message }

/-- Whether the response reports success. -/
def isSuccess (r : Response) : Bool := r.verdict == .success

/-- A failed response becomes the failure it carries. -/
def toResult (r : Response) : Result Response :=
  match r.verdict with
  | .success => .ok r
  | .failure k => .error (.remote k r.message)

end Response

end LabFleet.Control
