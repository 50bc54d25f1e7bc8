import LabFleet.Config.Kind

/-!
Failures of the control plane. Each failure has a cause (`Error`) and a category
(`ErrorKind`); only the category and the message cross a process boundary, and a receiver
rebuilds a `remote` failure from them, which keeps both. Every category has the exit code
an operator's tool reports for it, and the two lock conflicts share one.
-/

namespace LabFleet

/-- The closed set of failure categories that may cross a process boundary. -/
inductive ErrorKind where
  | configuration
  | alreadyRunning
  | unknownProfile
  | alreadyLocked
  | resourceBusy
  | timedOut
  | subprocessCrashLoop
  | unknownObject
  | invalidArgument
  | supervisorUnavailable
  | internal
  deriving DecidableEq, Repr, Inhabited

namespace ErrorKind

/-- All categories in their fixed order. -/
def all : List ErrorKind :=
  [.configuration, .alreadyRunning, .unknownProfile, .alreadyLocked, .resourceBusy, .timedOut,
    .subprocessCrashLoop, .unknownObject, .invalidArgument, .supervisorUnavailable, .internal]

/-- The name a category has on the wire. -/
def wireName : ErrorKind → String
  | .configuration => "configuration"
  | .alreadyRunning => "already_running"
  | .unknownProfile => "unknown_profile"
  | .alreadyLocked => "already_locked"
  | .resourceBusy => "resource_busy"
  | .timedOut => "timed_out"
  | .subprocessCrashLoop => "subprocess_crash_loop"
  | .unknownObject => "unknown_object"
  | .invalidArgument => "invalid_argument"
  | .supervisorUnavailable => "supervisor_unavailable"
  | .internal => "internal"

/-- The category named on the wire. -/
def ofWireName? (s : String) : Option ErrorKind := all.find? (·.wireName == s)

/-- A short description of the category, for operators. -/
def text : ErrorKind → String
  | .configuration => "configuration error"
  | .alreadyRunning => "already running"
  | .unknownProfile => "unknown profile"
  | .alreadyLocked => "already locked"
  | .resourceBusy => "resource busy"
  | .timedOut => "timed out"
  | .subprocessCrashLoop => "crash loop"
  | .unknownObject => "unknown object"
  | .invalidArgument => "invalid argument"
  | .supervisorUnavailable => "supervisor not running"
  | .internal => "internal error"

/-- The process exit code of the category; both lock conflicts give 7. -/
def exitCode : ErrorKind → Nat
  | .internal => 1
  | .configuration => 2
  | .alreadyRunning => 3
  | .unknownProfile => 4
  | .timedOut => 5
  | .subprocessCrashLoop => 6
  | .alreadyLocked => 7
  | .resourceBusy => 7
  | .supervisorUnavailable => 8
  | .unknownObject => 9
  | .invalidArgument => 10

end ErrorKind

/-- A failure, by cause. -/
inductive Error where
  /-- A configuration document or change that breaks a rule, naming the entry and field. -/
  | configuration (name field reason : String)
  | alreadyRunning (pid : Option Nat)
  | unknownProfile (kind : ProfileKind) (name : String)
  | unknownService (name : String)
  | alreadyLocked (service holder : String)
  | resourceBusy (service holder : String)
  | timedOut (operation : String) (secs : Nat)
  | crashLoop (kind : ProfileKind) (name : String) (crashes windowSecs : Nat)
  | unknownObject (name : String)
  | invalidArgument (message : String)
  | supervisorUnavailable (message : String)
  /-- A failure received from another process: its category and message. -/
  | remote (kind : ErrorKind) (message : String)
  | io (message : String)
  | internal (message : String)
  /-- A panic unwinding out of the code that ran, with its message: not a failure the code
  returns, and caught, if at all, only where a thread or a task ends. -/
  | panicked (message : String)
  deriving DecidableEq, Repr, Inhabited

namespace Error

/-- The category of a failure. -/
def kind : Error → ErrorKind
  | .configuration .. => .configuration
  | .alreadyRunning _ => .alreadyRunning
  | .unknownProfile .. => .unknownProfile
  | .unknownService _ => .unknownProfile
  | .alreadyLocked .. => .alreadyLocked
  | .resourceBusy .. => .resourceBusy
  | .timedOut .. => .timedOut
  | .crashLoop .. => .subprocessCrashLoop
  | .unknownObject _ => .unknownObject
  | .invalidArgument _ => .invalidArgument
  | .supervisorUnavailable _ => .supervisorUnavailable
  | .remote k _ => k
  | .io _ => .internal
  | .internal _ => .internal
  | .panicked _ => .internal

/-- The message shown for a failure. -/
def message : Error → String
  | .configuration name field reason =>
    s!"configuration error in '{name}' (field '{field}'): {reason}"
  | .alreadyRunning none => "supervisor already running"
  | .alreadyRunning (some pid) => s!"supervisor already running with PID {pid}"
  | .unknownProfile kind name => s!"unknown {kind.name} profile '{name}'"
  | .unknownService name => s!"unknown service binding '{name}'"
  | .alreadyLocked service holder => s!"service '{service}' is already locked by '{holder}'"
  | .resourceBusy service holder => s!"service '{service}' is locked by '{holder}'"
  | .timedOut operation secs =>
    s!"'{operation}' timed out after {secs}s; it may still complete on the remote side"
  | .crashLoop kind name crashes window =>
    s!"{kind.name} '{name}' crashed {crashes} times within {window}s and was left stopped"
  | .unknownObject name => s!"no object or operation '{name}'"
  | .invalidArgument m => s!"invalid argument: {m}"
  | .supervisorUnavailable m => "supervisor is not running (try " ++ "\x60lab up\x60): " ++ m
  | .remote _ m => m
  | .io m => s!"I/O error: {m}"
  | .internal m => m
  | .panicked m => m

/-- The failure a receiver rebuilds from a category and a message. -/
def relay (e : Error) : Error := .remote e.kind e.message

end Error

/-- A result of the control plane. -/
abbrev Result (α : Type) := Except Error α

end LabFleet
