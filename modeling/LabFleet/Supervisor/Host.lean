import LabFleet.Timestamp
import LabFleet.NameMap
import LabFleet.Json.Read
import LabFleet.Json.Decode
import LabFleet.Config.Kind

/-!
The machine the supervisor runs on, as far as the supervisor can observe it: which processes
exist, two clocks, the run directory where every spawned process leaves a PID file, and the
runtime configuration file.

A process exists from its spawn until its parent collects it after it ends; in between it
has ended but still exists to other processes, so probing its PID finds it. A signal ends a
running process, except that a process may ignore the polite one. PID 1 always
exists and belongs to someone else, so signals to it are refused. A PID of zero or one
beyond the signed 32-bit range names no process.

The monotonic clock advances by one microsecond each time it is read: every step of the
supervisor takes some time, far less than a second. Waiting on a timer advances it by the
time waited when timers run in real time, and not at all under a paused clock. Wall-clock
time is a fixed instant plus the monotonic reading.

The machine also keeps the supervisor's acts on its subprocesses in the order they happened:
each spawn and each start of a termination, with the profile it was for. Nothing reads this
journal; it is the order of events that dependency-ordered startup and shutdown are about.
-/

namespace LabFleet.Supervisor

/-- A signal the supervisor sends to a process. -/
inductive Signal where
  /-- The polite request to end. -/
  | terminate
  /-- The forced end. -/
  | kill
  deriving DecidableEq, Repr, Inhabited

namespace Signal

/-- The signal's number. -/
def number : Signal → Nat
  | .terminate => 15
  | .kill => 9

/-- The signal's name. -/
def name : Signal → String
  | .terminate => "SIGTERM"
  | .kill => "SIGKILL"

end Signal

/-- How a process ended. -/
inductive Exit where
  /-- Ended by a signal. -/
  | signaled (s : Signal)
  /-- Ended by itself with a status code. -/
  | exited (code : Nat)
  deriving DecidableEq, Repr, Inhabited

/-- An exit as its status reads: `signal: 9 (SIGKILL)` or `exit status: 1`. -/
def Exit.text : Exit → String
  | .signaled s => "signal: " ++ toString s.number ++ " (" ++ s.name ++ ")"
  | .exited code => "exit status: " ++ toString code

/-- Where a process is in its life. -/
inductive Life where
  | running
  /-- Ended, and not yet collected by its parent. -/
  | ended (how : Exit)
  deriving DecidableEq, Repr, Inhabited

/-- A process of the machine. -/
structure Process where
  pid : Nat
  life : Life
  /-- Whether the process goes on running when asked politely to end. -/
  ignoresTerm : Bool
  deriving DecidableEq, Repr, Inhabited

/-- The life of a process after it is sent a signal: a running process ends, unless the signal
is the polite one and the process ignores it. -/
def Process.afterSignal (p : Process) (s : Signal) : Life :=
  match p.life, s with
  | .running, .terminate => if p.ignoresTerm then .running else .ended (.signaled .terminate)
  | .running, s => .ended (.signaled s)
  | ended, _ => ended

/-- What a launched program does. -/
inductive Program where
  /-- The program cannot be started; the spawn fails for `reason`. -/
  | unavailable (reason : String)
  /-- The program starts, writes `output` one line at a time, and then waits until it is
  signalled; any signal ends it. -/
  | idle (output : List String)
  /-- Like `idle`, but the polite signal does not end it: only the forced one does. -/
  | stubborn (output : List String)
  deriving DecidableEq, Repr, Inhabited

/-- An act of the supervisor on the subprocess `pid` of the profile `kind name`. -/
inductive Action where
  /-- The process was spawned. -/
  | spawned (kind : ProfileKind) (name : String) (pid : Nat)
  /-- Ending the process began: the first signal was about to be sent. -/
  | terminated (kind : ProfileKind) (name : String) (pid : Nat)
  deriving DecidableEq, Repr, Inhabited

/-- The machine the supervisor runs on. -/
structure Host where
  /-- Processes that exist, running or ended and not yet collected. -/
  processes : List Process := []
  /-- The PID the next spawned process gets. -/
  nextPid : Nat := 4000
  /-- The monotonic clock, in nanoseconds. -/
  clock : Nat := 0
  /-- Wall-clock time when the monotonic clock read zero. -/
  epoch : Timestamp := ⟨1700000000, 0⟩
  /-- The files of the run directory by name, once the directory exists. -/
  runDir : Option (NameMap String) := none
  /-- Whether the runtime configuration file can be written. -/
  writable : Bool := true
  /-- The text of the runtime configuration file, once written. -/
  runtimeConfig : Option String := none
  /-- Whether the supervisor's timers run in real time. Under a paused clock a timer fires at
  once and the monotonic clock does not see the time it waited. -/
  realTime : Bool := false
  /-- The supervisor's acts on its subprocesses, oldest first. -/
  actions : List Action := []
  deriving Inhabited

namespace Host

/-- The largest PID a process can have. -/
def maxPid : Nat := Nat.pow 2 31 - 1

/-- Reads the monotonic clock, which then moves on by a microsecond. -/
def tick (h : Host) : Nat × Host := (h.clock, { h with clock := h.clock + 1000 })

/-- Waits `nanos` nanoseconds on a timer: the monotonic clock moves on by that much in real
time, and not at all under a paused clock. -/
def sleep (h : Host) (nanos : Nat) : Host :=
  if h.realTime then { h with clock := h.clock + nanos } else h

/-- The wall-clock time now. -/
def wallClock (h : Host) : Timestamp :=
  let total := h.epoch.nanos + h.clock
  ⟨h.epoch.seconds + (total / 1000000000 : Nat), total % 1000000000⟩

/-- The process with a PID, if it exists. -/
def find? (h : Host) (pid : Nat) : Option Process := h.processes.find? (·.pid == pid)

/-- Whether a process with this PID exists, ended but uncollected ones included. -/
def isRunning (h : Host) (pid : Nat) : Bool :=
  0 < pid && pid ≤ maxPid && (pid == 1 || (h.find? pid).isSome)

/-- Records an act of the supervisor in the journal. -/
def note (h : Host) (a : Action) : Host := { h with actions := h.actions ++ [a] }

/-- Starts a fresh process, which ignores the polite signal if `ignoresTerm`; returns its PID. -/
def spawn (h : Host) (ignoresTerm : Bool) : Nat × Host :=
  let p : Process := ⟨h.nextPid, .running, ignoresTerm⟩
  (h.nextPid, { h with processes := h.processes ++ [p], nextPid := h.nextPid + 1 })

/-- Lets `nanos` nanoseconds pass on the monotonic clock, whatever the timers do: a loop that
polls the clock until a deadline. -/
def pass (h : Host) (nanos : Nat) : Host := { h with clock := h.clock + nanos }

/-- Sends a signal; false if no process of ours has that PID. -/
def signal (h : Host) (pid : Nat) (s : Signal) : Bool × Host :=
  match h.find? pid with
  | none => (false, h)
  | some _ =>
    (true, { h with processes := h.processes.map fun q =>
      if q.pid == pid then { q with life := q.afterSignal s } else q })

/-- Collects a process that has ended: its exit, and the process is gone. A running process or
an unknown PID gives nothing. -/
def collect (h : Host) (pid : Nat) : Option Exit × Host :=
  match h.find? pid with
  | some ⟨_, .ended how, _⟩ => (some how, { h with processes := h.processes.filter (·.pid != pid) })
  | _ => (none, h)

/-- Ends a child of the supervisor: the polite signal, and if the child has not ended when the
grace period waited on a timer runs out, the forced one; either way the child is collected. -/
def stopChild (h : Host) (pid grace : Nat) : Host :=
  match ((h.signal pid .terminate).2).collect pid with
  | (some _, h) => h
  | (none, h) => (((h.sleep grace).signal pid .kill).2.collect pid).2

/-- Ends a survivor of an earlier supervisor, known only by its PID: the polite signal, and if
the PID is still there once the grace period has passed on the monotonic clock, the forced
one. -/
def stopSurvivor (h : Host) (pid grace : Nat) : Host :=
  let h := (h.signal pid .terminate).2
  if h.isRunning pid then ((h.pass grace).signal pid .kill).2 else h

/-- The file names of the run directory, sorted; none if it does not exist. -/
def fileNames (h : Host) : List String := (h.runDir.getD []).keys

/-- The text of a file of the run directory. -/
def contents? (h : Host) (name : String) : Option String := (h.runDir.getD []).find? name

/-- Writes a file of the run directory, creating the directory if needed. -/
def putFile (h : Host) (name text : String) : Host :=
  { h with runDir := some ((h.runDir.getD []).insert name text) }

/-- Removes a file of the run directory; nothing happens if it is absent. -/
def dropFile (h : Host) (name : String) : Host :=
  { h with runDir := h.runDir.map (·.erase name) }

end Host

/-- Whether a file name has the given extension: the part after its last dot, where a name
whose only dot starts it has none. -/
def hasExtension (file ext : String) : Bool :=
  -- the name read backwards: the extension, reversed, up to the last dot, then what precedes it
  match file.toList.reverse.span (· != '.') with
  | (lastRev, '.' :: beforeRev) =>
    String.ofList lastRev.reverse == ext && !beforeRev.isEmpty && file != ".."
  | _ => false

/-- What a PID file records about the process it sits beside. -/
structure PidRecord where
  kind : ProfileKind
  name : String
  pid : Nat
  incarnation : UInt32
  startedAt : Timestamp
  deriving DecidableEq, Repr, Inhabited

namespace PidRecord

/-- The file name of a profile's PID file. -/
def fileName (kind : ProfileKind) (name : String) : String := kind.name ++ "-" ++ name ++ ".pid"

/-- The record as JSON, fields in declaration order. -/
def toJson (r : PidRecord) : Json :=
  .object [("kind", .string r.kind.name), ("name", .string r.name), ("pid", Json.nat r.pid),
    ("incarnation", Json.nat r.incarnation.toNat), ("started_at", .string (r.startedAt.toText .auto))]

/-- A kind as JSON names it. -/
def readKind : Json.Decoder ProfileKind
  | .string "nameserver" => .ok .nameserver
  | .string "daemon" => .ok .daemon
  | .string s => .error (Decode.unknownVariant s ["nameserver", "daemon"])
  | j => Json.Decoder.wrongType j "enum ProfileKind"

/-- An instant as JSON writes it. -/
def readInstant : Json.Decoder Timestamp
  | .string s => match Timestamp.parse s with
    | some t => .ok t
    | none => .error "input contains invalid characters"
  | j => Json.Decoder.wrongType j "a formatted date and time string or a unix timestamp"

/-- How each field is read. -/
def steps : Json.FieldSteps PidRecord
  | "kind" => some fun r j => return { r with kind := ← readKind j }
  | "name" => some fun r j => return { r with name := ← Json.Decoder.string j }
  | "pid" => some fun r j => return { r with pid := ← Json.Decoder.unsigned 32 "u32" j }
  | "incarnation" => some fun r j =>
    return { r with incarnation := (← Json.Decoder.unsigned 32 "u32" j).toUInt32 }
  | "started_at" => some fun r j => return { r with startedAt := ← readInstant j }
  | _ => none

/-- The record a PID file's text holds, if it holds one. -/
def ofText? (text : String) : Option PidRecord :=
  match Json.ofBytesOrdered text.toUTF8.toList with
  | .ok j => (Json.readRecord "struct PidRecord" steps
      ["kind", "name", "pid", "incarnation", "started_at"] default j).toOption
  | .error _ => none

end PidRecord

end LabFleet.Supervisor
