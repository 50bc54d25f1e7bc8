import LabFleet.Error
import LabFleet.NameMap
import LabFleet.Supervisor.Host

/-!
The lockfile that keeps one supervisor per host. It records the holder's PID, when it
started, and the control socket it serves.

Taking the lock writes the whole body to a private staging file and then links that file
into place, so the lockfile is never seen empty; the staging file is removed either way.
When a lockfile is already there it is judged before it is cleared:

* one naming another live process is refused as already running, unless forced;
* one naming this process or a dead one is stale and is replaced;
* one that cannot be read is presumed to belong to a holder still writing it while it is
  younger than a grace period, and is then refused unless forced; an older one is replaced.

Releasing removes the lockfile only while it still names this process.
-/

namespace LabFleet.Supervisor

/-- What a lockfile records. -/
structure LockInfo where
  pid : Nat
  startedAt : Timestamp
  socket : String
  deriving DecidableEq, Repr, Inhabited

/-- A file beside the lockfile, as the file system holds it. -/
structure StoredFile where
  bytes : List UInt8
  /-- Whether it was modified within the grace period before now. -/
  fresh : Bool := true
  deriving DecidableEq, Repr

/-- The directory the lockfile lives in. -/
abbrev LockDir := NameMap StoredFile

namespace LockInfo

/-- The record as JSON, fields in declaration order. -/
def toJson (i : LockInfo) : Json :=
  .object [("pid", Json.nat i.pid), ("started_at", .string (i.startedAt.toText .auto)),
    ("socket", .string i.socket)]

/-- How each field is read. -/
def steps : Json.FieldSteps LockInfo
  | "pid" => some fun i j => return { i with pid := ← Json.Decoder.unsigned 32 "u32" j }
  | "started_at" => some fun i j => return { i with startedAt := ← PidRecord.readInstant j }
  | "socket" => some fun i j => return { i with socket := ← Json.Decoder.string j }
  | _ => none

/-- The record a lockfile's bytes hold, if they hold one. -/
def ofBytes? (bytes : List UInt8) : Option LockInfo :=
  match Json.ofBytesOrdered bytes with
  | .ok j => (Json.readRecord "struct LockInfo" steps ["pid", "started_at", "socket"] default j).toOption
  | .error _ => none

end LockInfo

namespace Lockfile

/-- The lockfile's name. -/
def fileName : String := "supervisor.lock"

/-- The name of the staging file of a process. -/
def stagingName (pid : Nat) : String := s!"{fileName}.{pid}.tmp"

/-- The record the lockfile holds, if it exists and can be read. -/
def read (dir : LockDir) : Option LockInfo :=
  (dir.find? fileName).bind fun f => LockInfo.ofBytes? f.bytes

/-- The record of a live holder. -/
def holder (dir : LockDir) (running : Nat → Bool) : Option LockInfo :=
  (read dir).filter fun i => running i.pid

/-- Judges a lockfile in the way of process `self`, and removes it unless it is refused. -/
def clearExisting (dir : LockDir) (self : Nat) (force : Bool) (running : Nat → Bool) :
    Result LockDir :=
  let cleared : Result LockDir := .ok (dir.erase fileName)
  match read dir with
  | some h =>
    if h.pid != self && running h.pid && !force then .error (.alreadyRunning (some h.pid))
    else cleared
  | none =>
    if !force && ((dir.find? fileName).map (·.fresh)).getD false then .error (.alreadyRunning none)
    else cleared

/-- Links the staged body into place, clearing what is in the way; `passes` bounds the
attempts. -/
def linkIntoPlace (dir : LockDir) (staged : StoredFile) (self : Nat) (force : Bool)
    (running : Nat → Bool) : Nat → Result LockDir
  | 0 => .error (.internal s!"lockfile {fileName} was recreated concurrently")
  | passes + 1 =>
    if dir.contains fileName then do
      let dir ← clearExisting dir self force running
      linkIntoPlace dir staged self force running passes
    else .ok (dir.insert fileName staged)

/-- Takes the lock for process `self` at `now`, serving `socket`: the record written,
and the directory afterwards, which on failure still holds what was in the way. -/
def acquire (dir : LockDir) (self : Nat) (now : Timestamp) (socket : String) (force : Bool)
    (running : Nat → Bool) : Result LockInfo × LockDir :=
  let info : LockInfo := { pid := self, startedAt := now, socket }
  let staged : StoredFile := { bytes := info.toJson.writePretty.toUTF8.toList }
  let withStaged := dir.insert (stagingName self) staged
  match linkIntoPlace withStaged staged self force running 2 with
  | .ok linked => (.ok info, linked.erase (stagingName self))
  | .error e => (.error e, withStaged.erase (stagingName self))

/-- Removes the lockfile if it still names process `self`. -/
def release (dir : LockDir) (self : Nat) : LockDir :=
  match read dir with
  | some held => if held.pid == self then dir.erase fileName else dir
  | none => dir

end Lockfile

end LabFleet.Supervisor
