import LabFleet.Console.Basic
import LabFleet.Supervisor.Lockfile

/-!
The console's view of the lockfile: a lockfile found in a given state, taken by a
supervisor process and let go again.
-/

namespace LabFleet.Console

/-- The lockfile found before a take: a record of a PID or of process `self`, or raw text;
`old` puts it outside the grace period. -/
def existingLock (self : Nat) (now : Timestamp) (j : Json) : Except Json Supervisor.StoredFile := do
  let fresh := !((bool? j "old").getD false)
  let record (pid : Nat) : Supervisor.StoredFile :=
    { bytes := (Supervisor.LockInfo.toJson
        { pid, startedAt := now, socket := "/tmp/other.sock" }).write.toUTF8.toList, fresh }
  match nat? j "pid", bool? j "self", str? j "raw" with
  | some pid, _, _ => return record pid
  | none, some true, _ => return record self
  | none, _, some raw => return { bytes := raw.toUTF8.toList, fresh }
  | _, _, _ => throw (badInput "existing needs 'pid', 'self' or 'raw'")

/-- Takes the lockfile as process `self` at `now`, serving `socket`, over what a request
says is there; then lets it go. PID 1 and `self` are the live processes. -/
def lockfile (self : Nat) (now : Timestamp) (socket : String) (input : Json) : Json := unwrap do
  let running (pid : Nat) : Bool := pid == 1 || pid == self
  let dir : Supervisor.LockDir ← match get? input "existing" with
    | some j => do
      let f ← existingLock self now j
      pure (NameMap.insert Supervisor.Lockfile.fileName f [])
    | none => pure []
  let previous := match Supervisor.Lockfile.read dir with
    | some i => Json.bool (i.pid == self)
    | none => .null
  let force := (bool? input "force").getD false
  let (r, dir) := Supervisor.Lockfile.acquire dir self now socket force running
  let result := match r with
    | .ok info =>
      let held := Supervisor.Lockfile.holder dir running
      let released := Supervisor.Lockfile.release dir self
      obj [("ok", obj [("holder_is_self", .bool ((held.map (·.pid == self)).getD false)),
          ("socket", .string info.socket),
          ("info_matches", .bool (Supervisor.Lockfile.read dir == some info))]),
        ("removed_on_drop", .bool !(released.contains Supervisor.Lockfile.fileName))]
    | .error e => match errorJson e with
      | .object fields => .object (fields ++ [("file_kept", .bool (dir.contains Supervisor.Lockfile.fileName))])
      | j => j
  let staged := (dir.filter fun (name, _) => name.endsWith ".tmp").length
  return obj [("previous_was_self", previous), ("result", result), ("staged_left", Json.nat staged)]

end LabFleet.Console
