import LabFleet.Console.Processes
import LabFleet.Supervisor.LogFiles

/-!
The console's view of captured output: the in-memory tail kept per profile, and the log
files on disk, their export into one file ordered by time, and the stamp each line gets.
-/

namespace LabFleet.Console

/-- One step on a log buffer. -/
def logBufferStep (b : Supervisor.LogBuffer) (step : Json) : Supervisor.LogBuffer × Json :=
  let attempt (r : Except Json (Supervisor.LogBuffer × Json)) : Supervisor.LogBuffer × Json :=
    match r with
    | .ok result => result
    | .error j => (b, j)
  attempt do
    match str? step "do" with
    | some "push" =>
      let key ← profileKey step
      let line ← need step "line"
      return (b.push key line, .null)
    | some "tail" =>
      let key ← profileKey step
      let n ← needNat step "n"
      return (b, Json.strings (b.tail key n))
    | some "rename" =>
      let kind ← profileKind step "kind"
      let old ← need step "old"
      let new ← need step "new"
      return (b.rename kind old new, .null)
    | some "clear" =>
      let key ← profileKey step
      return (b.clear key, .null)
    | some other => throw (badInput s!"unknown log_buffer step '{other}'")
    | none => throw (missingField "do")

/-- Steps one after another on one buffer. -/
def runLogBufferSteps : Supervisor.LogBuffer → List Json → List Json
  | _, [] => []
  | b, step :: rest =>
    let (b, result) := logBufferStep b step
    result :: runLogBufferSteps b rest

/-- A log buffer of some capacity, driven by steps. -/
def logBuffer (input : Json) : Json := unwrap do
  let maxLines ← needNat input "max_lines"
  let steps := listOf input "steps"
  return obj [("steps", .array (runLogBufferSteps (Supervisor.LogBuffer.new maxLines) steps))]

/-- The bytes of a file as a request gives them: text, or an object whose `hex` text spells
them (no bytes when `hex` is missing or not text). -/
def fileBytes : Json → Except Json (List UInt8)
  | .string text => .ok text.toUTF8.toList
  | .object fields =>
    match fields.find? (·.1 == "hex") with
    | some (_, .string t) => decodeHex t
    | _ => .ok []
  | _ => .error (badInput "file content must be a string or \x7bhex\x7d")

/-- Whether a name stands for one entry of a directory: it is not empty, not \x60.\x60 or
\x60..\x60, and holds no \x60/\x60. -/
def isEntryName (name : String) : Bool :=
  name != "" && name != "." && name != ".." && !name.contains '/'

/-- A name checked to stand for one entry of a directory. -/
def entryName (name : String) : Except Json String :=
  if isEntryName name then .ok name else .error (badInput s!"bad file name '{name}'")

/-- Where an export goes, from a path under the directory that holds \x60logs/\x60: a
directory and a file in it, or a file alone, each part a single entry name. -/
def destinationOf (path : String) : Except Json Supervisor.Destination :=
  match path.toList.span (· != '/') with
  | (name, []) => do
    let name ← entryName (String.ofList name)
    return if name == "logs" then .itself else .elsewhere
  | (dir, _ :: file) => do
    let dir ← entryName (String.ofList dir)
    let file ← entryName (String.ofList file)
    return if dir == "logs" then .inside file else .elsewhere

/-- A library failure as the answer. -/
def orFail {α : Type} (r : Result α) : Except Json α := r.mapError errorJson

/-- The logs directory a request describes: files written in order of their names, then
subdirectories made in the order given; or none at all. -/
def logDirOf (input : Json) : Except Json Supervisor.LogDir := do
  if (bool? input "missing_dir").getD false then return .missing
  let files := match get? input "files" with
    | some (.object fields) => NameMap.ofList fields
    | _ => []
  let dirs := (listOf input "dirs").map fun | .string s => s | _ => ""
  let d ← files.foldlM (fun d (name, v) => do
      let name ← entryName name
      orFail (d.write name (← fileBytes v))) (Supervisor.LogDir.present [])
  dirs.foldlM (fun d name => do orFail (d.makeDirectory (← entryName name))) d

/-- A logs directory with given files and subdirectories, exported and perhaps cleaned. -/
def logExport (input : Json) : Json := unwrap do
  let d ← logDirOf input
  let dest ← destinationOf ((str? input "dest").getD "out/combined.txt")
  let listed ← orFail d.list
  let (count, text, d) ← orFail (d.merged dest)
  let base := [("listed", Json.strings listed), ("count", Json.nat count), ("output", .string text)]
  if (bool? input "clean").getD false then
    let (cleaned, d) := match d.clean with
      | .ok (n, d) => (okJson (Json.nat n), d)
      | .error e => (errorJson e, d)
    let after := match d.list with
      | .ok names => names.length
      | .error _ => 0
    return obj (base ++ [("cleaned", cleaned), ("after_clean", Json.nat after)])
  else return obj base

/-- A line stamped at `now` as its log file gets it, taken apart at its first space. -/
def logStamp (now : Timestamp) (input : Json) : Json :=
  let stamped := Supervisor.LogFiles.stamp now ((str? input "line").getD "")
  let (stampText, rest) := match stamped.splitOn " " with
    | first :: more => (first, " ".intercalate more)
    | [] => ("", "")
  obj [("rest", .string rest), ("timestamp_len", Json.nat stampText.length),
    ("utc_suffix", .bool (stampText.endsWith "Z"))]

end LabFleet.Console
