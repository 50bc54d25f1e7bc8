import LabFleet.Utf8
import LabFleet.NameMap
import LabFleet.Timestamp
import LabFleet.Error

/-!
The log files of a supervisor: one per profile and one of its own, in one logs directory.
Every captured line is written with the time it was captured in front, in RFC 3339 with
microseconds and in UTC, so that files can be merged by time.

Exporting merges every log file into one: each line gets the stem of its file in front, and
the lines are ordered by their leading timestamp, oldest first. A line without one (a wrapped
message, a backtrace) takes the last timestamp seen in its file, or the earliest instant
before any, so it stays behind the line it continues; lines of one time keep the order of
their files by name and their order within a file. Blank lines are dropped, and bytes that
are not UTF-8 are read with replacement characters.
-/

namespace LabFleet.Supervisor

/-- What a name in the logs directory is. -/
inductive LogNode where
  | file (bytes : List UInt8)
  | directory
  deriving DecidableEq, Repr

/-- What stands where the logs directory belongs: nothing, a plain file, or the directory with
its entries by name. -/
inductive LogDir where
  | missing
  | plainFile
  | present (entries : NameMap LogNode)
  deriving Repr

/-- Where an export is written. -/
inductive Destination where
  /-- A file directly in the logs directory. -/
  | inside (name : String)
  /-- The path of the logs directory itself. -/
  | itself
  /-- A file outside it, whose directory is made when missing. -/
  | elsewhere
  deriving DecidableEq, Repr

namespace LogFiles

/-- A captured line as written to its log file. -/
def stamp (now : Timestamp) (line : String) : String := now.toText .micros ++ " " ++ line

/-- A file name split at its last dot into stem and extension. A name with no dot, or whose
only dot starts it, has no extension. -/
def splitName (name : String) : String × Option String :=
  match name.toList.reverse.span (· != '.') with
  | (after, _ :: before) =>
    if before.isEmpty then (name, none)
    else (String.ofList before.reverse, some (String.ofList after.reverse))
  | (_, []) => (name, none)

/-- Whether an entry is a log file: a file whose extension is `log`. -/
def isLogFile (entry : String × LogNode) : Bool :=
  match entry.2 with
  | .file _ => (splitName entry.1).2 == some "log"
  | .directory => false

/-- The lines of a text: split at line feeds, with a carriage return before a feed dropped and
no empty line after a final feed. `current` holds the line read so far, last character
first. -/
def linesFrom (current : List Char) : List Char → List (List Char)
  | [] => if current.isEmpty then [] else [current.reverse]
  | '\n' :: rest =>
    let line := match current with
      | '\r' :: earlier => earlier
      | _ => current
    line.reverse :: linesFrom [] rest
  | c :: rest => linesFrom (c :: current) rest

/-- The timestamp a line starts with: its first word, read as strict RFC 3339. -/
def leadingTimestamp (line : List Char) : Option Timestamp :=
  Timestamp.parseStrict (String.ofList ((line.dropWhile isUnicodeSpace).takeWhile (!isUnicodeSpace ·)))

/-- The lines of one file, each with the time it sorts by, prefixed with the file's stem. -/
def fileLines (source : String) (text : List Char) : List (Timestamp × String) :=
  let step (acc : Timestamp × List (Timestamp × String)) (line : List Char) :=
    if line.all isUnicodeSpace then acc
    else
      let last := (leadingTimestamp line).getD acc.1
      (last, (last, source ++ " | " ++ String.ofList line) :: acc.2)
  ((linesFrom [] text).foldl step (Timestamp.earliest, [])).2.reverse

/-- The lines of files merged by time, keeping the order of lines of one time. -/
def merge (files : List (String × List UInt8)) : List String :=
  let lines := files.flatMap fun (name, bytes) =>
    fileLines (splitName name).1 (Utf8.decodeLossy bytes)
  (lines.mergeSort fun a b => !b.1.before a.1).map (·.2)

end LogFiles

namespace LogDir

/-- The fault of reading a plain file as a directory. -/
def notADirectory : Error := .io "Not a directory (os error 20)"

/-- The fault of writing a file over a directory. -/
def isADirectory : Error := .io "Is a directory (os error 21)"

/-- The fault of making a directory where a file is. -/
def fileExists : Error := .io "File exists (os error 17)"

/-- The log files of the directory with their bytes, by name. A missing directory has none. -/
def logFiles : LogDir → Result (List (String × List UInt8))
  | .missing => .ok []
  | .plainFile => .error notADirectory
  | .present entries => .ok <| entries.filterMap fun entry =>
    match entry.2 with
    | .file bytes => if LogFiles.isLogFile entry then some (entry.1, bytes) else none
    | .directory => none

/-- The names of the log files, in order. -/
def list (d : LogDir) : Result (List String) := (·.map (·.1)) <$> d.logFiles

/-- The entries of the directory, which is made when missing. -/
def entriesToFill : LogDir → Result (NameMap LogNode)
  | .missing => .ok []
  | .plainFile => .error fileExists
  | .present entries => .ok entries

/-- Writes a file directly in the directory, making the directory when missing. -/
def write (d : LogDir) (name : String) (bytes : List UInt8) : Result LogDir := do
  let entries ← d.entriesToFill
  match entries.find? name with
  | some .directory => throw isADirectory
  | _ => return .present (entries.insert name (.file bytes))

/-- Makes a directory directly in the directory, unless there is one of that name. -/
def makeDirectory (d : LogDir) (name : String) : Result LogDir := do
  let entries ← d.entriesToFill
  match entries.find? name with
  | some (.file _) => throw fileExists
  | _ => return .present (entries.insert name .directory)

/-- Merges every log file except the destination into the destination: the number of lines
written, their text, and the directory afterwards. -/
def merged (d : LogDir) (dest : Destination) : Result (Nat × String × LogDir) := do
  let sources := (← d.logFiles).filter fun (name, _) => dest != .inside name
  let lines := LogFiles.merge sources
  let text := String.join (lines.map (· ++ "\n"))
  let d ← match dest, d with
    | .inside name, _ => d.write name text.toUTF8.toList
    | .itself, .present _ => throw isADirectory
    | .itself, _ => pure .plainFile
    | .elsewhere, _ => pure d
  return (lines.length, text, d)

/-- Removes every log file: how many there were, and the directory afterwards. -/
def clean (d : LogDir) : Result (Nat × LogDir) := do
  let removed ← d.list
  match d with
  | .present entries =>
    return (removed.length, .present (entries.filter (!LogFiles.isLogFile ·)))
  | _ => return (removed.length, d)

end LogDir

end LabFleet.Supervisor
