/-!
Positions in a YAML text and the faults found while reading one. A position counts
bytes from 0, and lines and columns (in characters) from 0; it is shown as a line and a column
counted from 1, and the very first
position is not shown at all. A fault names its problem and, when it arose inside a larger
construct, that construct and where it began; the construct's position is shown only when it
differs from the problem's.
-/

namespace LabFleet.Yaml

/-- A position: byte index, line and column, all from 0. -/
structure Mark where
  index : Nat := 0
  line : Nat := 0
  column : Nat := 0
  deriving DecidableEq, Repr, Inhabited

/-- Whether a position is the start of the text. -/
def Mark.isStart (m : Mark) : Bool := m.line == 0 && m.column == 0

/-- A position as shown in messages. -/
def Mark.render (m : Mark) : String := s!"line {m.line + 1} column {m.column + 1}"

/-- A fault found while reading YAML text. -/
structure ReadError where
  problem : String
  problemMark : Mark
  /-- The construct being read, when the fault arose inside one. -/
  context : Option String := none
  contextMark : Mark := {}
  /-- Byte offset of a fault in the character stream itself. -/
  offset : Nat := 0
  deriving DecidableEq, Repr, Inhabited

/-- The message of a reading fault. -/
def ReadError.render (e : ReadError) : String :=
  let head :=
    if !e.problemMark.isStart then e.problem ++ " at " ++ e.problemMark.render
    else if e.offset ≠ 0 then e.problem ++ " at position " ++ toString e.offset
    else e.problem
  match e.context with
  | none => head
  | some c =>
    let sameMark := e.contextMark.line == e.problemMark.line &&
      e.contextMark.column == e.problemMark.column
    if !e.contextMark.isStart && !sameMark then head ++ ", " ++ c ++ " at " ++ e.contextMark.render
    else head ++ ", " ++ c

end LabFleet.Yaml
