/-!
Checking the text of a TOML date or time. A value is a date (`YYYY-MM-DD`), a time
(`HH:MM`, optionally `:SS` and a fraction after the seconds), or a date and a time joined by
`T` or a space, optionally followed by an offset (`Z`, or a sign and `HH:MM`). The parts are
checked in reading order, and the first fault found is the one given: a missing or wrong
separator, a part of the wrong width, or a field out of range (the day against its month,
leap years included; a second may be 60).
-/

namespace LabFleet.Toml.Datetime

/-- The pieces a date or time is read in. -/
inductive Piece where
  | digits (ds : List UInt8)
  | dash
  | colon
  | dot
  | separator
  | space
  | zulu
  | plus
  | unknown
  deriving DecidableEq, Repr, Inhabited

/-- Whether a byte is an ASCII digit. -/
def isDigit (b : UInt8) : Bool := 48 ≤ b && b ≤ 57

/-- The pieces of a text; a byte that starts no piece takes the rest of the text with it. -/
def pieces (bytes : List UInt8) : List Piece :=
  match bytes with
  | [] => []
  | b :: rest =>
    if isDigit b then
      let run := rest.takeWhile isDigit
      .digits (b :: run) :: pieces (rest.drop run.length)
    else if b == 45 then .dash :: pieces rest
    else if b == 58 then .colon :: pieces rest
    else if b == 46 then .dot :: pieces rest
    else if b == 84 || b == 116 then .separator :: pieces rest
    else if b == 32 then .space :: pieces rest
    else if b == 90 || b == 122 then .zulu :: pieces rest
    else if b == 43 then .plus :: pieces rest
    else [.unknown]
termination_by bytes.length
decreasing_by all_goals simp only [List.length_drop, List.length_cons]; omega

/-- The fault of a part: what was being read and what was expected there. -/
def fault {α : Type} (what expected : String) : Except String α :=
  .error ("invalid " ++ what ++ ", expected " ++ expected)

/-- A run of digits at the front, or the fault. -/
def takeDigits (what expected : String) : List Piece → Except String (List UInt8 × List Piece)
  | .digits ds :: rest => .ok (ds, rest)
  | _ => fault what expected

/-- A given piece at the front, or the fault. -/
def takePiece (p : Piece) (what expected : String) : List Piece → Except String (List Piece)
  | q :: rest => if q == p then .ok rest else fault what expected
  | [] => fault what expected

/-- The value of decimal digits. -/
def valueOf (ds : List UInt8) : Nat := ds.foldl (fun n d => n * 10 + (d.toNat - 48)) 0

/-- Whether a year has a 29th of February. -/
def isLeap (y : Nat) : Bool := y % 4 == 0 && (y % 100 != 0 || y % 400 == 0)

/-- The days of a month. -/
def daysIn (y m : Nat) : Nat :=
  if m == 2 then (if isLeap y then 29 else 28)
  else if m == 4 || m == 6 || m == 9 || m == 11 then 30
  else 31

/-- Two decimal digits of a number below a hundred. -/
def twoDigits (n : Nat) : String := if n < 10 then "0" ++ toString n else toString n

/-- An offset after its sign. -/
def offset (ps : List Piece) : Except String (List Piece) := do
  let (h, ps) ← takeDigits "offset" "hour" ps
  let ps ← takePiece .colon "offset" "\x60:\x60 (HH:MM)" ps
  let (m, ps) ← takeDigits "offset" "minute" ps
  if h.length != 2 then fault "offset" "a two-digit hour (HH)"
  else if m.length != 2 then fault "offset" "a two-digit minute (MM)"
  else if valueOf h > 23 then fault "offset" "hours between 00 and 23"
  else if valueOf m > 59 then fault "offset" "minutes between 00 and 59"
  else .ok ps

/-- A time, and after a date also its offset; the pieces left over. -/
def time (afterDate : Bool) (ps : List Piece) : Except String (List Piece) := do
  let (h, ps) ← takeDigits "time" "hour" ps
  let ps ← takePiece .colon "time" "\x60:\x60 (HH:MM)" ps
  let (m, ps) ← takeDigits "time" "minute" ps
  let (s, ps) ← match ps with
    | .colon :: more => do
      let (s, more) ← takeDigits "time" "second" more
      pure (some s, more)
    | _ => pure (none, ps)
  let ps ← match s, ps with
    | some _, .dot :: more => do
      let (_, more) ← takeDigits "time" "nanosecond" more
      pure more
    | _, _ => pure ps
  if h.length != 2 then fault "time" "a two-digit hour (HH)"
  else if m.length != 2 then fault "time" "a two-digit minute (MM)"
  else if (s.map (·.length != 2)).getD false then fault "time" "a two-digit second (SS)"
  else if valueOf h > 23 then fault "time" "hour between 00 and 23"
  else if valueOf m > 59 then fault "time" "minute between 00 and 59"
  else if ((s.map valueOf).getD 0) > 60 then fault "time" "second between 00 and 60"
  else if !afterDate then .ok ps
  else
    match ps with
    | .zulu :: more => .ok more
    | .plus :: more | .dash :: more => offset more
    | [] => .ok []
    | _ => fault "offset" "\x60Z\x60, +OFFSET, -OFFSET"

/-- A date after its year, and what follows it. -/
def date (year : List UInt8) (ps : List Piece) : Except String (List Piece) := do
  let (m, ps) ← takeDigits "date" "month" ps
  let ps ← takePiece .dash "date" "\x60-\x60 (MM-DD)" ps
  let (d, ps) ← takeDigits "date" "day" ps
  if year.length != 4 then fault "date" "a four-digit year (YYYY)"
  else if m.length != 2 then fault "date" "a two-digit month (MM)"
  else if d.length != 2 then fault "date" "a two-digit day (DD)"
  else
    let (y, mo, dd) := (valueOf year, valueOf m, valueOf d)
    if mo < 1 || mo > 12 then fault "date" "month between 01 and 12"
    else if dd < 1 || dd > daysIn y mo then
      fault "date" ("day between 01 and " ++ twoDigits (daysIn y mo))
    else
      match ps with
      | .separator :: more | .space :: more => time true more
      | [] => .ok []
      | _ => fault "date-time" "\x60T\x60 between date and time"

/-- Checks the text of a date or time, which starts with digits and then `-` or `:`; the
fault says what is wrong with it. -/
def check (text : List UInt8) : Except String Unit := do
  let ps := pieces text
  let rest ← match ps with
    | .digits year :: .dash :: more => date year more
    | .digits _ :: .colon :: _ => time false ps
    | _ => .error "failed to parse datetime"
  if rest.isEmpty then .ok () else .error "failed to parse datetime"

end LabFleet.Toml.Datetime
