import LabFleet.NameMap

/-!
Instants of wall-clock time and their RFC 3339 text. An instant is a count of seconds since
1970-01-01T00:00:00Z and the nanoseconds past that second; a leap second is written as the
second 60 and held as 59 with a billion nanoseconds or more, so instants still compare in
time order field by field. Calendar dates follow the proleptic Gregorian calendar.

Text is written in UTC with a `Z`. Reading takes either the strict RFC 3339 form
(`2024-05-01T12:00:00.5+02:00`) or a relaxed one that also admits short fields, blanks
between fields, an offset without a colon and the word `UTC`.
-/

namespace LabFleet

/-- An instant of wall-clock time. -/
structure Timestamp where
  /-- Seconds since 1970-01-01T00:00:00Z. -/
  seconds : Int
  /-- Nanoseconds past `seconds`; a leap second has a billion or more. -/
  nanos : Nat := 0
  deriving DecidableEq, Repr, Inhabited

namespace Timestamp

/-- Time order: by seconds, then by nanoseconds. -/
def before (a b : Timestamp) : Bool :=
  a.seconds < b.seconds || (a.seconds == b.seconds && a.nanos < b.nanos)

/-- Nanoseconds since the epoch. -/
def totalNanos (t : Timestamp) : Int := t.seconds * 1000000000 + t.nanos

/-- Whole seconds from `a` to `b`; none when `b` is not after `a`. -/
def elapsedSeconds (a b : Timestamp) : Nat := ((b.totalNanos - a.totalNanos) / 1000000000).toNat

/-- The earliest instant a calendar date can hold, at midnight of 1 January 262143 BC. -/
def earliest : Timestamp := ⟨-8334601228800, 0⟩

/-- Days from 1970-01-01 to a date of the proleptic Gregorian calendar. -/
def daysFromCivil (year : Int) (month day : Nat) : Int :=
  let y := if month ≤ 2 then year - 1 else year
  let era := y / 400
  let yoe := y - era * 400
  let mp : Int := if month > 2 then month - 3 else month + 9
  let doy := (153 * mp + 2) / 5 + day - 1
  let doe := yoe * 365 + yoe / 4 - yoe / 100 + doy
  era * 146097 + doe - 719468

/-- The date `days` after 1970-01-01: year, month and day. -/
def civilFromDays (days : Int) : Int × Nat × Nat :=
  let z := days + 719468
  let era := z / 146097
  let doe := z - era * 146097
  let yoe := (doe - doe / 1460 + doe / 36524 - doe / 146096) / 365
  let doy := doe - (365 * yoe + yoe / 4 - yoe / 100)
  let mp := (5 * doy + 2) / 153
  let day := (doy - (153 * mp + 2) / 5 + 1).toNat
  let month := if mp < 10 then (mp + 3).toNat else (mp - 9).toNat
  let year := yoe + era * 400 + (if month ≤ 2 then 1 else 0)
  (year, month, day)

/-- Whether a year has 29 February. -/
def isLeapYear (y : Int) : Bool := y % 4 == 0 && (y % 100 != 0 || y % 400 == 0)

/-- The number of days of a month. -/
def monthLength (year : Int) (month : Nat) : Nat :=
  match month with
  | 2 => if isLeapYear year then 29 else 28
  | 4 | 6 | 9 | 11 => 30
  | _ => 31

/-- A number written with at least `width` digits, padded with zeros. -/
def padded (width n : Nat) : String :=
  let s := toString n
  String.ofList (List.replicate (width - s.length) '0') ++ s

/-- How many digits of the second's fraction are written. -/
inductive Fraction where
  /-- None, three, six or nine digits: the fewest that show the nanoseconds exactly. -/
  | auto
  /-- Always six digits. -/
  | micros
  deriving DecidableEq, Repr

/-- The fraction of a second as written, with its point. -/
def fractionText (nanos : Nat) : Fraction → String
  | .micros => "." ++ padded 6 (nanos / 1000)
  | .auto =>
    if nanos == 0 then ""
    else if nanos % 1000000 == 0 then "." ++ padded 3 (nanos / 1000000)
    else if nanos % 1000 == 0 then "." ++ padded 6 (nanos / 1000)
    else "." ++ padded 9 nanos

/-- The year as written: four digits, or a sign and at least four digits outside 0 to 9999. -/
def yearText (y : Int) : String :=
  if 0 ≤ y && y ≤ 9999 then padded 4 y.toNat
  else if y < 0 then "-" ++ padded 4 y.natAbs
  else "+" ++ padded 4 y.toNat

/-- The RFC 3339 text of an instant in UTC, ending in `Z`. -/
def toText (t : Timestamp) (fraction : Fraction) : String :=
  let leap := t.nanos ≥ 1000000000
  let nanos := if leap then t.nanos - 1000000000 else t.nanos
  let days := t.seconds / 86400
  let secs := (t.seconds - days * 86400).toNat
  let (y, m, d) := civilFromDays days
  let second := if leap then 60 else secs % 60
  yearText y ++ "-" ++ padded 2 m ++ "-" ++ padded 2 d ++ "T" ++ padded 2 (secs / 3600) ++ ":" ++
    padded 2 (secs / 60 % 60) ++ ":" ++ padded 2 second ++ fractionText nanos fraction ++ "Z"

/-! ## Reading -/

/-- A reading position: the characters still to read. -/
abbrev Scan := List Char

/-- Reads between `least` and `most` decimal digits. -/
def digits (least most : Nat) (s : Scan) : Option (Nat × Nat × Scan) :=
  let ds := (s.take most).takeWhile Char.isDigit
  if ds.length < least then none
  else some (ds.foldl (fun n c => n * 10 + (c.toNat - 48)) 0, ds.length, s.drop ds.length)

/-- Reads one given character. -/
def literal (c : Char) : Scan → Option Scan
  | d :: rest => if c == d then some rest else none
  | [] => none

/-- Drops leading blanks (Unicode white space). -/
def skipBlanks (s : Scan) : Scan := s.dropWhile isUnicodeSpace

/-- Reads the fraction of a second after its point: at least one digit, the first nine
counted, the rest passed over. -/
def fraction (s : Scan) : Option (Nat × Scan) := do
  let (v, n, rest) ← digits 1 9 s
  return (v * Nat.pow 10 (9 - n), rest.dropWhile Char.isDigit)

/-- Reads an offset from UTC in seconds: `Z`, or a sign, two digits of hours, a separator
read by `sep`, and two digits of minutes. -/
def offset (sep : Scan → Option Scan) (s : Scan) : Option (Int × Scan) :=
  match s with
  | 'Z' :: rest | 'z' :: rest => some (0, rest)
  | c :: rest =>
    let negative := c == '-' || c == '−'
    if !(negative || c == '+') then none
    else do
      let (h, _, rest) ← digits 2 2 rest
      let rest ← sep rest
      let (m, _, rest) ← digits 2 2 rest
      if m > 59 then none
      let secs : Int := h * 3600 + m * 60
      return (if negative then -secs else secs, rest)
  | [] => none

/-- The first second after the last calendar date, 1 January 262143. -/
def pastLatest : Int := daysFromCivil 262143 1 1 * 86400

/-- The instant of a calendar date and time of day at an offset, if the fields are in range
and the instant itself falls within the calendar, from 1 January 262143 BC to 31 December
262142. The second may be 60, a leap second; an offset is less than a day either way. -/
def ofFields (year : Int) (month day hour minute second nanos : Nat) (off : Int) :
    Option Timestamp :=
  if month < 1 || month > 12 || day < 1 || day > monthLength year month then none
  else if hour > 23 || minute > 59 || second > 60 then none
  else if year < -262143 || year > 262142 then none
  else if off.natAbs ≥ 86400 then none
  else
    let leap := second == 60
    let secs := daysFromCivil year month day * 86400 + hour * 3600 + minute * 60 +
      (if leap then 59 else second)
    let utc := secs - off
    if utc < earliest.seconds || utc ≥ pastLatest then none
    else some ⟨utc, if leap then nanos + 1000000000 else nanos⟩

/-- Reads a strict RFC 3339 instant from the front of a text; returns the rest. -/
def readStrict (s : Scan) : Option (Timestamp × Scan) := do
  let (year, _, s) ← digits 4 4 s
  let s ← literal '-' s
  let (month, _, s) ← digits 2 2 s
  let s ← literal '-' s
  let (day, _, s) ← digits 2 2 s
  let s ← match s with
    | 'T' :: r | 't' :: r | ' ' :: r => some r
    | _ => none
  let (hour, _, s) ← digits 2 2 s
  let s ← literal ':' s
  let (minute, _, s) ← digits 2 2 s
  let s ← literal ':' s
  let (second, _, s) ← digits 2 2 s
  let (nanos, s) ← match s with
    | '.' :: r => fraction r
    | _ => some (0, s)
  let (off, s) ← offset (literal ':') s
  if off.natAbs > 23 * 3600 + 59 * 60 then none
  let t ← ofFields year month day hour minute second nanos off
  return (t, s)

/-- Reads a signed or unsigned year in the relaxed form, after blanks: four digits at most
without a sign, any number of them after one, as long as the value fits a signed 64-bit
word. -/
def relaxedYear (s : Scan) : Option (Int × Scan) :=
  let signed (r : Scan) : Option (Nat × Scan) := do
    let (v, _, rest) ← digits 1 r.length r
    if v < Nat.pow 2 63 then some (v, rest) else none
  match skipBlanks s with
  | '-' :: r => (signed r).map fun (v, rest) => (-(v : Int), rest)
  | '+' :: r => (signed r).map fun (v, rest) => ((v : Int), rest)
  | s => (digits 1 4 s).map fun (v, _, rest) => ((v : Int), rest)

/-- Reads one or two digits of a field in the relaxed form, after blanks. -/
def relaxedField (s : Scan) : Option (Nat × Scan) :=
  (digits 1 2 (skipBlanks s)).map fun (v, _, rest) => (v, rest)

/-- Reads a relaxed RFC 3339 instant from the front of a text; returns the rest. Blanks may
stand before every field and separator within the date and the time, and before the offset. -/
def readRelaxed (s : Scan) : Option (Timestamp × Scan) := do
  let (year, s) ← relaxedYear s
  let s ← literal '-' (skipBlanks s)
  let (month, s) ← relaxedField s
  let s ← literal '-' (skipBlanks s)
  let (day, s) ← relaxedField s
  let s ← match s with
    | 'T' :: r | 't' :: r | ' ' :: r => some r
    | _ => none
  let (hour, s) ← relaxedField s
  let s ← literal ':' (skipBlanks s)
  let (minute, s) ← relaxedField s
  let s ← literal ':' (skipBlanks s)
  let (second, s) ← relaxedField s
  let (nanos, s) ← match s with
    | '.' :: r => fraction r
    | _ => some (0, s)
  let s := skipBlanks s
  let separator (r : Scan) : Option Scan := some (r.dropWhile fun c => c == ':' || isUnicodeSpace c)
  let (off, s) ← match s with
    | a :: b :: c :: r =>
      if a.toUpper == 'U' && b.toUpper == 'T' && c.toUpper == 'C' then some (0, r)
      else offset separator s
    | _ => offset separator s
  let t ← ofFields year month day hour minute second nanos off
  return (t, s)

/-- The instant a whole text names in strict RFC 3339. -/
def parseStrict (text : String) : Option Timestamp :=
  match readStrict text.toList with
  | some (t, []) => some t
  | _ => none

/-- The instant a text names in the relaxed form; blanks may follow it. -/
def parse (text : String) : Option Timestamp :=
  match readRelaxed text.toList with
  | some (t, rest) => if rest.all isUnicodeSpace then some t else none
  | none => none

end Timestamp

end LabFleet
