import LabFleet.Toml.Error
import LabFleet.Decimal.Nearest

/-!
Values of a TOML document. Every value keeps the span of text it came from, so that a typed
reading can point at the value it refuses. Numbers are kept as written (underscores dropped),
and read into a width by whoever takes them: an integer as a whole number, a float as the
nearest double. Dates and times are kept as their text.

A table remembers how it came to be, because that decides what may still be added to it: a
table named by a header, one made on the way to a header further down, one made by a dotted
key, or one written inline.
-/

namespace LabFleet.Toml

/-- How a table came to be. -/
inductive TableOrigin where
  /-- Named by a `[header]`; also the root and every table of an array of tables. -/
  | header
  /-- Made on the way to a header further down, and still open to a header of its own. -/
  | parent
  /-- Made by a dotted key. -/
  | dotted
  /-- Written inline, between braces. -/
  | inline
  deriving DecidableEq, Repr, Inhabited

/-- Whether a table was made without being named: by a dotted key or on the way to a
header. -/
def TableOrigin.implicit : TableOrigin → Bool
  | .parent | .dotted => true
  | _ => false

/-- A TOML value. -/
inductive Value where
  | string (s : String)
  /-- An integer as written: its digits, and a sign for a decimal one, in a radix. -/
  | integer (digits : String) (radix : Nat)
  /-- A float as written, underscores dropped. -/
  | float (text : String)
  | boolean (b : Bool)
  /-- An offset or local date-time, date or time, as written. -/
  | datetime (text : String)
  /-- An array; `ofTables` for one built by `[[header]]` tables. -/
  | array (items : List (Value × Span)) (ofTables : Bool)
  /-- A table, entries in the order they were made; each entry has the span of its value. -/
  | table (entries : List (String × Value × Span)) (origin : TableOrigin)
  deriving Repr, Inhabited

/-- The name of a value's type, as faults give it. -/
def Value.typeName : Value → String
  | .string _ => "string"
  | .integer .. => "integer"
  | .float _ => "float"
  | .boolean _ => "boolean"
  | .datetime _ => "datetime"
  | .array .. => "array"
  | .table _ .inline => "inline table"
  | .table .. => "table"

/-- The value of a digit in a radix up to sixteen. -/
def digitValue (radix : Nat) (c : Char) : Option Nat :=
  let v :=
    if c.isDigit then some (c.toNat - 48)
    else if 'a' ≤ c && c ≤ 'f' then some (c.toNat - 87)
    else if 'A' ≤ c && c ≤ 'F' then some (c.toNat - 55)
    else none
  v.filter (· < radix)

/-- The value of digits in a radix; `none` for no digits or a stray character. -/
def digitsValue (radix : Nat) (cs : List Char) : Option Nat :=
  if cs.isEmpty then none
  else cs.foldlM (fun n c => (digitValue radix c).map (n * radix + ·)) 0

/-- The whole number an integer spells: an optional sign, then digits of its radix. -/
def readInteger (digits : String) (radix : Nat) : Option Int :=
  match digits.toList with
  | '-' :: ds => (digitsValue radix ds).map fun n => -(n : Int)
  | '+' :: ds => (digitsValue radix ds).map fun n => (n : Int)
  | ds => (digitsValue radix ds).map fun n => (n : Int)

/-- The double a float spells, to nearest; `none` when it is too large for a double (a
written infinity is not). The text is an optional sign, then `inf`, `nan`, or digits with a
fraction, an exponent or both. -/
def readFloat (text : String) : Option Float :=
  let cs := text.toList
  let (negative, body) := match cs with
    | '-' :: rest => (true, rest)
    | '+' :: rest => (false, rest)
    | _ => (false, cs)
  let word := String.ofList body
  if word == "inf" then some (if negative then -(1.0 / 0.0) else 1.0 / 0.0)
  else if word == "nan" then some (if negative then -(0.0 / 0.0) else 0.0 / 0.0)
  else
    let whole := body.takeWhile Char.isDigit
    let rest := body.drop whole.length
    let (frac, rest) := match rest with
      | '.' :: more => (more.takeWhile Char.isDigit, more.drop (more.takeWhile Char.isDigit).length)
      | _ => ([], rest)
    let exp : Option Int := match rest with
      | [] => some 0
      | e :: more =>
        if e == 'e' || e == 'E' then
          match more with
          | '-' :: ds => (digitsValue 10 ds).map fun n => -(n : Int)
          | '+' :: ds => (digitsValue 10 ds).map fun n => (n : Int)
          | ds => (digitsValue 10 ds).map fun n => (n : Int)
        else none
    match digitsValue 10 (whole ++ frac), exp with
    | some n, some e =>
      let f := Decimal.nearest negative n (e - frac.length)
      if f.isInf then none else some f
    | _, _ => none

end LabFleet.Toml
