import LabFleet.Number

/-!
What an untagged plain scalar means. A plain scalar is null when empty or spelled `~` or
`null`; a boolean when spelled `true` or `false` (all lowercase, capitalised or all
uppercase); an integer in decimal, or after `0x`, `0o` or `0b`; a double in decimal or
exponent notation, or one of `.inf`, `-.inf`, `.nan`; and a string otherwise. A decimal
written with a leading zero and more digits (`007`) is a string. Integers beyond the 64-bit
ranges are recognised as wide integers so that they can be refused by name.
-/

namespace LabFleet.Yaml.Scalar

/-- Spellings of null. -/
def isNull (s : String) : Bool := s.isEmpty || s == "~" || s == "null" || s == "Null" || s == "NULL"

/-- Spellings of the booleans. -/
def boolOf? (s : String) : Option Bool :=
  if s == "true" || s == "True" || s == "TRUE" then some true
  else if s == "false" || s == "False" || s == "FALSE" then some false
  else none

/-- A leading zero followed only by digits, after an optional sign: text, not a number. -/
def digitsButNotNumber (s : String) : Bool :=
  let cs := match s.toList with
    | '-' :: rest | '+' :: rest => rest
    | cs => cs
  match cs with
  | '0' :: rest => !rest.isEmpty && rest.all Char.isDigit
  | _ => false

/-- The value of a digit in a radix up to 16. -/
def digitValue (radix : Nat) (c : Char) : Option Nat :=
  let v := if c.isDigit then some (c.toNat - 48)
    else if 'a' ≤ c && c ≤ 'z' then some (c.toNat - 87)
    else if 'A' ≤ c && c ≤ 'Z' then some (c.toNat - 55)
    else none
  v.bind fun d => if d < radix then some d else none

/-- The value of a nonempty string of digits in a radix. -/
def radixValue (radix : Nat) (cs : List Char) : Option Nat :=
  if cs.isEmpty then none
  else cs.foldlM (fun acc c => (digitValue radix c).map (acc * radix + ·)) 0

/-- An unsigned integer of the given width written without sign, as a standard radix
parse reads it. -/
def unsignedDigits (bits radix : Nat) (cs : List Char) : Option Nat :=
  (radixValue radix cs).bind fun v => if v < Nat.pow 2 bits then some v else none

/-- A signed integer of the given width, with an optional `+` or `-`, as a standard radix
parse reads it. -/
def signedDigits (bits radix : Nat) (cs : List Char) : Option Int :=
  match cs with
  | ['+'] | ['-'] => none
  | '-' :: rest => (radixValue radix rest).bind fun v =>
      if v ≤ Nat.pow 2 (bits - 1) then some (-(v : Int)) else none
  | '+' :: rest => (radixValue radix rest).bind fun v =>
      if v < Nat.pow 2 (bits - 1) then some (v : Int) else none
  | _ => (radixValue radix cs).bind fun v =>
      if v < Nat.pow 2 (bits - 1) then some (v : Int) else none

/-- Whether a list starts with a sign. -/
def startsSigned : List Char → Bool
  | '+' :: _ | '-' :: _ => true
  | _ => false

/-- The radix prefixes. -/
def prefixes : List (Char × Nat) := [('x', 16), ('o', 8), ('b', 2)]

/-- A nonnegative integer of the given width: an optional `+`, then digits in decimal or
after a radix prefix. -/
def unsignedOf? (bits : Nat) (s : String) : Option Nat :=
  let cs := s.toList
  let unpositive := match cs with
    | '+' :: rest => rest
    | _ => cs
  let radixed := prefixes.findSome? fun (p, radix) =>
    match unpositive with
    | '0' :: q :: rest =>
      if q == p && !startsSigned rest then unsignedDigits bits radix rest else none
    | _ => none
  match radixed with
  | some v => some v
  | none =>
    let signedRadix := prefixes.any fun (p, _) =>
      match unpositive with
      | '0' :: q :: rest => q == p && startsSigned rest
      | _ => false
    if signedRadix || startsSigned unpositive || digitsButNotNumber s then none
    else unsignedDigits bits 10 unpositive

/-- A negative (or otherwise signed) integer of the given width: `-` and a radix prefix, or
a decimal with an optional sign. -/
def signedOf? (bits : Nat) (s : String) : Option Int :=
  let cs := s.toList
  let radixed := prefixes.findSome? fun (p, radix) =>
    match cs with
    | '-' :: '0' :: q :: rest => if q == p then signedDigits bits radix ('-' :: rest) else none
    | _ => none
  match radixed with
  | some v => some v
  | none => if digitsButNotNumber s then none else signedDigits bits 10 cs

/-- An integer as a plain scalar may spell it: 64-bit first, then 128-bit. -/
inductive Integer where
  | unsigned (n : Nat)
  | signed (n : Int)
  | wideUnsigned (n : Nat)
  | wideSigned (n : Int)
  deriving DecidableEq, Repr

/-- The integer a scalar spells, if any. -/
def integerOf? (s : String) : Option Integer :=
  match unsignedOf? 64 s with
  | some n => some (.unsigned n)
  | none =>
    match signedOf? 64 s with
    | some n => some (.signed n)
    | none =>
      match unsignedOf? 128 s with
      | some n => some (.wideUnsigned n)
      | none => (signedOf? 128 s).map .wideSigned

/-- A decimal text as a standard double parse reads it: an optional sign, digits with an
optional point (at least one digit), an optional exponent; or `inf`, `infinity` or `nan` in
any case. The result is the nearest double. -/
def decimalOf? (s : String) : Option Float :=
  let cs := s.toList
  let (negative, body) := match cs with
    | '-' :: rest => (true, rest)
    | '+' :: rest => (false, rest)
    | _ => (false, cs)
  let word := String.ofList (body.map Char.toLower)
  if word == "inf" || word == "infinity" then
    some (if negative then -(1.0 / 0.0) else 1.0 / 0.0)
  else if word == "nan" then some (0.0 / 0.0)
  else
    let whole := body.takeWhile Char.isDigit
    let rest := body.dropWhile Char.isDigit
    let (frac, rest) := match rest with
      | '.' :: more => (more.takeWhile Char.isDigit, more.dropWhile Char.isDigit)
      | _ => ([], rest)
    if whole.isEmpty && frac.isEmpty then none
    else
      let exp? : Option Int := match rest with
        | [] => some 0
        | e :: more =>
          if e == 'e' || e == 'E' then
            let (eneg, ds) := match more with
              | '-' :: ds => (true, ds)
              | '+' :: ds => (false, ds)
              | ds => (false, ds)
            if ds.isEmpty || !ds.all Char.isDigit then none
            else
              let v : Int := (radixValue 10 ds).getD 0
              some (if eneg then -v else v)
          else none
      exp?.map fun e =>
        let n := (radixValue 10 (whole ++ frac)).getD 0
        Decimal.nearest negative n (e - frac.length)

/-- A double as a plain scalar may spell it; only finite values are taken from decimal
text, so `1e400` stays a string. -/
def floatOf? (s : String) : Option Float :=
  let cs := s.toList
  let unpositive? : Option String := match cs with
    | '+' :: rest => if startsSigned rest then none else some (String.ofList rest)
    | _ => some s
  unpositive?.bind fun u =>
    if u == ".inf" || u == ".Inf" || u == ".INF" then some (1.0 / 0.0)
    else if s == "-.inf" || s == "-.Inf" || s == "-.INF" then some (-(1.0 / 0.0))
    else if s == ".nan" || s == ".NaN" || s == ".NAN" then some (0.0 / 0.0)
    else match decimalOf? u with
      | some f => if f.isFinite then some f else none
      | none => none

end LabFleet.Yaml.Scalar
