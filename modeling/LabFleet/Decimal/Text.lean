import LabFleet.Decimal.Shortest

/-!
Written forms of a double. The digits are always the shortest that read back
(`Parts.shortest`); a `Style` fixes the rest: which way an exact tie between two such
digit strings goes, where positional notation gives way to an exponent, whether a whole
number keeps `.0`, the sign of a positive exponent, and the spellings of NaN and infinity. Three styles are used: configuration documents, JSON texts,
and the plain form quoted in decoding messages.
-/

namespace LabFleet.Decimal

/-- The choices a written double makes beyond its digits. -/
structure Style where
  /-- The digit string taken when two are equally near the value. -/
  tie : Tie
  /-- Positional notation at every magnitude. Otherwise it is used while the decimal point
  lies at most 16 digits after the first digit and at most four zeros follow the point. -/
  alwaysPositional : Bool
  /-- A whole number is written with a trailing `.0`. -/
  keepPointZero : Bool
  /-- A nonnegative exponent is written with `+`. -/
  plusExponent : Bool
  nan : String
  infinity : String
  negativeInfinity : String

/-- Numbers in configuration documents: `10000000000.0`, `1e-7`, `1e16`, `.inf`, `.nan`. -/
def Style.document : Style :=
  { tie := .toEven, alwaysPositional := false, keepPointZero := true, plusExponent := false
    nan := ".nan", infinity := ".inf", negativeInfinity := "-.inf" }

/-- Numbers in JSON texts: `5.0`, `1e+300`, `1e-7`; a value with no JSON form is `null`. -/
def Style.json : Style :=
  { tie := .toEven, alwaysPositional := false, keepPointZero := true, plusExponent := true
    nan := "null", infinity := "null", negativeInfinity := "null" }

/-- The plain form quoted in messages: every digit positional, `9090`, `0.0000001`, and of
two equally near digit strings the larger (`1613599443113712.3` for `…712.25`). -/
def Style.plain : Style :=
  { tie := .up, alwaysPositional := true, keepPointZero := false, plusExponent := false
    nan := "NaN", infinity := "inf", negativeInfinity := "-inf" }

/-- `n` zeros. -/
def zeros (n : Nat) : String := String.ofList (List.replicate n '0')

/-- The written form of `digits * 10^exponent`, without sign. -/
def Digits.render (s : Style) (d : Digits) : String :=
  let ds := toString d.digits
  let len : Int := ds.length
  let k := d.exponent + len
  if s.alwaysPositional then
    if 0 ≤ d.exponent then ds ++ zeros d.exponent.toNat ++ (if s.keepPointZero then ".0" else "")
    else if 0 < k then
      String.ofList (ds.toList.take k.toNat) ++ "." ++ String.ofList (ds.toList.drop k.toNat)
    else "0." ++ zeros (-k).toNat ++ ds
  else if 0 ≤ d.exponent ∧ k ≤ 16 then ds ++ zeros d.exponent.toNat ++ ".0"
  else if 0 < k ∧ k ≤ 16 then
    String.ofList (ds.toList.take k.toNat) ++ "." ++ String.ofList (ds.toList.drop k.toNat)
  else if -5 < k ∧ k ≤ 0 then "0." ++ zeros (-k).toNat ++ ds
  else
    let mant := if len = 1 then ds
      else String.ofList (ds.toList.take 1) ++ "." ++ String.ofList (ds.toList.drop 1)
    let e := k - 1
    mant ++ "e" ++ (if 0 ≤ e ∧ s.plusExponent then "+" else "") ++ toString e

/-- The written form of a double in the given style. -/
def Style.write (s : Style) (f : Float) : String :=
  let p := Parts.ofFloat f
  if p.isSpecial then
    if p.fraction ≠ 0 then s.nan
    else if p.negative then s.negativeInfinity else s.infinity
  else
    let sign := if p.negative then "-" else ""
    if p.isZero then sign ++ (if s.keepPointZero then "0.0" else "0")
    else sign ++ (p.shortest s.tie).render s

end LabFleet.Decimal
