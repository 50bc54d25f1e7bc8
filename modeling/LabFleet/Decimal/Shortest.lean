/-!
Shortest decimal digits of a binary64 value.

A finite nonzero double is `m * 2^q`. Every real strictly between the two halfway points to
its neighbours rounds back to it, and so do the halfway points themselves when `m` is even
(ties go to the even significand). The shortest digits are found by trying 1, 2, ... 17
significant digits: on the grid of that many digits the value lies between two grid points,
and the first grid on which one of them falls into the interval gives the answer; when both
do, the nearer one is taken, and a `Tie` rule settles an exact tie. All comparisons are done
on whole numbers, so the result is exact.
-/

namespace LabFleet.Decimal

/-- Which of two equally near digit strings is taken. -/
inductive Tie where
  /-- The one whose last digit is even. -/
  | toEven
  /-- The larger one. -/
  | up
  deriving Repr, DecidableEq

/-- The three fields of a binary64 bit pattern. -/
structure Parts where
  negative : Bool
  /-- Biased exponent field, from 0 to 2047. -/
  field : Nat
  /-- The 52 stored bits of the significand. -/
  fraction : Nat
  deriving Repr, DecidableEq

/-- Splits a bit pattern into sign, exponent field and fraction. -/
def Parts.ofBits (b : UInt64) : Parts :=
  { negative := (b >>> 63) == 1
    field := ((b >>> 52) &&& 0x7FF).toNat
    fraction := (b &&& 0xFFFFFFFFFFFFF).toNat }

/-- The parts of a double. -/
def Parts.ofFloat (f : Float) : Parts := Parts.ofBits f.toBits

/-- The exponent field is all ones: an infinity or a NaN. -/
def Parts.isSpecial (p : Parts) : Bool := p.field == 2047

/-- The value is zero of either sign. -/
def Parts.isZero (p : Parts) : Bool := p.field == 0 && p.fraction == 0

/-- The significand `m`, with the hidden bit for normal values. -/
def Parts.significand (p : Parts) : Nat :=
  if p.field = 0 then p.fraction else p.fraction + Nat.pow 2 52

/-- The binary exponent `q`, so that the magnitude is `m * 2^q`. -/
def Parts.exponent (p : Parts) : Int :=
  if p.field = 0 then -1074 else (p.field : Int) - 1075

/-- Number of decimal digits of `n`; zero has one. -/
def digitCount (n : Nat) : Nat := (Nat.toDigits 10 n).length

/-- `c * 10^k` and `x * 2^e`, both multiplied by the same power so that they are whole. -/
def cross (c : Nat) (k : Int) (x : Nat) (e : Int) : Nat × Nat :=
  (c * Nat.pow 10 k.toNat * Nat.pow 2 (-e).toNat, x * Nat.pow 2 e.toNat * Nat.pow 10 (-k).toNat)

/-- Whether `c * 10^k` reads back as the value: it lies between the halfway points, which
count as inside when the significand is even. The halfway points are measured in units of
`2^(q-2)`; the lower one is nearer when the value is the smallest of its binade. -/
def Parts.admits (p : Parts) (c : Nat) (k : Int) : Bool :=
  let m := p.significand
  let e := p.exponent - 2
  let upper := 4 * m + 2
  let lower := if p.fraction = 0 ∧ p.field > 1 then 4 * m - 1 else 4 * m - 2
  let (a, u) := cross c k upper e
  let (b, l) := cross c k lower e
  if m % 2 = 0 then l ≤ b && a ≤ u else l < b && a < u

/-- Of the two points `lo * 10^k` and `(lo+1) * 10^k` around the value, the one that reads
back; the nearer if both do, and the one `tie` names on an exact tie. -/
def Parts.pick (p : Parts) (tie : Tie) (lo : Nat) (k : Int) : Option Nat :=
  let inLo := p.admits lo k
  let inHi := p.admits (lo + 1) k
  if inLo && inHi then
    -- twice the value against the midpoint of the two grid points
    let (mid, twice) := cross (2 * lo + 1) k (8 * p.significand) (p.exponent - 2)
    if twice < mid then some lo
    else if mid < twice then some (lo + 1)
    else
      match tie with
      | .toEven => if lo % 2 = 0 then some lo else some (lo + 1)
      | .up => some (lo + 1)
  else if inLo then some lo
  else if inHi then some (lo + 1)
  else none

/-- The decimal exponent of the leading digit: `10^e ≤ value < 10^(e+1)`. -/
def Parts.leadExponent (p : Parts) : Int :=
  let num := p.significand * Nat.pow 2 p.exponent.toNat
  let den := Nat.pow 2 (-p.exponent).toNat
  if den ≤ num then (digitCount (num / den) : Int) - 1
  else
    let t := digitCount den - digitCount num
    if den ≤ num * Nat.pow 10 t then -(t : Int) else -((t : Int) + 1)

/-- The whole part of `value / 10^k`. -/
def Parts.gridFloor (p : Parts) (k : Int) : Nat :=
  (p.significand * Nat.pow 2 p.exponent.toNat * Nat.pow 10 (-k).toNat) /
    (Nat.pow 2 (-p.exponent).toNat * Nat.pow 10 k.toNat)

/-- Decimal digits `digits * 10^exponent`, with no trailing zero in `digits`. -/
structure Digits where
  digits : Nat
  exponent : Int
  deriving Repr, DecidableEq

/-- Removes trailing zeros, moving them into the exponent. -/
def Digits.trim (d : Digits) : Digits :=
  go d.digits d.exponent (digitCount d.digits)
where
  go (c : Nat) (k : Int) : Nat → Digits
    | 0 => ⟨c, k⟩
    | fuel + 1 => if c ≠ 0 ∧ c % 10 = 0 then go (c / 10) (k + 1) fuel else ⟨c, k⟩

/-- Tries grids of `n`, `n+1`, ... significant digits, `fuel` of them. -/
def Parts.search (p : Parts) (tie : Tie) (lead : Int) : Nat → Nat → Option Digits
  | 0, _ => none
  | fuel + 1, n =>
    let k := lead - n + 1
    match p.pick tie (p.gridFloor k) k with
    | some c => some ⟨c, k⟩
    | none => p.search tie lead fuel (n + 1)

/-- The shortest digits that read back as a finite nonzero value. Seventeen digits always
suffice for binary64; the last grid is a fallback that is never reached. -/
def Parts.shortest (p : Parts) (tie : Tie) : Digits :=
  let lead := p.leadExponent
  match p.search tie lead 17 1 with
  | some d => d.trim
  | none => (Digits.mk (p.gridFloor (lead - 16)) (lead - 16)).trim

end LabFleet.Decimal
