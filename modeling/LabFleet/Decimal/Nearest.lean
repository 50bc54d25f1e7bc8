import LabFleet.Decimal.Shortest

/-!
The binary64 value nearest to a decimal `n * 10^k`.

The exact quotient is compared with powers of two in whole-number arithmetic: first the
binade, then the 53-bit significand (or fewer bits below the normal range), rounded to
nearest with ties to even. A significand that rounds up to `2^53` moves to the next binade,
and a value past the largest finite double becomes infinity. Decimal exponents far outside
the range of doubles are settled before any arithmetic, so that a long exponent costs
nothing.
-/

namespace LabFleet.Decimal

/-- Bit length of a positive number. -/
def bitLength (n : Nat) : Nat := if n = 0 then 0 else n.log2 + 1

/-- The bit pattern of an infinity. -/
def infinityBits (negative : Bool) : UInt64 :=
  (if negative then 0x8000000000000000 else 0) ||| 0x7FF0000000000000

/-- The bit pattern of a zero. -/
def zeroBits (negative : Bool) : UInt64 := if negative then 0x8000000000000000 else 0

/-- Rounds `a / b` to the nearest whole number, a tie going to the even one. -/
def roundHalfEven (a b : Nat) : Nat :=
  let q := a / b
  let r := a % b
  if 2 * r > b ∨ (2 * r = b ∧ q % 2 = 1) then q + 1 else q

/-- Bit pattern of the double nearest to `n * 10^k`, with the given sign. -/
def nearestBits (negative : Bool) (n : Nat) (k : Int) : UInt64 :=
  if n = 0 then zeroBits negative
  else if k + digitCount n > 400 then infinityBits negative
  else if k + digitCount n < -400 then zeroBits negative
  else
    let num := n * Nat.pow 10 k.toNat
    let den := Nat.pow 10 (-k).toNat
    -- the binade: 2^e2 ≤ num/den < 2^(e2+1)
    let t : Int := (bitLength num : Int) - bitLength den
    let e2 := if den * Nat.pow 2 t.toNat ≤ num * Nat.pow 2 (-t).toNat then t else t - 1
    let q := max (e2 - 52) (-1074)
    let m0 := roundHalfEven (num * Nat.pow 2 (-q).toNat) (den * Nat.pow 2 q.toNat)
    let (m, q) := if m0 = Nat.pow 2 53 then (Nat.pow 2 52, q + 1) else (m0, q)
    if q > 971 then infinityBits negative
    else
      let sign : UInt64 := if negative then 0x8000000000000000 else 0
      if m < Nat.pow 2 52 then sign ||| m.toUInt64
      else sign ||| ((q + 1075).toNat.toUInt64 <<< 52) ||| (m - Nat.pow 2 52).toUInt64

/-- The double nearest to `n * 10^k`, with the given sign. -/
def nearest (negative : Bool) (n : Nat) (k : Int) : Float :=
  Float.ofBits (nearestBits negative n k)

end LabFleet.Decimal
