import LabFleet.Decimal.Text
import LabFleet.Decimal.Nearest

/-!
Numbers as documents and wire texts carry them: an unsigned 64-bit integer, a negative
64-bit integer, or a double. A nonnegative integer is always the unsigned form, so each
integer has one representation.
-/

namespace LabFleet

/-- A number of a document or a wire message. -/
inductive Number where
  /-- An integer from 0 to 2^64 - 1. -/
  | nat (n : Nat)
  /-- An integer from -2^63 to -1. -/
  | neg (n : Int)
  | float (f : Float)
  deriving DecidableEq

namespace Number

/-- The number for an integer: unsigned when nonnegative. -/
def ofInt (i : Int) : Number := if 0 ≤ i then .nat i.toNat else .neg i

/-- The integer value, for either integer form. -/
def toInt? : Number → Option Int
  | .nat n => some n
  | .neg n => some n
  | .float _ => none

/-- The value as a double; integers are rounded to the nearest one. -/
def toFloat : Number → Float
  | .nat n => Decimal.nearest false n 0
  | .neg n => Decimal.nearest true n.natAbs 0
  | .float f => f

/-- Equality of numbers: integers by value, doubles as doubles (so a NaN equals nothing). -/
def beq : Number → Number → Bool
  | .nat a, .nat b => a == b
  | .neg a, .neg b => a == b
  | .float a, .float b => a == b
  | _, _ => false

instance : BEq Number := ⟨beq⟩

end Number

end LabFleet
