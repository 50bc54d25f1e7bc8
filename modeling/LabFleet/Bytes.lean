/-!
Fixed-width unsigned numbers as little-endian bytes, the byte order of every length prefix
and archived scalar.
-/

namespace LabFleet

/-- Little-endian bytes of a number, `width` of them; higher digits are dropped. -/
def littleEndian (width n : Nat) : List UInt8 :=
  (List.range width).map fun i => (n / Nat.pow 256 i % 256).toUInt8

/-- The number little-endian bytes hold. -/
def ofLittleEndian (bytes : List UInt8) : Nat :=
  bytes.foldr (fun b n => n * 256 + b.toNat) 0

theorem littleEndian_succ (w n : Nat) :
    littleEndian (w + 1) n = (n % 256).toUInt8 :: littleEndian w (n / 256) := by
  simp only [littleEndian, List.range_succ_eq_map, List.map_cons, List.map_map]
  congr 2
  · simp
  · funext i
    simp [Function.comp, Nat.pow_succ, Nat.div_div_eq_div_mul, Nat.mul_comm]

@[simp] theorem length_littleEndian (w n : Nat) : (littleEndian w n).length = w := by
  simp [littleEndian]

theorem ofLittleEndian_cons (b : UInt8) (bs : List UInt8) :
    ofLittleEndian (b :: bs) = ofLittleEndian bs * 256 + b.toNat := rfl

theorem ofLittleEndian_littleEndian (w n : Nat) :
    ofLittleEndian (littleEndian w n) = n % Nat.pow 256 w := by
  -- the range is written `Nat.pow`, as in `littleEndian`, so that no library's power instance
  -- enters the statement
  show _ = n % 256 ^ w
  induction w generalizing n with
  | zero => simp [littleEndian, ofLittleEndian, Nat.mod_one]
  | succ w ih =>
    rw [littleEndian_succ, ofLittleEndian_cons, ih, Nat.pow_succ]
    have hlow : ((n % 256).toUInt8).toNat = n % 256 := by simp
    -- the high digits are the number above the low byte, modulo the rest of the range
    rw [hlow, Nat.mul_comm (256 ^ w), Nat.mod_mul]
    omega

end LabFleet
