import LabFleet.Bytes

/-!
Shapes of archived values. An archive lays a value out in one byte buffer the way it would lie
in memory: every scalar little-endian at an offset that is a multiple of its alignment,
records field after field in declaration order with zero padding, and a tagged union as a
byte tag followed by the fields of the chosen variant laid out like a record. A string of at
most eight bytes lies inline, padded with `0xff`; a longer string, and the items of a list,
lie elsewhere in the buffer and are reached by a 32-bit offset relative to the place that
holds it.

A `Shape` describes the layout of a type and a `Datum` is a value of some shape; both are
the common ground of writing and checking archives.
-/

namespace LabFleet.Archive

/-- The archived layout of a type. -/
inductive Shape where
  /-- An unsigned byte. -/
  | byte
  /-- A byte that is 0 or 1. -/
  | bool
  | u32
  | u64
  | i64
  /-- UTF-8 text, inline up to eight bytes. -/
  | string
  /-- A list, its items laid out one after another elsewhere. -/
  | vec (item : Shape)
  /-- A tag byte, 0 for none and 1 for some, then the value. -/
  | option (item : Shape)
  /-- Fields in order. -/
  | record (fields : List Shape)
  /-- A tag byte naming the variant, then that variant's fields. -/
  | choice (variants : List (List Shape))
  deriving Repr, Inhabited

/-- A value of some shape. -/
inductive Datum where
  /-- A byte, `u32` or `u64`. -/
  | nat (n : Nat)
  | int (i : Int)
  | bool (b : Bool)
  | str (s : String)
  | list (items : List Datum)
  | none
  | some (d : Datum)
  | record (fields : List Datum)
  | variant (tag : Nat) (fields : List Datum)
  deriving Repr, Inhabited

mutual
/-- Whether two data are equal, constructor by constructor. -/
def Datum.beq : Datum → Datum → Bool
  | .nat m, .nat n => m == n
  | .int i, .int j => i == j
  | .bool x, .bool y => x == y
  | .str s, .str t => s == t
  | .list xs, .list ys => Datum.beqList xs ys
  | .none, .none => true
  | .some x, .some y => Datum.beq x y
  | .record xs, .record ys => Datum.beqList xs ys
  | .variant t xs, .variant u ys => t == u && Datum.beqList xs ys
  | _, _ => false

/-- Whether two lists of data are equal, item by item. -/
def Datum.beqList : List Datum → List Datum → Bool
  | [], [] => true
  | x :: xs, y :: ys => Datum.beq x y && Datum.beqList xs ys
  | _, _ => false
end

theorem Datum.beq_iff (a b : Datum) : Datum.beq a b = true ↔ a = b := by
  -- the two motives of the mutual recursion: data, and lists of data
  apply Datum.beq.induct (fun a b => Datum.beq a b = true ↔ a = b)
    (fun xs ys => Datum.beqList xs ys = true ↔ xs = ys)
  case case5 | case8 => intro xs ys ih; simp [Datum.beq, ih]
  case case7 => intro x y ih; simp [Datum.beq, ih]
  case case9 => intro t xs u ys ih; simp [Datum.beq, ih]
  case case10 =>
    intro a b hnat hint hbool hstr hlist hnone hsome hrecord hvariant
    simp only [Datum.beq, Bool.false_eq_true, false_iff]
    rintro rfl
    cases a with
    | variant t xs => exact hvariant t xs t xs rfl rfl
    | _ => simp_all
  case case12 => intro x xs y ys ih ihs; simp [Datum.beqList, ih, ihs]
  case case13 =>
    intro xs ys hnil hcons
    simp only [Datum.beqList, Bool.false_eq_true, false_iff]
    rintro rfl
    cases xs with
    | nil => simp_all
    | cons x rest => exact hcons x rest x rest rfl rfl
  all_goals simp [Datum.beq, Datum.beqList]

instance : BEq Datum := ⟨Datum.beq⟩

instance : DecidableEq Datum := fun a b => decidable_of_iff _ (Datum.beq_iff a b)

/-- The least multiple of `a` at or above `n` (for `a` at least one). -/
def roundUp (n a : Nat) : Nat := (n + a - 1) / a * a

mutual
/-- The alignment of a shape. -/
def Shape.align : Shape → Nat
  | .byte | .bool => 1
  | .u32 | .string | .vec _ => 4
  | .u64 | .i64 => 8
  | .option s => s.align
  | .record fs => alignOf fs
  | .choice vs => alignOfVariants vs

/-- The size of a shape, a multiple of its alignment. -/
def Shape.size : Shape → Nat
  | .byte | .bool => 1
  | .u32 => 4
  | .u64 | .i64 | .string | .vec _ => 8
  | .option s => roundUp (roundUp 1 s.align + s.size) s.align
  | .record fs => roundUp (endOf 0 fs) (alignOf fs)
  | .choice vs => roundUp (endOfVariants vs) (alignOfVariants vs)

/-- The largest alignment of some fields, at least one. -/
def alignOf : List Shape → Nat
  | [] => 1
  | s :: rest => max s.align (alignOf rest)

/-- The largest alignment of the variants of a union, at least one. -/
def alignOfVariants : List (List Shape) → Nat
  | [] => 1
  | fs :: rest => max (alignOf fs) (alignOfVariants rest)

/-- Where fields laid out from `start` end. -/
def endOf (start : Nat) : List Shape → Nat
  | [] => start
  | s :: rest => endOf (roundUp start s.align + s.size) rest

/-- The largest end of the variants of a union, each laid out after the tag byte. -/
def endOfVariants : List (List Shape) → Nat
  | [] => 1
  | fs :: rest => max (endOf 1 fs) (endOfVariants rest)
end

/-- The offsets of fields laid out from `start`. -/
def offsetsFrom (start : Nat) : List Shape → List Nat
  | [] => []
  | s :: rest =>
    let here := roundUp start s.align
    here :: offsetsFrom (here + s.size) rest

/-- Two's complement bytes of an integer, `width` of them. -/
def signedBytes (width : Nat) (i : Int) : List UInt8 :=
  littleEndian width (if i < 0 then (i + (Nat.pow 2 (8 * width) : Nat)).toNat else i.toNat)

/-- The integer two's complement bytes hold. -/
def ofSignedBytes (bytes : List UInt8) : Int :=
  let n := ofLittleEndian bytes
  if n ≥ Nat.pow 2 (8 * bytes.length - 1) then (n : Int) - (Nat.pow 2 (8 * bytes.length) : Nat) else n

end LabFleet.Archive
