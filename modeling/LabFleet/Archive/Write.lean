import LabFleet.Archive.Shape

/-!
Writing an archive. A value is written depth first: the parts of a value that lie elsewhere
(long strings' bytes, lists' items) are written before the value that points at them, in
field order, and the root value is written last, at the end of the buffer. The items of a
list are written together, after the parts of every item, at a position aligned for the item
shape; padding is zero.
-/

namespace LabFleet.Archive

/-- Where the parts of a value that lie elsewhere were written, following the value's
structure. -/
inductive Placed where
  /-- Nothing lies elsewhere. -/
  | inline
  /-- A long string's bytes. -/
  | text (pos : Nat)
  /-- A list's items. -/
  | items (pos : Nat)
  /-- The fields of a record, an option or a variant. -/
  | parts (parts : List Placed)
  deriving Repr, Inhabited

/-- Writing into a growing buffer. -/
abbrev WriteM := StateM (Array UInt8)

/-- The bytes of a string's length word when the string lies elsewhere: the low six bits of
the length, the marker bits `10`, then the rest of the length. -/
def lengthWord (len : Nat) : List UInt8 := littleEndian 4 (len % 64 + 128 + len / 64 * 256)

/-- Appends bytes. -/
def emit (bytes : List UInt8) : WriteM Unit := modify fun b => b ++ bytes.toArray

/-- Pads with zeros to a multiple of `a`; returns the position. -/
def alignTo (a : Nat) : WriteM Nat := do
  let n := (← get).size
  emit (List.replicate (roundUp n a - n) 0)
  return roundUp n a

/-- Zero bytes. -/
def zeros (n : Nat) : List UInt8 := List.replicate n 0

mutual
/-- Writes the parts of a value that lie elsewhere. -/
def place (s : Shape) : Datum → WriteM Placed
  | .str t =>
    match s with
    | .string =>
      if t.utf8ByteSize ≤ 8 then pure .inline
      else do
        let p := (← get).size
        emit t.toUTF8.toList
        return .text p
    | _ => pure .inline
  | .list ds =>
    match s with
    | .vec item => do
      let placed ← placeItems item ds
      let p ← alignTo item.align
      writeItems item ds placed p
      return .items p
    | _ => pure .inline
  | .some d =>
    match s with
    | .option item => do return .parts [← place item d]
    | _ => pure .inline
  | .record ds =>
    match s with
    | .record fs => .parts <$> placeFields fs ds
    | _ => pure .inline
  | .variant tag ds =>
    match s with
    | .choice vs => .parts <$> placeFields (vs.getD tag []) ds
    | _ => pure .inline
  | _ => pure .inline

/-- Writes the parts that lie elsewhere of every item of a list. -/
def placeItems (item : Shape) : List Datum → WriteM (List Placed)
  | [] => pure []
  | d :: rest => do
    let p ← place item d
    return p :: (← placeItems item rest)

/-- Writes the parts that lie elsewhere of every field. -/
def placeFields : List Shape → List Datum → WriteM (List Placed)
  | s :: fs, d :: ds => do
    let p ← place s d
    return p :: (← placeFields fs ds)
  | _, _ => pure []

/-- Writes the items of a list one after another from position `here`. -/
def writeItems (item : Shape) : List Datum → List Placed → Nat → WriteM Unit
  | d :: ds, p :: ps, here => do
    emit (bytesOf item d p here)
    writeItems item ds ps (here + item.size)
  | _, _, _ => pure ()

/-- The bytes of a value written at position `here`, exactly its shape's size. -/
def bytesOf (s : Shape) (d : Datum) (p : Placed) (here : Nat) : List UInt8 :=
  match d with
  | .nat n =>
    match s with
    | .byte => [n.toUInt8]
    | .u32 => littleEndian 4 n
    | .u64 => littleEndian 8 n
    | _ => zeros s.size
  | .int i =>
    match s with
    | .i64 => signedBytes 8 i
    | _ => zeros s.size
  | .bool b => [if b then 1 else 0]
  | .str t =>
    match p with
    | .text q => lengthWord t.utf8ByteSize ++ signedBytes 4 ((q : Int) - here)
    | _ => t.toUTF8.toList ++ List.replicate (8 - t.utf8ByteSize) 0xff
  | .list ds =>
    match p with
    | .items q => signedBytes 4 ((q : Int) - here) ++ littleEndian 4 ds.length
    | _ => zeros 8
  | .none => zeros s.size
  | .some x =>
    match s, p with
    | .option item, .parts [q] =>
      let off := roundUp 1 item.align
      let body := bytesOf item x q (here + off)
      [1] ++ zeros (off - 1) ++ body ++ zeros (s.size - off - body.length)
    | _, _ => zeros s.size
  | .record ds =>
    match s, p with
    | .record fs, .parts qs =>
      let body := fieldBytes fs ds qs 0 here
      body ++ zeros (s.size - body.length)
    | _, _ => zeros s.size
  | .variant tag ds =>
    match s, p with
    | .choice vs, .parts qs =>
      let body := fieldBytes (vs.getD tag []) ds qs 1 (here + 1)
      [tag.toUInt8] ++ body ++ zeros (s.size - 1 - body.length)
    | _, _ => zeros s.size

/-- The bytes of fields laid out from offset `off`, the first byte at position `here`; padding
before each field, none after the last. -/
def fieldBytes : List Shape → List Datum → List Placed → Nat → Nat → List UInt8
  | s :: fs, d :: ds, p :: ps, off, here =>
    let start := roundUp off s.align
    let pad := start - off
    let body := bytesOf s d p (here + pad)
    zeros pad ++ body ++ fieldBytes fs ds ps (start + s.size) (here + pad + s.size)
  | _, _, _, _, _ => []
end

/-- The archive of a value: its parts that lie elsewhere, then the value itself at the end. -/
def write (s : Shape) (d : Datum) : List UInt8 :=
  let run : WriteM Unit := do
    let p ← place s d
    let here ← alignTo s.align
    emit (bytesOf s d p here)
  (run.run #[]).2.toList

end LabFleet.Archive
