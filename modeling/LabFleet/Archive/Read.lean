import LabFleet.Archive.Shape

/-!
Checking and reading an archive. The root value lies at the end of the buffer. Every value
that lies elsewhere is claimed before it is read: it must lie wholly inside the part of the
buffer still open, at a position aligned for its shape. While its own parts are read, only
the buffer before it is open (they were written before it); once it is read, only the buffer
after it is open to the values that follow. This is the order in which the writer lays an
archive out, so every archive it writes is accepted, and no byte is claimed twice.

Tags, booleans and text are checked as they are read: a tag must name a variant, a boolean
must be 0 or 1, and text must be UTF-8. A string's first byte tells where it lies: a byte
whose top bits are `10` starts a length word, anything else starts inline text; text short
enough to lie inline must lie inline.
-/

namespace LabFleet.Archive

/-- The part of the buffer still open, from `lo` up to `hi`. -/
structure Open where
  lo : Nat
  hi : Nat
  deriving Repr, Inhabited

/-- Checking an archive; a refusal carries no detail. -/
abbrev CheckM := ReaderT (Array UInt8) (StateT Open (Except Unit))

/-- Refuses the archive. -/
def refuse {α : Type} : CheckM α := throw ()

/-- The `n` bytes from position `p`. -/
def bytesAt (p n : Nat) : CheckM (List UInt8) := do
  return ((← read).extract p (p + n)).toList

/-- The byte at position `p`. -/
def byteAt (p : Nat) : CheckM Nat := do
  return ((← read).getD p 0).toNat

/-- Claims `len` bytes from `start` for a value aligned to `align`, checks them with `check`
with only the buffer before them open, and leaves only the buffer after them open. -/
def claim {α : Type} (start : Int) (len align : Nat) (check : Nat → CheckM α) : CheckM α := do
  let r ← get
  if start < r.lo then refuse
  let here := start.toNat
  if here + len > r.hi then refuse
  if here % align ≠ 0 then refuse
  set ({ lo := r.lo, hi := here } : Open)
  let x ← check here
  set ({ lo := here + len, hi := r.hi } : Open)
  return x

/-- UTF-8 text, or a refusal. -/
def utf8 (bytes : List UInt8) : CheckM String :=
  match String.fromUTF8? (ByteArray.mk bytes.toArray) with
  | some s => pure s
  | none => refuse

mutual
/-- How deeply a shape nests; reading a value of the shape recurses no deeper. -/
def Shape.depth : Shape → Nat
  | .vec s | .option s => s.depth + 1
  | .record fs => depthOf fs + 1
  | .choice vs => depthOfVariants vs + 1
  | _ => 1

/-- The deepest nesting of some fields. -/
def depthOf : List Shape → Nat
  | [] => 0
  | s :: rest => max s.depth (depthOf rest)

/-- The deepest nesting of the variants of a union. -/
def depthOfVariants : List (List Shape) → Nat
  | [] => 0
  | fs :: rest => max (depthOf fs) (depthOfVariants rest)
end

/-- The most bytes of text a string holds inline. -/
def inlineCapacity : Nat := 8

/-- The length of inline text: up to the first `0xff` byte, or all eight. -/
def inlineLength (raw : List UInt8) : Nat := (raw.findIdx? (· == 0xff)).getD raw.length

/-- The length a string's length word holds. -/
def ofLengthWord (w : Nat) : Nat := w % 64 + w / 256 * 64

/-- Reads the value of shape `s` at position `here`, whose own bytes are already claimed,
claiming and reading the parts of it that lie elsewhere; `fuel` bounds the nesting. -/
def readAt : Nat → Shape → Nat → CheckM Datum
  | 0, _, _ => refuse
  | fuel + 1, s, here =>
    match s with
    | .byte => .nat <$> byteAt here
    | .bool => do
      match ← byteAt here with
      | 0 => pure (.bool false)
      | 1 => pure (.bool true)
      | _ => refuse
    | .u32 => do return .nat (ofLittleEndian (← bytesAt here 4))
    | .u64 => do return .nat (ofLittleEndian (← bytesAt here 8))
    | .i64 => do return .int (ofSignedBytes (← bytesAt here 8))
    | .string => do
      let raw ← bytesAt here 8
      if (raw.headD 0).toNat / 64 = 2 then
        let len := ofLengthWord (ofLittleEndian (raw.take 4))
        -- text that fits inline is always written inline
        if len ≤ inlineCapacity then refuse
        let start := (here : Int) + ofSignedBytes (raw.drop 4)
        claim start len 1 fun p => do return .str (← utf8 (← bytesAt p len))
      else
        return .str (← utf8 (raw.take (inlineLength raw)))
    | .vec item => do
      let raw ← bytesAt here 8
      let start := (here : Int) + ofSignedBytes (raw.take 4)
      let count := ofLittleEndian (raw.drop 4)
      claim start (count * item.size) item.align fun p =>
        .list <$> (List.range count).mapM fun i => readAt fuel item (p + i * item.size)
    | .option item => do
      match ← byteAt here with
      | 0 => pure .none
      | 1 => .some <$> readAt fuel item (here + roundUp 1 item.align)
      | _ => refuse
    | .record fs =>
      .record <$> (fs.zip (offsetsFrom 0 fs)).mapM fun (f, off) => readAt fuel f (here + off)
    | .choice vs => do
      let tag ← byteAt here
      match vs[tag]? with
      | some fs =>
        .variant tag <$> (fs.zip (offsetsFrom 1 fs)).mapM fun (f, off) => readAt fuel f (here + off)
      | none => refuse

/-- Checks and reads the archive of a value of shape `s`, whose root lies at the end of the
buffer; `none` when the archive is refused. -/
def readArchive (s : Shape) (bytes : Array UInt8) : Option Datum :=
  let root := bytes.size - s.size
  let run := claim root s.size s.align (readAt s.depth s)
  match (run.run bytes).run ⟨0, bytes.size⟩ with
  | .ok (d, _) => some d
  | .error _ => none

end LabFleet.Archive
