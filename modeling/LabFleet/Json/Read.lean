import LabFleet.Json.Basic
import LabFleet.Utf8

/-!
Reading JSON text. The reader walks the bytes once, left to right, and stops at the first
fault; every fault carries the line (from 1) and column (bytes since the last line feed) at
which it was found. A fault found by looking at the next byte without taking it reports
that byte's column, so an unexpected character is pointed at exactly.

`Reader.value` keeps an object's fields in text order, duplicates included; `Json.ofBytes`
then gives the map view in which keys are sorted and the last of equal keys wins.
Numbers follow the wire rules: a whole number that fits 64 bits stays an integer (a negative
zero becomes the double `-0.0`), anything else is a double built from at most nineteen
significant digits and a power of ten, and a double too large for binary64 is refused.
Nesting deeper than 127 arrays or objects is refused.
-/

namespace LabFleet.Json

/-- A fault in a JSON text; a line of 0 means the fault has no position. -/
structure ReadError where
  message : String
  line : Nat
  column : Nat
  deriving Repr, DecidableEq

/-- The message, followed by the position when there is one. -/
def ReadError.render (e : ReadError) : String :=
  if e.line = 0 then e.message
  else s!"{e.message} at line {e.line} column {e.column}"

/-- A fault with no position. -/
def ReadError.plain (message : String) : ReadError := ⟨message, 0, 0⟩

/-- The unread bytes and the position reached. -/
structure Cursor where
  rest : List UInt8
  line : Nat
  column : Nat

/-- A cursor at the start of a text. -/
def Cursor.start (bytes : List UInt8) : Cursor := ⟨bytes, 1, 0⟩

/-- Takes one byte. -/
def Cursor.advance (c : Cursor) : Cursor :=
  match c.rest with
  | [] => c
  | b :: r => if b = 10 then ⟨r, c.line + 1, 0⟩ else ⟨r, c.line, c.column + 1⟩

/-- Skips spaces, tabs, carriage returns and line feeds. -/
def skipBlanksFrom : List UInt8 → Nat → Nat → Cursor
  | [], line, col => ⟨[], line, col⟩
  | b :: r, line, col =>
    if b = 32 ∨ b = 9 ∨ b = 13 then skipBlanksFrom r line (col + 1)
    else if b = 10 then skipBlanksFrom r (line + 1) 0
    else ⟨b :: r, line, col⟩

/-- The cursor past any blanks. -/
def Cursor.skipBlanks (c : Cursor) : Cursor := skipBlanksFrom c.rest c.line c.column

/-- Reading with a cursor, stopping at the first fault. -/
abbrev Reader := StateT Cursor (Except ReadError)

/-- The next byte, not taken. -/
def peek : Reader (Option UInt8) := return (← get).rest.head?

/-- The next byte, or 0 at the end. -/
def peekOrNull : Reader UInt8 := return ((← get).rest.head?.getD 0)

/-- Takes the next byte. -/
def eat : Reader Unit := modify Cursor.advance

/-- Takes and returns the next byte. -/
def next : Reader (Option UInt8) := do
  let b ← peek
  eat
  return b

/-- A fault at the position reached. -/
def fail {α : Type} (message : String) : Reader α := do
  let c ← get
  throw ⟨message, c.line, c.column⟩

/-- A fault at the next byte, which is not taken. -/
def failAhead {α : Type} (message : String) : Reader α := do
  let c ← get
  match c.rest with
  | [] => throw ⟨message, c.line, c.column⟩
  | b :: _ => if b = 10 then throw ⟨message, c.line + 1, 0⟩ else throw ⟨message, c.line, c.column + 1⟩

/-- Skips blanks and returns the next byte, not taken. -/
def blank : Reader (Option UInt8) := do
  modify Cursor.skipBlanks
  peek

/-- A fault's position given to a fault that has none. -/
def locate {α : Type} (r : Reader α) : Reader α := fun c =>
  match r c with
  | .error e =>
    if e.line = 0 then .error ⟨e.message, c.line, c.column⟩ else .error e
  | ok => ok

/-- Messages of the reader. -/
def msgEofValue := "EOF while parsing a value"
def msgEofList := "EOF while parsing a list"
def msgEofObject := "EOF while parsing an object"
def msgEofString := "EOF while parsing a string"
def msgExpectedIdent := "expected ident"
def msgExpectedValue := "expected value"
def msgExpectedColon := "expected `:`"
def msgListCommaOrEnd := "expected `,` or `]`"
def msgObjectCommaOrEnd := "expected `,` or `\x7d`"
def msgInvalidEscape := "invalid escape"
def msgInvalidNumber := "invalid number"
def msgOutOfRange := "number out of range"
def msgInvalidCodePoint := "invalid unicode code point"
def msgControl := "control character (\\u0000-\\u001F) found while parsing a string"
def msgKeyString := "key must be a string"
def msgLoneSurrogate := "lone leading surrogate in hex escape"
def msgTrailingComma := "trailing comma"
def msgTrailingCharacters := "trailing characters"
def msgEndOfHexEscape := "unexpected end of hex escape"
def msgRecursion := "recursion limit exceeded"

/-- Checks that the next bytes spell the rest of a keyword. -/
def ident : List UInt8 → Reader Unit
  | [] => pure ()
  | b :: r => do
    match ← next with
    | none => fail msgEofValue
    | some x => if x = b then ident r else fail msgExpectedIdent

/-- The value of a hex digit. -/
def hexValue (b : UInt8) : Option Nat :=
  if 48 ≤ b ∧ b ≤ 57 then some (b.toNat - 48)
  else if 97 ≤ b ∧ b ≤ 102 then some (b.toNat - 87)
  else if 65 ≤ b ∧ b ≤ 70 then some (b.toNat - 55)
  else none

/-- Four hex digits of a unicode escape. -/
def hexEscape : Reader Nat := do
  let c ← get
  match c.rest with
  | a :: b :: d :: e :: _ =>
    set (c.advance.advance.advance.advance)
    match hexValue a, hexValue b, hexValue d, hexValue e with
    | some w, some x, some y, some z => pure (((w * 16 + x) * 16 + y) * 16 + z)
    | _, _, _, _ => fail msgInvalidEscape
  | _ =>
    set (Cursor.mk [] c.line (c.column + c.rest.length))
    fail msgEofString

/-- The UTF-8 bytes of a code point. -/
def utf8 (n : Nat) : List UInt8 :=
  if n < 0x80 then [n.toUInt8]
  else if n < 0x800 then [(0xC0 + n / 64).toUInt8, (0x80 + n % 64).toUInt8]
  else if n < 0x10000 then
    [(0xE0 + n / 4096).toUInt8, (0x80 + n / 64 % 64).toUInt8, (0x80 + n % 64).toUInt8]
  else
    [(0xF0 + n / 262144).toUInt8, (0x80 + n / 4096 % 64).toUInt8,
      (0x80 + n / 64 % 64).toUInt8, (0x80 + n % 64).toUInt8]

/-- A unicode escape after its backslash and `u`, with a surrogate pair read as one. -/
def unicodeEscape : Reader (List UInt8) := do
  let n ← hexEscape
  if 0xDC00 ≤ n ∧ n ≤ 0xDFFF then fail msgLoneSurrogate
  else if n < 0xD800 ∨ n > 0xDBFF then pure (utf8 n)
  else
    match ← peek with
    | none => fail msgEofString
    | some b =>
      eat
      if b ≠ 92 then fail msgEndOfHexEscape
      else
        match ← peek with
        | none => fail msgEofString
        | some u =>
          eat
          if u ≠ 117 then fail msgEndOfHexEscape
          else
            let n2 ← hexEscape
            if n2 < 0xDC00 ∨ n2 > 0xDFFF then fail msgLoneSurrogate
            else pure (utf8 (((n - 0xD800) * 1024 + (n2 - 0xDC00)) + 0x10000))

/-- An escape after its backslash. -/
def escape : Reader (List UInt8) := do
  match ← next with
  | none => fail msgEofString
  | some b =>
    if b = 34 then pure [34]
    else if b = 92 then pure [92]
    else if b = 47 then pure [47]
    else if b = 98 then pure [8]
    else if b = 102 then pure [12]
    else if b = 110 then pure [10]
    else if b = 114 then pure [13]
    else if b = 116 then pure [9]
    else if b = 117 then unicodeEscape
    else fail msgInvalidEscape

/-- The bytes of a string body up to its closing quote, which is left unread. -/
def stringBytes : Nat → List UInt8 → Reader (List UInt8)
  | 0, acc => pure acc.reverse
  | fuel + 1, acc => do
    match ← peek with
    | none => do
      modify fun c => ⟨[], c.line, c.column⟩
      fail msgEofString
    | some b =>
      if b = 34 then pure acc.reverse
      else if b = 92 then do
        eat
        let bs ← escape
        stringBytes fuel (bs.reverse ++ acc)
      else if b < 32 then do
        eat
        fail msgControl
      else do
        eat
        stringBytes fuel (b :: acc)

/-- A string after its opening quote; its bytes must be UTF-8. The encoding is checked once
the closing quote is taken, and a fault is placed by counting back from there as many bytes
as the string holds and forward again over its valid prefix: with no escapes this is just
past the first bad byte, and each escape before it moves the place back by the bytes the
escape saved. -/
def stringBody : Reader String := do
  let fuel := (← get).rest.length
  let bytes ← stringBytes fuel []
  match String.fromUTF8? (ByteArray.mk bytes.toArray) with
  | some s => do eat; pure s
  | none => do
    let c ← get
    throw ⟨msgInvalidCodePoint, c.line, c.column + 1 + Utf8.validPrefix bytes - bytes.length⟩

/-- Skips a string after its opening quote, checking escapes but not the encoding. -/
def skipString : Nat → Reader Unit
  | 0 => pure ()
  | fuel + 1 => do
    match ← peek with
    | none => fail msgEofString
    | some b =>
      if b = 34 then eat
      else if b = 92 then do
        eat
        match ← next with
        | none => fail msgEofString
        | some e =>
          if e = 117 then do let _ ← hexEscape; skipString fuel
          else if e = 34 ∨ e = 92 ∨ e = 47 ∨ e = 98 ∨ e = 102 ∨ e = 110 ∨ e = 114 ∨ e = 116 then
            skipString fuel
          else fail msgInvalidEscape
      else if b < 32 then fail msgControl
      else do eat; skipString fuel

/-- Whether a byte is a decimal digit. -/
def isDigit (b : UInt8) : Bool := 48 ≤ b && b ≤ 57

/-- The largest unsigned 64-bit value. -/
def maxU64 : Nat := Nat.pow 2 64 - 1

/-- The largest signed 32-bit value. -/
def maxI32 : Int := ((Nat.pow 2 31 : Nat) : Int) - 1

/-- Clamps to the signed 32-bit range. -/
def clampI32 (i : Int) : Int := max (-((Nat.pow 2 31 : Nat) : Int)) (min maxI32 i)

/-- Whether appending `d` to `a` passes `limit`. -/
def overflows (a d limit : Nat) : Bool := a ≥ limit / 10 && (a > limit / 10 || d > limit % 10)

/-- Powers of ten as doubles, `10^0` to `10^308`. -/
def pow10 (i : Nat) : Float := Decimal.nearest false 1 i

/-- `significand * 10^exponent` computed as doubles: the significand is rounded once, then
multiplied or divided by a power of ten, dividing by `1e308` first while the exponent is
below -308. A product that overflows is refused. -/
def fromParts (positive : Bool) (significand : Nat) (exponent : Int) : Reader Float := do
  let f0 := Decimal.nearest false significand 0
  let rec scale (f : Float) (e : Int) : Nat → Except String Float
    | 0 => .ok f
    | fuel + 1 =>
      if e.natAbs ≤ 308 then
        if 0 ≤ e then
          let g := f * pow10 e.natAbs
          if g.isInf then .error msgOutOfRange else .ok g
        else .ok (f / pow10 e.natAbs)
      else if f == 0 then .ok f
      else if 0 ≤ e then .error msgOutOfRange
      else scale (f / 1e308) (e + 308) fuel
  match scale f0 exponent (exponent.natAbs / 308 + 2) with
  | .ok f => pure (if positive then f else -f)
  | .error m => fail m

/-- Digits after an exponent overflowed: zero, or a refusal for a large value. -/
def exponentOverflow (positive zeroSignificand positiveExp : Bool) : Nat → Reader Float
  | 0 => pure (if positive then 0 else -0)
  | fuel + 1 => do
    if !zeroSignificand && positiveExp then fail msgOutOfRange
    else
      let b ← peekOrNull
      if isDigit b then do eat; exponentOverflow positive zeroSignificand positiveExp fuel
      else pure (if positive then 0 else -0)

/-- The digits of an exponent after the first. -/
def exponentDigits (positive zeroSignificand positiveExp : Bool) :
    Nat → Nat → Reader (Option Nat)
  | 0, e => pure (some e)
  | fuel + 1, e => do
    let b ← peekOrNull
    if isDigit b then
      eat
      let d := b.toNat - 48
      if overflows e d maxI32.toNat then pure none
      else exponentDigits positive zeroSignificand positiveExp fuel (e * 10 + d)
    else pure (some e)

/-- An exponent part, at its `e`. -/
def exponentPart (positive : Bool) (significand : Nat) (start : Int) : Reader Float := do
  eat
  let sign ← peekOrNull
  let positiveExp := sign ≠ 45
  if sign = 43 ∨ sign = 45 then eat
  match ← next with
  | none => fail msgEofValue
  | some b =>
    if !isDigit b then fail msgInvalidNumber
    else
      let fuel := (← get).rest.length
      match ← exponentDigits positive (significand = 0) positiveExp fuel (b.toNat - 48) with
      | none => exponentOverflow positive (significand = 0) positiveExp (fuel + 1)
      | some e =>
        let final := clampI32 (if positiveExp then start + e else start - e)
        fromParts positive significand final

/-- Digits after the decimal point once the significand is full: they are dropped. -/
def dropDigits : Nat → Reader Unit
  | 0 => pure ()
  | fuel + 1 => do
    if isDigit (← peekOrNull) then do eat; dropDigits fuel else pure ()

/-- A fraction, at its point. -/
def fraction (positive : Bool) (significand : Nat) (before : Int) : Reader Float := do
  eat
  let fuel := (← get).rest.length
  let rec digits : Nat → Nat → Int → Reader (Nat × Int × Bool)
    | 0, s, e => pure (s, e, false)
    | f + 1, s, e => do
      let b ← peekOrNull
      if isDigit b then
        let d := b.toNat - 48
        if overflows s d maxU64 then pure (s, e, true)
        else do eat; digits f (s * 10 + d) (e - 1)
      else pure (s, e, false)
  let (s, after, full) ← digits fuel significand 0
  if full then
    dropDigits fuel
    if (← peekOrNull) = 101 ∨ (← peekOrNull) = 69 then exponentPart positive s (before + after)
    else fromParts positive s (before + after)
  else if after = 0 then
    match ← peek with
    | some _ => failAhead msgInvalidNumber
    | none => failAhead msgEofValue
  else
    let b ← peekOrNull
    if b = 101 ∨ b = 69 then exponentPart positive s (before + after)
    else fromParts positive s (before + after)

/-- A whole part too long for 64 bits: further digits only scale the value. -/
def longInteger (positive : Bool) (significand : Nat) : Nat → Int → Reader Float
  | 0, e => fromParts positive significand e
  | fuel + 1, e => do
    let b ← peekOrNull
    if isDigit b then do eat; longInteger positive significand fuel (e + 1)
    else if b = 46 then fraction positive significand e
    else if b = 101 ∨ b = 69 then exponentPart positive significand e
    else fromParts positive significand e

/-- What follows a whole part that fits 64 bits. -/
def afterInteger (positive : Bool) (significand : Nat) : Reader Number := do
  let b ← peekOrNull
  if b = 46 then return .float (← fraction positive significand 0)
  else if b = 101 ∨ b = 69 then return .float (← exponentPart positive significand 0)
  else if positive then return .nat significand
  else if significand = 0 ∨ significand > Nat.pow 2 63 then
    return .float (-(Decimal.nearest false significand 0))
  else return .neg (-(significand : Int))

/-- A number after its sign. -/
def numberBody (positive : Bool) : Reader Number := do
  match ← next with
  | none => fail msgEofValue
  | some b =>
    if b = 48 then
      if isDigit (← peekOrNull) then failAhead msgInvalidNumber
      else afterInteger positive 0
    else if isDigit b then
      let fuel := (← get).rest.length
      let rec whole : Nat → Nat → Reader Number
        | 0, s => afterInteger positive s
        | f + 1, s => do
          let c ← peekOrNull
          if isDigit c then
            let d := c.toNat - 48
            if overflows s d maxU64 then return .float (← longInteger positive s (f + 1) 0)
            else do eat; whole f (s * 10 + d)
          else afterInteger positive s
      whole fuel (b.toNat - 48)
    else fail msgInvalidNumber

/-- Skips a number after its sign, checking only its shape. -/
def skipNumber : Reader Unit := do
  let first := (← peek).getD 0
  if (← peek).isSome then eat
  let fuel := (← get).rest.length
  if first = 48 then
    if isDigit (← peekOrNull) then failAhead msgInvalidNumber
  else if isDigit first then dropDigits fuel
  else fail msgInvalidNumber
  let b ← peekOrNull
  let b ← if b = 46 then do
      eat
      if !isDigit (← peekOrNull) then failAhead msgInvalidNumber
      dropDigits fuel
      peekOrNull
    else pure b
  if b = 101 ∨ b = 69 then
    eat
    let s ← peekOrNull
    if s = 43 ∨ s = 45 then eat
    let d := (← peek).getD 0
    if (← peek).isSome then eat
    if !isDigit d then fail msgInvalidNumber
    dropDigits fuel

/-- Array items after the opening bracket, each read by `item`. -/
def items (item : Reader Json) : Nat → Bool → List Json → Reader (List Json)
  | 0, _, acc => pure acc.reverse
  | fuel + 1, first, acc => do
    match ← blank with
    | none => failAhead msgEofList
    | some b =>
      if b = 93 then pure acc.reverse
      else if first then do
        let x ← item
        items item fuel false (x :: acc)
      else if b = 44 then do
        eat
        match ← blank with
        | some 93 => failAhead msgTrailingComma
        | some _ => do
          let x ← item
          items item fuel false (x :: acc)
        | none => failAhead msgEofValue
      else failAhead msgListCommaOrEnd

/-- The closing bracket of an array. -/
def endArray : Reader Unit := do
  match ← blank with
  | some 93 => eat
  | some 44 => do
    eat
    match ← blank with
    | some 93 => failAhead msgTrailingComma
    | _ => failAhead msgTrailingCharacters
  | some _ => failAhead msgTrailingCharacters
  | none => failAhead msgEofList

/-- The key of the next field, or `none` at the closing brace. -/
def nextKey (first : Bool) : Reader (Option String) := do
  let p ← match ← blank with
    | some 125 => pure none
    | some 44 =>
      if first then pure (some (some (44 : UInt8))) else do eat; pure (some (← blank))
    | some b => if first then pure (some (some b)) else failAhead msgObjectCommaOrEnd
    | none => failAhead msgEofObject
  match p with
  | none => pure none
  | some (some 34) => do eat; pure (some (← stringBody))
  | some (some 125) => failAhead msgTrailingComma
  | some (some _) => failAhead msgKeyString
  | some none => failAhead msgEofValue

/-- The colon between a key and its value. -/
def colon : Reader Unit := do
  match ← blank with
  | some 58 => eat
  | some _ => failAhead msgExpectedColon
  | none => failAhead msgEofObject

/-- Object fields after the opening brace, each value read by `item`. -/
def fields (item : Reader Json) : Nat → Bool → List (String × Json) → Reader (List (String × Json))
  | 0, _, acc => pure acc.reverse
  | fuel + 1, first, acc => do
    match ← nextKey first with
    | none => pure acc.reverse
    | some k => do
      colon
      let v ← item
      fields item fuel false ((k, v) :: acc)

/-- The closing brace of an object. -/
def endObject : Reader Unit := do
  match ← blank with
  | some 125 => eat
  | some 44 => failAhead msgTrailingComma
  | some _ => failAhead msgTrailingCharacters
  | none => failAhead msgEofObject

/-- A value; objects keep their fields in text order. `depth` is the nesting still allowed. -/
def value : Nat → Reader Json
  | 0 => failAhead msgRecursion
  | depth + 1 => do
    match ← blank with
    | none => failAhead msgEofValue
    | some b =>
      if b = 110 then do eat; ident [117, 108, 108]; pure .null
      else if b = 116 then do eat; ident [114, 117, 101]; pure (.bool true)
      else if b = 102 then do eat; ident [97, 108, 115, 101]; pure (.bool false)
      else if b = 45 then do eat; pure (.number (← numberBody false))
      else if isDigit b then pure (.number (← numberBody true))
      else if b = 34 then do eat; pure (.string (← stringBody))
      else if b = 91 then do
        if depth = 0 then failAhead msgRecursion
        else
          eat
          let fuel := (← get).rest.length + 1
          let r ← items (value depth) fuel true []
          endArray
          pure (.array r)
      else if b = 123 then do
        if depth = 0 then failAhead msgRecursion
        else
          eat
          let fuel := (← get).rest.length + 1
          let r ← fields (value depth) fuel true []
          endObject
          pure (.object r)
      else failAhead msgExpectedValue

/-- The nesting allowed by the reader: 127 arrays or objects inside one another. -/
def maxDepth : Nat := 128

/-- Skips a value of any shape, checking its syntax but neither its numbers' range nor its
strings' encoding; nesting is not limited. -/
def skipValue : Nat → Reader Unit
  | 0 => pure ()
  | fuel + 1 => do
    match ← blank with
    | none => failAhead msgEofValue
    | some b =>
      if b = 110 then do eat; ident [117, 108, 108]
      else if b = 116 then do eat; ident [114, 117, 101]
      else if b = 102 then do eat; ident [97, 108, 115, 101]
      else if b = 45 then do eat; skipNumber
      else if isDigit b then skipNumber
      else if b = 34 then do eat; skipString ((← get).rest.length + 1)
      else if b = 91 then do
        eat
        match ← blank with
        | some 93 => eat
        | none => failAhead msgEofList
        | some _ =>
          skipValue fuel
          let rec more : Nat → Reader Unit
            | 0 => pure ()
            | f + 1 => do
              match ← blank with
              | some 44 => do eat; skipValue fuel; more f
              | some 93 => eat
              | some _ => failAhead msgListCommaOrEnd
              | none => failAhead msgEofList
          more ((← get).rest.length + 1)
      else if b = 123 then do
        eat
        let key : Reader Unit := do
          match ← blank with
          | some 34 => do eat; skipString ((← get).rest.length + 1)
          | some _ => failAhead msgKeyString
          | none => failAhead msgEofObject
          match ← blank with
          | some 58 => eat
          | some _ => failAhead msgExpectedColon
          | none => failAhead msgEofObject
          skipValue fuel
        match ← blank with
        | some 125 => eat
        | none => failAhead msgEofObject
        | some _ =>
          key
          let rec moreFields : Nat → Reader Unit
            | 0 => pure ()
            | f + 1 => do
              match ← blank with
              | some 44 => do eat; key; moreFields f
              | some 125 => eat
              | some _ => failAhead msgObjectCommaOrEnd
              | none => failAhead msgEofObject
          moreFields ((← get).rest.length + 1)
      else failAhead msgExpectedValue

/-- Nothing but blanks may follow the value. -/
def finish : Reader Unit := do
  match ← blank with
  | some _ => failAhead msgTrailingCharacters
  | none => pure ()

mutual
/-- The map view: objects with sorted keys, the last of equal keys winning. -/
def normalize : Json → Json
  | .array xs => .array (normalizeItems xs)
  | .object fs => sortedObject (normalizeFields fs)
  | j => j

/-- `normalize` on each item. -/
def normalizeItems : List Json → List Json
  | [] => []
  | x :: xs => normalize x :: normalizeItems xs

/-- `normalize` on each field value. -/
def normalizeFields : List (String × Json) → List (String × Json)
  | [] => []
  | (k, v) :: fs => (k, normalize v) :: normalizeFields fs
end

/-- Runs a reader on a whole text, which must hold nothing after the value. -/
def runReader {α : Type} (r : Reader α) (bytes : List UInt8) : Except ReadError α :=
  match (do let a ← r; finish; pure a : Reader α).run (Cursor.start bytes) with
  | .ok (a, _) => .ok a
  | .error e => .error e

/-- The value of a JSON text, in text order. -/
def ofBytesOrdered (bytes : List UInt8) : Except ReadError Json :=
  runReader (value maxDepth) bytes

/-- The value of a JSON text, as a map view. -/
def ofBytes (bytes : List UInt8) : Except ReadError Json :=
  (ofBytesOrdered bytes).map normalize

/-- The value of a JSON text given as a string. -/
def ofString (s : String) : Except ReadError Json := ofBytes s.toUTF8.toList

end LabFleet.Json
