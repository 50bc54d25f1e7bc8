import LabFleet.Toml.Syntax
import LabFleet.Toml.Value
import LabFleet.Toml.Datetime

/-!
Decoding keys and scalars from the text that spells them. Offsets of faults here count from
the start of that text.

* A bare key is letters, digits, `-` and `_`, and not empty. A quoted key is a basic or a
  literal string; a multi-line string is no key.
* A basic string has its quotes, visible characters, tabs and escapes: `\b \t \n \f \r \e`,
  `\"`, `\\`, and `\xHH`, `\uHHHH`, `\UHHHHHHHH` naming a character. A literal string has
  its quotes and visible characters or tabs. Multi-line strings also hold line breaks (a
  carriage return only before a line feed) and drop a line break right after their opening;
  in a basic one a backslash at the end of a line drops the break and the blanks after it.
* An unquoted scalar is a boolean (`true`, `false`), a float (`inf`, `nan`, or digits with a
  fraction or an exponent), an integer (decimal, or after `0x`, `0o`, `0b`), or a date or time
  when its leading digits are followed by `-` or `:`. Underscores go only between digits, a
  decimal number has no leading zero, and a radix prefix is lowercase and unsigned.

Anything else unquoted is refused as a string that lacks its quotes.
-/

namespace LabFleet.Toml.Scalar

/-- Whether a byte is an ASCII digit. -/
def isDigit (b : UInt8) : Bool := 48 ≤ b && b ≤ 57

/-- Whether a byte is a hex digit. -/
def isHexDigit (b : UInt8) : Bool := isDigit b || (97 ≤ b && b ≤ 102) || (65 ≤ b && b ≤ 70)

/-- The value of a hex digit. -/
def hexValue (b : UInt8) : Nat :=
  if isDigit b then b.toNat - 48 else if 97 ≤ b then b.toNat - 87 else b.toNat - 55

/-- How many bytes the character starting with byte `b` takes. -/
def widthOf (b : UInt8) : Nat :=
  if b < 0x80 then 1 else if b < 0xE0 then 2 else if b < 0xF0 then 3 else 4

/-- The bytes of a character. -/
def charBytes (c : Char) : List UInt8 := (String.singleton c).toUTF8.data.toList

/-- The text some bytes spell. -/
def textOf (bytes : List UInt8) : String := Utf8.textOf bytes

/-! ### Strings -/

/-- The escapes a fault lists as expected. -/
def escapeExpected : List Expected :=
  ["b", "e", "f", "n", "r", "\\", "\"", "x", "u", "U"].map .literal

/-- The character of a hex escape: `n` hex digits at offset `pos`, at the front of `rest`;
its bytes and how many bytes it took. -/
def hexEscape (pos n : Nat) (rest : List UInt8) : Except ReadError (List UInt8 × Nat) :=
  let digits := (rest.take n).takeWhile isHexDigit
  if digits.length < n then
    .error (.expecting "too few unicode value digits" [.description "unicode hexadecimal value"]
      (Span.point (pos + digits.length)))
  else
    let v := digits.foldl (fun acc d => acc * 16 + hexValue d) 0
    if v > 0x10FFFF || (0xD800 ≤ v && v ≤ 0xDFFF) then
      .error (.expecting "invalid value" [.description "unicode hexadecimal value"]
        (Span.point pos))
    else .ok (charBytes (Char.ofNat v), n)

/-- An escape after its backslash, at offset `pos`: the bytes it stands for and how many
bytes after the backslash it took. -/
def escape (pos : Nat) (rest : List UInt8) : Except ReadError (List UInt8 × Nat) :=
  let missing : Except ReadError (List UInt8 × Nat) :=
    .error (.expecting "missing escaped value" escapeExpected (Span.point pos))
  match rest with
  | [] => missing
  | c :: more =>
    if c == 98 then .ok ([8], 1)
    else if c == 101 then .ok ([27], 1)
    else if c == 102 then .ok ([12], 1)
    else if c == 110 then .ok ([10], 1)
    else if c == 114 then .ok ([13], 1)
    else if c == 116 then .ok ([9], 1)
    else if c == 92 then .ok ([92], 1)
    else if c == 34 then .ok ([34], 1)
    else if c == 120 then (fun (bs, k) => (bs, k + 1)) <$> hexEscape (pos + 1) 2 more
    else if c == 117 then (fun (bs, k) => (bs, k + 1)) <$> hexEscape (pos + 1) 4 more
    else if c == 85 then (fun (bs, k) => (bs, k + 1)) <$> hexEscape (pos + 1) 8 more
    else missing

/-- Whether a byte stands for itself in a basic string. -/
def isBasicByte (b : UInt8) : Bool :=
  b == 9 || b == 32 || b == 33 || (35 ≤ b && b ≤ 91) || (93 ≤ b && b ≤ 126) || 128 ≤ b

/-- The content of a basic string from offset `pos`: its bytes with escapes replaced. A run
of bytes that may not stand there is refused as a whole. -/
def basicContent (pos : Nat) (bytes : List UInt8) : Except ReadError (List UInt8) :=
  match bytes with
  | [] => .ok []
  | b :: rest =>
    if isBasicByte b then (b :: ·) <$> basicContent (pos + 1) rest
    else if b == 92 then do
      let (out, k) ← escape (pos + 1) rest
      (out ++ ·) <$> basicContent (pos + 1 + k) (rest.drop k)
    else
      let run := (b :: rest).takeWhile fun c => !isBasicByte c && c != 92
      .error (.expecting "invalid basic string"
        [.description "non-double-quote visible characters", .literal "\\"]
        ⟨pos, pos + run.length⟩)
termination_by bytes.length
decreasing_by all_goals simp only [List.length_drop, List.length_cons]; omega

/-- The blanks and line breaks after a backslash that ends a line of a multi-line basic
string; `none` when no line break comes before something else. -/
def lineContinuation (rest : List UInt8) : Option Nat :=
  let blanks := rest.takeWhile fun c => c == 32 || c == 9
  let after := rest.drop blanks.length
  if after.head? == some 10 || after.take 2 == [13, 10] then
    some (rest.takeWhile fun c => c == 32 || c == 9 || c == 10 || c == 13).length
  else none

/-- Whether a byte stands for itself in a multi-line basic string. -/
def isMultiBasicByte (b : UInt8) : Bool := isBasicByte b || b == 34 || b == 10

/-- The content of a multi-line basic string from offset `pos`. -/
def multiBasicContent (pos : Nat) (bytes : List UInt8) : Except ReadError (List UInt8) :=
  match bytes with
  | [] => .ok []
  | b :: rest =>
    if isMultiBasicByte b then (b :: ·) <$> multiBasicContent (pos + 1) rest
    else if b == 92 then
      match rest.head? with
      | some c =>
        if c == 32 || c == 9 || c == 10 || c == 13 then
          match lineContinuation rest with
          | some k => multiBasicContent (pos + 1 + k) (rest.drop k)
          | none => .error (.expecting "missing escaped value" escapeExpected (Span.point (pos + 1)))
        else do
          let (out, k) ← escape (pos + 1) rest
          (out ++ ·) <$> multiBasicContent (pos + 1 + k) (rest.drop k)
      | none => .error (.expecting "missing escaped value" escapeExpected (Span.point (pos + 1)))
    else if b == 13 then
      if rest.head? == some 10 then ([13, 10] ++ ·) <$> multiBasicContent (pos + 2) (rest.drop 1)
      else .error (.expecting "carriage return must be followed by newline" [.literal "\n"]
        (Span.point (pos + 1)))
    else
      let run := (b :: rest).takeWhile fun c => !isMultiBasicByte c && c != 92 && c != 13
      .error (.expecting "invalid multi-line basic string"
        [.description "non-double-quote characters", .literal "\\"] ⟨pos, pos + run.length⟩)
termination_by bytes.length
decreasing_by all_goals simp only [List.length_drop, List.length_cons]; omega

/-- Whether a byte may stand in a literal string. -/
def isLiteralByte (b : UInt8) : Bool :=
  b == 9 || (32 ≤ b && b ≤ 38) || (40 ≤ b && b ≤ 126) || 128 ≤ b

/-- The first byte from offset `pos` that may not stand in a literal string, refused. -/
def literalContent (pos : Nat) (bytes : List UInt8) : Except ReadError Unit :=
  match bytes.findIdx? (fun b => !isLiteralByte b) with
  | some i =>
    .error (.expecting "invalid literal string"
      [.description "non-single-quote visible characters"] (Span.point (pos + i)))
  | none => .ok ()

/-- Whether a byte may stand in a multi-line literal string, a carriage return apart. -/
def isMultiLiteralByte (b : UInt8) : Bool := b == 9 || b == 10 || (32 ≤ b && b ≤ 126) || 128 ≤ b

/-- The first fault of a multi-line literal string's content from offset `pos`. -/
def multiLiteralContent (pos : Nat) : List UInt8 → Except ReadError Unit
  | [] => .ok ()
  | b :: rest =>
    if b == 13 then
      if rest.head? == some 10 then multiLiteralContent (pos + 1) rest
      else .error (.expecting "carriage return must be followed by newline" [.literal "\n"]
        (Span.point (pos + 1)))
    else if isMultiLiteralByte b then multiLiteralContent (pos + 1) rest
    else .error (.expecting "invalid multi-line literal string"
      [.description "non-single-quote characters"] (Span.point pos))

/-- The bytes between a string's opening and closing delimiters `delim`; `expected` is what
a missing one is reported as. -/
def between (raw delim : List UInt8) (description : String) (expected : String) :
    Except ReadError (List UInt8) :=
  let n := raw.length
  if raw.take delim.length != delim then
    .error (.expecting description [.literal expected] (Span.point 0))
  else
    let inner := raw.drop delim.length
    if inner.length < delim.length || inner.drop (inner.length - delim.length) != delim then
      .error (.expecting description [.literal expected] (Span.point n))
    else .ok (inner.take (inner.length - delim.length))

/-- The bytes after a line break that opens a multi-line string, and how many were dropped. -/
def dropOpeningBreak (bytes : List UInt8) : List UInt8 × Nat :=
  if bytes.head? == some 10 then (bytes.drop 1, 1)
  else if bytes.take 2 == [13, 10] then (bytes.drop 2, 2)
  else (bytes, 0)

/-- The text a quoted string spells. -/
def quoted (raw : List UInt8) : Quoting → Except ReadError String
  | .basic => do
    let inner ← between raw [34] "invalid basic string" "\""
    textOf <$> basicContent 1 inner
  | .literal => do
    let inner ← between raw [39] "invalid literal string" "'"
    literalContent 1 inner
    return textOf inner
  | .multiBasic => do
    let inner ← between raw [34, 34, 34] "invalid multi-line basic string" "\""
    let (inner, k) := dropOpeningBreak inner
    textOf <$> multiBasicContent (3 + k) inner
  | .multiLiteral => do
    let inner ← between raw [39, 39, 39] "invalid multi-line literal string" "'"
    let (inner, k) := dropOpeningBreak inner
    multiLiteralContent (3 + k) inner
    return textOf inner
  | .bare => .ok (textOf raw)

/-! ### Keys -/

/-- What a bare key may hold, as faults list it. -/
def keyExpected : List Expected :=
  [.description "letters", .description "numbers", .literal "-", .literal "_"]

/-- Whether a byte may stand in a bare key. -/
def isBareKeyByte (b : UInt8) : Bool :=
  isDigit b || (97 ≤ b && b ≤ 122) || (65 ≤ b && b ≤ 90) || b == 45 || b == 95

/-- The key a key part spells. -/
def key (raw : List UInt8) : Quoting → Except ReadError String
  | .bare =>
    if raw.isEmpty then
      .error (.expecting "unquoted keys cannot be empty" keyExpected (Span.point 0))
    else
      match raw.findIdx? (fun b => !isBareKeyByte b) with
      | some i =>
        .error (.expecting "invalid unquoted key" keyExpected
          ⟨i, i + widthOf (raw.getD i 0)⟩)
      | none => .ok (textOf raw)
  | .multiLiteral =>
    .error (.expecting "keys cannot be multi-line literal strings"
      [.description "basic string", .description "literal string"] ⟨0, raw.length⟩)
  | .multiBasic =>
    .error (.expecting "keys cannot be multi-line basic strings"
      [.description "basic string", .description "literal string"] ⟨0, raw.length⟩)
  | q => quoted raw q

/-! ### Unquoted scalars -/

/-- Integers of a radix, or floats: what a run of digits is read as. -/
inductive NumberKind where
  | integer (radix : Nat)
  | float
  deriving DecidableEq, Repr, Inhabited

/-- Whether a byte is a digit for the purpose of underscores between digits. -/
def isAnyDigit (kind : NumberKind) (b : UInt8) : Bool :=
  match kind with
  | .float => isDigit b
  | .integer _ => isHexDigit b

/-- The refusal of an unquoted scalar that is nothing else: a string without its quotes. -/
def unquoted {α : Type} (raw : List UInt8) : Except ReadError α :=
  let endsWith (s : List UInt8) : Bool :=
    s.length ≤ raw.length && raw.drop (raw.length - s.length) == s
  let missingOpen (q : String) : Except ReadError α :=
    .error (.expecting "missing opening quote" [.literal q] (Span.point 0))
  if endsWith [39, 39, 39] then missingOpen "'''"
  else if endsWith [34, 34, 34] then missingOpen "\"\"\""
  else if endsWith [39] then missingOpen "'"
  else if endsWith [34] then missingOpen "\""
  else .error (.expecting "string values must be quoted" [.description "literal string"]
    ⟨0, raw.length⟩)

/-- The fault of an underscore that is not between digits. -/
def misplacedUnderscore (span : Span) : ReadError :=
  .expecting "\x60_\x60 may only go between digits" [] span

/-- The parts of bytes between underscores, each with its offset; the bytes start at
offset `start`. -/
def underscoreParts (bytes : List UInt8) (start : Nat) : List (List UInt8 × Nat) :=
  let step (acc : List (List UInt8 × Nat) × List UInt8 × Nat × Nat) (b : UInt8) :=
    let (done, part, partStart, pos) := acc
    if b == 95 then ((part.reverse, partStart) :: done, [], pos + 1, pos + 1)
    else (done, b :: part, partStart, pos + 1)
  let (done, part, partStart, _) := bytes.foldl step ([], [], start, start)
  ((part.reverse, partStart) :: done).reverse

/-- The number a stream of digits spells, the stream being the tail of the scalar `raw` (of
`n` bytes): underscores checked and dropped. -/
def number (n : Nat) (stream : List UInt8) (kind : NumberKind) : Except ReadError Value := do
  let p := n - stream.length
  if stream.contains 95 then
    if stream.head? == some 95 then throw (misplacedUnderscore ⟨p, p + 1⟩)
    if stream.length > 1 && stream.getLast? == some 95 then
      throw (misplacedUnderscore ⟨n - 1, n⟩)
    for (part, ps) in underscoreParts stream p do
      let pe := ps + part.length
      if 0 < ps && !isAnyDigit kind (part.head?.getD 95) then
        throw (misplacedUnderscore ⟨ps - 1, ps⟩)
      if 1 < part.length && pe < n && !isAnyDigit kind (part.getLast?.getD 95) then
        throw (misplacedUnderscore ⟨pe, pe + 1⟩)
  let digits := textOf (stream.filter (· != 95))
  return match kind with
    | .integer radix => .integer digits radix
    | .float => .float digits

/-- The digits and underscores at the front, counting the digits. -/
def digitRun (bytes : List UInt8) : Nat × List UInt8 :=
  let run := bytes.takeWhile fun b => isDigit b || b == 95
  (run.countP isDigit, bytes.drop run.length)

/-- Refuses a decimal number with a leading zero; `value` is the tail of a scalar of `n`
bytes. -/
def noLeadingZero (n : Nat) (value : List UInt8) : Except ReadError Unit :=
  if value.head? == some 48 then
    let p := n - value.length
    .error (.expecting "unexpected leading zero" [] ⟨p, p + 1⟩)
  else .ok ()

/-- Checks the shape of a float: a mantissa of digits without a leading zero, then a
fraction, an exponent or both, each with digits, and nothing after. -/
def checkFloat (n : Nat) (value : List UInt8) : Except ReadError Unit := do
  let (count, afterMantissa) := digitRun value
  if count == 0 then
    throw (.expecting "invalid mantissa" [.description "digits"] (Span.point (n - value.length)))
  if count ≥ 2 && value.head? == some 48 then
    let p := n - value.length
    throw (.expecting "unexpected leading zero" [] ⟨p, p + 1⟩)
  let afterFraction ← match afterMantissa with
    | 46 :: more =>
      let (c, after) := digitRun more
      if c == 0 then
        throw (.expecting "invalid fraction" [.description "digits"] (Span.point (n - more.length)))
      else pure after
    | _ => pure afterMantissa
  let afterExponent ← match afterFraction with
    | e :: more =>
      if e == 101 || e == 69 then
        let digits := if more.head? == some 43 || more.head? == some 45 then more.drop 1 else more
        let (c, after) := digitRun digits
        if c == 0 then
          throw (.expecting "invalid exponent" [.description "digits"]
            (Span.point (n - digits.length)))
        else pure after
      else pure afterFraction
    | [] => pure []
  if !afterExponent.isEmpty then
    throw (.expecting "invalid float" [] ⟨n - afterExponent.length, n⟩)

/-- A date or time, checked. -/
def datetime (raw : List UInt8) : Except ReadError Value :=
  match Datetime.check raw with
  | .ok () => .ok (.datetime (textOf raw))
  | .error m => .error (.bare m ⟨0, raw.length⟩)

/-- A scalar whose `value` (its tail after any sign) starts with a digit or an underscore:
a date or time, a float, or a decimal integer. -/
def datetimeOrNumber (raw value : List UInt8) : Except ReadError Value := do
  let n := raw.length
  let lead := value.takeWhile isDigit
  if lead.length == value.length then
    noLeadingZero n value
    number n raw (.integer 10)
  else
    let rest := value.drop lead.length
    if rest.head? == some 45 || rest.head? == some 58 then datetime raw
    else if rest.contains 32 then unquoted raw
    else if rest.any (fun b => b == 46 || b == 101 || b == 69) then
      checkFloat n value
      number n raw .float
    else if rest.head? == some 95 then
      noLeadingZero n value
      number n raw (.integer 10)
    else unquoted raw

/-- The digits after a radix prefix, checked: no sign, and only digits of the radix and
underscores. -/
def checkRadixDigits (n : Nat) (stream : List UInt8) (radix : Nat) (description : String) :
    Except ReadError Unit := do
  let p := n - stream.length
  if stream.head? == some 43 || stream.head? == some 45 then
    throw (.expecting "unexpected sign" [] ⟨p, p + 1⟩)
  let valid (b : UInt8) : Bool :=
    b == 95 || (if radix == 16 then isHexDigit b else isDigit b && b.toNat - 48 < radix)
  match stream.findIdx? (fun b => !valid b) with
  | some i => throw (.bare description ⟨p + i, p + i + widthOf (stream.getD i 0)⟩)
  | none => pure ()

/-- A scalar whose `value` (its tail after any sign) starts with `0`. -/
def zeroPrefix (raw value : List UInt8) (signed : Bool) : Except ReadError Value := do
  let n := raw.length
  let p := n - value.length
  match value with
  | _ :: r :: rest =>
    let radixed (radix : Nat) (lower description : String) : Except ReadError Value := do
      if signed then throw (.expecting "integers with a radix cannot be signed" [] ⟨0, 1⟩)
      if r == 88 || r == 79 || r == 66 then
        throw (.expecting "radix must be lowercase" [.literal lower] ⟨p, p + 2⟩)
      checkRadixDigits n rest radix description
      number n rest (.integer radix)
    if r == 120 || r == 88 then radixed 16 "0x" "invalid hexadecimal number"
    else if r == 111 || r == 79 then radixed 8 "0o" "invalid octal number"
    else if r == 98 || r == 66 then radixed 2 "0b" "invalid binary number"
    else if r == 100 || r == 68 then
      if signed then throw (.expecting "integers with a radix cannot be signed" [] ⟨0, 1⟩)
      throw (.expecting "redundant integer number prefix" [] ⟨p, p + 2⟩)
    else datetimeOrNumber raw value
  | _ => number n raw (.integer 10)

/-- A word that must be spelled exactly `word`. -/
def symbol (raw : List UInt8) (word : String) (v : Value) (description : String) :
    Except ReadError Value :=
  if raw == word.toUTF8.data.toList then .ok v
  else if raw.contains 32 then unquoted raw
  else .error (.expecting description [.literal word] ⟨0, raw.length⟩)

/-- A scalar after its sign; `value` is its tail. -/
def afterSign (raw value : List UInt8) : Except ReadError Value := do
  let n := raw.length
  let p := n - value.length
  match value with
  | [] => unquoted raw
  | b :: _ =>
    if b == 43 || b == 45 then throw (.expecting "redundant numeric sign" [] ⟨p, p + 1⟩)
    else if b == 95 || (isDigit b && b != 48) then datetimeOrNumber raw value
    else if b == 48 then zeroPrefix raw value true
    else if b == 46 then
      checkFloat n value
      number n raw .float
    else if b == 105 || b == 73 || b == 110 || b == 78 then
      let word := if b == 105 || b == 73 then "inf" else "nan"
      if value == word.toUTF8.data.toList then return .float (textOf raw)
      else throw (.expecting "invalid float" [.literal word] ⟨p, n⟩)
    else unquoted raw

/-- The value an unquoted scalar spells. -/
def unquotedValue (raw : List UInt8) : Except ReadError Value := do
  match raw with
  | [] => unquoted raw
  | b :: rest =>
    if b == 43 || b == 45 then afterSign raw rest
    else if b == 95 || (isDigit b && b != 48) then datetimeOrNumber raw raw
    else if b == 48 then zeroPrefix raw raw false
    else if b == 46 then
      checkFloat raw.length raw
      number raw.length raw .float
    else if b == 116 || b == 84 then symbol raw "true" (.boolean true) "invalid boolean"
    else if b == 102 || b == 70 then symbol raw "false" (.boolean false) "invalid boolean"
    else if b == 105 || b == 73 then symbol raw "inf" (.float "inf") "invalid float"
    else if b == 110 || b == 78 then symbol raw "nan" (.float "nan") "invalid float"
    else unquoted raw

/-- The value a scalar spells. -/
def value (raw : List UInt8) : Quoting → Except ReadError Value
  | .bare => unquotedValue raw
  | q => Value.string <$> quoted raw q

end LabFleet.Toml.Scalar
