import LabFleet.Toml.Error

/-!
The tokens of a TOML document. The bytes of a document fall into tokens without any fault:
a token that is malformed (a string without its closing quote, a run of stray characters)
is still a token, and it is the later stages that refuse it.

* Each of `.`, `=`, `,`, `[`, `]`, `{`, `}` is a token of its own.
* Whitespace is a run of spaces and tabs.
* A comment runs from `#` up to a carriage return or a line feed.
* A newline is a line feed, a carriage return with a line feed, or a lone carriage return.
* A basic string runs from `"` through the next quote that no backslash escapes, or up to a
  line feed or the end; a literal string runs from `'` through the next `'`, or up to a line
  feed or the end.
* A multi-line string runs from three quotes through the next three (no backslash escaping
  them, for basic ones), and takes up to two more quotes after them; or to the end.
* Any other run of bytes up to one of `.=,[]{}`, a space, a tab, `#`, a carriage return or
  a line feed is an atom: a bare key, a number, a date, a boolean, or a stray word.

A byte order mark at the start of the document is passed over; offsets still count it. The
last token is always the end of the document, an empty token.
-/

namespace LabFleet.Toml

/-- The kinds of tokens. -/
inductive TokenKind where
  | dot
  | equals
  | comma
  | leftBracket
  | rightBracket
  | leftBrace
  | rightBrace
  | whitespace
  | comment
  | newline
  | literalString
  | basicString
  | multiLiteralString
  | multiBasicString
  | atom
  | eof
  deriving DecidableEq, Repr, Inhabited

/-- A token: its kind and the bytes it covers. -/
structure Token where
  kind : TokenKind
  span : Span
  deriving DecidableEq, Repr, Inhabited

namespace Token

/-- Whether a byte ends an atom. -/
def endsAtom (b : UInt8) : Bool :=
  b == 46 || b == 61 || b == 44 || b == 91 || b == 93 || b == 123 || b == 125 ||
    b == 32 || b == 9 || b == 35 || b == 13 || b == 10

/-- Bytes of a basic string after its opening quote: through the closing quote, or up to a
line feed or the end. A backslash takes a following backslash or quote with it. -/
def basicBody : List UInt8 → Nat
  | [] => 0
  | [b] => if b == 10 then 0 else 1
  | b :: c :: rest =>
    if b == 34 then 1
    else if b == 10 then 0
    else if b == 92 && (c == 92 || c == 34) then 2 + basicBody rest
    else 1 + basicBody (c :: rest)

/-- Bytes of a literal string after its opening quote: through the closing quote, or up to
a line feed or the end. -/
def literalBody : List UInt8 → Nat
  | [] => 0
  | b :: rest =>
    if b == 39 then 1
    else if b == 10 then 0
    else 1 + literalBody rest

/-- How many of the next bytes, at most two, are the quote `q`. -/
def extraQuotes (q : UInt8) : List UInt8 → Nat
  | a :: b :: _ => if a == q then (if b == q then 2 else 1) else 0
  | [a] => if a == q then 1 else 0
  | [] => 0

/-- Bytes of a multi-line string after its three opening quotes `q`: through the next three
and up to two more, or to the end. In a basic one (`escapes`) a backslash takes a following
backslash or quote with it. -/
def multiBody (q : UInt8) (escapes : Bool) : List UInt8 → Nat
  | [] => 0
  | [_] => 1
  | b :: c :: rest =>
    if b == q && (c :: rest).take 2 == [q, q] then 3 + extraQuotes q ((c :: rest).drop 2)
    else if escapes && b == 92 && (c == 92 || c == 34) then 2 + multiBody q escapes rest
    else 1 + multiBody q escapes (c :: rest)

/-- The kind and length of the token at the front of the bytes `b :: rest`. -/
def front (b : UInt8) (rest : List UInt8) : TokenKind × Nat :=
  if b == 46 then (.dot, 1)
  else if b == 61 then (.equals, 1)
  else if b == 44 then (.comma, 1)
  else if b == 91 then (.leftBracket, 1)
  else if b == 93 then (.rightBracket, 1)
  else if b == 123 then (.leftBrace, 1)
  else if b == 125 then (.rightBrace, 1)
  else if b == 32 || b == 9 then (.whitespace, 1 + (rest.takeWhile fun c => c == 32 || c == 9).length)
  else if b == 35 then (.comment, 1 + (rest.takeWhile fun c => c != 13 && c != 10).length)
  else if b == 13 then (.newline, if rest.head? == some 10 then 2 else 1)
  else if b == 10 then (.newline, 1)
  else if b == 39 then
    if rest.take 2 == [39, 39] then (.multiLiteralString, 3 + multiBody 39 false (rest.drop 2))
    else (.literalString, 1 + literalBody rest)
  else if b == 34 then
    if rest.take 2 == [34, 34] then (.multiBasicString, 3 + multiBody 34 true (rest.drop 2))
    else (.basicString, 1 + basicBody rest)
  else (.atom, 1 + (rest.takeWhile fun c => !endsAtom c).length)

/-- The tokens of bytes that start at `offset`, ending with the end of the document. -/
def scanFrom (bytes : List UInt8) (offset : Nat) : List Token :=
  match bytes with
  | [] => [⟨.eof, Span.point offset⟩]
  | b :: rest =>
    let (kind, n) := front b rest
    let n := max n 1
    ⟨kind, ⟨offset, offset + n⟩⟩ :: scanFrom ((b :: rest).drop n) (offset + n)
termination_by bytes.length
decreasing_by simp only [List.length_drop, List.length_cons]; omega

/-- The bytes of a byte order mark. -/
def byteOrderMark : List UInt8 := [0xEF, 0xBB, 0xBF]

/-- The tokens of a document's bytes, a leading byte order mark passed over. -/
def scan (bytes : List UInt8) : List Token :=
  if bytes.take 3 == byteOrderMark then scanFrom (bytes.drop 3) 3 else scanFrom bytes 0

end Token

end LabFleet.Toml
