import LabFleet.Toml.Token

/-!
The shape of a TOML document as written: a list of statements, each a key/value pair or a
table header, with keys and scalars left as the stretches of text that spell them. Reading
tokens into this shape finds the faults of layout, and the first one found is the one
reported:

* after a pair or a header only whitespace and a comment may follow on the line
  ("unexpected key or value");
* a key needs `=` and a value after it, a header its closing bracket, an array and an inline
  table their closing ones, and commas go between their items, never two in a row;
* a comment holds printable characters only, and a carriage return is followed by a line
  feed;
* arrays and inline tables nest at most eighty deep.

A missing key or scalar (`= 1`, `a. = 1`, `x =`) is not a fault of layout: it is read as an
empty piece of text, which the decoding of keys and values refuses.
-/

namespace LabFleet.Toml

/-- How a key or a scalar is written. -/
inductive Quoting where
  | bare
  | basic
  | literal
  | multiBasic
  | multiLiteral
  deriving DecidableEq, Repr, Inhabited

/-- A key part or a scalar as written: where it stands and how it is quoted. -/
structure Piece where
  span : Span
  quoting : Quoting
  deriving DecidableEq, Repr, Inhabited

/-- A value as written. -/
inductive Written where
  | scalar (piece : Piece)
  | array (items : List Written) (span : Span)
  /-- An inline table: its pairs, each a dotted key and a value, in order. -/
  | inlineTable (pairs : List (List Piece × Written)) (span : Span)
  deriving Repr, Inhabited

/-- A statement of a document. -/
inductive Statement where
  | pair (key : List Piece) (value : Written)
  /-- A table header; `ofArrays` for `[[…]]`, which adds a table to an array of tables. -/
  | header (key : List Piece) (ofArrays : Bool) (span : Span)
  deriving Repr, Inhabited

namespace Syntax

/-- The tokens still to read and those read, the latest first. -/
structure Cursor where
  rest : List Token
  taken : List Token

/-- Reading tokens, stopping at the first fault. -/
abbrev Parser := StateT Cursor (Except ReadError)

/-- Stops with a fault. -/
def fault {α : Type} (e : ReadError) : Parser α := throw e

/-- Takes the next token. -/
def next? : Parser (Option Token) := modifyGet fun c =>
  match c.rest with
  | [] => (none, c)
  | t :: r => (some t, ⟨r, t :: c.taken⟩)

/-- The next token, not taken. -/
def peek? : Parser (Option Token) := return (← get).rest.head?

/-- The token after the next, not taken. -/
def peekSecond? : Parser (Option Token) := return ((← get).rest.drop 1).head?

/-- Puts the latest token back. -/
def back : Parser Unit := modify fun c =>
  match c.taken with
  | [] => c
  | t :: ts => ⟨t :: c.rest, ts⟩

/-- Takes the next token if its kind passes `p`. -/
def nextIf (p : TokenKind → Bool) : Parser (Option Token) := do
  match ← peek? with
  | some t => if p t.kind then next? else pure none
  | none => pure none

/-- The latest token read whose kind passes `p`. -/
def lastTaken (p : TokenKind → Bool) : Parser Span := do
  return (((← get).taken.find? fun t => p t.kind).map (·.span)).getD (Span.point 0)

/-- Whether a token kind says something: neither layout nor the end. -/
def isSignificant (k : TokenKind) : Bool :=
  !(k == .whitespace || k == .comment || k == .newline || k == .eof)

/-- The quoting of a token that spells a key or a scalar. -/
def quotingOf : TokenKind → Option Quoting
  | .atom => some .bare
  | .basicString => some .basic
  | .literalString => some .literal
  | .multiBasicString => some .multiBasic
  | .multiLiteralString => some .multiLiteral
  | _ => none

/-- Whether a byte may stand in a comment: a tab, a printable ASCII character, or a byte of
a character beyond ASCII. -/
def isCommentByte (b : UInt8) : Bool := b == 9 || (32 ≤ b && b ≤ 126) || 128 ≤ b

/-- The first byte of a comment token that may not stand in a comment. -/
def checkComment (source : Array UInt8) (t : Token) : Parser Unit := do
  let bytes := (source.extract t.span.start t.span.stop).toList
  match bytes.findIdx? (fun b => !isCommentByte b) with
  | some i =>
    fault (.expecting "invalid comment character" [.description "printable characters"]
      (Span.point (t.span.start + i)))
  | none => pure ()

/-- A newline token that is a lone carriage return is refused just after it. -/
def checkNewline (source : Array UInt8) (t : Token) : Parser Unit := do
  if source.getD t.span.start 0 == 13 && t.span.stop - t.span.start == 1 then
    fault (.expecting "carriage return must be followed by newline" [.literal "\n"]
      (Span.point (t.span.start + 1)))

/-- A comment and the newline after it. -/
def comment (source : Array UInt8) (t : Token) : Parser Unit := do
  checkComment source t
  match ← next? with
  | some n =>
    if n.kind == .newline then checkNewline source n
    else if n.kind != .eof then back
  | none => pure ()

/-- Passes over whitespace. -/
def skipWhitespace : Nat → Parser Unit
  | 0 => pure ()
  | fuel + 1 => do
    if (← nextIf (· == .whitespace)).isSome then skipWhitespace fuel

/-- The rest of a line after a pair or a header: whitespace, then a comment, a newline or
the end; anything else is refused. -/
def endOfLine (source : Array UInt8) : Nat → Parser Unit
  | 0 => pure ()
  | fuel + 1 => do
    match ← next? with
    | none => pure ()
    | some t =>
      match t.kind with
      | .whitespace => endOfLine source fuel
      | .comment => comment source t
      | .newline => checkNewline source t
      | .eof => pure ()
      | _ =>
        fault (.expecting "unexpected key or value" [.literal "\n", .literal "#"] t.span)

/-- Passes over the rest of a line whose statement is already lost. -/
def skipLine (source : Array UInt8) : Nat → Parser Unit
  | 0 => pure ()
  | fuel + 1 => do
    match ← next? with
    | none => pure ()
    | some t =>
      match t.kind with
      | .newline => checkNewline source t
      | .eof => pure ()
      | .comment => comment source t
      | _ => skipLine source fuel

/-- A bare piece of no text, where a key or a scalar is missing. -/
def missingPiece (near : Span) : Piece := ⟨near.before, .bare⟩

/-- Further dotted parts of a key, after a part; `false` when a part is missing. -/
def dottedParts : Nat → List Piece → Parser (List Piece × Bool)
  | 0, parts => pure (parts, true)
  | fuel + 1, parts => do
    skipWhitespace fuel
    match ← nextIf (· == .dot) with
    | none => pure (parts, true)
    | some _ => afterDot fuel parts
where
  /-- The part after a dot. -/
  afterDot : Nat → List Piece → Parser (List Piece × Bool)
    | 0, parts => pure (parts, true)
    | fuel + 1, parts => do
      match ← next? with
      | none => pure (parts, true)
      | some t =>
        match quotingOf t.kind with
        | some q => dottedParts fuel (parts ++ [⟨t.span, q⟩])
        | none =>
          if t.kind == .whitespace then afterDot fuel parts
          else if t.kind == .dot then afterDot fuel (parts ++ [missingPiece t.span])
          else do
            back
            pure (parts ++ [missingPiece t.span], false)

/-- A key, dotted or not; `false` when a part is missing. -/
def key : Nat → List Piece → Parser (List Piece × Bool)
  | 0, parts => pure (parts, false)
  | fuel + 1, parts => do
    match ← next? with
    | none => pure (parts, false)
    | some t =>
      match quotingOf t.kind with
      | some q => dottedParts fuel (parts ++ [⟨t.span, q⟩])
      | none =>
        if t.kind == .whitespace then key fuel parts
        else if t.kind == .dot then key fuel (parts ++ [missingPiece t.span])
        else do
          back
          pure (parts ++ [missingPiece t.span], false)

/-- The scalar that starts with an atom or a dot: the atoms and dots that follow it, and an
atom after a single run of whitespace, as in a date and a time. -/
def scalarSpan : Nat → Span → Parser Span
  | 0, span => pure span
  | fuel + 1, span => do
    match ← peek? with
    | some t =>
      if t.kind == .atom || t.kind == .dot then
        let _ ← next?
        scalarSpan fuel (span.join t.span)
      else if t.kind == .whitespace then
        match ← peekSecond? with
        | some u =>
          if u.kind == .atom then
            let _ ← next?
            let _ ← next?
            scalarSpan fuel (span.join u.span)
          else pure span
        | none => pure span
      else pure span
    | none => pure span

/-- The deepest nesting of arrays and inline tables. -/
def maxDepth : Nat := 80

/-- The fault of an array or inline table opened too deep. -/
def tooDeep (open_ : Token) : ReadError :=
  .bare "cannot recurse further; max recursion depth met" open_.span

/-- The fault of an array or inline table never closed: just after the last token read that
says something. -/
def unclosed {α : Type} (description close : String) : Parser α := do
  let last ← lastTaken isSignificant
  fault (.expecting description [.literal close] last.after)

/-- The states of an inline table between its braces. -/
inductive InlineState where
  | needsKey
  | needsEquals (key : List Piece)
  | needsValue (key : List Piece)
  | needsComma
  deriving Inhabited

mutual

/-- A value; `depth` counts the arrays and inline tables around it. -/
def value (source : Array UInt8) (depth : Nat) : Nat → Parser Written
  | 0 => pure (.scalar (missingPiece (Span.point 0)))
  | fuel + 1 => do
    match ← next? with
    | none => pure (.scalar (missingPiece (Span.point 0)))
    | some t =>
      match t.kind with
      | .comment | .comma | .newline | .eof | .whitespace =>
        back
        pure (.scalar (missingPiece t.span))
      | .equals => fault (.expecting "extra \x60=\x60" [] t.span)
      | .leftBrace =>
        if depth + 1 > maxDepth then fault (tooDeep t)
        else inlineTable source (depth + 1) t .needsKey [] fuel
      | .rightBrace =>
        fault (.expecting "missing inline table opening" [.literal "\x7b"] t.span.before)
      | .leftBracket =>
        if depth + 1 > maxDepth then fault (tooDeep t)
        else array source (depth + 1) t false [] fuel
      | .rightBracket => fault (.expecting "missing array opening" [.literal "["] t.span.before)
      | .atom | .dot => return .scalar ⟨← scalarSpan fuel t.span, .bare⟩
      | kind => return .scalar ⟨t.span, (quotingOf kind).getD .bare⟩

/-- The items of an array after its opening bracket `open_`; `needsComma` after an item. -/
def array (source : Array UInt8) (depth : Nat) (open_ : Token) (needsComma : Bool)
    (items : List Written) : Nat → Parser Written
  | 0 => pure (.array items open_.span)
  | fuel + 1 => do
    match ← next? with
    | none => unclosed "unclosed array" "]"
    | some t =>
      match t.kind with
      | .comment => do comment source t; array source depth open_ needsComma items fuel
      | .whitespace => array source depth open_ needsComma items fuel
      | .newline => do checkNewline source t; array source depth open_ needsComma items fuel
      | .eof => unclosed "unclosed array" "]"
      | .comma =>
        if needsComma then array source depth open_ false items fuel
        else fault (.expecting "extra comma in array" [.description "value"] t.span)
      | .rightBracket => pure (.array items (open_.span.join t.span))
      | _ =>
        if needsComma then
          fault (.expecting "missing comma between array elements" [.literal ","] t.span.before)
        else do
          back
          let item ← value source depth fuel
          array source depth open_ true (items ++ [item]) fuel

/-- The pairs of an inline table after its opening brace `open_`. -/
def inlineTable (source : Array UInt8) (depth : Nat) (open_ : Token) (state : InlineState)
    (pairs : List (List Piece × Written)) : Nat → Parser Written
  | 0 => pure (.inlineTable pairs open_.span)
  | fuel + 1 => do
    match ← next? with
    | none => unclosed "unclosed inline table" "\x7d"
    | some t =>
      match t.kind, state with
      | .comment, _ => do comment source t; inlineTable source depth open_ state pairs fuel
      | .whitespace, _ => inlineTable source depth open_ state pairs fuel
      | .newline, _ => do checkNewline source t; inlineTable source depth open_ state pairs fuel
      | .eof, _ => unclosed "unclosed inline table" "\x7d"
      | .comma, .needsComma => inlineTable source depth open_ .needsKey pairs fuel
      | .comma, .needsKey =>
        fault (.expecting "extra comma in inline table" [.description "key"] t.span)
      | .comma, .needsEquals _ =>
        fault (.expecting "key with no value" [.literal "="] t.span.before)
      | .comma, .needsValue _ =>
        fault (.expecting "missing value" [.description "value"] t.span.before)
      | .equals, .needsKey =>
        inlineTable source depth open_ (.needsValue [missingPiece t.span]) pairs fuel
      | .equals, .needsEquals k => inlineTable source depth open_ (.needsValue k) pairs fuel
      | .equals, .needsValue _ => fault (.expecting "extra \x60=\x60" [] t.span)
      | .equals, .needsComma =>
        fault (.expecting "extra assignment between key-value pairs" [.literal ","] t.span)
      | .rightBrace, .needsEquals _ =>
        fault (.expecting "key with no value" [.literal "="] t.span.before)
      | .rightBrace, .needsValue _ =>
        fault (.expecting "missing value" [.description "value"] t.span.before)
      | .rightBrace, _ => pure (.inlineTable pairs (open_.span.join t.span))
      | _, .needsKey => do
        back
        let (k, _) ← key fuel []
        inlineTable source depth open_ (.needsEquals k) pairs fuel
      | _, .needsEquals _ =>
        fault (.expecting "key with no value" [.literal "="] t.span.before)
      | _, .needsValue k => do
        back
        let v ← value source depth fuel
        inlineTable source depth open_ .needsComma (pairs ++ [(k, v)]) fuel
      | _, .needsComma =>
        fault (.expecting "missing comma between key-value pairs" [.literal ","] t.span.before)

end

/-- The value of a pair after its `=`, and the rest of its line. -/
def pairValue (source : Array UInt8) (fuel : Nat) (k : List Piece) : Parser Statement := do
  skipWhitespace fuel
  let v ← value source 0 fuel
  endOfLine source fuel
  return .pair k v

/-- A pair whose key has been read: its `=`, value and the rest of its line. -/
def afterKey (source : Array UInt8) (fuel : Nat) (k : List Piece) : Parser (Option Statement) := do
  skipWhitespace fuel
  match ← peek? with
  | some t =>
    if t.kind == .equals then
      let _ ← next?
      return some (← pairValue source fuel k)
    else fault (.expecting "key with no value" [.literal "="] t.span.before)
  | none => pure none

/-- A table header after its opening bracket `open_`, and the rest of its line. -/
def header (source : Array UInt8) (fuel : Nat) (open_ : Token) : Parser (Option Statement) := do
  let second ← nextIf (· == .leftBracket)
  let ofArrays := second.isSome
  skipWhitespace fuel
  let (k, valid) ← key fuel []
  skipWhitespace fuel
  match ← nextIf (· == .rightBracket) with
  | some close =>
    if ofArrays then
      match ← nextIf (· == .rightBracket) with
      | some close2 =>
        endOfLine source fuel
        return some (.header k true (open_.span.join close2.span))
      | none => fault (.expecting "unclosed array table" [.literal "]"] close.span.after)
    else
      endOfLine source fuel
      return some (.header k false (open_.span.join close.span))
  | none =>
    if valid then
      let last ← lastTaken (· != .whitespace)
      if ofArrays then fault (.expecting "unclosed array table" [.literal "]]"] last.after)
      else fault (.expecting "unclosed table" [.literal "]"] last.after)
    else
      skipLine source fuel
      return some (.header k ofArrays open_.span)

/-- The statements of a document from its remaining tokens. -/
def statements (source : Array UInt8) : Nat → List Statement → Parser (List Statement)
  | 0, acc => pure acc.reverse
  | fuel + 1, acc => do
    match ← next? with
    | none => pure acc.reverse
    | some t =>
      let add (s : Option Statement) : List Statement := match s with
        | some s => s :: acc
        | none => acc
      match t.kind with
      | .eof => pure acc.reverse
      | .whitespace => statements source fuel acc
      | .newline => do checkNewline source t; statements source fuel acc
      | .comment => do comment source t; statements source fuel acc
      | .leftBracket => statements source fuel (add (← header source fuel t))
      | .equals => do
        back
        statements source fuel (add (← afterKey source fuel [missingPiece t.span]))
      | .dot => do
        back
        let (k, _) ← dottedParts fuel [missingPiece t.span]
        statements source fuel (add (← afterKey source fuel k))
      | kind =>
        match quotingOf kind with
        | some q => do
          let (k, _) ← dottedParts fuel [⟨t.span, q⟩]
          statements source fuel (add (← afterKey source fuel k))
        | none => do
          back
          statements source fuel (add (← afterKey source fuel [missingPiece t.span]))

end Syntax

/-- The statements of a document given as its bytes, or the first fault of layout. -/
def Syntax.read (bytes : List UInt8) : Except ReadError (List Statement) :=
  let tokens := Token.scan bytes
  let fuel := 4 * tokens.length + 4
  (Syntax.statements bytes.toArray fuel []).run' ⟨tokens, []⟩

end LabFleet.Toml
