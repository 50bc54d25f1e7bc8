import LabFleet.Utf8

/-!
Faults found while reading a TOML document, and how they are shown. A fault says what is
wrong, what was expected instead, and the stretch of text it points at, by byte offsets. It
is shown with the line it points at, underlined:

```
TOML parse error at line 1, column 17
  |
1 | crash_ceiling = 1.5
  |                 ^^^
invalid type: floating point `1.5`, expected u32
```

The line number counts line feeds before the point. The column counts the characters of the
line up to and including the pointed-at byte when that byte ends a character, and bytes
otherwise; a point past the end of the text is shown after the last byte. The underline has
one mark per byte of the span, cut where the line ends (the count of marks compares bytes
with the column), and never fewer than one. A fault with no span is shown as its message alone.
-/

namespace LabFleet.Toml

/-- A stretch of the document by byte offsets: `start` included, `stop` excluded. -/
structure Span where
  start : Nat
  stop : Nat
  deriving DecidableEq, Repr, Inhabited

namespace Span

/-- The empty span where this one starts. -/
def before (s : Span) : Span := ⟨s.start, s.start⟩

/-- The empty span where this one stops. -/
def after (s : Span) : Span := ⟨s.stop, s.stop⟩

/-- The empty span at an offset. -/
def point (offset : Nat) : Span := ⟨offset, offset⟩

/-- The span moved right by `n` bytes. -/
def shift (s : Span) (n : Nat) : Span := ⟨s.start + n, s.stop + n⟩

/-- The span from the start of one to the stop of another. -/
def join (a b : Span) : Span := ⟨a.start, b.stop⟩

end Span

/-- What a fault says was expected instead. -/
inductive Expected where
  /-- Literal text, shown between backquotes; a line feed is shown as the word `newline`. -/
  | literal (text : String)
  /-- A kind of thing, shown as it is. -/
  | description (text : String)
  deriving DecidableEq, Repr, Inhabited

/-- How an expectation is shown. -/
def Expected.shown : Expected → String
  | .literal "\n" => "newline"
  | .literal text => "\x60" ++ text ++ "\x60"
  | .description text => text

/-- A fault in a document: what is wrong, what was expected instead (`none` when the fault
says nothing of it, the empty list when nothing was), and where. -/
structure ReadError where
  description : String
  expected : Option (List Expected) := none
  span : Option Span := none
  deriving DecidableEq, Repr, Inhabited

/-- A fault at a span. -/
def ReadError.expecting (description : String) (expected : List Expected) (span : Span) : ReadError :=
  ⟨description, some expected, some span⟩

/-- A fault at a span that states no expectation. -/
def ReadError.bare (description : String) (span : Span) : ReadError :=
  ⟨description, none, some span⟩

/-- The fault moved right by `n` bytes. -/
def ReadError.shift (e : ReadError) (n : Nat) : ReadError :=
  { e with span := e.span.map (·.shift n) }

/-- The message: what is wrong, then what was expected. -/
def ReadError.message (e : ReadError) : String :=
  match e.expected with
  | none => e.description
  | some [] => e.description ++ ", expected nothing"
  | some es => e.description ++ ", expected " ++ ", ".intercalate (es.map Expected.shown)

/-- The zero-based line and column of a byte offset of a text, as faults show them. -/
def position (bytes : Array UInt8) (index : Nat) : Nat × Nat :=
  if bytes.size = 0 then (0, index)
  else
    let safe := min index (bytes.size - 1)
    let list := bytes.toList
    let before := list.take safe
    let lineStart := match before.reverse.findIdx? (· == 10) with
      | some i => safe - i
      | none => 0
    let line := (list.take lineStart).count 10
    let endsChar := safe + 1 = bytes.size || !Utf8.isContinuation (bytes.getD (safe + 1) 0)
    let column :=
      if endsChar then
        (((list.drop lineStart).take (safe + 1 - lineStart)).countP
          (fun b => !Utf8.isContinuation b)) - 1
      else safe - lineStart
    (line, column + (index - safe))

/-- The fault shown with its line and an underline of its span. -/
def ReadError.render (e : ReadError) (source : String) : String :=
  match e.span with
  | none => e.message ++ "\n"
  | some span =>
    let (line, column) := position source.toUTF8.data span.start
    let content := ((source.splitOn "\n").drop line).headD ""
    let lineNumber := toString (line + 1)
    let gutter := String.ofList (List.replicate (lineNumber.length + 1) ' ')
    let marks := max 1 (min (span.stop - span.start) (content.utf8ByteSize - column))
    "TOML parse error at line " ++ lineNumber ++ ", column " ++ toString (column + 1) ++ "\n" ++
      gutter ++ "|\n" ++
      lineNumber ++ " | " ++ content ++ "\n" ++
      gutter ++ "|" ++ String.ofList (List.replicate (column + 1) ' ') ++
      String.ofList (List.replicate marks '^') ++ "\n" ++
      e.message ++ "\n"

end LabFleet.Toml
