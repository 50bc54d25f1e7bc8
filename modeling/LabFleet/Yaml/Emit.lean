import LabFleet.Yaml.Node
import LabFleet.Yaml.Scalar

/-!
Writing a YAML value as block-style text. Mappings and sequences are written one entry per
line, nested ones two columns deeper, except that a sequence that is a mapping value starts
at the key's column (`key:` then `- item`). Empty collections are written `[]` and `{}`.

A string is written plain when that reads back as the same string. Otherwise it takes
single quotes, or double quotes with escapes when single quotes cannot hold it (control
characters, or a space next to a line break). A string holding a line feed is written as a
literal block (`|`) when it can be. A key longer than 128 bytes or spanning lines is written
in the explicit form `? key` then `: value`.

Tags are not written: the documents this writes carry none.
-/

namespace LabFleet.Yaml

/-- What a written scalar asks for before the text is looked at. -/
inductive StyleHint where
  | any
  | plain
  | singleQuoted
  | literal
  deriving DecidableEq, Repr

/-- The style a scalar is finally written in. -/
inductive WrittenStyle where
  | plain
  | singleQuoted
  | doubleQuoted
  | literal
  deriving DecidableEq, Repr

/-- The state of the writer: the text so far and where it stands. -/
structure Writer where
  out : String := ""
  column : Nat := 0
  /-- The last thing written was a blank or a line start. -/
  whitespace : Bool := true
  /-- Only indentation has been written on the current line. -/
  indention : Bool := true
  indent : Int := -1
  indents : List Int := []

/-- Writer steps. -/
abbrev EmitM := StateM Writer

namespace Emit

/-- What the text of a scalar allows. -/
structure Analysis where
  multiline : Bool
  flowPlain : Bool
  blockPlain : Bool
  singleQuoted : Bool
  block : Bool
  deriving Repr

/-- A line break as the writer sees it. -/
def isBreak (c : Char) : Bool :=
  c == '\r' || c == '\n' || c == '\x85' || c == '\u2028' || c == '\u2029'

/-- A space. -/
def isSpace (c : Char) : Bool := c == ' '

/-- Characters that may appear unescaped. -/
def isPrintable (c : Char) : Bool :=
  let n := c.toNat
  n == 0x0A || (0x20 ≤ n && n ≤ 0x7E) || (0xA0 ≤ n && n ≤ 0xD7FF) ||
    (0xE000 ≤ n && n ≤ 0xFFFD && n != 0xFEFF) || 0x10000 ≤ n

/-- Space, tab, a line break or the end. -/
def isBlankZ (c : Option Char) : Bool :=
  match c with
  | none => true
  | some c => c == ' ' || c == '\t' || isBreak c

/-- Indicator characters at the start of a scalar. -/
def startIndicators : List Char := "#,[]&*!|>'\"%@\x60".toList ++ ['\x7b', '\x7d']

/-- Looks at a scalar's text to find which styles can write it. -/
def analyze (text : String) : Analysis :=
  let cs := text.toList
  if cs.isEmpty then
    { multiline := false, flowPlain := false, blockPlain := true, singleQuoted := true,
      block := false }
  else
    let marker := cs.take 3 == ['-', '-', '-'] || cs.take 3 == ['.', '.', '.']
    let rec go (first : Bool) (prev : Option Char) (rest : List Char)
        (acc : Bool × Bool × Bool × Bool × Bool × Bool × Bool × Bool × Bool × Bool) :
        Bool × Bool × Bool × Bool × Bool × Bool × Bool × Bool × Bool × Bool :=
      match rest with
      | [] => acc
      | c :: more =>
        let (blockInd, flowInd, lineBreaks, special, leadSpace, leadBreak, trailSpace,
          trailBreak, breakSpace, spaceBreak) := acc
        let followed := isBlankZ more.head?
        let preceded := isBlankZ (some (prev.getD ' '))
        let (fi, bi) :=
          if first then
            if startIndicators.contains c then (true, true)
            else if c == '?' || c == ':' then (true, followed)
            else if c == '-' && followed then (true, true)
            else (false, false)
          else
            if ",?[]".toList.contains c || c == '\x7b' || c == '\x7d' then (true, false)
            else if c == ':' then (true, followed)
            else if c == '#' && preceded then (true, true)
            else (false, false)
        let last := more.isEmpty
        let prevSpace := prev.map isSpace |>.getD false
        let prevBreak := prev.map isBreak |>.getD false
        let acc :=
          ( blockInd || bi, flowInd || fi, lineBreaks || isBreak c, special || !isPrintable c,
            leadSpace || (first && isSpace c), leadBreak || (first && isBreak c),
            trailSpace || (last && isSpace c), trailBreak || (last && isBreak c),
            breakSpace || (isSpace c && prevBreak), spaceBreak || (isBreak c && prevSpace) )
        go false (some c) more acc
    let init := (marker, marker, false, false, false, false, false, false, false, false)
    let (blockInd, flowInd, lineBreaks, special, leadSpace, leadBreak, trailSpace, trailBreak,
      breakSpace, spaceBreak) := go true none cs init
    let edge := leadSpace || leadBreak || trailSpace || trailBreak
    let unquotable := spaceBreak || special
    { multiline := lineBreaks
      flowPlain := !(edge || breakSpace || unquotable || lineBreaks || flowInd)
      blockPlain := !(edge || breakSpace || unquotable || lineBreaks || blockInd)
      singleQuoted := !(breakSpace || unquotable)
      block := !(trailSpace || unquotable) }

/-- The style a scalar is written in, in block context (or as a simple key). -/
def select (hint : StyleHint) (a : Analysis) (text : String) (simpleKey : Bool) :
    WrittenStyle :=
  let style : WrittenStyle := match hint with
    | .any | .plain => .plain
    | .singleQuoted => .singleQuoted
    | .literal => .literal
  let style := if simpleKey && a.multiline then .doubleQuoted else style
  let style := if style == .plain && (!a.blockPlain || (text.isEmpty && simpleKey)) then
    .singleQuoted else style
  let style := if style == .singleQuoted && !a.singleQuoted then .doubleQuoted else style
  if style == .literal && (!a.block || simpleKey) then .doubleQuoted else style

/-- Appends a character on the current line. -/
def put (c : Char) : EmitM Unit := modify fun w =>
  { w with out := w.out.push c, column := w.column + 1 }

/-- Appends text on the current line. -/
def puts (s : String) : EmitM Unit := modify fun w =>
  { w with out := w.out ++ s, column := w.column + s.length }

/-- Ends the line. -/
def putBreak : EmitM Unit := modify fun w => { w with out := w.out.push '\n', column := 0 }

/-- Writes a line break taken from a scalar. -/
def writeBreak (c : Char) : EmitM Unit :=
  if c == '\n' then putBreak
  else modify fun w => { w with out := w.out.push c, column := 0 }

/-- Moves to the indentation column, on a new line unless the current one holds only
indentation before it. -/
def writeIndent : EmitM Unit := do
  let w ← get
  let indent := w.indent.toNat
  if !w.indention || w.column > indent || (w.column == indent && !w.whitespace) then putBreak
  let w ← get
  puts (String.ofList (List.replicate (indent - w.column) ' '))
  modify fun w => { w with whitespace := true, indention := true }

/-- Writes an indicator, after a space if one is needed. -/
def writeIndicator (s : String) (needSpace isSpace' isIndention : Bool) : EmitM Unit := do
  if needSpace && !(← get).whitespace then put ' '
  puts s
  modify fun w => { w with whitespace := isSpace', indention := w.indention && isIndention }

/-- Opens a nested level: two columns deeper, or the same column when `indentless`. -/
def increaseIndent (flow indentless : Bool) : EmitM Unit := modify fun w =>
  let indent := if w.indent < 0 then (if flow then 2 else 0)
    else if indentless then w.indent else w.indent + 2
  { w with indents := w.indent :: w.indents, indent }

/-- Closes a nested level. -/
def decreaseIndent : EmitM Unit := modify fun w =>
  match w.indents with
  | i :: rest => { w with indent := i, indents := rest }
  | [] => { w with indent := -1 }

/-- Writes a plain scalar. -/
def writePlain (text : String) : EmitM Unit := do
  let w ← get
  if !w.whitespace && !text.isEmpty then put ' '
  let mut breaks := false
  for c in text.toList do
    if isBreak c then
      if !breaks && c == '\n' then putBreak
      writeBreak c
      modify fun w => { w with indention := true }
      breaks := true
    else
      if breaks then writeIndent
      put c
      modify fun w => { w with indention := false }
      breaks := false
  modify fun w => { w with whitespace := false, indention := false }

/-- Writes a single-quoted scalar; a quote inside is doubled. -/
def writeSingle (text : String) : EmitM Unit := do
  writeIndicator "'" true false false
  let mut breaks := false
  for c in text.toList do
    if isBreak c then
      if !breaks && c == '\n' then putBreak
      writeBreak c
      modify fun w => { w with indention := true }
      breaks := true
    else
      if breaks then writeIndent
      if c == '\'' then put '\''
      put c
      modify fun w => { w with indention := false }
      breaks := false
  if breaks then writeIndent
  writeIndicator "'" false false false
  modify fun w => { w with whitespace := false, indention := false }

/-- Uppercase hex digits of `n`, `width` of them. -/
def hexUpper (width n : Nat) : String :=
  String.ofList ((List.range width).reverse.map fun k =>
    let d := (n >>> (4 * k)) % 16
    Char.ofNat (if d < 10 then 48 + d else 55 + d))

/-- The escape of a character in a double-quoted scalar. -/
def escape (c : Char) : String :=
  match c.toNat with
  | 0x00 => "\\0"
  | 0x07 => "\\a"
  | 0x08 => "\\b"
  | 0x09 => "\\t"
  | 0x0A => "\\n"
  | 0x0B => "\\v"
  | 0x0C => "\\f"
  | 0x0D => "\\r"
  | 0x1B => "\\e"
  | 0x22 => "\\\""
  | 0x5C => "\\\\"
  | 0x85 => "\\N"
  | 0xA0 => "\\_"
  | 0x2028 => "\\L"
  | 0x2029 => "\\P"
  | n =>
    if n ≤ 0xFF then "\\x" ++ hexUpper 2 n
    else if n ≤ 0xFFFF then "\\u" ++ hexUpper 4 n
    else "\\U" ++ hexUpper 8 n

/-- Writes a double-quoted scalar, escaping what cannot be written as it is. -/
def writeDouble (text : String) : EmitM Unit := do
  writeIndicator "\"" true false false
  for c in text.toList do
    if !isPrintable c || c == '\uFEFF' || isBreak c || c == '"' || c == '\\' then puts (escape c)
    else put c
  writeIndicator "\"" false false false
  modify fun w => { w with whitespace := false, indention := false }

/-- The chomping indicator a literal block needs: `-` when the text does not end in a line
break, `+` when it ends in more than one (or is a single break), none for exactly one. -/
def chomping (text : String) : Option String :=
  match text.toList.reverse with
  | [] => some "-"
  | [c] => if isBreak c then some "+" else some "-"
  | c :: d :: _ =>
    if !isBreak c then some "-"
    else if isBreak d then some "+"
    else none

/-- Writes a literal block scalar. -/
def writeLiteral (text : String) : EmitM Unit := do
  writeIndicator "|" true false false
  match text.toList with
  | c :: _ => if isSpace c || isBreak c then writeIndicator "2" false false false
  | [] => pure ()
  let chomp := chomping text
  if let some h := chomp then writeIndicator h false false false
  putBreak
  modify fun w => { w with indention := true, whitespace := true }
  let mut breaks := true
  for c in text.toList do
    if isBreak c then
      writeBreak c
      modify fun w => { w with indention := true }
      breaks := true
    else
      if breaks then writeIndent
      put c
      modify fun w => { w with indention := false }
      breaks := false

/-- Writes a scalar with the style its text allows. -/
def scalar (text : String) (hint : StyleHint) (simpleKey : Bool) : EmitM Unit := do
  let style := select hint (analyze text) text simpleKey
  increaseIndent true false
  match style with
  | .plain => writePlain text
  | .singleQuoted => writeSingle text
  | .doubleQuoted => writeDouble text
  | .literal => writeLiteral text
  decreaseIndent

/-- Whether a string reads back as something other than a string when written plain. -/
def resolvesOtherwise (s : String) : Bool :=
  Scalar.isNull s || (Scalar.boolOf? s).isSome || (Scalar.integerOf? s).isSome ||
    Scalar.digitsButNotNumber s || (Scalar.floatOf? s).isSome

/-- The text of a scalar value and the style it asks for. -/
def scalarOf : Node → Option (String × StyleHint)
  | .null => some ("null", .plain)
  | .bool b => some (if b then "true" else "false", .plain)
  | .number (.nat n) => some (toString n, .plain)
  | .number (.neg n) => some (toString n, .plain)
  | .number (.float f) => some (Decimal.Style.document.write f, .plain)
  | .string s =>
    some (s, if s.toList.contains '\n' then .literal
      else if resolvesOtherwise s then .singleQuoted else .any)
  | _ => none

/-- Whether a key can be written in the simple form `key: value`. -/
def simpleKey : Node → Bool
  | .sequence items => items.isEmpty
  | .mapping entries => entries.isEmpty
  | .tagged _ v => simpleKey v
  | n => match scalarOf n with
    | some (text, _) => !(analyze text).multiline && text.utf8ByteSize ≤ 128
    | none => false

mutual
/-- Writes a value; `inMapping` says it is a mapping key or value. -/
def node (n : Node) (inMapping isKey : Bool) : EmitM Unit :=
  match n with
  | .sequence [] => do
    writeIndicator "[" true true false
    writeIndicator "]" false false false
  | .mapping [] => do
    writeIndicator "\x7b" true true false
    writeIndicator "\x7d" false false false
  | .sequence items => do
    let indentless := inMapping && !(← get).indention
    increaseIndent false indentless
    sequenceItems items
    decreaseIndent
  | .mapping entries => do
    increaseIndent false false
    mappingEntries entries
    decreaseIndent
  | .tagged _ v => node v inMapping isKey
  | .null => scalar "null" .plain isKey
  | .bool b => scalar (if b then "true" else "false") .plain isKey
  | .number (.nat k) => scalar (toString k) .plain isKey
  | .number (.neg k) => scalar (toString k) .plain isKey
  | .number (.float f) => scalar (Decimal.Style.document.write f) .plain isKey
  | .string s =>
    scalar s (if s.toList.contains '\n' then .literal
      else if resolvesOtherwise s then .singleQuoted else .any) isKey

/-- Writes the items of a block sequence. -/
def sequenceItems : List Node → EmitM Unit
  | [] => pure ()
  | x :: rest => do
    writeIndent
    writeIndicator "-" true false true
    node x false false
    sequenceItems rest

/-- Writes the entries of a block mapping. -/
def mappingEntries : List (Node × Node) → EmitM Unit
  | [] => pure ()
  | (k, v) :: rest => do
    writeIndent
    if simpleKey k then
      node k true true
      writeIndicator ":" false false false
    else
      writeIndicator "?" true false true
      node k true false
      writeIndent
      writeIndicator ":" true false true
    node v true false
    mappingEntries rest
end

end Emit

/-- The YAML text of a value as a single document, ending with a line break. The document is
left open: no end marker is written, even after a block scalar that keeps its final breaks. -/
def Node.emit (n : Node) : String :=
  let run : EmitM Unit := do
    Emit.node n false false
    Emit.writeIndent
  (run.run {}).2.out

end LabFleet.Yaml
