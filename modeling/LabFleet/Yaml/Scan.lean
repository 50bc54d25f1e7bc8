import LabFleet.Yaml.Token

/-!
The YAML scanner: text to tokens, on demand. Besides the characters it reads, the scanner
tracks the structure that indentation implies: a stack of indentation columns (a deeper
column opens a block collection, a shallower one closes it), the nesting of flow
collections, and for each flow level the one place where a simple key (`key: value` with no
`?`) may have begun. A simple key is only recognised when its `:` arrives, so its KEY token
is put into the queue afterwards, at the place the key began; while such a key is still
possible, the tokens from that place on are held back.

Every loop is bounded by the number of characters left, since each turn consumes at least
one of them.
-/

namespace LabFleet.Yaml

/-- A place where a simple key may have begun on one flow level. -/
structure SimpleKey where
  possible : Bool := false
  /-- A key at the indentation column of a block mapping must be a key. -/
  required : Bool := false
  /-- The number of the token the key's KEY token goes before. -/
  tokenNumber : Nat := 0
  mark : Mark := {}
  deriving Inhabited

/-- The state of the scanner. -/
structure Scanner where
  text : Array Char
  pos : Nat := 0
  mark : Mark := {}
  started : Bool := false
  /-- The end of the stream has been taken by the parser. -/
  finished : Bool := false
  queue : List Token := []
  /-- The number of tokens taken by the parser so far. -/
  taken : Nat := 0
  available : Bool := false
  indent : Int := -1
  indents : List Int := []
  keyAllowed : Bool := false
  /-- Possible simple keys, the innermost flow level first. -/
  keys : List SimpleKey := []
  flowLevel : Nat := 0
  deriving Inhabited

/-- Scanner steps. -/
abbrev ScanM := StateT Scanner (Except ReadError)

namespace Scan

/-! ## Characters -/

/-- Space or tab. -/
def isBlank (c : Char) : Bool := c == ' ' || c == '\t'

/-- The end of the text, which reads as NUL. -/
def isEnd (c : Char) : Bool := c == '\x00'

/-- A line break: CR, LF, NEL, LS or PS. -/
def isBreak (c : Char) : Bool :=
  c == '\r' || c == '\n' || c == '\x85' || c == '\u2028' || c == '\u2029'

/-- A line break or the end. -/
def isBreakZ (c : Char) : Bool := isBreak c || isEnd c

/-- A blank, a line break or the end. -/
def isBlankZ (c : Char) : Bool := isBlank c || isBreakZ c

/-- Letters, digits, `_` and `-`: the characters of names. -/
def isAlpha (c : Char) : Bool :=
  c.isDigit || ('A' ≤ c && c ≤ 'Z') || ('a' ≤ c && c ≤ 'z') || c == '_' || c == '-'

/-- A hexadecimal digit. -/
def isHex (c : Char) : Bool :=
  c.isDigit || ('A' ≤ c && c ≤ 'F') || ('a' ≤ c && c ≤ 'f')

/-- The value of a hexadecimal digit. -/
def hexValue (c : Char) : Nat :=
  if c.isDigit then c.toNat - 48
  else if 'A' ≤ c && c ≤ 'F' then c.toNat - 55
  else c.toNat - 87

/-- Characters a YAML text may hold. -/
def isPrintable (c : Char) : Bool :=
  let n := c.toNat
  n == 0x9 || n == 0xA || n == 0xD || (0x20 ≤ n && n ≤ 0x7E) || n == 0x85 ||
    (0xA0 ≤ n && n ≤ 0xD7FF) || (0xE000 ≤ n && n ≤ 0xFFFD) || (0x10000 ≤ n && n ≤ 0x10FFFF)

/-! ## Moving through the text -/

/-- The character `k` places ahead; NUL past the end. -/
def peekAt (k : Nat) : ScanM Char := do
  let s ← get
  return s.text.getD (s.pos + k) '\x00'

/-- A bound on the turns of a loop that consumes a character each turn. -/
def room : ScanM Nat := do
  let s ← get
  return s.text.size - s.pos + 2

/-- The UTF-8 width of the `n` characters from position `pos`. -/
def widthAt (text : Array Char) (pos n : Nat) : Nat :=
  ((List.range n).map fun k => (text.getD (pos + k) '\x00').utf8Size).foldl (· + ·) 0

/-- Steps over one character on the current line. -/
def skip : ScanM Unit := modify fun s =>
  { s with pos := s.pos + 1,
           mark := { s.mark with index := s.mark.index + widthAt s.text s.pos 1,
                                 column := s.mark.column + 1 } }

/-- Steps over `n` characters that end a line. -/
def newLine (n : Nat) : ScanM Unit := modify fun s =>
  { s with pos := s.pos + n,
           mark := { index := s.mark.index + widthAt s.text s.pos n, line := s.mark.line + 1,
                     column := 0 } }

/-- Steps over a line break, CR LF counting as one. -/
def skipLine : ScanM Unit := do
  let c ← peekAt 0
  let d ← peekAt 1
  if c == '\r' && d == '\n' then newLine 2
  else if isBreak c then newLine 1

/-- Takes a line break, giving its contents: LF for CR, LF, CR LF and NEL; LS and PS as
they are. -/
def takeLine : ScanM String := do
  let c ← peekAt 0
  let d ← peekAt 1
  if c == '\r' && d == '\n' then
    newLine 2
    return "\n"
  else if c == '\r' || c == '\n' || c == '\x85' then
    newLine 1
    return "\n"
  else if c == '\u2028' || c == '\u2029' then
    newLine 1
    return c.toString
  else return ""

/-- Steps over blanks. -/
def skipBlanks : ScanM Unit := do
  for _ in [0:← room] do
    if isBlank (← peekAt 0) then skip else break

/-- Steps to the end of the line. -/
def skipToBreak : ScanM Unit := do
  for _ in [0:← room] do
    if isBreakZ (← peekAt 0) then break else skip

/-- Whether a document marker (`---` or `...` and a blank) starts here. -/
def atDocumentMarker : ScanM Bool := do
  let s ← get
  if s.mark.column != 0 then return false
  let a ← peekAt 0
  let b ← peekAt 1
  let c ← peekAt 2
  let d ← peekAt 3
  return ((a == '-' && b == '-' && c == '-') || (a == '.' && b == '.' && c == '.')) && isBlankZ d

/-- A fault at the current position. -/
def fault (context : Option String) (contextMark : Mark) (problem : String) : ScanM α := do
  throw { problem, problemMark := (← get).mark, context, contextMark }

/-- A fault inside a construct that began at `start`. -/
def faultIn (context : String) (start : Mark) (problem : String) : ScanM α :=
  fault (some context) start problem

/-! ## Indentation and simple keys -/

/-- Adds a token at the end of the queue. -/
def enqueue (t : Token) : ScanM Unit := modify fun s => { s with queue := s.queue ++ [t] }

/-- Closes the block collections indented deeper than `column`. -/
def unrollIndent (column : Int) : ScanM Unit := do
  let s ← get
  if s.flowLevel != 0 then return
  for _ in [0:s.indents.length + 1] do
    let s ← get
    if s.indent ≤ column then break
    enqueue { data := .blockEnd, start := s.mark, stop := s.mark }
    modify fun s => match s.indents with
      | i :: rest => { s with indent := i, indents := rest }
      | [] => { s with indent := -1 }

/-- Opens a block collection at `column` when it is deeper than the current one; its start
token goes at the end of the queue, or before token number `at?`. -/
def rollIndent (column : Int) (at? : Option Nat) (data : TokenData) (mark : Mark) :
    ScanM Unit := do
  let s ← get
  if s.flowLevel == 0 && s.indent < column then
    let t : Token := { data, start := mark, stop := mark }
    let queue := match at? with
      | none => s.queue ++ [t]
      | some n => s.queue.take (n - s.taken) ++ t :: s.queue.drop (n - s.taken)
    set { s with indents := s.indent :: s.indents, indent := column, queue }

/-- Forgets possible simple keys that a line change or 1024 bytes have ruled out; a
required one that is ruled out is a fault. -/
def staleSimpleKeys : ScanM Unit := do
  let s ← get
  let mut keys := []
  for k in s.keys.reverse do
    if k.possible && (k.mark.line < s.mark.line || k.mark.index + 1024 < s.mark.index) then
      if k.required then
        faultIn "while scanning a simple key" k.mark "could not find expected ':'"
      keys := { k with possible := false } :: keys
    else keys := k :: keys
  set { s with keys }

/-- Forgets the possible simple key of the current flow level; a required one is a fault. -/
def removeSimpleKey : ScanM Unit := do
  let s ← get
  match s.keys with
  | k :: rest =>
    if k.possible && k.required then
      faultIn "while scanning a simple key" k.mark "could not find expected ':'"
    set { s with keys := { k with possible := false } :: rest }
  | [] => pure ()

/-- Records that a simple key may begin here, when one is allowed. -/
def saveSimpleKey : ScanM Unit := do
  let s ← get
  if s.keyAllowed then
    let key : SimpleKey :=
      { possible := true, required := s.flowLevel == 0 && s.indent == (s.mark.column : Int),
        tokenNumber := s.taken + s.queue.length, mark := s.mark }
    removeSimpleKey
    modify fun s => { s with keys := match s.keys with
      | _ :: rest => key :: rest
      | [] => [key] }

/-- Enters a flow collection. -/
def increaseFlowLevel : ScanM Unit := modify fun s =>
  { s with keys := {} :: s.keys, flowLevel := s.flowLevel + 1 }

/-- Leaves a flow collection. -/
def decreaseFlowLevel : ScanM Unit := modify fun s =>
  if s.flowLevel != 0 then { s with flowLevel := s.flowLevel - 1, keys := s.keys.drop 1 } else s

/-! ## Scanning tokens -/

/-- The number of a `%YAML` directive. -/
def versionNumber (start : Mark) : ScanM Nat := do
  let mut value := 0
  let mut length := 0
  for _ in [0:← room] do
    let c ← peekAt 0
    if !c.isDigit then break
    length := length + 1
    if length > 9 then
      faultIn "while scanning a %YAML directive" start "found extremely long version number"
    value := value * 10 + (c.toNat - 48)
    skip
  if length == 0 then
    faultIn "while scanning a %YAML directive" start "did not find expected version number"
  return value

/-- The handle of a tag: `!`, `!!` or `!name!`; a tag token may also have `!name` here. -/
def tagHandle (directive : Bool) (start : Mark) : ScanM String := do
  if (← peekAt 0) != '!' then
    faultIn (if directive then "while scanning a tag directive" else "while scanning a tag")
      start "did not find expected '!'"
  skip
  let mut handle := "!"
  for _ in [0:← room] do
    let c ← peekAt 0
    if !isAlpha c then break
    handle := handle.push c
    skip
  if (← peekAt 0) == '!' then
    handle := handle.push '!'
    skip
  else if directive && handle != "!" then
    faultIn "while parsing a tag directive" start "did not find expected '!'"
  return handle

/-- The bytes of one `%`-escaped UTF-8 character in a tag. -/
def uriEscapes (directive : Bool) (start : Mark) : ScanM (List UInt8) := do
  let context := if directive then "while parsing a %TAG directive" else "while parsing a tag"
  let mut width := 0
  let mut out : List UInt8 := []
  for _ in [0:4] do
    let a ← peekAt 0
    let b ← peekAt 1
    let c ← peekAt 2
    if !(a == '%' && isHex b && isHex c) then
      faultIn context start "did not find URI escaped octet"
    let octet := hexValue b * 16 + hexValue c
    if width == 0 then
      width := if octet &&& 0x80 == 0 then 1
        else if octet &&& 0xE0 == 0xC0 then 2
        else if octet &&& 0xF0 == 0xE0 then 3
        else if octet &&& 0xF8 == 0xF0 then 4 else 0
      if width == 0 then faultIn context start "found an incorrect leading UTF-8 octet"
    else if octet &&& 0xC0 != 0x80 then
      faultIn context start "found an incorrect trailing UTF-8 octet"
    out := out ++ [octet.toUInt8]
    skip; skip; skip
    width := width - 1
    if width == 0 then break
  return out

/-- Characters a tag may hold; inside `!<...>` and in `%TAG` prefixes also `,`, `[`, `]`. -/
def isUriChar (wide : Bool) (c : Char) : Bool :=
  isAlpha c || ";/?:@&=+$.%!~*'()".toList.contains c || (wide && ",[]".toList.contains c)

/-- The rest of a tag after its handle; `head` is a handle that turned out to be part of it. -/
def tagUri (wide directive : Bool) (head : String) (start : Mark) : ScanM String := do
  let mut length := head.length
  let mut bytes : List UInt8 := (String.ofList (head.toList.drop 1)).toUTF8.toList
  for _ in [0:← room] do
    let c ← peekAt 0
    if !isUriChar wide c then break
    if c == '%' then bytes := bytes ++ (← uriEscapes directive start)
    else
      bytes := bytes ++ c.toString.toUTF8.toList
      skip
    length := length + 1
  if length == 0 then
    faultIn (if directive then "while parsing a %TAG directive" else "while parsing a tag")
      start "did not find expected tag URI"
  return (String.fromUTF8? (ByteArray.mk bytes.toArray)).getD
    (String.ofList (bytes.map fun b => Char.ofNat b.toNat))

/-- A directive line: `%YAML major.minor` or `%TAG handle prefix`. -/
def directive : ScanM Token := do
  let start := (← get).mark
  skip
  let mut name := ""
  for _ in [0:← room] do
    let c ← peekAt 0
    if !isAlpha c then break
    name := name.push c
    skip
  if name.isEmpty then
    faultIn "while scanning a directive" start "could not find expected directive name"
  if !isBlankZ (← peekAt 0) then
    faultIn "while scanning a directive" start "found unexpected non-alphabetical character"
  let data ← if name == "YAML" then do
      skipBlanks
      let major ← versionNumber start
      if (← peekAt 0) != '.' then
        faultIn "while scanning a %YAML directive" start
          "did not find expected digit or '.' character"
      skip
      let minor ← versionNumber start
      pure (TokenData.versionDirective major minor)
    else if name == "TAG" then do
      skipBlanks
      let handle ← tagHandle true start
      if !isBlank (← peekAt 0) then
        faultIn "while scanning a %TAG directive" start "did not find expected whitespace"
      skipBlanks
      let pre ← tagUri true true "" start
      if !isBlankZ (← peekAt 0) then
        faultIn "while scanning a %TAG directive" start
          "did not find expected whitespace or line break"
      pure (TokenData.tagDirective handle pre)
    else faultIn "while scanning a directive" start "found unknown directive name"
  let stop := (← get).mark
  skipBlanks
  if (← peekAt 0) == '#' then skipToBreak
  if !isBreakZ (← peekAt 0) then
    faultIn "while scanning a directive" start "did not find expected comment or line break"
  skipLine
  return { data, start, stop }

/-- An anchor `&name` or an alias `*name`. -/
def anchorOrAlias (isAlias : Bool) : ScanM Token := do
  let start := (← get).mark
  skip
  let mut name := ""
  for _ in [0:← room] do
    let c ← peekAt 0
    if !isAlpha c then break
    name := name.push c
    skip
  let stop := (← get).mark
  let c ← peekAt 0
  if name.isEmpty || !(isBlankZ c || "?:,]%@\x60".toList.contains c || c == '\x7d') then
    faultIn (if isAlias then "while scanning an alias" else "while scanning an anchor") start
      "did not find expected alphabetic or numeric character"
  return { data := if isAlias then .alias name else .anchor name, start, stop }

/-- A tag: `!<uri>`, `!handle!suffix`, `!suffix` or `!`. -/
def tag : ScanM Token := do
  let start := (← get).mark
  let mut handle := ""
  let mut suffix := ""
  if (← peekAt 1) == '<' then
    skip; skip
    suffix ← tagUri true false "" start
    if (← peekAt 0) != '>' then
      faultIn "while scanning a tag" start "did not find the expected '>'"
    skip
  else
    let h ← tagHandle false start
    if h.length > 1 && h.endsWith "!" then
      handle := h
      suffix ← tagUri false false "" start
    else
      suffix ← tagUri false false h start
      handle := "!"
      if suffix.isEmpty then
        handle := ""
        suffix := "!"
  let c ← peekAt 0
  if !isBlankZ c then
    if (← get).flowLevel == 0 || c != ',' then
      faultIn "while scanning a tag" start "did not find expected whitespace or line break"
  return { data := .tag handle suffix, start, stop := (← get).mark }

/-- Empty lines and indentation before a line of a block scalar. Gives the indentation
(settled from the most indented empty line when it was 0), the line breaks read and the
position after the last of them. -/
def blockBreaks (indent : Nat) (start : Mark) : ScanM (Nat × String × Mark) := do
  let mut indent := indent
  let mut breaks := ""
  let mut most := 0
  let mut stop := (← get).mark
  for _ in [0:← room] do
    for _ in [0:← room] do
      let column := (← get).mark.column
      if (indent == 0 || column < indent) && (← peekAt 0) == ' ' then skip else break
    let column := (← get).mark.column
    if column > most then most := column
    if (indent == 0 || column < indent) && (← peekAt 0) == '\t' then
      faultIn "while scanning a block scalar" start
        "found a tab character where an indentation space is expected"
    if !isBreak (← peekAt 0) then break
    breaks := breaks ++ (← takeLine)
    stop := (← get).mark
  if indent == 0 then
    indent := max (max most ((← get).indent + 1).toNat) 1
  return (indent, breaks, stop)

/-- A literal (`|`) or folded (`>`) block scalar. -/
def blockScalar (literal : Bool) : ScanM Token := do
  let start := (← get).mark
  skip
  let mut chomping : Int := 0
  let mut increment := 0
  let c ← peekAt 0
  if c == '+' || c == '-' then
    chomping := if c == '+' then 1 else -1
    skip
    let d ← peekAt 0
    if d.isDigit then
      if d == '0' then
        faultIn "while scanning a block scalar" start "found an indentation indicator equal to 0"
      increment := d.toNat - 48
      skip
  else if c.isDigit then
    if c == '0' then
      faultIn "while scanning a block scalar" start "found an indentation indicator equal to 0"
    increment := c.toNat - 48
    skip
    let d ← peekAt 0
    if d == '+' || d == '-' then
      chomping := if d == '+' then 1 else -1
      skip
  skipBlanks
  if (← peekAt 0) == '#' then skipToBreak
  if !isBreakZ (← peekAt 0) then
    faultIn "while scanning a block scalar" start "did not find expected comment or line break"
  skipLine
  let mut indent := 0
  if increment != 0 then
    let outer := (← get).indent
    indent := if outer ≥ 0 then (outer + increment).toNat else increment
  let (i, tb, st) ← blockBreaks indent start
  indent := i
  let mut trailing := tb
  let mut stop := st
  let mut text := ""
  let mut leading := ""
  let mut leadingBlank := false
  for _ in [0:← room] do
    if !((← get).mark.column == indent && !isEnd (← peekAt 0)) then break
    let trailingBlank := isBlank (← peekAt 0)
    if !literal && leading.startsWith "\n" && !leadingBlank && !trailingBlank then
      if trailing.isEmpty then text := text.push ' '
    else text := text ++ leading
    leading := ""
    text := text ++ trailing
    trailing := ""
    leadingBlank := isBlank (← peekAt 0)
    for _ in [0:← room] do
      let c ← peekAt 0
      if isBreakZ c then break
      text := text.push c
      skip
    leading ← takeLine
    let (i, tb, st) ← blockBreaks indent start
    indent := i
    trailing := tb
    stop := st
  if chomping != -1 then text := text ++ leading
  if chomping == 1 then text := text ++ trailing
  return { data := .scalar text (if literal then .literal else .folded), start, stop }

/-- The character a double-quoted escape `\c` stands for, or the number of hex digits that
follow it. -/
def escapeOf (c : Char) : Option (Char ⊕ Nat) :=
  match c with
  | '0' => some (.inl '\x00')
  | 'a' => some (.inl '\x07')
  | 'b' => some (.inl '\x08')
  | 't' | '\t' => some (.inl '\t')
  | 'n' => some (.inl '\n')
  | 'v' => some (.inl '\x0B')
  | 'f' => some (.inl '\x0C')
  | 'r' => some (.inl '\r')
  | 'e' => some (.inl '\x1B')
  | ' ' => some (.inl ' ')
  | '"' => some (.inl '"')
  | '/' => some (.inl '/')
  | '\'' => some (.inl '\'')
  | '\\' => some (.inl '\\')
  | 'N' => some (.inl '\x85')
  | '_' => some (.inl '\xA0')
  | 'L' => some (.inl '\u2028')
  | 'P' => some (.inl '\u2029')
  | 'x' => some (.inr 2)
  | 'u' => some (.inr 4)
  | 'U' => some (.inr 8)
  | _ => none

/-- A hex escape of `n` digits. -/
def hexEscape (n : Nat) (start : Mark) : ScanM Char := do
  let mut value := 0
  for k in [0:n] do
    let c ← peekAt k
    if !isHex c then
      faultIn "while parsing a quoted scalar" start "did not find expected hexdecimal number"
    value := value * 16 + hexValue c
  if (0xD800 ≤ value && value ≤ 0xDFFF) || value > 0x10FFFF then
    faultIn "while parsing a quoted scalar" start "found invalid Unicode character escape code"
  for _ in [0:n] do skip
  return Char.ofNat value

/-- A single- or double-quoted scalar. Line breaks inside fold to a space, or to the breaks
after the first when there are several. -/
def flowScalar (single : Bool) : ScanM Token := do
  let start := (← get).mark
  let close := if single then '\'' else '"'
  skip
  let mut text := ""
  let mut leading := ""
  let mut trailing := ""
  let mut spaces := ""
  for _ in [0:← room] do
    if (← atDocumentMarker) then
      faultIn "while scanning a quoted scalar" start "found unexpected document indicator"
    if isEnd (← peekAt 0) then
      faultIn "while scanning a quoted scalar" start "found unexpected end of stream"
    let mut leadingBlanks := false
    for _ in [0:← room] do
      let c ← peekAt 0
      if isBlankZ c then break
      let d ← peekAt 1
      if single && c == '\'' && d == '\'' then
        text := text.push '\''
        skip; skip
      else if c == close then break
      else if !single && c == '\\' && isBreak d then
        skip
        skipLine
        leadingBlanks := true
        break
      else if !single && c == '\\' then
        match escapeOf d with
        | none => faultIn "while parsing a quoted scalar" start "found unknown escape character"
        | some (.inl e) =>
          text := text.push e
          skip; skip
        | some (.inr n) =>
          skip; skip
          text := text.push (← hexEscape n start)
      else
        text := text.push c
        skip
    if (← peekAt 0) == close then break
    for _ in [0:← room] do
      let c ← peekAt 0
      if isBlank c then
        if !leadingBlanks then spaces := spaces.push c
        skip
      else if isBreak c then
        if !leadingBlanks then
          spaces := ""
          leading ← takeLine
          leadingBlanks := true
        else trailing := trailing ++ (← takeLine)
      else break
    if leadingBlanks then
      if leading.startsWith "\n" then
        if trailing.isEmpty then text := text.push ' '
        else text := text ++ trailing
      else text := text ++ leading ++ trailing
      leading := ""
      trailing := ""
    else
      text := text ++ spaces
      spaces := ""
  skip
  return { data := .scalar text (if single then .singleQuoted else .doubleQuoted), start,
           stop := (← get).mark }

/-- Whether a character ends a plain scalar in a flow collection. -/
def isFlowIndicator (c : Char) : Bool := c == ',' || c == '[' || c == ']' || c == '\x7b' || c == '\x7d'

/-- A plain scalar. It ends before `: `, a comment, a document marker, a flow indicator in a
flow collection, or a line indented no deeper than the enclosing block. -/
def plainScalar : ScanM Token := do
  let s0 ← get
  let indent : Int := s0.indent + 1
  let start := s0.mark
  let mut stop := start
  let mut text := ""
  let mut leading := ""
  let mut trailing := ""
  let mut spaces := ""
  let mut leadingBlanks := false
  for _ in [0:← room] do
    if (← atDocumentMarker) then break
    if (← peekAt 0) == '#' then break
    for _ in [0:← room] do
      let c ← peekAt 0
      if isBlankZ c then break
      let d ← peekAt 1
      let flow := (← get).flowLevel != 0
      if flow && c == ':' && (isFlowIndicator d || d == '?') then
        faultIn "while scanning a plain scalar" start "found unexpected ':'"
      if (c == ':' && isBlankZ d) || (flow && isFlowIndicator c) then break
      if leadingBlanks then
        if leading.startsWith "\n" then
          if trailing.isEmpty then text := text.push ' '
          else text := text ++ trailing
        else text := text ++ leading ++ trailing
        leading := ""
        trailing := ""
        leadingBlanks := false
      else if !spaces.isEmpty then
        text := text ++ spaces
        spaces := ""
      text := text.push c
      skip
      stop := (← get).mark
    let c ← peekAt 0
    if !(isBlank c || isBreak c) then break
    for _ in [0:← room] do
      let c ← peekAt 0
      if isBlank c then
        if leadingBlanks && ((← get).mark.column : Int) < indent && c == '\t' then
          faultIn "while scanning a plain scalar" start
            "found a tab character that violates indentation"
        if !leadingBlanks then spaces := spaces.push c
        skip
      else if isBreak c then
        if !leadingBlanks then
          spaces := ""
          leading ← takeLine
          leadingBlanks := true
        else trailing := trailing ++ (← takeLine)
      else break
    if (← get).flowLevel == 0 && ((← get).mark.column : Int) < indent then break
  if leadingBlanks then modify fun s => { s with keyAllowed := true }
  return { data := .scalar text .plain, start, stop }

/-! ## Fetching tokens -/

/-- Steps over blanks, comments and line breaks up to the next token. -/
def toNextToken : ScanM Unit := do
  for _ in [0:← room] do
    if (← get).mark.column == 0 && (← peekAt 0) == '\uFEFF' then skip
    for _ in [0:← room] do
      let s ← get
      let c ← peekAt 0
      if c == ' ' || ((s.flowLevel != 0 || !s.keyAllowed) && c == '\t') then skip else break
    if (← peekAt 0) == '#' then skipToBreak
    if isBreak (← peekAt 0) then
      skipLine
      if (← get).flowLevel == 0 then modify fun s => { s with keyAllowed := true }
    else break

/-- A one-character indicator token. -/
def indicator (data : TokenData) : ScanM Unit := do
  let start := (← get).mark
  skip
  enqueue { data, start, stop := (← get).mark }

/-- The end of the stream. -/
def streamEnd : ScanM Unit := do
  modify fun s => if s.mark.column != 0 then
    { s with mark := { s.mark with column := 0, line := s.mark.line + 1 } } else s
  unrollIndent (-1)
  removeSimpleKey
  modify fun s => { s with keyAllowed := false }
  let m := (← get).mark
  enqueue { data := .streamEnd, start := m, stop := m }

/-- A document marker `---` or `...`. -/
def documentMarker (data : TokenData) : ScanM Unit := do
  unrollIndent (-1)
  removeSimpleKey
  modify fun s => { s with keyAllowed := false }
  let start := (← get).mark
  skip; skip; skip
  enqueue { data, start, stop := (← get).mark }

/-- A `-` entry of a block sequence. -/
def blockEntry : ScanM Unit := do
  let s ← get
  if s.flowLevel == 0 then
    if !s.keyAllowed then
      fault none s.mark "block sequence entries are not allowed in this context"
    rollIndent s.mark.column none .blockSequenceStart s.mark
  removeSimpleKey
  modify fun s => { s with keyAllowed := true }
  indicator .blockEntry

/-- A `?` key indicator. -/
def complexKey : ScanM Unit := do
  let s ← get
  if s.flowLevel == 0 then
    if !s.keyAllowed then
      fault none s.mark "mapping keys are not allowed in this context"
    rollIndent s.mark.column none .blockMappingStart s.mark
  removeSimpleKey
  modify fun s => { s with keyAllowed := s.flowLevel == 0 }
  indicator .key

/-- A `:` value indicator; it settles a possible simple key as a key. -/
def valueIndicator : ScanM Unit := do
  let s ← get
  match s.keys with
  | k :: rest =>
    if k.possible then
      let t : Token := { data := .key, start := k.mark, stop := k.mark }
      let i := k.tokenNumber - s.taken
      set { s with queue := s.queue.take i ++ t :: s.queue.drop i }
      rollIndent k.mark.column (some k.tokenNumber) .blockMappingStart k.mark
      modify fun s => { s with keys := { k with possible := false } :: rest, keyAllowed := false }
    else valueWithoutKey
  | [] => valueWithoutKey
  indicator .value
where
  valueWithoutKey : ScanM Unit := do
    let s ← get
    if s.flowLevel == 0 then
      if !s.keyAllowed then
        fault none s.mark "mapping values are not allowed in this context"
      rollIndent s.mark.column none .blockMappingStart s.mark
    modify fun s => { s with keyAllowed := s.flowLevel == 0 }

/-- Whether a plain scalar may start here. -/
def startsPlain : ScanM Bool := do
  let c ← peekAt 0
  let d ← peekAt 1
  let flow := (← get).flowLevel != 0
  return !(isBlankZ c || "-?:,[]#&*!|>'\"%@\x60".toList.contains c || c == '\x7b' || c == '\x7d') ||
    (c == '-' && !isBlank d) || (!flow && (c == '?' || c == ':') && !isBlankZ d)

/-- Scans the next token into the queue. -/
def fetchNextToken : ScanM Unit := do
  if !(← get).started then
    modify fun s => { s with indent := -1, keys := [{}], keyAllowed := true, started := true }
    let m := (← get).mark
    enqueue { data := .streamStart, start := m, stop := m }
    return
  toNextToken
  staleSimpleKeys
  unrollIndent (← get).mark.column
  let c ← peekAt 0
  let d ← peekAt 1
  let s ← get
  let flow := s.flowLevel != 0
  if isEnd c then streamEnd
  else if s.mark.column == 0 && c == '%' then
    unrollIndent (-1)
    removeSimpleKey
    modify fun s => { s with keyAllowed := false }
    enqueue (← directive)
  else if (← atDocumentMarker) && c == '-' then documentMarker .documentStart
  else if (← atDocumentMarker) && c == '.' then documentMarker .documentEnd
  else if c == '[' || c == '\x7b' then
    saveSimpleKey
    increaseFlowLevel
    modify fun s => { s with keyAllowed := true }
    indicator (if c == '[' then .flowSequenceStart else .flowMappingStart)
  else if c == ']' || c == '\x7d' then
    removeSimpleKey
    decreaseFlowLevel
    modify fun s => { s with keyAllowed := false }
    indicator (if c == ']' then .flowSequenceEnd else .flowMappingEnd)
  else if c == ',' then
    removeSimpleKey
    modify fun s => { s with keyAllowed := true }
    indicator .flowEntry
  else if c == '-' && isBlankZ d then blockEntry
  else if c == '?' && (flow || isBlankZ d) then complexKey
  else if c == ':' && (flow || isBlankZ d) then valueIndicator
  else if c == '*' || c == '&' then
    saveSimpleKey
    modify fun s => { s with keyAllowed := false }
    enqueue (← anchorOrAlias (c == '*'))
  else if c == '!' then
    saveSimpleKey
    modify fun s => { s with keyAllowed := false }
    enqueue (← tag)
  else if (c == '|' || c == '>') && !flow then
    removeSimpleKey
    modify fun s => { s with keyAllowed := true }
    enqueue (← blockScalar (c == '|'))
  else if c == '\'' || c == '"' then
    saveSimpleKey
    modify fun s => { s with keyAllowed := false }
    enqueue (← flowScalar (c == '\''))
  else if ← startsPlain then
    saveSimpleKey
    modify fun s => { s with keyAllowed := false }
    enqueue (← plainScalar)
  else
    fault (some "while scanning for the next token") s.mark
      "found character that cannot start any token"

/-- Whether the head of the queue may still change: the queue is empty, or a possible
simple key would put its KEY token there. -/
def needMoreTokens : ScanM Bool := do
  if (← get).queue.isEmpty then return true
  staleSimpleKeys
  let s ← get
  return s.keys.any fun k => k.possible && k.tokenNumber == s.taken

/-- Fetches tokens until the head of the queue is settled. -/
def fetchMoreTokens : ScanM Unit := do
  for _ in [0:(← room) + 4] do
    if !(← needMoreTokens) then return
    fetchNextToken

end Scan

namespace Scanner

/-- A scanner at the start of a text. A byte order mark at the very start is not part of
the text. -/
def start (text : String) : Scanner :=
  let chars := text.toList
  let chars := match chars with
    | '\uFEFF' :: rest => rest
    | _ => chars
  { text := chars.toArray }

/-- The first character a YAML text may not hold, as a fault at its byte offset. -/
def badCharacter (text : String) : Option ReadError :=
  let rec go (offset : Nat) : List Char → Option ReadError
    | [] => none
    | c :: rest =>
      if Scan.isPrintable c then go (offset + c.utf8Size) rest
      else some { problem := "control characters are not allowed", problemMark := {}, offset }
  go 0 text.toList

end Scanner

/-- The next token, fetching as needed. -/
def peekToken : ScanM Token := do
  if !(← get).available then
    Scan.fetchMoreTokens
    modify fun s => { s with available := true }
  match (← get).queue with
  | t :: _ => return t
  | [] =>
    let m := (← get).mark
    return { data := .streamEnd, start := m, stop := m }

/-- Takes the next token. -/
def skipToken : ScanM Unit := modify fun s =>
  match s.queue with
  | t :: rest => { s with queue := rest, available := false, taken := s.taken + 1,
                          finished := t.data == .streamEnd }
  | [] => { s with available := false }

end LabFleet.Yaml
