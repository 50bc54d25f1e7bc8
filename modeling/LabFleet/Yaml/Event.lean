import LabFleet.Yaml.Scan

/-!
The YAML parser: tokens to events. A document's structure is a sequence of events (start
and end of the stream, of each document, of each collection; a scalar; an alias), produced
one at a time by a state machine whose stack holds what to return to after a nested node.
Nodes missing where the grammar allows them (a key with no value, a `-` with nothing after
it) come out as empty plain scalars.
-/

namespace LabFleet.Yaml

/-- What an event says. -/
inductive EventData where
  | streamStart
  | streamEnd
  | documentStart (implicit : Bool)
  | documentEnd (implicit : Bool)
  | alias (name : String)
  | scalar (anchor tag : Option String) (text : String) (style : ScalarStyle)
  | sequenceStart (anchor tag : Option String) (flow : Bool)
  | sequenceEnd
  | mappingStart (anchor tag : Option String) (flow : Bool)
  | mappingEnd
  deriving DecidableEq, Repr, Inhabited

/-- An event with where it starts and ends. -/
structure Event where
  data : EventData
  start : Mark
  stop : Mark
  deriving DecidableEq, Repr, Inhabited

/-- The states of the parser: what it expects next. -/
inductive ParseState where
  | streamStart
  | implicitDocumentStart
  | documentStart
  | documentContent
  | documentEnd
  | blockNode
  | blockNodeOrIndentlessSequence
  | flowNode
  | blockSequenceFirstEntry
  | blockSequenceEntry
  | indentlessSequenceEntry
  | blockMappingFirstKey
  | blockMappingKey
  | blockMappingValue
  | flowSequenceFirstEntry
  | flowSequenceEntry
  | flowSequenceEntryMappingKey
  | flowSequenceEntryMappingValue
  | flowSequenceEntryMappingEnd
  | flowMappingFirstKey
  | flowMappingKey
  | flowMappingValue
  | flowMappingEmptyValue
  | finished
  deriving DecidableEq, Repr, Inhabited

/-- The state of the parser. -/
structure Parser where
  scanner : Scanner
  state : ParseState := .streamStart
  /-- States to return to, innermost first. -/
  states : List ParseState := []
  /-- Where the open collections began, innermost first. -/
  marks : List Mark := []
  /-- Tag handles in force and their prefixes. -/
  tagDirectives : List (String × String) := []
  deriving Inhabited

/-- Parser steps. -/
abbrev ParseM := StateT Parser (Except ReadError)

namespace Parse

/-- Runs a scanner step on the parser's scanner. -/
def scan (m : ScanM α) : ParseM α := do
  let p ← get
  match m.run p.scanner with
  | .ok (a, sc) =>
    set { p with scanner := sc }
    return a
  | .error e => throw e

/-- The next token. -/
def peek : ParseM Token := scan peekToken

/-- Takes the next token. -/
def next : ParseM Unit := scan skipToken

/-- A fault at a token. -/
def fault (problem : String) (mark : Mark) : ParseM α :=
  throw { problem, problemMark := mark }

/-- A fault inside a construct that began at `contextMark`. -/
def faultIn (context : String) (contextMark : Mark) (problem : String) (mark : Mark) :
    ParseM α :=
  throw { problem, problemMark := mark, context := some context, contextMark }

/-- Continues in state `s`. -/
def goTo (s : ParseState) : ParseM Unit := modify fun p => { p with state := s }

/-- Remembers a state to return to. -/
def push (s : ParseState) : ParseM Unit := modify fun p => { p with states := s :: p.states }

/-- Returns to the last remembered state. -/
def pop : ParseM Unit := modify fun p => match p.states with
  | s :: rest => { p with state := s, states := rest }
  | [] => { p with state := .finished }

/-- Forgets where the innermost collection began, giving it. -/
def popMark : ParseM Mark := do
  let p ← get
  match p.marks with
  | m :: rest =>
    set { p with marks := rest }
    return m
  | [] => return {}

/-- Remembers where a collection begins. -/
def pushMark (m : Mark) : ParseM Unit := modify fun p => { p with marks := m :: p.marks }

/-- An empty plain scalar at `mark`. -/
def emptyScalar (mark : Mark) : Event :=
  { data := .scalar none none "" .plain, start := mark, stop := mark }

/-- Adds a tag directive; a second one for the same handle is a fault unless allowed. -/
def addTagDirective (handle pre : String) (allowDuplicate : Bool) (mark : Mark) :
    ParseM Unit := do
  let p ← get
  if p.tagDirectives.any (·.1 == handle) then
    if allowDuplicate then return
    fault "found duplicate %TAG directive" mark
  set { p with tagDirectives := p.tagDirectives ++ [(handle, pre)] }

/-- Reads the directives before a document, then puts the default tag handles in force. -/
def directives : ParseM Unit := do
  let mut version := false
  for _ in [0:(← get).scanner.text.size + 2] do
    let t ← peek
    match t.data with
    | .versionDirective major minor =>
      if version then fault "found duplicate %YAML directive" t.start
      if major != 1 || (minor != 1 && minor != 2) then
        fault "found incompatible YAML document" t.start
      version := true
      next
    | .tagDirective handle pre =>
      addTagDirective handle pre false t.start
      next
    | _ => break
  let t ← peek
  addTagDirective "!" "!" true t.start
  addTagDirective "!!" "tag:yaml.org,2002:" true t.start

/-- The start of a document, or the end of the stream. -/
def documentStart (implicit : Bool) : ParseM Event := do
  let mut t ← peek
  if !implicit then
    for _ in [0:(← get).scanner.text.size + 2] do
      if t.data != .documentEnd then break
      next
      t ← peek
  let isDirective := match t.data with
    | .versionDirective .. | .tagDirective .. => true
    | _ => false
  if implicit && !isDirective && t.data != .documentStart && t.data != .streamEnd then
    directives
    push .documentEnd
    goTo .blockNode
    return { data := .documentStart true, start := t.start, stop := t.start }
  else if t.data != .streamEnd then
    let start := t.start
    directives
    let d ← peek
    if d.data != .documentStart then fault "did not find expected <document start>" d.start
    push .documentEnd
    goTo .documentContent
    next
    return { data := .documentStart false, start, stop := d.stop }
  else
    goTo .finished
    next
    return { data := .streamEnd, start := t.start, stop := t.stop }

/-- The end of a document, written or implied. -/
def documentEnd : ParseM Event := do
  let t ← peek
  let explicit := t.data == .documentEnd
  if explicit then next
  modify fun p => { p with tagDirectives := [] }
  goTo .documentStart
  return { data := .documentEnd (!explicit), start := t.start,
           stop := if explicit then t.stop else t.start }

/-- A node: an alias, or content with an optional anchor and tag. -/
def node (block indentless : Bool) : ParseM Event := do
  let t ← peek
  if let .alias name := t.data then
    pop
    next
    return { data := .alias name, start := t.start, stop := t.stop }
  let mut start := t.start
  let mut stop := t.start
  let mut anchor : Option String := none
  let mut handle : Option (String × String) := none
  let mut tagMark := t.start
  let mut t := t
  match t.data with
  | .anchor name =>
    anchor := some name
    stop := t.stop
    next
    t ← peek
    if let .tag h s := t.data then
      handle := some (h, s)
      tagMark := t.start
      stop := t.stop
      next
      t ← peek
  | .tag h s =>
    handle := some (h, s)
    tagMark := t.start
    stop := t.stop
    next
    t ← peek
    if let .anchor name := t.data then
      anchor := some name
      stop := t.stop
      next
      t ← peek
  | _ => pure ()
  let mut tag : Option String := none
  if let some (h, s) := handle then
    if h.isEmpty then tag := some s
    else
      match (← get).tagDirectives.find? (·.1 == h) with
      | some (_, pre) => tag := some (pre ++ s)
      | none => faultIn "while parsing a node" start "found undefined tag handle" tagMark
  if indentless && t.data == .blockEntry then
    goTo .indentlessSequenceEntry
    return { data := .sequenceStart anchor tag false, start, stop := t.stop }
  match t.data with
  | .scalar text style =>
    pop
    next
    return { data := .scalar anchor tag text style, start, stop := t.stop }
  | .flowSequenceStart =>
    goTo .flowSequenceFirstEntry
    return { data := .sequenceStart anchor tag true, start, stop := t.stop }
  | .flowMappingStart =>
    goTo .flowMappingFirstKey
    return { data := .mappingStart anchor tag true, start, stop := t.stop }
  | .blockSequenceStart =>
    if block then
      goTo .blockSequenceFirstEntry
      return { data := .sequenceStart anchor tag false, start, stop := t.stop }
    else missing start t stop anchor tag
  | .blockMappingStart =>
    if block then
      goTo .blockMappingFirstKey
      return { data := .mappingStart anchor tag false, start, stop := t.stop }
    else missing start t stop anchor tag
  | _ => missing start t stop anchor tag
where
  /-- No content: an empty scalar when there was an anchor or a tag, else a fault. -/
  missing (start : Mark) (t : Token) (stop : Mark) (anchor tag : Option String) :
      ParseM Event := do
    if anchor.isSome || tag.isSome then
      pop
      return { data := .scalar anchor tag "" .plain, start, stop }
    faultIn (if block then "while parsing a block node" else "while parsing a flow node") start
      "did not find expected node content" t.start

/-- An entry of a block sequence, or its end. -/
def blockSequenceEntry (first : Bool) : ParseM Event := do
  if first then
    pushMark (← peek).start
    next
  let t ← peek
  match t.data with
  | .blockEntry =>
    let mark := t.stop
    next
    let t ← peek
    if t.data != .blockEntry && t.data != .blockEnd then
      push .blockSequenceEntry
      node true false
    else
      goTo .blockSequenceEntry
      return emptyScalar mark
  | .blockEnd =>
    pop
    let _ ← popMark
    next
    return { data := .sequenceEnd, start := t.start, stop := t.stop }
  | _ =>
    faultIn "while parsing a block collection" (← popMark) "did not find expected '-' indicator"
      t.start

/-- An entry of a sequence written without indentation as a mapping value, or its end. -/
def indentlessSequenceEntry : ParseM Event := do
  let t ← peek
  if t.data == .blockEntry then
    let mark := t.stop
    next
    let t ← peek
    if t.data != .blockEntry && t.data != .key && t.data != .value && t.data != .blockEnd then
      push .indentlessSequenceEntry
      node true false
    else
      goTo .indentlessSequenceEntry
      return emptyScalar mark
  else
    pop
    return { data := .sequenceEnd, start := t.start, stop := t.start }

/-- A key of a block mapping, or its end. -/
def blockMappingKey (first : Bool) : ParseM Event := do
  if first then
    pushMark (← peek).start
    next
  let t ← peek
  match t.data with
  | .key =>
    let mark := t.stop
    next
    let t ← peek
    if t.data != .key && t.data != .value && t.data != .blockEnd then
      push .blockMappingValue
      node true true
    else
      goTo .blockMappingValue
      return emptyScalar mark
  | .blockEnd =>
    pop
    let _ ← popMark
    next
    return { data := .mappingEnd, start := t.start, stop := t.stop }
  | _ =>
    faultIn "while parsing a block mapping" (← popMark) "did not find expected key" t.start

/-- A value of a block mapping. -/
def blockMappingValue : ParseM Event := do
  let t ← peek
  if t.data == .value then
    let mark := t.stop
    next
    let t ← peek
    if t.data != .key && t.data != .value && t.data != .blockEnd then
      push .blockMappingKey
      node true true
    else
      goTo .blockMappingKey
      return emptyScalar mark
  else
    goTo .blockMappingKey
    return emptyScalar t.start

/-- An entry of a flow sequence, or its end. -/
def flowSequenceEntry (first : Bool) : ParseM Event := do
  if first then
    pushMark (← peek).start
    next
  let mut t ← peek
  if t.data != .flowSequenceEnd then
    if !first then
      if t.data == .flowEntry then
        next
        t ← peek
      else
        faultIn "while parsing a flow sequence" (← popMark) "did not find expected ',' or ']'"
          t.start
    if t.data == .key then
      goTo .flowSequenceEntryMappingKey
      next
      return { data := .mappingStart none none true, start := t.start, stop := t.stop }
    else if t.data != .flowSequenceEnd then
      push .flowSequenceEntry
      return ← node false false
  pop
  let _ ← popMark
  next
  return { data := .sequenceEnd, start := t.start, stop := t.stop }

/-- The key of a one-pair mapping inside a flow sequence. -/
def flowSequenceEntryMappingKey : ParseM Event := do
  let t ← peek
  if t.data != .value && t.data != .flowEntry && t.data != .flowSequenceEnd then
    push .flowSequenceEntryMappingValue
    node false false
  else
    goTo .flowSequenceEntryMappingValue
    return emptyScalar t.start

/-- The value of a one-pair mapping inside a flow sequence. -/
def flowSequenceEntryMappingValue : ParseM Event := do
  let mut t ← peek
  if t.data == .value then
    next
    t ← peek
    if t.data != .flowEntry && t.data != .flowSequenceEnd then
      push .flowSequenceEntryMappingEnd
      return ← node false false
  goTo .flowSequenceEntryMappingEnd
  return emptyScalar t.start

/-- The end of a one-pair mapping inside a flow sequence. -/
def flowSequenceEntryMappingEnd : ParseM Event := do
  let t ← peek
  goTo .flowSequenceEntry
  return { data := .mappingEnd, start := t.start, stop := t.start }

/-- A key of a flow mapping, or its end. -/
def flowMappingKey (first : Bool) : ParseM Event := do
  if first then
    pushMark (← peek).start
    next
  let mut t ← peek
  if t.data != .flowMappingEnd then
    if !first then
      if t.data == .flowEntry then
        next
        t ← peek
      else
        faultIn "while parsing a flow mapping" (← popMark) "did not find expected ',' or '\x7d'"
          t.start
    if t.data == .key then
      next
      let k ← peek
      if k.data != .value && k.data != .flowEntry && k.data != .flowMappingEnd then
        push .flowMappingValue
        return ← node false false
      else
        goTo .flowMappingValue
        return emptyScalar k.start
    else if t.data != .flowMappingEnd then
      push .flowMappingEmptyValue
      return ← node false false
  pop
  let _ ← popMark
  next
  return { data := .mappingEnd, start := t.start, stop := t.stop }

/-- A value of a flow mapping; `empty` when the key had no `:` at all. -/
def flowMappingValue (empty : Bool) : ParseM Event := do
  let mut t ← peek
  if empty then
    goTo .flowMappingKey
    return emptyScalar t.start
  if t.data == .value then
    next
    t ← peek
    if t.data != .flowEntry && t.data != .flowMappingEnd then
      push .flowMappingKey
      return ← node false false
  goTo .flowMappingKey
  return emptyScalar t.start

/-- The start of the stream. -/
def streamStart : ParseM Event := do
  let t ← peek
  if t.data != .streamStart then fault "did not find expected <stream-start>" t.start
  goTo .implicitDocumentStart
  next
  return { data := .streamStart, start := t.start, stop := t.start }

/-- The content of an explicit document, which may be empty. -/
def documentContent : ParseM Event := do
  let t ← peek
  match t.data with
  | .versionDirective .. | .tagDirective .. | .documentStart | .documentEnd | .streamEnd =>
    pop
    return emptyScalar t.start
  | _ => node true false

/-- The next event, or none after the end of the stream. -/
def step : ParseM (Option Event) := do
  match (← get).state with
  | .streamStart => some <$> streamStart
  | .implicitDocumentStart => some <$> documentStart true
  | .documentStart => some <$> documentStart false
  | .documentContent => some <$> documentContent
  | .documentEnd => some <$> documentEnd
  | .blockNode => some <$> node true false
  | .blockNodeOrIndentlessSequence => some <$> node true true
  | .flowNode => some <$> node false false
  | .blockSequenceFirstEntry => some <$> blockSequenceEntry true
  | .blockSequenceEntry => some <$> blockSequenceEntry false
  | .indentlessSequenceEntry => some <$> indentlessSequenceEntry
  | .blockMappingFirstKey => some <$> blockMappingKey true
  | .blockMappingKey => some <$> blockMappingKey false
  | .blockMappingValue => some <$> blockMappingValue
  | .flowSequenceFirstEntry => some <$> flowSequenceEntry true
  | .flowSequenceEntry => some <$> flowSequenceEntry false
  | .flowSequenceEntryMappingKey => some <$> flowSequenceEntryMappingKey
  | .flowSequenceEntryMappingValue => some <$> flowSequenceEntryMappingValue
  | .flowSequenceEntryMappingEnd => some <$> flowSequenceEntryMappingEnd
  | .flowMappingFirstKey => some <$> flowMappingKey true
  | .flowMappingKey => some <$> flowMappingKey false
  | .flowMappingValue => some <$> flowMappingValue false
  | .flowMappingEmptyValue => some <$> flowMappingValue true
  | .finished => return none

end Parse

namespace Parser

/-- A parser at the start of a text. -/
def start (text : String) : Parser := { scanner := Scanner.start text }

/-- The next event and the parser after it; none after the end of the stream. -/
def next (p : Parser) : Except ReadError (Option Event × Parser) := Parse.step.run p

end Parser

end LabFleet.Yaml
