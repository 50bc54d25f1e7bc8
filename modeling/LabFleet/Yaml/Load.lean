import LabFleet.Yaml.Event
import LabFleet.Yaml.Node
import LabFleet.Yaml.Scalar
import LabFleet.Decode.Message

/-!
Loading a YAML text as one value. The events of the first document are collected, with
anchors numbered as they are defined; the value is then built from them, following aliases
back to their anchors. A fault in the text is reported only if building the value needs the
events after it, so a fault inside the value (a duplicate key, an integer too wide for 64
bits) found first is the one reported. A text with a second document is refused.

Building is bounded in two ways: at most 128 collections may nest, and the aliases followed
may number at most 100 times the events of the document.
-/

namespace LabFleet.Yaml

/-- Where a value sits in a document, as messages name it. -/
inductive Path where
  | root
  | index (parent : Path) (i : Nat)
  | key (parent : Path) (k : String)
  | alias (parent : Path)
  | unknown (parent : Path)
  deriving Inhabited

/-- The written form of a path: `.` for the whole document, `a.b[0].c` below it. -/
def Path.render : Path → String
  | .root => "."
  | .index p i => p.render ++ "[" ++ toString i ++ "]"
  | .key p k => (match p with
      | .root => ""
      | _ => p.render ++ ".") ++ k
  | .alias p => p.render
  | .unknown p => (match p with
      | .root => ""
      | _ => p.render ++ ".") ++ "?"

/-- A failure to load a YAML text. -/
inductive LoadError where
  | read (e : ReadError)
  /-- A message about a value, with where the value is when known. -/
  | message (text : String) (at? : Option (Mark × Path))
  | endOfStream
  | moreThanOneDocument
  | recursionLimit (mark : Mark)
  | repetitionLimit
  | unknownAnchor (mark : Mark)
  deriving Inhabited

/-- ` at line L column C`, or nothing at the start of the text. -/
def Mark.suffix (m : Mark) : String := if m.isStart then "" else " at " ++ m.render

/-- The message of a load failure. -/
def LoadError.render : LoadError → String
  | .read e => e.render
  | .message text none => text
  | .message text (some (m, p)) =>
    let path := p.render
    (if path == "." then "" else path ++ ": ") ++ text ++ m.suffix
  | .endOfStream => "EOF while parsing a value"
  | .moreThanOneDocument =>
    "deserializing from YAML containing more than one document is not supported"
  | .recursionLimit m => "recursion limit exceeded" ++ m.suffix
  | .repetitionLimit => "repetition limit exceeded"
  | .unknownAnchor m => "unknown anchor" ++ m.suffix

/-- An event of a collected document. Aliases refer to anchors by number. -/
inductive Item where
  | alias (id : Nat)
  | scalar (tag : Option String) (text : String) (style : ScalarStyle)
  | sequenceStart (tag : Option String)
  | sequenceEnd
  | mappingStart (tag : Option String)
  | mappingEnd
  /-- The whole of an empty stream. -/
  | void
  deriving Inhabited

/-- The events of one document, the position of each anchor, and the fault that ended the
document early, if any. -/
structure Document where
  items : Array (Item × Mark) := #[]
  anchors : List (Nat × Nat) := []
  error : Option LoadError := none
  deriving Inhabited

/-- Collects the next document of a stream; none when the stream has ended. Also gives the
parser to read further documents from, unless the stream ended or failed. -/
def Document.next (p : Parser) (first : Bool) : Option Document × Option Parser := Id.run do
  let mut p := p
  let mut doc : Document := {}
  let mut names : List (String × Nat) := []
  for _ in [0:8 * (p.scanner.text.size + 16)] do
    match p.next with
    | .error e => return (some { doc with error := some (.read e) }, none)
    | .ok (none, _) => return (if first then some doc else none, none)
    | .ok (some ev, q) =>
      p := q
      let anchored (anchor : Option String) : Document × List (String × Nat) :=
        match anchor with
        | none => (doc, names)
        | some name =>
          let id := names.length
          let names := if names.any (·.1 == name) then
              names.map fun e => if e.1 == name then (name, id) else e
            else names ++ [(name, id)]
          ({ doc with anchors := (id, doc.items.size) :: doc.anchors.filter (·.1 != id) }, names)
      match ev.data with
      | .streamStart | .documentStart _ => pure ()
      | .streamEnd =>
        if !first then return (none, none)
        let items := if doc.items.isEmpty then #[(Item.void, ev.start)] else doc.items
        return (some { doc with items }, none)
      | .documentEnd _ => return (some doc, some p)
      | .alias name =>
        match names.find? (·.1 == name) with
        | some (_, id) => doc := { doc with items := doc.items.push (.alias id, ev.start) }
        | none => return (some { doc with error := some (.unknownAnchor ev.start) }, none)
      | .scalar anchor tag text style =>
        let (d, n) := anchored anchor
        doc := { d with items := d.items.push (.scalar tag text style, ev.start) }
        names := n
      | .sequenceStart anchor tag _ =>
        let (d, n) := anchored anchor
        doc := { d with items := d.items.push (.sequenceStart tag, ev.start) }
        names := n
      | .sequenceEnd => doc := { doc with items := doc.items.push (.sequenceEnd, ev.start) }
      | .mappingStart anchor tag _ =>
        let (d, n) := anchored anchor
        doc := { d with items := d.items.push (.mappingStart tag, ev.start) }
        names := n
      | .mappingEnd => doc := { doc with items := doc.items.push (.mappingEnd, ev.start) }
  return (some doc, none)

namespace Load

/-- The standard tags a scalar may carry. -/
def boolTag : String := "tag:yaml.org,2002:bool"
def intTag : String := "tag:yaml.org,2002:int"
def floatTag : String := "tag:yaml.org,2002:float"
def nullTag : String := "tag:yaml.org,2002:null"

/-- A refusal to hold an integer wider than 64 bits. -/
def wide (n : Int) (bits : String) : String :=
  Decode.invalidType .document (.other ("integer " ++ Decode.tick (toString n) ++ " as " ++ bits)) "any YAML value"

/-- The value of a plain scalar without a tag. -/
def untagged (text : String) : Except String Node :=
  if Scalar.isNull text then .ok .null
  else match Scalar.boolOf? text with
  | some b => .ok (.bool b)
  | none =>
    match Scalar.integerOf? text with
    | some (.unsigned n) => .ok (.number (.nat n))
    | some (.signed n) => .ok (.number (Number.ofInt n))
    | some (.wideUnsigned n) => .error (wide n "u128")
    | some (.wideSigned n) => .error (wide n "i128")
    | none =>
      match (if Scalar.digitsButNotNumber text then none else Scalar.floatOf? text) with
      | some f => .ok (.number (.float f))
      | none => .ok (.string text)

/-- The value of a scalar. A standard tag fixes how the text is read; `tagged` says a
local tag has already been taken off. -/
def scalar (tag : Option String) (text : String) (style : ScalarStyle) (tagged : Bool) :
    Except String Node :=
  let plain := style == .plain
  match tag, tagged with
  | some t, false =>
    if t == boolTag then
      match Scalar.boolOf? text with
      | some b => .ok (.bool b)
      | none => .error (Decode.invalidValue .document (.str text) "a boolean")
    else if t == intTag then
      match Scalar.integerOf? text with
      | some (.unsigned n) => .ok (.number (.nat n))
      | some (.signed n) => .ok (.number (Number.ofInt n))
      | some (.wideUnsigned n) => .error (wide n "u128")
      | some (.wideSigned n) => .error (wide n "i128")
      | none => .error (Decode.invalidValue .document (.str text) "an integer")
    else if t == floatTag then
      match Scalar.floatOf? text with
      | some f => .ok (.number (.float f))
      | none => .error (Decode.invalidValue .document (.str text) "a float")
    else if t == nullTag then
      if text == "~" || text == "null" || text == "Null" || text == "NULL" then .ok .null
      else .error (Decode.invalidValue .document (.str text) "null")
    else if t.startsWith "!" && plain then untagged text
    else .ok (.string text)
  | _, _ => if plain then untagged text else .ok (.string text)

/-- The local tag that makes a node a tagged value: the tag without its `!`. -/
def localTag (tag : Option String) (tagged : Bool) : Option String :=
  if tagged then none
  else match tag with
    | some t => match t.toList with
      | '!' :: rest@(_ :: _) => some (String.ofList rest)
      | ['!'] => some "!"
      | _ => none
    | none => none

/-- The message for a key written twice. -/
def duplicateKey (k : Node) : String :=
  "duplicate entry " ++ match k with
  | .null => "with null key"
  | .bool b => "with key " ++ Decode.tick (toString b)
  | .number n => "with key " ++ match n with
    | .nat v => toString v
    | .neg v => toString v
    | .float f => Decimal.Style.document.write f
  | .string s => "with key " ++ Decode.quoted s
  | _ => "in YAML map"

/-- What building a value reads from. -/
structure Source where
  doc : Document
  /-- The limit on aliases followed. -/
  jumpLimit : Nat

/-- The fault to report when the events run out. -/
def Source.exhausted (src : Source) : LoadError := src.doc.error.getD .endOfStream

mutual
/-- The value starting at event `pos`, with the position after it and the aliases followed
so far. `depth` is how many more collections may nest. -/
def value (src : Source) (fuel : Nat) (pos : Nat) (path : Path) (depth : Nat) (tagged : Bool)
    (jumps : Nat) : Except LoadError (Node × Nat × Nat) :=
  match fuel with
  | 0 => .error src.exhausted
  | fuel + 1 =>
    match src.doc.items[pos]? with
    | none => .error src.exhausted
    | some (item, mark) =>
      let here (text : String) : LoadError := .message text (some (mark, path))
      match item with
      | .alias id =>
        if jumps + 1 > src.jumpLimit then .error .repetitionLimit
        else match src.doc.anchors.lookup id with
          | some target => do
            let (node, _, jumps) ← value src fuel target (.alias path) depth false (jumps + 1)
            return (node, pos + 1, jumps)
          | none => .error src.exhausted
      | .scalar tag text style =>
        match localTag tag tagged with
        | some t => do
          let (node, after, jumps) ← value src fuel pos path depth true jumps
          return (.tagged t node, after, jumps)
        | none =>
          match scalar tag text style tagged with
          | .ok node => .ok (node, pos + 1, jumps)
          | .error e => .error (here e)
      | .sequenceStart tag =>
        match localTag tag tagged with
        | some t => do
          let (node, after, jumps) ← value src fuel pos path depth true jumps
          return (.tagged t node, after, jumps)
        | none =>
          if depth == 0 then .error (.recursionLimit mark)
          else do
            let (items, after, jumps) ← elements src fuel (pos + 1) path (depth - 1) jumps 0 []
            match src.doc.items[after]? with
            | none => .error src.exhausted
            | some _ => return (.sequence items, after + 1, jumps)
      | .mappingStart tag =>
        match localTag tag tagged with
        | some t => do
          let (node, after, jumps) ← value src fuel pos path depth true jumps
          return (.tagged t node, after, jumps)
        | none =>
          if depth == 0 then .error (.recursionLimit mark)
          else do
            let (entries, after, jumps) ←
              entries src fuel (pos + 1) path mark (depth - 1) tagged jumps []
            match src.doc.items[after]? with
            | none => .error src.exhausted
            | some _ => return (.mapping entries, after + 1, jumps)
      | .void => .ok (.null, pos + 1, jumps)
      | .sequenceEnd | .mappingEnd => .error src.exhausted

/-- The items of a sequence from event `pos` up to its end, gathered in reverse into `acc`. -/
def elements (src : Source) (fuel : Nat) (pos : Nat) (path : Path) (depth : Nat) (jumps : Nat)
    (index : Nat) (acc : List Node) : Except LoadError (List Node × Nat × Nat) :=
  match fuel with
  | 0 => .error src.exhausted
  | fuel + 1 =>
    match src.doc.items[pos]? with
    | none => .error src.exhausted
    | some (.sequenceEnd, _) | some (.void, _) => .ok (acc.reverse, pos, jumps)
    | some _ => do
      let (node, pos, jumps) ← value src fuel pos (.index path index) depth false jumps
      elements src fuel pos path depth jumps (index + 1) (node :: acc)

/-- The entries of a mapping from event `pos` up to its end, gathered in reverse into `acc`.
A key equal to an earlier one is refused before its value is read. -/
def entries (src : Source) (fuel : Nat) (pos : Nat) (path : Path) (mark : Mark) (depth : Nat)
    (tagged : Bool) (jumps : Nat) (acc : List (Node × Node)) :
    Except LoadError (List (Node × Node) × Nat × Nat) :=
  match fuel with
  | 0 => .error src.exhausted
  | fuel + 1 =>
    match src.doc.items[pos]? with
    | none => .error src.exhausted
    | some (.mappingEnd, _) | some (.void, _) => .ok (acc.reverse, pos, jumps)
    | some (item, _) => do
      let keyText := match item with
        | .scalar _ text _ => some text
        | _ => none
      let (k, pos, jumps) ← value src fuel pos path depth tagged jumps
      if Node.hasKey k acc then
        throw (.message (duplicateKey k) (some (mark, path)))
      let valuePath := match keyText with
        | some t => .key path t
        | none => .unknown path
      let (v, pos, jumps) ← value src fuel pos valuePath depth false jumps
      entries src fuel pos path mark depth tagged jumps ((k, v) :: acc)
end

end Load

/-- Loads a YAML text holding at most one document as a value. An empty text is null. -/
def Node.load (text : String) : Except LoadError Node := do
  if let some e := Scanner.badCharacter text then throw (.read e)
  let p := Parser.start text
  match Document.next p true with
  | (none, _) => throw .endOfStream
  | (some doc, rest) =>
    let src : Load.Source := { doc, jumpLimit := doc.items.size * 100 }
    let fuel := (doc.items.size + 2) * 400
    let (node, _, _) ← Load.value src fuel 0 .root 128 false 0
    if let some e := doc.error then throw e
    match rest with
    | none => return node
    | some q =>
      match Document.next q false with
      | (none, _) => return node
      | (some _, _) => throw .moreThanOneDocument

end LabFleet.Yaml
