import LabFleet.Toml.Scalar

/-!
Building the root table of a TOML document from its statements. Keys and scalars are decoded
as they come, in document order, and each pair or header is placed as soon as it is read;
the first fault found is the one reported.

* A pair goes into the table of the latest header, or the root before any header; its dotted
  key makes or goes through tables made by dotted keys.
* A header makes the tables on its path that do not exist yet. `[a]` may name a table that
  so far was only made on the way to another header; `[[a]]` adds a table to the array of
  tables `a`, or starts it. A table's entries are placed in its parent when the next header
  starts, or at the end.
* A key given twice in a table is a duplicate, and so is a header naming a table that is
  already defined, a dotted key going into a table named by a header, or a header or dotted key
  reaching into a table that dotted keys made elsewhere in a way the rules do not allow. A path
  through a value that is no table (an inline table counts as a value) cannot be extended.
* A key of more than eighty parts is refused outright, with no position.

Layout faults are found first, while reading the statements: a document with one has no
table at all.
-/

namespace LabFleet.Toml

/-- An entry of a table: its key, its value and the span of the value. -/
abbrev Entry := String × Value × Span

namespace Document

/-- The bytes a span of the document covers. -/
def slice (source : Array UInt8) (span : Span) : List UInt8 :=
  (source.extract span.start span.stop).toList

/-- A key part, decoded, with its span. -/
def keyPart (source : Array UInt8) (p : Piece) : Except ReadError (String × Span) :=
  match Scalar.key (slice source p.span) p.quoting with
  | .ok s => .ok (s, p.span)
  | .error e => .error (e.shift p.span.start)

/-- The most parts a key may have. -/
def maxKeyParts : Nat := 80

/-- The fault of a key with too many parts. -/
def tooManyParts : ReadError := ⟨"recursion limit", none, none⟩

/-- A dotted key, decoded part by part. -/
def keyPath (source : Array UInt8) (parts : List Piece) : Except ReadError (List (String × Span)) := do
  let ks ← (parts.take maxKeyParts).mapM (keyPart source)
  if parts.length > maxKeyParts then throw tooManyParts
  return ks

/-- A scalar, decoded, with its span. -/
def scalar (source : Array UInt8) (p : Piece) : Except ReadError (Value × Span) :=
  match Scalar.value (slice source p.span) p.quoting with
  | .ok v => .ok (v, p.span)
  | .error e => .error (e.shift p.span.start)

/-- The value and span of a key among a table's entries. -/
def lookup (k : String) (entries : List Entry) : Option (Value × Span) :=
  (entries.find? (·.1 == k)).map (·.2)

/-- The entries with the value of a key replaced. -/
def replace (k : String) (v : Value × Span) (entries : List Entry) : List Entry :=
  entries.map fun e => if e.1 == k then (k, v) else e

/-- The fault of a path going through a value that is no table. -/
def cannotExtend (v : Value) (near : Span) : ReadError :=
  .bare ("cannot extend value of type " ++ v.typeName ++ " with a dotted key") near

/-- Runs `f` on the table that a path leads to from a table (its entries and origin), and
puts the table it returns back in place. Tables missing on the way are made, by a dotted key
when `dotted` and on the way to a header otherwise; an array of tables is gone through its
last table. -/
def descend {α : Type} (dotted : Bool)
    (f : List Entry → TableOrigin → Except ReadError (List Entry × α)) :
    List (String × Span) → List Entry → TableOrigin → Except ReadError (List Entry × α)
  | [], entries, origin => f entries origin
  | (k, ks) :: rest, entries, _ =>
    match lookup k entries with
    | none => do
      let made : TableOrigin := if dotted then .dotted else .parent
      let (sub, a) ← descend dotted f rest [] made
      return (entries ++ [(k, .table sub made, ks)], a)
    | some (.array items true, span) =>
      match items.reverse with
      | (.table sub o, tspan) :: earlier => do
        let (sub, a) ← descend dotted f rest sub o
        return (replace k (.array (earlier.reverse ++ [(.table sub o, tspan)]) true, span) entries, a)
      | (v, _) :: _ => throw (cannotExtend v ks)
      | [] => throw (cannotExtend (.array [] true) ks)
    | some (.table sub .inline, _) => throw (cannotExtend (.table sub .inline) ks)
    | some (.table sub o, span) =>
      if dotted && !o.implicit then throw (.bare "duplicate key" ks)
      else do
        let (sub, a) ← descend dotted f rest sub o
        return (replace k (.table sub o, span) entries, a)
    | some (v, _) => throw (cannotExtend v ks)

/-- Places a value under a dotted key (its leading parts `path`, its last part `key`) in a
table given by its entries and origin. -/
def insertPair (path : List (String × Span)) (key : String × Span) (v : Value × Span)
    (entries : List Entry) (origin : TableOrigin) : Except ReadError (List Entry) := do
  let (entries, ()) ← descend true (fun es o => do
      if (o == .dotted) == path.isEmpty then throw (.bare "duplicate key" key.2)
      if (lookup key.1 es).isSome then throw (.bare "duplicate key" key.2)
      return (es ++ [(key.1, v)], ())) path entries origin
  return entries

/-- Places a value under a decoded dotted key. -/
def insertAt (parts : List (String × Span)) (v : Value × Span) (entries : List Entry)
    (origin : TableOrigin) : Except ReadError (List Entry) :=
  match parts.reverse with
  | [] => .ok entries
  | key :: before => insertPair before.reverse key v entries origin

mutual

/-- A value as written, decoded, with its span. -/
def written (source : Array UInt8) : Written → Except ReadError (Value × Span)
  | .scalar p => scalar source p
  | .array items span => do
    let vs ← writtenItems source items
    return (.array vs false, span)
  | .inlineTable pairs span => do
    let entries ← inlinePairs source pairs []
    return (.table entries .inline, span)

/-- The items of an array, decoded in order. -/
def writtenItems (source : Array UInt8) : List Written → Except ReadError (List (Value × Span))
  | [] => .ok []
  | w :: rest => do
    let v ← written source w
    let vs ← writtenItems source rest
    return v :: vs

/-- The pairs of an inline table, decoded and placed in order. -/
def inlinePairs (source : Array UInt8) :
    List (List Piece × Written) → List Entry → Except ReadError (List Entry)
  | [], entries => .ok entries
  | (k, w) :: rest, entries => do
    let parts ← keyPath source k
    let v ← written source w
    let entries ← insertAt parts v entries .inline
    inlinePairs source rest entries

end

/-- A table header: its decoded path, its span, and whether it adds to an array of tables. -/
structure Header where
  path : List (String × Span)
  span : Span
  ofArrays : Bool

/-- The state of building: the root table, the table being filled and its header (none for
the root). -/
structure Builder where
  root : List Entry := []
  current : List Entry := []
  header : Option Header := none

/-- Places the table being filled where its header names. -/
def finishTable (b : Builder) : Except ReadError Builder :=
  match b.header with
  | none => .ok { root := b.current }
  | some h =>
    match h.path.reverse with
    | [] => .ok { root := b.root }
    | (k, ks) :: before => do
      let table : Value × Span := (.table b.current .header, h.span)
      let (root, ()) ← descend false (fun es _ =>
          if h.ofArrays then
            match lookup k es with
            | none => .ok (es ++ [(k, .array [table] true, h.span)], ())
            | some (.array items true, span) =>
              .ok (replace k (.array (items ++ [table]) true, span) es, ())
            | some _ => .error (.bare "duplicate key" ks)
          else .ok ((es.filter (·.1 != k)) ++ [(k, table)], ()))
        before.reverse b.root .header
      return { root }

/-- Opens the table a header names: a table made only on the way to other headers is taken
up again, any other existing value is a duplicate. -/
def startTable (b : Builder) (h : Header) : Except ReadError Builder :=
  if h.ofArrays then .ok { b with current := [], header := some h }
  else
    match h.path.reverse with
    | [] => .ok { b with header := some h }
    | (k, ks) :: before => do
      let (root, current) ← descend false (fun es _ =>
          match lookup k es with
          | none => .ok (es, [])
          | some (.table t .parent, _) => .ok (es.filter (·.1 != k), t)
          | some _ => .error (.bare "duplicate key" ks))
        before.reverse b.root .header
      return { root, current, header := some h }

/-- Takes one statement into the tables. -/
def statement (source : Array UInt8) (b : Builder) : Statement → Except ReadError Builder
  | .pair k w => do
    let parts ← keyPath source k
    let v ← written source w
    let current ← insertAt parts v b.current .header
    return { b with current }
  | .header k ofArrays span => do
    let b ← finishTable b
    let path ← keyPath source k
    startTable b ⟨path, span, ofArrays⟩

/-- The root table built from a document's statements. -/
def build (source : Array UInt8) (statements : List Statement) : Except ReadError (List Entry) := do
  let b ← statements.foldlM (statement source) {}
  let b ← finishTable b
  return b.root

end Document

/-- The root table of a TOML document, entries in the order they were made, or the first
fault. -/
def parse (text : String) : Except ReadError (List Entry) := do
  let bytes := text.toUTF8.data.toList
  let statements ← Syntax.read bytes
  Document.build bytes.toArray statements

end LabFleet.Toml
