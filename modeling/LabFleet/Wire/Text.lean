import LabFleet.Wire.Call

/-!
Typed reading of calls and replies straight from JSON text, with positions. The text is
read once; a refusal carries the line and column where it was found:

* a value of the wrong type is taken whole if it is a scalar (and the position is after
  it) and only looked at if it is an array or object (the position is before it);
* a refusal of a record as a whole (a field given twice, a field missing, an array too
  short) is reported once the reader has moved past the blanks and the closing bracket that
  follow, as if the record had been closed;
* for a reply, only the tag is read typed; the other fields are kept as they are and read
  once the record is closed, without positions, as `Reply.ofContent` does, and before the
  text after the record is looked at.
-/

namespace LabFleet.Wire

open Json

/-- What a typed read found instead of what it wanted: a scalar is taken, an array or an
object is not. -/
def foundAhead : Reader Decode.Found := do
  match ← blank with
  | none => failAhead msgEofValue
  | some b =>
    if b = 110 then do eat; ident [117, 108, 108]; pure .unit
    else if b = 116 then do eat; ident [114, 117, 101]; pure (.bool true)
    else if b = 102 then do eat; ident [97, 108, 115, 101]; pure (.bool false)
    else if b = 45 then do eat; pure (Json.found (.number (← numberBody false)))
    else if isDigit b then pure (Json.found (.number (← numberBody true)))
    else if b = 34 then do eat; pure (.str (← stringBody))
    else if b = 91 then pure .seq
    else if b = 123 then pure .map
    else failAhead msgExpectedValue

/-- Refuses the value ahead, which is not `expected`. -/
def refuseAhead {α : Type} (expected : String) : Reader α := do
  let f ← foundAhead
  fail (Decode.invalidType .json f expected)

/-- A string value. -/
def textString : Reader String := do
  match ← blank with
  | none => failAhead msgEofValue
  | some 34 => do eat; stringBody
  | some _ => refuseAhead "a string"

/-- A reply's tag. -/
def textTag : Reader ReplyTag := do
  match ← blank with
  | none => failAhead msgEofValue
  | some 34 => do
    eat
    let s ← stringBody
    match ReplyTag.ofString s with
    | .ok t => pure t
    | .error m => fail m
  | some _ => refuseAhead "variant identifier"

/-- Refuses a record after moving past the blanks and the closing `close` that follow. -/
def refuseRecord {α : Type} (close : UInt8) (message : String) : Reader α := do
  if (← blank) = some close then eat
  fail message

/-- Whether another item of an array follows; if so the reader stands at it. -/
def nextItem (first : Bool) : Reader Bool := do
  match ← blank with
  | some 93 => pure false
  | some 44 =>
    if first then pure true
    else do
      eat
      match ← blank with
      | some 93 => failAhead msgTrailingComma
      | some _ => pure true
      | none => failAhead msgEofValue
  | some _ => if first then pure true else failAhead msgListCommaOrEnd
  | none => failAhead msgEofList

/-- A call's fields as far as read. -/
structure CallDraft where
  object : Option String := none
  method : Option String := none
  args : Option Json := none

/-- The fields of a call, after its opening brace. -/
def callFields (depth : Nat) : Nat → Bool → CallDraft → Reader CallDraft
  | 0, _, d => pure d
  | fuel + 1, first, d => do
    match ← nextKey first with
    | none => pure d
    | some "object" =>
      if d.object.isSome then refuseRecord 125 (Decode.duplicateField "object")
      colon
      let s ← textString
      callFields depth fuel false { d with object := some s }
    | some "method" =>
      if d.method.isSome then refuseRecord 125 (Decode.duplicateField "method")
      colon
      let s ← textString
      callFields depth fuel false { d with method := some s }
    | some "args" =>
      if d.args.isSome then refuseRecord 125 (Decode.duplicateField "args")
      colon
      let v ← value depth
      callFields depth fuel false { d with args := some (normalize v) }
    | some _ =>
      colon
      skipValue ((← get).rest.length + 1)
      callFields depth fuel false d

/-- The items of a call given as an array, after its opening bracket. -/
def callItems (depth : Nat) : Reader Call := do
  let what := "struct Call with 3 elements"
  if !(← nextItem true) then refuseRecord 93 (invalidLength 0 what)
  let o ← textString
  if !(← nextItem false) then refuseRecord 93 (invalidLength 1 what)
  let m ← textString
  let args ← if (← nextItem false) then normalize <$> value depth else pure .null
  return { object := o, method := m, args }

/-- A call. -/
def textCall : Reader Call := do
  match ← blank with
  | none => failAhead msgEofValue
  | some 123 => do
    eat
    let d ← callFields (maxDepth - 1) ((← get).rest.length + 1) true {}
    endObject
    match d.object, d.method with
    | none, _ => fail (Decode.missingField "object")
    | _, none => fail (Decode.missingField "method")
    | some o, some m => pure { object := o, method := m, args := d.args.getD .null }
  | some 91 => do
    eat
    let c ← callItems (maxDepth - 1)
    endArray
    pure c
  | some _ => refuseAhead callWhat

/-- The fields of a reply after its opening brace: the tag, and the other fields in order. -/
def replyFields (depth : Nat) :
    Nat → Bool → Option ReplyTag → List (String × Json) → Reader (Option ReplyTag × List (String × Json))
  | 0, _, tag, acc => pure (tag, acc.reverse)
  | fuel + 1, first, tag, acc => do
    match ← nextKey first with
    | none => pure (tag, acc.reverse)
    | some "status" =>
      if tag.isSome then refuseRecord 125 (Decode.duplicateField "status")
      colon
      let t ← textTag
      replyFields depth fuel false (some t) acc
    | some k =>
      colon
      let v ← value depth
      replyFields depth fuel false tag ((k, v) :: acc)

/-- Items of an array up to its closing bracket, which is left unread. -/
def restItems (depth : Nat) : Nat → List Json → Reader (List Json)
  | 0, acc => pure acc.reverse
  | fuel + 1, acc => do
    if ← nextItem false then
      let v ← value depth
      restItems depth fuel (v :: acc)
    else pure acc.reverse

/-- A reply's tag and its other fields, kept. -/
def textReplyParts : Reader (ReplyTag × Json) := do
  match ← blank with
  | none => failAhead msgEofValue
  | some 123 => do
    eat
    let (tag, fields) ← replyFields (maxDepth - 1) ((← get).rest.length + 1) true none []
    endObject
    match tag with
    | none => fail (Decode.missingField "status")
    | some t => pure (t, .object fields)
  | some 91 => do
    eat
    if !(← nextItem true) then refuseRecord 93 (Decode.missingField "status")
    let t ← textTag
    let rest ← restItems (maxDepth - 1) ((← get).rest.length + 1) []
    endArray
    pure (t, .array rest)
  | some _ => refuseAhead replyWhat

/-- A call from a whole JSON text. -/
def Call.ofText (bytes : List UInt8) : Except ReadError Call := runReader textCall bytes

/-- A reply, its fields read typed once the whole record has been read. -/
def textReply : Reader Reply := do
  let (tag, content) ← textReplyParts
  match Reply.ofContent tag content with
  | .ok r => pure r
  | .error m => throw (ReadError.plain m)

/-- A reply from a whole JSON text; a refusal of its fields comes before any text after it. -/
def Reply.ofText (bytes : List UInt8) : Except ReadError Reply := runReader textReply bytes

end LabFleet.Wire
