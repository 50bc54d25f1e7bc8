import LabFleet.Decimal.Text
import LabFleet.Decode.Escaped

/-!
Messages of typed decoding. When a value of the wrong shape meets a typed field the message
names what was found and what was expected: `invalid type: string "x", expected u16`. A
value of the right shape but out of range is an invalid value; an enumeration names the
accepted spellings. Found strings are quoted with their special characters escaped, and
found doubles are written in a given style with at least one decimal place.
-/

namespace LabFleet.Decode

/-- Hex digits of a code point, lowercase, without leading zeros. -/
def hexDigits (n : Nat) : String := String.ofList (Nat.toDigits 16 n)

/-- A character inside a quoted found string. -/
def quoteChar (c : Char) : String :=
  if c = '"' then "\\\""
  else if c = '\\' then "\\\\"
  else if c = '\n' then "\\n"
  else if c = '\r' then "\\r"
  else if c = '\t' then "\\t"
  else if c.toNat = 0 then "\\0"
  else if isEscaped c then "\\u" ++ "\x7b" ++ hexDigits c.toNat ++ "\x7d"
  else c.toString

/-- A string in double quotes with its special characters escaped. -/
def quoted (s : String) : String := "\"" ++ String.join (s.toList.map quoteChar) ++ "\""

/-- A double in the given style, with `.0` added when no point is written. -/
def floatText (style : Decimal.Style) (f : Float) : String :=
  let t := style.write f
  let p := Decimal.Parts.ofFloat f
  if p.isSpecial || t.toList.contains '.' || t.toList.contains 'e' then t else t ++ ".0"

/-- What a decoder found. -/
inductive Found where
  | bool (b : Bool)
  | unsigned (n : Nat)
  | signed (i : Int)
  | float (f : Float)
  | str (s : String)
  | unit
  | seq
  | map
  | enum
  /-- Any other description, written as given. -/
  | other (text : String)

/-- How a source of values describes what it found: the word for a missing value and the
style of doubles. -/
structure Source where
  unitWord : String
  floatStyle : Decimal.Style

/-- Values read from configuration documents. -/
def Source.document : Source := ⟨"unit value", Decimal.Style.plain⟩

/-- Values read from JSON. -/
def Source.json : Source := ⟨"null", Decimal.Style.json⟩

/-- The description of a found value. -/
def Found.render (src : Source) : Found → String
  | .bool b => "boolean \x60" ++ (if b then "true" else "false") ++ "\x60"
  | .unsigned n => "integer \x60" ++ toString n ++ "\x60"
  | .signed i => "integer \x60" ++ toString i ++ "\x60"
  | .float f => "floating point \x60" ++ floatText src.floatStyle f ++ "\x60"
  | .str s => "string " ++ quoted s
  | .unit => src.unitWord
  | .seq => "sequence"
  | .map => "map"
  | .enum => "enum"
  | .other t => t

/-- A value of the wrong shape. -/
def invalidType (src : Source) (found : Found) (expected : String) : String :=
  "invalid type: " ++ found.render src ++ ", expected " ++ expected

/-- A value of the right shape that is out of range. -/
def invalidValue (src : Source) (found : Found) (expected : String) : String :=
  "invalid value: " ++ found.render src ++ ", expected " ++ expected

/-- A name in backquotes. -/
def tick (s : String) : String := "\x60" ++ s ++ "\x60"

/-- The accepted spellings of an enumeration, as a message lists them. -/
def oneOf : List String → String
  | [] => "there are no variants"
  | [a] => tick a
  | [a, b] => tick a ++ " or " ++ tick b
  | names => "one of " ++ ", ".intercalate (names.map tick)

/-- A spelling that names no variant. -/
def unknownVariant (found : String) (expected : List String) : String :=
  match expected with
  | [] => "unknown variant " ++ tick found ++ ", there are no variants"
  | _ => "unknown variant " ++ tick found ++ ", expected " ++ oneOf expected

/-- A required field that is absent. -/
def missingField (name : String) : String := "missing field " ++ tick name

/-- A field given twice. -/
def duplicateField (name : String) : String := "duplicate field " ++ tick name

end LabFleet.Decode
