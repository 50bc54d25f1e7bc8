import LabFleet.Number

/-!
JSON values and their compact text. An object is a list of fields in the order they are
written; a map-like object (one that came from reading a text, or from a map) has its keys
sorted and distinct, which `Json.sortedObject` builds. Text is written without spaces;
strings escape the quote, the backslash and the control characters, and nothing else.
-/

namespace LabFleet

/-- A JSON value. -/
inductive Json where
  | null
  | bool (b : Bool)
  | number (n : Number)
  | string (s : String)
  | array (items : List Json)
  | object (fields : List (String × Json))

namespace Json

/-- Inserts a field into a field list sorted by key, replacing a field of that key. -/
def insertField (k : String) (v : Json) : List (String × Json) → List (String × Json)
  | [] => [(k, v)]
  | (k', v') :: rest =>
    if k < k' then (k, v) :: (k', v') :: rest
    else if k = k' then (k, v) :: rest
    else (k', v') :: insertField k v rest

/-- An object with sorted, distinct keys; of two fields with one key the later wins. -/
def sortedObject (fields : List (String × Json)) : Json :=
  .object (fields.foldl (fun acc kv => insertField kv.1 kv.2 acc) [])

/-- The value of a field of an object. -/
def field? (j : Json) (k : String) : Option Json :=
  match j with
  | .object fields => (fields.find? (·.1 == k)).map (·.2)
  | _ => none

/-- A whole number. -/
def nat (n : Nat) : Json := .number (.nat n)

/-- An integer. -/
def int (i : Int) : Json := .number (Number.ofInt i)

/-- A double. -/
def float (f : Float) : Json := .number (.float f)

/-- A list of strings. -/
def strings (xs : List String) : Json := .array (xs.map .string)

/-- Four hex digits, lowercase. -/
def hex4 (n : Nat) : String :=
  let d (i : Nat) : Char := "0123456789abcdef".toList.getD ((n >>> (4 * i)) % 16) '0'
  String.ofList [d 3, d 2, d 1, d 0]

/-- A character inside a string literal. -/
def escapeChar (c : Char) : String :=
  if c = '"' then "\\\""
  else if c = '\\' then "\\\\"
  else if c = '\n' then "\\n"
  else if c = '\r' then "\\r"
  else if c = '\t' then "\\t"
  else if c.toNat = 8 then "\\b"
  else if c.toNat = 12 then "\\f"
  else if c.toNat < 0x20 then "\\u" ++ hex4 c.toNat
  else c.toString

/-- A string literal. -/
def quote (s : String) : String :=
  "\"" ++ String.join (s.toList.map escapeChar) ++ "\""

/-- The text of a number. -/
def numberText : Number → String
  | .nat n => toString n
  | .neg n => toString n
  | .float f => Decimal.Style.json.write f

mutual
/-- The compact text of a value. -/
def write : Json → String
  | .null => "null"
  | .bool b => if b then "true" else "false"
  | .number n => numberText n
  | .string s => quote s
  | .array items => "[" ++ writeItems items ++ "]"
  | .object fields => "\x7b" ++ writeFields fields ++ "\x7d"

/-- Array items separated by commas. -/
def writeItems : List Json → String
  | [] => ""
  | [x] => write x
  | x :: rest => write x ++ "," ++ writeItems rest

/-- Object fields separated by commas. -/
def writeFields : List (String × Json) → String
  | [] => ""
  | [(k, v)] => quote k ++ ":" ++ write v
  | (k, v) :: rest => quote k ++ ":" ++ write v ++ "," ++ writeFields rest
end

/-- The line break and indentation before an item at nesting `depth`. -/
def indent (depth : Nat) : String := "\n" ++ String.ofList (List.replicate (2 * depth) ' ')

mutual
/-- The indented text of a value at nesting `depth`: every item and field on its own line,
two spaces deeper than its container; empty arrays and objects stay on one line. -/
def writePrettyAt (depth : Nat) : Json → String
  | .array [] => "[]"
  | .object [] => "\x7b\x7d"
  | .array items => "[" ++ prettyItems (depth + 1) items ++ indent depth ++ "]"
  | .object fields => "\x7b" ++ prettyFields (depth + 1) fields ++ indent depth ++ "\x7d"
  | j => write j

/-- Array items, each on its own line. -/
def prettyItems (depth : Nat) : List Json → String
  | [] => ""
  | [x] => indent depth ++ writePrettyAt depth x
  | x :: rest => indent depth ++ writePrettyAt depth x ++ "," ++ prettyItems depth rest

/-- Object fields, each on its own line. -/
def prettyFields (depth : Nat) : List (String × Json) → String
  | [] => ""
  | [(k, v)] => indent depth ++ quote k ++ ": " ++ writePrettyAt depth v
  | (k, v) :: rest => indent depth ++ quote k ++ ": " ++ writePrettyAt depth v ++ "," ++ prettyFields depth rest
end

/-- The indented text of a value. -/
def writePretty (j : Json) : String := writePrettyAt 0 j

end Json

end LabFleet
