import LabFleet.Yaml.Mark

/-!
Tokens of YAML text: indicators, the structure that indentation implies, and scalars with
the style they were written in.
-/

namespace LabFleet.Yaml

/-- How a scalar was written. -/
inductive ScalarStyle where
  | plain
  | singleQuoted
  | doubleQuoted
  | literal
  | folded
  deriving DecidableEq, Repr, Inhabited

/-- The kinds of tokens, with their contents. -/
inductive TokenData where
  | streamStart
  | streamEnd
  | versionDirective (major minor : Nat)
  | tagDirective (handle pre : String)
  | documentStart
  | documentEnd
  | blockSequenceStart
  | blockMappingStart
  | blockEnd
  | flowSequenceStart
  | flowSequenceEnd
  | flowMappingStart
  | flowMappingEnd
  | blockEntry
  | flowEntry
  | key
  | value
  | alias (name : String)
  | anchor (name : String)
  | tag (handle suffix : String)
  | scalar (text : String) (style : ScalarStyle)
  deriving DecidableEq, Repr, Inhabited

/-- A token with the positions where it starts and ends. -/
structure Token where
  data : TokenData
  start : Mark
  stop : Mark
  deriving DecidableEq, Repr, Inhabited

end LabFleet.Yaml
