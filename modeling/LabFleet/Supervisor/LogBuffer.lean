import LabFleet.Config.Kind

/-!
The in-memory tail of every profile's captured output. Each profile keeps at most
`capacity` lines, the newest; a capacity of zero is taken as one. Lines survive restarts of
the process that wrote them, and a renamed profile takes its lines along, replacing any
lines its new name had.
-/

namespace LabFleet.Supervisor

/-- A profile named with its kind. -/
structure ProfileKey where
  kind : ProfileKind
  name : String
  deriving DecidableEq, Repr, Inhabited

namespace ProfileKey

/-- Key order: nameservers first, then by name. -/
def lt (a b : ProfileKey) : Bool :=
  a.kind.rank < b.kind.rank || (a.kind == b.kind && decide (a.name < b.name))

/-- The written form: kind, a space, name. -/
def text (k : ProfileKey) : String := k.kind.name ++ " " ++ k.name

end ProfileKey

/-- Bounded tails of captured output, by profile. -/
structure LogBuffer where
  /-- Lines kept per profile, at least one. -/
  capacity : Nat
  /-- Each profile's lines, oldest first. -/
  tails : List (ProfileKey × List String) := []
  deriving DecidableEq, Repr, Inhabited

namespace LogBuffer

/-- An empty buffer keeping `maxLines` lines per profile (one if zero). -/
def new (maxLines : Nat) : LogBuffer := ⟨max maxLines 1, []⟩

/-- The lines of a profile, oldest first. -/
def lines (b : LogBuffer) (key : ProfileKey) : List String :=
  ((b.tails.find? (·.1 == key)).map (·.2)).getD []

/-- Replaces the lines of a profile. -/
def setLines (b : LogBuffer) (key : ProfileKey) (ls : List String) : LogBuffer :=
  { b with tails := (key, ls) :: b.tails.filter (·.1 != key) }

/-- Adds a line to a profile, dropping its oldest lines beyond the capacity. -/
def push (b : LogBuffer) (key : ProfileKey) (line : String) : LogBuffer :=
  let ls := b.lines key ++ [line]
  b.setLines key (ls.drop (ls.length - b.capacity))

/-- The last `n` lines of a profile, oldest first. -/
def tail (b : LogBuffer) (key : ProfileKey) (n : Nat) : List String :=
  let ls := b.lines key
  ls.drop (ls.length - n)

/-- Forgets the lines of a profile. -/
def clear (b : LogBuffer) (key : ProfileKey) : LogBuffer :=
  { b with tails := b.tails.filter (·.1 != key) }

/-- Moves the lines of a profile to a new name of the same kind; if the old name has none,
nothing changes. -/
def rename (b : LogBuffer) (kind : ProfileKind) (old new : String) : LogBuffer :=
  match b.tails.find? (·.1 == ⟨kind, old⟩) with
  | some (_, ls) => (b.clear ⟨kind, old⟩).setLines ⟨kind, new⟩ ls
  | none => b

end LogBuffer

end LabFleet.Supervisor
