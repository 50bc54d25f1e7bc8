import LabFleet.Number

/-!
YAML values: null, booleans, numbers, strings, sequences, mappings with keys of any kind
(in the order they were written) and tagged values. Two values are equal when they have the
same structure, with numbers compared as numbers (YAML has a single NaN, equal to itself),
mappings compared without regard to order, and tags compared without a leading `!`.
-/

namespace LabFleet.Yaml

/-- A YAML value. -/
inductive Node where
  | null
  | bool (b : Bool)
  | number (n : Number)
  | string (s : String)
  | sequence (items : List Node)
  | mapping (entries : List (Node × Node))
  | tagged (tag : String) (value : Node)
  deriving Inhabited

/-- Numbers as YAML compares them: a NaN equals a NaN. -/
def Number.sameAs : Number → Number → Bool
  | .float a, .float b => a == b || (a.isNaN && b.isNaN)
  | a, b => a == b

/-- A tag without its leading `!`, unless it is only `!`. -/
def Node.bareTag (t : String) : String :=
  match t.toList with
  | '!' :: rest@(_ :: _) => String.ofList rest
  | _ => t

mutual
/-- Equality of YAML values. -/
def Node.equal : Node → Node → Bool
  | .null, .null => true
  | .bool a, .bool b => a == b
  | .number a, .number b => Number.sameAs a b
  | .string a, .string b => a == b
  | .sequence xs, .sequence ys => Node.equalItems xs ys
  | .mapping xs, .mapping ys => xs.length == ys.length && Node.entriesWithin xs ys
  | .tagged s a, .tagged t b => Node.bareTag s == Node.bareTag t && Node.equal a b
  | _, _ => false
termination_by structural a => a

/-- Equality of two lists of values, item by item. -/
def Node.equalItems : List Node → List Node → Bool
  | [], [] => true
  | x :: xs, y :: ys => Node.equal x y && Node.equalItems xs ys
  | _, _ => false
termination_by structural xs => xs

/-- Every entry of the first mapping is equal to an entry of the second. -/
def Node.entriesWithin : List (Node × Node) → List (Node × Node) → Bool
  | [], _ => true
  | (k, v) :: rest, ys =>
    ys.any (fun e => Node.equal k e.1 && Node.equal v e.2) && Node.entriesWithin rest ys
termination_by structural xs => xs
end

/-- Whether a mapping has an entry with a key equal to `k`. -/
def Node.hasKey (k : Node) (entries : List (Node × Node)) : Bool :=
  entries.any fun e => Node.equal k e.1

/-! ## Deciding equality -/

mutual
/-- Whether two values are the same value, constructor by constructor. -/
def Node.same : Node → Node → Bool
  | .null, .null => true
  | .bool a, .bool b => a == b
  | .number a, .number b => decide (a = b)
  | .string a, .string b => a == b
  | .sequence xs, .sequence ys => Node.sameItems xs ys
  | .mapping xs, .mapping ys => Node.sameEntries xs ys
  | .tagged s a, .tagged t b => s == t && Node.same a b
  | _, _ => false
termination_by structural a => a

def Node.sameItems : List Node → List Node → Bool
  | [], [] => true
  | x :: xs, y :: ys => Node.same x y && Node.sameItems xs ys
  | _, _ => false
termination_by structural xs => xs

def Node.sameEntries : List (Node × Node) → List (Node × Node) → Bool
  | [], [] => true
  | (k, v) :: xs, (k', v') :: ys => Node.same k k' && Node.same v v' && Node.sameEntries xs ys
  | _, _ => false
termination_by structural xs => xs
end

mutual
theorem Node.same_iff : (a b : Node) → Node.same a b = true ↔ a = b
  | .null, b => by cases b <;> simp [Node.same]
  | .bool x, b => by cases b <;> simp [Node.same]
  | .number x, b => by cases b <;> simp [Node.same]
  | .string x, b => by cases b <;> simp [Node.same]
  | .sequence xs, b => by cases b <;> simp [Node.same, Node.sameItems_iff xs]
  | .mapping xs, b => by cases b <;> simp [Node.same, Node.sameEntries_iff xs]
  | .tagged s x, b => by cases b <;> simp [Node.same, Node.same_iff x]

theorem Node.sameItems_iff : (xs ys : List Node) → Node.sameItems xs ys = true ↔ xs = ys
  | [], ys => by cases ys <;> simp [Node.sameItems]
  | x :: xs, ys => by
    cases ys <;> simp [Node.sameItems, Node.same_iff x, Node.sameItems_iff xs]

theorem Node.sameEntries_iff :
    (xs ys : List (Node × Node)) → Node.sameEntries xs ys = true ↔ xs = ys
  | [], ys => by cases ys <;> simp [Node.sameEntries]
  | (k, v) :: xs, [] => by simp [Node.sameEntries]
  | (k, v) :: xs, (k', v') :: ys => by
    simp [Node.sameEntries, Node.same_iff k, Node.same_iff v, Node.sameEntries_iff xs, and_assoc]
end

instance : DecidableEq Node := fun a b => decidable_of_iff _ (Node.same_iff a b)

end LabFleet.Yaml
