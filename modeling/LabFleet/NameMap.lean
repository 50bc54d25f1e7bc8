/-!
Maps keyed by name, kept as association lists sorted by key with each key once. Iteration
follows the order of the keys, code point by code point, which is the order names are listed
and written in everywhere.
-/

namespace LabFleet

/-- A map from names, as a list sorted by key. -/
abbrev NameMap (α : Type) := List (String × α)

namespace NameMap

/-- The value at a key. -/
def find? (m : NameMap α) (k : String) : Option α :=
  match List.find? (fun e => e.1 == k) m with
  | some (_, v) => some v
  | none => none

/-- Whether a key is present. -/
def contains (m : NameMap α) (k : String) : Bool := List.any m (·.1 == k)

/-- Sets the value at a key, keeping the keys sorted. -/
def insert (k : String) (v : α) : NameMap α → NameMap α
  | [] => [(k, v)]
  | (k', v') :: rest =>
    if k < k' then (k, v) :: (k', v') :: rest
    else if k == k' then (k, v) :: rest
    else (k', v') :: insert k v rest

/-- Removes a key. -/
def erase (k : String) (m : NameMap α) : NameMap α := List.filter (·.1 != k) m

/-- The keys in order. -/
def keys (m : NameMap α) : List String := List.map (·.1) m

/-- A map from a list of pairs; of two pairs with one key the later wins. -/
def ofList (pairs : List (String × α)) : NameMap α :=
  pairs.foldl (fun m kv => insert kv.1 kv.2 m) []

end NameMap

/-- Unicode white space, as trimming and blank tests count it. -/
def isUnicodeSpace (c : Char) : Bool :=
  let n := c.toNat
  (0x09 ≤ n && n ≤ 0x0D) || n == 0x20 || n == 0x85 || n == 0xA0 || n == 0x1680 ||
    (0x2000 ≤ n && n ≤ 0x200A) || n == 0x2028 || n == 0x2029 || n == 0x202F ||
    n == 0x205F || n == 0x3000

/-- Whether a text is empty or all white space. -/
def isBlank (s : String) : Bool := s.toList.all isUnicodeSpace

end LabFleet
