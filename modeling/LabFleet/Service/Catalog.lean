/-!
The catalog of service implementations, keyed by `<module>.<Class>` references. A
configuration may only bind services whose implementation the catalog holds.
-/

namespace LabFleet

/-- A registry of service implementations by reference. -/
structure Catalog where
  references : List String
  deriving DecidableEq, Repr, Inhabited

namespace Catalog

/-- The implementations every build carries. -/
def builtin : Catalog := ⟨["sample.SampleService", "sample.SelectiveSampleService"]⟩

/-- A catalog with nothing in it. -/
def empty : Catalog := ⟨[]⟩

/-- Whether an implementation is registered. -/
def contains (c : Catalog) (reference : String) : Bool := c.references.contains reference

end Catalog

end LabFleet
