import LabFleet.Yaml.Load
import LabFleet.Proofs.Checks

/-!
The numbers of a loaded YAML value are canonical: an integer is written in its unsigned form
when it is nonnegative, so the negative form only ever holds a negative integer.

Building a value from the events of a document is a mutual recursion over values, the items
of a sequence and the entries of a mapping, bounded by fuel. The invariant is carried by
induction on the fuel: one step lemma per function, each using the three statements at the
fuel below.
-/

namespace LabFleet

/-- A number in its one representation: the negative form holds a negative integer. -/
def Number.Canonical : Number → Prop
  | .neg n => n < 0
  | _ => True

@[simp] theorem Number.canonical_nat (n : Nat) : (Number.nat n).Canonical := trivial

@[simp] theorem Number.canonical_float (f : Float) : (Number.float f).Canonical := trivial

@[simp] theorem Number.canonical_ofInt (i : Int) : (Number.ofInt i).Canonical := by
  unfold Number.ofInt
  split
  · trivial
  · show i < 0
    omega

namespace Yaml

/-- A value whose numbers are all canonical. -/
inductive Node.Canonical : Node → Prop
  | null : Node.Canonical .null
  | bool (b : Bool) : Node.Canonical (.bool b)
  | number {n : Number} (h : n.Canonical) : Node.Canonical (.number n)
  | string (s : String) : Node.Canonical (.string s)
  | sequence {items : List Node} (h : ∀ x ∈ items, x.Canonical) : Node.Canonical (.sequence items)
  | mapping {entries : List (Node × Node)} (hk : ∀ e ∈ entries, e.1.Canonical)
      (hv : ∀ e ∈ entries, e.2.Canonical) : Node.Canonical (.mapping entries)
  | tagged (t : String) {v : Node} (h : v.Canonical) : Node.Canonical (.tagged t v)

namespace Node

@[simp] theorem canonical_null : Node.null.Canonical := .null

@[simp] theorem canonical_bool (b : Bool) : (Node.bool b).Canonical := .bool b

@[simp] theorem canonical_string (s : String) : (Node.string s).Canonical := .string s

@[simp] theorem canonical_number {n : Number} : (Node.number n).Canonical ↔ n.Canonical :=
  ⟨fun | .number h => h, .number⟩

@[simp] theorem canonical_tagged {t : String} {v : Node} :
    (Node.tagged t v).Canonical ↔ v.Canonical :=
  ⟨fun | .tagged _ h => h, .tagged t⟩

end Node

namespace Load

theorem untagged_canonical {text : String} {n : Node} (h : untagged text = .ok n) :
    n.Canonical := by
  unfold untagged at h
  -- every outcome is a refusal or a scalar value built from the text
  repeat' split at h
  all_goals cases h
  all_goals simp

theorem scalar_canonical {tag : Option String} {text : String} {style : ScalarStyle}
    {tagged : Bool} {n : Node} (h : scalar tag text style tagged = .ok n) : n.Canonical := by
  unfold scalar at h
  dsimp only at h
  repeat' split at h
  -- a plain scalar read as an untagged one, or a value built here from a standard tag
  any_goals exact untagged_canonical h
  all_goals cases h
  all_goals simp

open Checks

/-- Building at a given fuel gives canonical values, and canonical items and entries when the
ones gathered so far are canonical. -/
structure CanonicalAt (src : Source) (fuel : Nat) : Prop where
  value_ok : ∀ {pos : Nat} {path : Path} {depth : Nat} {tagged : Bool} {jumps : Nat}
    {r : Node × Nat × Nat}, value src fuel pos path depth tagged jumps = .ok r → r.1.Canonical
  elements_ok : ∀ {pos : Nat} {path : Path} {depth jumps index : Nat} {acc : List Node}
    {r : List Node × Nat × Nat}, (∀ x ∈ acc, x.Canonical) →
    elements src fuel pos path depth jumps index acc = .ok r → ∀ x ∈ r.1, x.Canonical
  entries_ok : ∀ {pos : Nat} {path : Path} {mark : Mark} {depth : Nat} {tagged : Bool}
    {jumps : Nat} {acc : List (Node × Node)} {r : List (Node × Node) × Nat × Nat},
    (∀ e ∈ acc, e.1.Canonical ∧ e.2.Canonical) →
    entries src fuel pos path mark depth tagged jumps acc = .ok r →
    ∀ e ∈ r.1, e.1.Canonical ∧ e.2.Canonical

variable {src : Source} {fuel : Nat}

theorem value_succ (ih : CanonicalAt src fuel) {pos : Nat} {path : Path} {depth : Nat}
    {tagged : Bool} {jumps : Nat} {r : Node × Nat × Nat}
    (h : value src (fuel + 1) pos path depth tagged jumps = .ok r) : r.1.Canonical := by
  unfold value at h
  rcases hpos : src.doc.items[pos]? with _ | ⟨item, mark⟩
  · simp only [hpos] at h
    cases h
  simp only [hpos] at h
  cases item with
  | «alias» id =>
    -- an alias is the value at its anchor, built again
    dsimp only at h
    split at h
    · cases h
    split at h
    · obtain ⟨⟨node, _, _⟩, hv, h⟩ := bind_eq_ok.1 h
      cases h
      simpa using ih.value_ok hv
    · cases h
  | scalar tag text style =>
    dsimp only at h
    split at h
    · obtain ⟨⟨node, _, _⟩, hv, h⟩ := bind_eq_ok.1 h
      cases h
      exact .tagged _ (ih.value_ok hv)
    split at h
    · cases h
      exact scalar_canonical ‹_›
    · cases h
  | sequenceStart tag =>
    dsimp only at h
    split at h
    · obtain ⟨⟨node, _, _⟩, hv, h⟩ := bind_eq_ok.1 h
      cases h
      exact .tagged _ (ih.value_ok hv)
    split at h
    · cases h
    obtain ⟨⟨items, after, _⟩, he, h⟩ := bind_eq_ok.1 h
    split at h
    · cases h
    · cases h
      exact .sequence (ih.elements_ok (by simp) he)
  | mappingStart tag =>
    dsimp only at h
    split at h
    · obtain ⟨⟨node, _, _⟩, hv, h⟩ := bind_eq_ok.1 h
      cases h
      exact .tagged _ (ih.value_ok hv)
    split at h
    · cases h
    obtain ⟨⟨es, after, _⟩, he, h⟩ := bind_eq_ok.1 h
    split at h
    · cases h
    · cases h
      have hes := ih.entries_ok (by simp) he
      exact .mapping (fun e he => (hes e he).1) (fun e he => (hes e he).2)
  | void =>
    cases h
    exact .null
  | sequenceEnd => cases h
  | mappingEnd => cases h

theorem elements_succ (ih : CanonicalAt src fuel) {pos : Nat} {path : Path}
    {depth jumps index : Nat} {acc : List Node} {r : List Node × Nat × Nat}
    (hacc : ∀ x ∈ acc, x.Canonical)
    (h : elements src (fuel + 1) pos path depth jumps index acc = .ok r) :
    ∀ x ∈ r.1, x.Canonical := by
  unfold elements at h
  split at h
  · cases h
  · cases h
    simpa using hacc
  · cases h
    simpa using hacc
  · -- one more item, built at the fuel below, joins the gathered ones
    obtain ⟨⟨node, after, _⟩, hv, h⟩ := bind_eq_ok.1 h
    have hn : node.Canonical := by simpa using ih.value_ok hv
    exact ih.elements_ok (List.forall_mem_cons.2 ⟨hn, hacc⟩) h

theorem entries_succ (ih : CanonicalAt src fuel) {pos : Nat} {path : Path} {mark : Mark}
    {depth : Nat} {tagged : Bool} {jumps : Nat} {acc : List (Node × Node)}
    {r : List (Node × Node) × Nat × Nat} (hacc : ∀ e ∈ acc, e.1.Canonical ∧ e.2.Canonical)
    (h : entries src (fuel + 1) pos path mark depth tagged jumps acc = .ok r) :
    ∀ e ∈ r.1, e.1.Canonical ∧ e.2.Canonical := by
  unfold entries at h
  split at h
  · cases h
  · cases h
    simpa using hacc
  · cases h
    simpa using hacc
  · -- a key and its value, each built at the fuel below, join the gathered entries
    obtain ⟨⟨k, afterKey, _⟩, hk, h⟩ := bind_eq_ok.1 h
    have hk : k.Canonical := by simpa using ih.value_ok hk
    dsimp only at h
    split at h
    · simp [throw, throwThe, MonadExceptOf.throw, bind, Except.bind] at h
    obtain ⟨⟨v, afterValue, _⟩, hv, h⟩ := bind_eq_ok.1 h
    have hv : v.Canonical := by simpa using ih.value_ok hv
    exact ih.entries_ok (List.forall_mem_cons.2 ⟨⟨hk, hv⟩, hacc⟩) h

theorem CanonicalAt.zero (src : Source) : CanonicalAt src 0 where
  value_ok h := by
    unfold value at h
    cases h
  elements_ok _ h := by
    unfold elements at h
    cases h
  entries_ok _ h := by
    unfold entries at h
    cases h

theorem CanonicalAt.succ (ih : CanonicalAt src fuel) : CanonicalAt src (fuel + 1) where
  value_ok := value_succ ih
  elements_ok := elements_succ ih
  entries_ok := entries_succ ih

theorem canonicalAt (src : Source) : ∀ fuel, CanonicalAt src fuel
  | 0 => .zero src
  | fuel + 1 => (canonicalAt src fuel).succ

end Load

/-- **Loaded numbers are canonical.** A value loaded from any text holds no negative-form
number that is not negative. -/
theorem Node.load_canonical {text : String} {n : Node} (h : Node.load text = .ok n) :
    n.Canonical := by
  unfold Node.load at h
  dsimp only at h
  split at h
  · cases h
  split at h
  · cases h
  obtain ⟨⟨node, _, _⟩, hv, h⟩ := Checks.bind_eq_ok.1 h
  have hn : node.Canonical := by simpa using (Load.canonicalAt _ _).value_ok hv
  -- what follows refuses the text or returns the value built
  repeat' split at h
  all_goals cases h
  all_goals exact hn

end Yaml

end LabFleet
