import Mathlib
import LabFleet.Config.Render
import LabFleet.Config.Decode
import LabFleet.Proofs.NameMap
import LabFleet.Proofs.Checks
import LabFleet.Proofs.Yaml.Canonical

/-!
Constructor parameters written as YAML values and read back.

A parameter is read by trying each shape in turn, so a value comes back in the shape it was
written in only when no earlier shape takes it: an integer at or above 2^63 is read as a
double. The parameters loading makes never hold one, because the loader writes nonnegative
integers in the unsigned form (`Node.load_canonical`); their maps have sorted keys because
reading builds them key by key. `ParamValue.Fits` is that shape, and a fitting parameter is
read back as itself (`param_toNode`), as are fitting parameter maps (`parameters_written`).
-/

namespace LabFleet.Config

open Yaml NameMap Checks

set_option autoImplicit false

/-- A parameter as loading makes one: its integers are below 2^63 and its maps have sorted
keys. -/
inductive ParamValue.Fits : ParamValue → Prop
  | bool (b : Bool) : ParamValue.Fits (.bool b)
  | int {i : Int} (h : i < 2 ^ 63) : ParamValue.Fits (.int i)
  | float (f : Float) : ParamValue.Fits (.float f)
  | str (s : String) : ParamValue.Fits (.str s)
  | list {items : List ParamValue} (h : ∀ x ∈ items, x.Fits) : ParamValue.Fits (.list items)
  | map {entries : List (String × ParamValue)} (hs : NameMap.Sorted entries)
      (h : ∀ e ∈ entries, e.2.Fits) : ParamValue.Fits (.map entries)

/-- Parameters as loading makes them: sorted by name, each fitting. -/
def ParamsFit (ps : Parameters) : Prop := NameMap.Sorted ps ∧ ∀ e ∈ ps, e.2.Fits

/-! ## Writing and reading back -/

theorem paramItems_itemsToNode {items : List ParamValue}
    (h : ∀ x ∈ items, Read.param x.toNode = some x) :
    Read.paramItems (ParamValue.itemsToNode items) = some items := by
  induction items with
  | nil => rfl
  | cons x rest ih =>
    rw [List.forall_mem_cons] at h
    simp only [ParamValue.itemsToNode, Read.paramItems, h.1, ih h.2]
    rfl

theorem paramEntries_entriesToNode {entries : List (String × ParamValue)}
    (h : ∀ e ∈ entries, Read.param e.2.toNode = some e.2) (acc : Parameters) :
    Read.paramEntries (ParamValue.entriesToNode entries) acc =
      some (entries.foldl (fun acc e => NameMap.insert e.1 e.2 acc) acc) := by
  induction entries generalizing acc with
  | nil => rfl
  | cons e rest ih =>
    obtain ⟨k, v⟩ := e
    rw [List.forall_mem_cons] at h
    simp only [ParamValue.entriesToNode, Read.paramEntries, h.1, Option.bind_eq_bind,
      Option.bind_some, ih h.2]
    rfl

theorem param_ofInt {i : Int} (h : i < 2 ^ 63) :
    Read.param (.number (Number.ofInt i)) = some (.int i) := by
  unfold Number.ofInt
  split
  · next hi =>
    have hlt : i.toNat < Nat.pow 2 63 := by
      show i.toNat < 2 ^ 63
      omega
    simp only [Read.param, hlt, if_true]
    rw [Int.toNat_of_nonneg hi]
  · rfl

/-- **A fitting parameter is read back as itself.** -/
theorem param_toNode {v : ParamValue} (hv : v.Fits) : Read.param v.toNode = some v := by
  induction hv with
  | bool b => rfl
  | int h => exact param_ofInt h
  | float f => rfl
  | str s => rfl
  | list _ ih =>
    simp only [ParamValue.toNode, Read.param, paramItems_itemsToNode ih]
    rfl
  | map hs _ ih =>
    simp only [ParamValue.toNode, Read.param, paramEntries_entriesToNode ih, hs.foldl_insert_nil]
    rfl

theorem hasTagItems_itemsToNode {items : List ParamValue}
    (h : ∀ x ∈ items, Read.hasTag x.toNode = false) :
    Read.hasTag.hasTagItems (ParamValue.itemsToNode items) = false := by
  induction items with
  | nil => rfl
  | cons x rest ih =>
    rw [List.forall_mem_cons] at h
    simp only [ParamValue.itemsToNode, Read.hasTag.hasTagItems, h.1, ih h.2, Bool.false_or]

theorem hasTagEntries_entriesToNode {entries : List (String × ParamValue)}
    (h : ∀ e ∈ entries, Read.hasTag e.2.toNode = false) :
    Read.hasTag.hasTagEntries (ParamValue.entriesToNode entries) = false := by
  induction entries with
  | nil => rfl
  | cons e rest ih =>
    rw [List.forall_mem_cons] at h
    simp only [ParamValue.entriesToNode, Read.hasTag.hasTagEntries, Read.hasTag, h.1, ih h.2,
      Bool.false_or]

theorem hasTag_toNode {v : ParamValue} (hv : v.Fits) : Read.hasTag v.toNode = false := by
  induction hv with
  | bool b => rfl
  | int h =>
    simp only [ParamValue.toNode, Read.hasTag]
  | float f => rfl
  | str s => rfl
  | list _ ih => exact hasTagItems_itemsToNode ih
  | map _ _ ih => exact hasTagEntries_entriesToNode ih

theorem paramValue_toNode {v : ParamValue} (hv : v.Fits) : Read.paramValue v.toNode = .ok v := by
  simp only [Read.paramValue, hasTag_toNode hv, param_toNode hv, Bool.false_eq_true, if_false]

theorem entriesToNode_eq_map (ps : List (String × ParamValue)) :
    ParamValue.entriesToNode ps = ps.map fun e => (.string e.1, e.2.toNode) := by
  induction ps with
  | nil => rfl
  | cons e rest ih =>
    simp only [ParamValue.entriesToNode, List.map_cons, ih]

/-- **Fitting parameters are read back as themselves.** -/
theorem parameters_written {ps : Parameters} (hps : ParamsFit ps) :
    Read.parameters (.mapping (ParamValue.entriesToNode ps)) = .ok ps := by
  unfold Read.parameters
  dsimp only [Read.untag]
  rw [entriesToNode_eq_map, List.foldlM_map]
  -- each entry reads as its name and its parameter, which are set in the map built so far
  rw [foldlM_eq_ok_foldl (fun acc e => NameMap.insert e.1 e.2 acc), hps.1.foldl_insert_nil]
  intro e he acc
  simp only [Read.string, Read.untag, paramValue_toNode (hps.2 e he), ok_bind]
  rfl

theorem Number.ofInt_injective {a b : Int} (h : Number.ofInt a = Number.ofInt b) : a = b := by
  unfold Number.ofInt at h
  split at h <;> split at h
  · have h := Number.nat.inj h
    omega
  · cases h
  · cases h
  · exact Number.neg.inj h

theorem Number.ofInt_ne_float (i : Int) (f : Float) : Number.ofInt i ≠ .float f := by
  unfold Number.ofInt
  split <;> simp

theorem itemsToNode_injective {items : List ParamValue}
    (ih : ∀ x ∈ items, ∀ w : ParamValue, w.toNode = x.toNode → w = x) {ws : List ParamValue}
    (h : ParamValue.itemsToNode ws = ParamValue.itemsToNode items) : ws = items := by
  induction items generalizing ws with
  | nil =>
    cases ws with
    | nil => rfl
    | cons w ws => cases h
  | cons x rest ihr =>
    rw [List.forall_mem_cons] at ih
    cases ws with
    | nil => cases h
    | cons w ws =>
      simp only [ParamValue.itemsToNode, List.cons.injEq] at h
      rw [ih.1 w h.1, ihr ih.2 h.2]

theorem entriesToNode_injective {entries : List (String × ParamValue)}
    (ih : ∀ e ∈ entries, ∀ w : ParamValue, w.toNode = e.2.toNode → w = e.2)
    {ws : List (String × ParamValue)}
    (h : ParamValue.entriesToNode ws = ParamValue.entriesToNode entries) : ws = entries := by
  rw [entriesToNode_eq_map, entriesToNode_eq_map] at h
  induction entries generalizing ws with
  | nil => exact List.map_eq_nil_iff.1 h
  | cons e rest ihr =>
    rw [List.forall_mem_cons] at ih
    cases ws with
    | nil => cases h
    | cons w ws =>
      simp only [List.map_cons, List.cons.injEq, Prod.mk.injEq, Node.string.injEq] at h
      obtain ⟨⟨hk, hv⟩, hrest⟩ := h
      rw [ihr ih.2 hrest, Prod.ext hk (ih.1 w.2 hv)]

/-- **Writing a fitting parameter loses nothing**: no other parameter is written the same. -/
theorem toNode_injective {v : ParamValue} (hv : v.Fits) {w : ParamValue}
    (h : w.toNode = v.toNode) : w = v := by
  induction hv generalizing w with
  | bool b =>
    cases w <;> simp [ParamValue.toNode] at h
    rw [h]
  | @int i _ =>
    cases w with
    | int j =>
      simp only [ParamValue.toNode, Node.number.injEq] at h
      rw [Number.ofInt_injective h]
    | float f =>
      simp only [ParamValue.toNode, Node.number.injEq] at h
      exact absurd h.symm (Number.ofInt_ne_float i f)
    | _ => simp [ParamValue.toNode] at h
  | float f =>
    cases w with
    | int j =>
      simp only [ParamValue.toNode, Node.number.injEq] at h
      exact absurd h (Number.ofInt_ne_float j f)
    | _ => simp_all [ParamValue.toNode]
  | str s =>
    cases w <;> simp_all [ParamValue.toNode]
  | list _ ih =>
    cases w with
    | list ws =>
      simp only [ParamValue.toNode, Node.sequence.injEq] at h
      rw [itemsToNode_injective ih h]
    | _ => simp [ParamValue.toNode] at h
  | map _ _ ih =>
    cases w with
    | map ws =>
      simp only [ParamValue.toNode, Node.mapping.injEq] at h
      rw [entriesToNode_injective ih h]
    | _ => simp [ParamValue.toNode] at h

/-! ## Reading makes fitting parameters -/

theorem ParamsFit.nil : ParamsFit [] := ⟨List.Pairwise.nil, fun _ h => nomatch h⟩

theorem ParamsFit.insert {ps : Parameters} (h : ParamsFit ps) (k : String) {v : ParamValue}
    (hv : v.Fits) : ParamsFit (NameMap.insert k v ps) := by
  refine ⟨h.1.insert k v, fun e he => ?_⟩
  rcases mem_insert he with rfl | he
  · exact hv
  · exact h.2 e he

theorem paramItems_fits {items : List Node}
    (ih : ∀ x ∈ items, ∀ v, Read.param x = some v → v.Fits) {ps : List ParamValue}
    (h : Read.paramItems items = some ps) : ∀ v ∈ ps, v.Fits := by
  induction items generalizing ps with
  | nil =>
    cases h
    exact fun _ h => nomatch h
  | cons x rest ihr =>
    rw [List.forall_mem_cons] at ih
    simp only [Read.paramItems, Option.bind_eq_bind] at h
    obtain ⟨p, hp, h⟩ := Option.bind_eq_some_iff.1 h
    obtain ⟨ps', hps', h⟩ := Option.bind_eq_some_iff.1 h
    cases h
    exact List.forall_mem_cons.2 ⟨ih.1 p hp, ihr ih.2 hps'⟩

theorem paramEntries_fits {entries : List (Node × Node)}
    (ih : ∀ e ∈ entries, ∀ v, Read.param e.2 = some v → v.Fits) {acc ps : Parameters}
    (hacc : ParamsFit acc) (h : Read.paramEntries entries acc = some ps) : ParamsFit ps := by
  induction entries generalizing acc with
  | nil =>
    cases h
    exact hacc
  | cons e rest ihr =>
    rw [List.forall_mem_cons] at ih
    obtain ⟨k, v⟩ := e
    -- only an entry with a string key is read; its parameter joins the map
    cases k with
    | string k =>
      simp only [Read.paramEntries, Option.bind_eq_bind] at h
      obtain ⟨p, hp, h⟩ := Option.bind_eq_some_iff.1 h
      exact ihr ih.2 (hacc.insert k (ih.1 p hp)) h
    | _ => cases h

/-- **Reading a loaded value gives a fitting parameter.** -/
theorem param_fits {n : Node} (hn : n.Canonical) {v : ParamValue} (h : Read.param n = some v) :
    v.Fits := by
  induction hn generalizing v with
  | null => cases h
  | bool b =>
    cases h
    exact .bool b
  | @number k hk =>
    cases k with
    | nat k =>
      -- an integer below 2^63 is read as one; a wider one as a double
      simp only [Read.param, Option.some.injEq] at h
      subst h
      split
      · next hlt =>
        refine .int ?_
        have hlt : k < 2 ^ 63 := hlt
        omega
      · exact .float _
    | neg k =>
      cases h
      have hk : k < 0 := hk
      exact .int (by omega)
    | float f =>
      cases h
      exact .float f
  | string s =>
    cases h
    exact .str s
  | sequence _ ih =>
    obtain ⟨ps, hps, rfl⟩ := Option.map_eq_some_iff.1 h
    exact .list (paramItems_fits ih hps)
  | mapping _ _ _ ihv =>
    obtain ⟨ps, hps, rfl⟩ := Option.map_eq_some_iff.1 h
    have hfit := paramEntries_fits ihv ParamsFit.nil hps
    exact .map hfit.1 hfit.2
  | tagged t _ _ => cases h

theorem Canonical.untag {n : Node} (hn : n.Canonical) : (Read.untag n).Canonical := by
  induction hn with
  | tagged t _ ih => exact ih
  | null => exact .null
  | bool b => exact .bool b
  | number h => exact .number h
  | string s => exact .string s
  | sequence h => exact .sequence h
  | mapping hk hv => exact .mapping hk hv

/-- **Parameters read from a loaded value fit.** -/
theorem parameters_fit {n : Node} (hn : n.Canonical) {ps : Parameters}
    (h : Read.parameters n = .ok ps) : ParamsFit ps := by
  unfold Read.parameters at h
  have hu := Canonical.untag hn
  split at h
  · next entries hentries =>
    rw [hentries] at hu
    cases hu with
    | mapping _ hv =>
    refine foldlM_inv ParamsFit ParamsFit.nil (fun e he acc acc' hacc hstep => ?_) h
    obtain ⟨key, -, hstep⟩ := bind_eq_ok.1 hstep
    obtain ⟨value, hvalue, hstep⟩ := bind_eq_ok.1 hstep
    cases hstep
    -- a parameter value is one with no tag that reads as a parameter
    unfold Read.paramValue at hvalue
    split at hvalue
    · cases hvalue
    · split at hvalue
      · next p hp =>
        cases hvalue
        exact hacc.insert key (param_fits (hv e he) hp)
      · cases hvalue
  · cases h
    exact ParamsFit.nil
  · cases h

end LabFleet.Config
