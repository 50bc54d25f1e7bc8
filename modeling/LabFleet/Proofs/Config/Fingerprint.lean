import Mathlib
import LabFleet.Config.Render
import LabFleet.Proofs.Json.Written
import LabFleet.Proofs.Config.Fields

/-!
What a profile's fingerprint detects. The fingerprint is the compact JSON text of the profile's
slice, everything that shapes its subprocess (`fingerprint_eq_slice`): for a nameserver its
profile; for a daemon its profile, the bindings it hosts and the profiles of the nameservers it
registers with. The JSON writer tells apart all it writes but numbers of one spelling
(`write_eq_iff`), and a double is spelled by its text: NaN and both infinities are all `null`,
while `0.0` and `-0.0` differ although they are `==`. So

* `fingerprint_eq_iff_slice_beq`: two configurations give a profile one fingerprint exactly
  when its slices compare equal, as long as the doubles of the two slices compare by `==` as
  their texts compare;
* `infinite_flip_keeps_fingerprint`: a parameter turned from infinity to minus infinity changes
  the slice and keeps the fingerprint, so a reload leaves the daemon running with the old value.
-/

namespace LabFleet.Config

open Json

/-! ## Doubles -/

mutual
/-- The doubles a parameter holds, in order. -/
def ParamValue.doubles : ParamValue → List Float
  | .float f => [f]
  | .list items => ParamValue.itemsDoubles items
  | .map entries => ParamValue.entriesDoubles entries
  | _ => []

def ParamValue.itemsDoubles : List ParamValue → List Float
  | [] => []
  | p :: rest => p.doubles ++ ParamValue.itemsDoubles rest

def ParamValue.entriesDoubles : List (String × ParamValue) → List Float
  | [] => []
  | (_, p) :: rest => p.doubles ++ ParamValue.entriesDoubles rest
end

/-- Every double of one list compares by `==` with every double of the other as their JSON
texts compare. It fails for NaN, the infinities (all written `null`) and zero (`0.0` equals
`-0.0`). -/
def DoublesAgree (xs ys : List Float) : Prop :=
  ∀ a ∈ xs, ∀ b ∈ ys, (a == b) = (Decimal.Style.json.write a == Decimal.Style.json.write b)

instance (xs ys : List Float) : Decidable (DoublesAgree xs ys) := by
  unfold DoublesAgree
  infer_instance

theorem DoublesAgree.mono {xs ys xs' ys' : List Float} (h : DoublesAgree xs ys)
    (hx : xs' ⊆ xs) (hy : ys' ⊆ ys) : DoublesAgree xs' ys' :=
  fun a ha b hb => h a (hx ha) b (hy hb)

/-! ## Parameters -/

theorem written_float_inj {a b : Float} :
    written (.number (.float a)) = written (.number (.float b)) ↔
      Decimal.Style.json.write a = Decimal.Style.json.write b := by
  simp only [written_float]
  split_ifs with ha hb hb
  · simp [ha, hb]
  · simp only [false_iff, ha]
    exact Ne.symm hb
  · simp only [false_iff, hb]
    exact ha
  · simp

theorem written_int_ne_float (i : Int) (f : Float) :
    written (.number (Number.ofInt i)) ≠ written (.number (.float f)) := by
  rw [written_int, written_float]
  split_ifs with h
  · exact Written.noConfusion
  · exact fun he => toString_int_ne_write i h (Written.number.inj he)

/-- The outer form a parameter is written in. -/
def ParamValue.outer : ParamValue → Nat
  | .int _ | .float _ => 0
  | .bool _ => 1
  | .str _ => 2
  | .list _ => 3
  | .map _ => 4

theorem outer_written (p : ParamValue) : (written (jsonOf p.toNode)).outer = p.outer := by
  cases p with
  | int i => simp only [ParamValue.toNode, jsonOf, written_int]; rfl
  | float f =>
    simp only [ParamValue.toNode, jsonOf, written_float]
    split <;> rfl
  | _ => rfl

theorem ParamValue.beqEntries_iff_written (es fs : List (String × ParamValue)) :
    DoublesAgree (ParamValue.entriesDoubles es) (ParamValue.entriesDoubles fs) →
      (ParamValue.beqEntries es fs = true ↔
        writtenFields (jsonOfEntries (ParamValue.entriesToNode es)) =
          writtenFields (jsonOfEntries (ParamValue.entriesToNode fs))) := by
  refine ParamValue.beqEntries.induct
    (fun p q => DoublesAgree p.doubles q.doubles →
      (p.beq q = true ↔ written (jsonOf p.toNode) = written (jsonOf q.toNode)))
    (fun es fs => DoublesAgree (ParamValue.entriesDoubles es) (ParamValue.entriesDoubles fs) →
      (ParamValue.beqEntries es fs = true ↔
        writtenFields (jsonOfEntries (ParamValue.entriesToNode es)) =
          writtenFields (jsonOfEntries (ParamValue.entriesToNode fs))))
    (fun ps qs => DoublesAgree (ParamValue.itemsDoubles ps) (ParamValue.itemsDoubles qs) →
      (ParamValue.beqItems ps qs = true ↔
        writtenItems (jsonOfItems (ParamValue.itemsToNode ps)) =
          writtenItems (jsonOfItems (ParamValue.itemsToNode qs))))
    ?bool ?int ?float ?str ?list ?map ?other ?itemsNil ?itemsCons ?itemsOther ?entriesNil
    ?entriesCons ?entriesOther es fs
  case bool => intro a b _; simp [ParamValue.beq, ParamValue.toNode, jsonOf]
  case int =>
    intro i j _
    simp [ParamValue.beq, ParamValue.toNode, jsonOf, written_int]
  case float =>
    intro a b h
    have hab := h a (by simp [ParamValue.doubles]) b (by simp [ParamValue.doubles])
    simp only [ParamValue.beq, ParamValue.toNode, jsonOf, written_float_inj, hab, beq_iff_eq]
  case str => intro s t _; simp [ParamValue.beq, ParamValue.toNode, jsonOf]
  case list =>
    intro ps qs ih h
    simp only [ParamValue.beq, ParamValue.toNode, jsonOf, written, Written.array.injEq]
    exact ih (by simpa [ParamValue.doubles] using h)
  case map =>
    intro es fs ih h
    simp only [ParamValue.beq, ParamValue.toNode, jsonOf, written, Written.object.injEq]
    exact ih (by simpa [ParamValue.doubles] using h)
  case other =>
    intro p q hb hi hf hs hl hm hd
    -- the constructors differ: `beq` is false, and the written forms differ too
    cases p <;> cases q
    case bool.bool => exact (hb _ _ rfl rfl).elim
    case int.int => exact (hi _ _ rfl rfl).elim
    case float.float => exact (hf _ _ rfl rfl).elim
    case str.str => exact (hs _ _ rfl rfl).elim
    case list.list => exact (hl _ _ rfl rfl).elim
    case map.map => exact (hm _ _ rfl rfl).elim
    all_goals simp only [ParamValue.beq, Bool.false_eq_true, false_iff]
    -- an integer and a double are both written as numbers, never the same
    case int.float i f => exact written_int_ne_float i f
    case float.int f i => exact (written_int_ne_float i f).symm
    -- any other two are written in different outer forms
    all_goals
      intro h
      have houter := congrArg Written.outer h
      simp [outer_written, ParamValue.outer] at houter
  case itemsNil => intro _; simp [ParamValue.beqItems]
  case itemsCons =>
    intro x xs y ys ihx ihxs h
    simp only [ParamValue.itemsDoubles] at h
    simp only [ParamValue.beqItems, ParamValue.itemsToNode, jsonOfItems, writtenItems,
      Bool.and_eq_true, List.cons.injEq]
    rw [ihx (h.mono (List.subset_append_left _ _) (List.subset_append_left _ _)),
      ihxs (h.mono (List.subset_append_right _ _) (List.subset_append_right _ _))]
  case itemsOther =>
    intro ps qs hnil hcons _
    cases ps <;> cases qs
    · exact (hnil rfl rfl).elim
    · simp [ParamValue.beqItems, ParamValue.itemsToNode, jsonOfItems]
    · simp [ParamValue.beqItems, ParamValue.itemsToNode, jsonOfItems]
    · exact (hcons _ _ _ _ rfl rfl).elim
  case entriesNil => intro _; simp [ParamValue.beqEntries]
  case entriesCons =>
    intro k x xs l y ys ihx ihxs h
    simp only [ParamValue.entriesDoubles] at h
    simp only [ParamValue.beqEntries, ParamValue.entriesToNode, jsonOfEntries, writtenFields,
      Bool.and_eq_true, List.cons.injEq, Prod.mk.injEq, beq_iff_eq]
    rw [ihx (h.mono (List.subset_append_left _ _) (List.subset_append_left _ _)),
      ihxs (h.mono (List.subset_append_right _ _) (List.subset_append_right _ _))]
  case entriesOther =>
    intro es fs hnil hcons _
    cases es <;> cases fs
    · exact (hnil rfl rfl).elim
    · simp [ParamValue.beqEntries, ParamValue.entriesToNode, jsonOfEntries]
    · simp [ParamValue.beqEntries, ParamValue.entriesToNode, jsonOfEntries]
    · exact (hcons _ _ _ _ _ _ rfl rfl).elim

/-! ## Records -/

theorem toString_nat_inj {m n : Nat} : toString m = toString n ↔ m = n := Nat.repr_inj

theorem written_optionalNode_inj {a b : Option String} :
    written (jsonOf (optionalNode a)) = written (jsonOf (optionalNode b)) ↔ a = b := by
  cases a <;> cases b <;> simp [optionalNode, jsonOf]

theorem written_namesNode (names : List String) :
    written (jsonOf (namesNode names)) = .array (names.map .string) := by
  simp only [namesNode, jsonOf, written, Written.array.injEq]
  induction names with
  | nil => rfl
  | cons n rest ih => simp [jsonOfItems, jsonOf, written, ih]

theorem written_namesNode_inj {a b : List String} :
    written (jsonOf (namesNode a)) = written (jsonOf (namesNode b)) ↔ a = b := by
  simp only [written_namesNode, Written.array.injEq]
  exact (List.map_injective_iff.2 fun _ _ h => Written.string.inj h).eq_iff

theorem NameserverProfile.written_inj {p q : NameserverProfile} :
    written (jsonOf p.toNode) = written (jsonOf q.toNode) ↔ p = q := by
  refine ⟨fun h => ?_, fun h => h ▸ rfl⟩
  simp only [NameserverProfile.toNode, jsonOf, jsonOfEntries, written, writtenFields,
    numberText, toString_nat_ne_null, if_false, Written.object.injEq, List.cons.injEq,
    Prod.mk.injEq, Written.string.injEq, Written.number.injEq, true_and, and_true,
    toString_nat_inj, written_optionalNode_inj] at h
  obtain ⟨hhost, hport, hbh, hbp, hac, hst, hsp⟩ := h
  have hst := Storage.lawful.name_inj hst
  cases p
  cases q
  subst hhost hport hbh hbp hac hst hsp
  rfl

theorem DaemonProfile.written_inj {p q : DaemonProfile} :
    written (jsonOf p.toNode) = written (jsonOf q.toNode) ↔ p = q := by
  refine ⟨fun h => ?_, fun h => h ▸ rfl⟩
  simp only [DaemonProfile.toNode, jsonOf, jsonOfEntries, written, writtenFields,
    numberText, toString_nat_ne_null, if_false, Written.object.injEq, List.cons.injEq,
    Prod.mk.injEq, Written.string.injEq, Written.number.injEq, true_and, and_true,
    toString_nat_inj, written_optionalNode_inj, written_namesNode_inj] at h
  obtain ⟨hv, hhost, hport, hc, hmw, hus, hnh, hnp, hns, hct⟩ := h
  have hv := DaemonVariant.lawful.name_inj hv
  have hc := Concurrency.lawful.name_inj hc
  -- the NAT port is a number when set and `null` otherwise
  have hnp : p.natPort = q.natPort := by
    revert hnp
    cases p.natPort <;> cases q.natPort <;> simp [jsonOf, written_nat]
  cases p
  cases q
  subst hv hhost hport hc hmw hus hnh hnp hns hct
  rfl

theorem Spelled.Lawful.name_eq_iff {β : Type} [Spelled β] (hl : Spelled.Lawful β) {a b : β} :
    Spelled.name a = Spelled.name b ↔ a = b :=
  ⟨hl.name_inj, congrArg _⟩

theorem parameters_beq (es fs : List (String × ParamValue)) :
    (es == fs) = ParamValue.beqEntries es fs := by
  induction es generalizing fs with
  | nil => cases fs <;> rfl
  | cons e es ih =>
    obtain ⟨k, x⟩ := e
    cases fs with
    | nil => rfl
    | cons f fs =>
      obtain ⟨l, y⟩ := f
      rw [ParamValue.beqEntries, ← ih]
      rfl

/-- The doubles of a binding's parameters. -/
def ServiceBinding.doubles (b : ServiceBinding) : List Float :=
  ParamValue.entriesDoubles b.parameters

theorem ServiceBinding.beq_iff_written (a b : ServiceBinding)
    (h : DoublesAgree a.doubles b.doubles) :
    (a == b) = true ↔ written (jsonOf a.toNode) = written (jsonOf b.toNode) := by
  have hp := ParamValue.beqEntries_iff_written a.parameters b.parameters h
  rw [← parameters_beq] at hp
  show (a.implementation == b.implementation && a.parameters == b.parameters &&
    a.description == b.description && a.instanceMode == b.instanceMode &&
    a.daemon == b.daemon && a.nameservers == b.nameservers) = true ↔ _
  simp only [ServiceBinding.toNode, jsonOf, jsonOfEntries, written_object, writtenFields_cons,
    writtenFields_nil, written_string, Written.object.injEq, List.cons.injEq, Prod.mk.injEq,
    Written.string.injEq, true_and, and_true, written_namesNode_inj, Bool.and_eq_true,
    beq_iff_eq, hp, InstanceMode.lawful.name_eq_iff, and_assoc]

/-! ## Slices -/

/-- What shapes the subprocess of a profile: for a nameserver its profile; for a daemon its
profile, the bindings it hosts by service name, and each nameserver it registers with, by
name, with that nameserver's profile when the configuration has one. -/
inductive Slice where
  | nameserver (profile : NameserverProfile)
  | daemon (profile : DaemonProfile) (services : NameMap ServiceBinding)
      (nameservers : List (String × Option NameserverProfile))

/-- Slices compare as configurations compare their parts: doubles by `==`. -/
def Slice.beq : Slice → Slice → Bool
  | .nameserver p, .nameserver q => p == q
  | .daemon p s n, .daemon q t m => p == q && s == t && n == m
  | _, _ => false

instance : BEq Slice := ⟨Slice.beq⟩

/-- The doubles of a slice: those of the parameters of the bindings it holds. -/
def Slice.doubles : Slice → List Float
  | .nameserver _ => []
  | .daemon _ services _ => services.flatMap fun e => e.2.doubles

/-- The value whose compact text is a slice's fingerprint. -/
def Slice.json : Slice → Json
  | .nameserver p => jsonOf p.toNode
  | .daemon p services nameservers =>
    .array [jsonOf p.toNode, .object (services.map fun e => (e.1, jsonOf e.2.toNode)),
      .object (nameservers.map fun e => (e.1, e.2.elim .null fun q => jsonOf q.toNode))]

theorem services_beq_iff_written (s t : NameMap ServiceBinding)
    (h : DoublesAgree (s.flatMap fun e => e.2.doubles) (t.flatMap fun e => e.2.doubles)) :
    (s == t) = true ↔
      writtenFields (s.map fun e => (e.1, jsonOf e.2.toNode)) =
        writtenFields (t.map fun e => (e.1, jsonOf e.2.toNode)) := by
  induction s generalizing t with
  | nil => cases t <;> simp
  | cons e s ih =>
    cases t with
    | nil => simp
    | cons f t =>
      obtain ⟨n, a⟩ := e
      obtain ⟨m, b⟩ := f
      simp only [List.flatMap_cons] at h
      have hab := ServiceBinding.beq_iff_written a b
        (h.mono (List.subset_append_left _ _) (List.subset_append_left _ _))
      have hst := ih t (h.mono (List.subset_append_right _ _) (List.subset_append_right _ _))
      show ((n == m && a == b) && s == t) = true ↔ _
      simp only [List.map_cons, writtenFields_cons, List.cons.injEq, Prod.mk.injEq, ← hab, ← hst,
        Bool.and_eq_true, beq_iff_eq]

theorem nameservers_written_inj {n m : List (String × Option NameserverProfile)} :
    writtenFields (n.map fun e => (e.1, e.2.elim .null fun q => jsonOf q.toNode)) =
      writtenFields (m.map fun e => (e.1, e.2.elim .null fun q => jsonOf q.toNode)) ↔ n = m := by
  induction n generalizing m with
  | nil => cases m <;> simp
  | cons e n ih =>
    cases m with
    | nil => simp
    | cons f m =>
      obtain ⟨k, a⟩ := e
      obtain ⟨l, b⟩ := f
      have hab : written (a.elim .null fun q => jsonOf q.toNode) =
          written (b.elim .null fun q => jsonOf q.toNode) ↔ a = b := by
        cases a <;> cases b
        · simp
        · simp [NameserverProfile.toNode, jsonOf]
        · simp [NameserverProfile.toNode, jsonOf]
        · simp [NameserverProfile.written_inj]
      simp only [List.map_cons, writtenFields_cons, List.cons.injEq, Prod.mk.injEq, ih, hab]

theorem Slice.beq_iff_written (s t : Slice) (h : DoublesAgree s.doubles t.doubles) :
    (s == t) = true ↔ written s.json = written t.json := by
  cases s with
  | nameserver p =>
    cases t with
    | nameserver q =>
      show (p == q) = true ↔ _
      simp [Slice.json, NameserverProfile.written_inj]
    | daemon q services nameservers =>
      show false = true ↔ _
      simp [Slice.json, NameserverProfile.toNode, jsonOf]
  | daemon p services nameservers =>
    cases t with
    | nameserver q =>
      show false = true ↔ _
      simp [Slice.json, NameserverProfile.toNode, jsonOf]
    | daemon q services' nameservers' =>
      show (p == q && services == services' && nameservers == nameservers') = true ↔ _
      simp only [Slice.doubles] at h
      simp only [Slice.json, written_array, writtenItems_cons, writtenItems_nil, written_object,
        Written.array.injEq, Written.object.injEq, List.cons.injEq, and_true,
        DaemonProfile.written_inj, ← services_beq_iff_written services services' h,
        nameservers_written_inj, Bool.and_eq_true, beq_iff_eq, and_assoc]

namespace LabConfig

/-- The slice of a profile, when the configuration has the profile. -/
def slice (c : LabConfig) (kind : ProfileKind) (name : String) : Option Slice :=
  match kind with
  | .nameserver => (c.nameservers.find? name).map .nameserver
  | .daemon => (c.daemons.find? name).map fun p =>
    .daemon p (c.servicesForDaemon name)
      ((c.daemonDependencies name).map fun ns => (ns, c.nameservers.find? ns))

/-- The doubles of a profile's slice; none when the configuration lacks the profile. -/
def sliceDoubles (c : LabConfig) (kind : ProfileKind) (name : String) : List Float :=
  ((c.slice kind name).map Slice.doubles).getD []

theorem fingerprint_eq_slice (c : LabConfig) (kind : ProfileKind) (name : String) :
    c.fingerprint kind name = (c.slice kind name).map fun s => s.json.write := by
  cases kind with
  | nameserver =>
    simp only [fingerprint, slice, Option.map_map]
    rfl
  | daemon =>
    simp only [fingerprint, slice, Option.map_map]
    congr 1
    funext p
    simp only [Function.comp_apply, Slice.json, List.map_map]
    -- the nameservers: a missing profile is `null` either way
    congr
    funext ns
    simp only [Function.comp_apply]
    cases c.nameservers.find? ns <;> rfl

/-- Fingerprints of a profile in two configurations are equal exactly when its slices are equal,
provided the doubles of the slices compare by `==` as their JSON texts compare. -/
theorem fingerprint_eq_iff_slice_beq (c₁ c₂ : LabConfig) (kind : ProfileKind) (name : String)
    (h : DoublesAgree (c₁.sliceDoubles kind name) (c₂.sliceDoubles kind name)) :
    c₁.fingerprint kind name = c₂.fingerprint kind name ↔
      (c₁.slice kind name == c₂.slice kind name) = true := by
  rw [fingerprint_eq_slice, fingerprint_eq_slice]
  unfold sliceDoubles at h
  cases h₁ : c₁.slice kind name <;> cases h₂ : c₂.slice kind name
  · simp
  · simp
  · simp
  · rename_i s₁ s₂
    rw [h₁, h₂] at h
    simp only [Option.map_some, Option.getD_some, Option.some.injEq] at h ⊢
    rw [write_eq_iff, ← Slice.beq_iff_written s₁ s₂ h]
    rfl

/-- Changing a double parameter of a hosted binding from 1.5 to 2.5 changes the fingerprint of
the daemon exactly as it changes the slice. -/
theorem changed_gain_changes_fingerprint :
    let c₁ : LabConfig := { daemons := [("d", {})], services := [("s",
      { implementation := "sample.SampleService", daemon := "d",
        parameters := [("gain", .float 1.5)] })] }
    let c₂ : LabConfig := { c₁ with services := [("s",
      { implementation := "sample.SampleService", daemon := "d",
        parameters := [("gain", .float 2.5)] })] }
    DoublesAgree (c₁.sliceDoubles .daemon "d") (c₂.sliceDoubles .daemon "d") ∧
      (c₁.fingerprint .daemon "d" = c₂.fingerprint .daemon "d" ↔
        (c₁.slice .daemon "d" == c₂.slice .daemon "d") = true) := by
  intro c₁ c₂
  have hagree : DoublesAgree (c₁.sliceDoubles .daemon "d") (c₂.sliceDoubles .daemon "d") := by
    decide
  exact ⟨hagree, fingerprint_eq_iff_slice_beq c₁ c₂ .daemon "d" hagree⟩

/-- A parameter turned from infinity to minus infinity keeps the daemon's fingerprint, though
the binding changed: both doubles are written `null`. -/
theorem infinite_flip_keeps_fingerprint :
    let c₁ : LabConfig := { daemons := [("d", {})], services := [("s",
      { implementation := "sample.SampleService", daemon := "d",
        parameters := [("gain", .float (Float.ofBits 0x7FF0000000000000))] })] }
    let c₂ : LabConfig := { c₁ with services := [("s",
      { implementation := "sample.SampleService", daemon := "d",
        parameters := [("gain", .float (Float.ofBits 0xFFF0000000000000))] })] }
    c₁.validate (some Catalog.builtin) = .ok () ∧ c₂.validate (some Catalog.builtin) = .ok () ∧
      (c₁.slice .daemon "d" == c₂.slice .daemon "d") = false ∧
      c₁.fingerprint .daemon "d" = c₂.fingerprint .daemon "d" :=
  ⟨rfl, rfl, by decide +kernel, by decide +kernel⟩

end LabConfig

end LabFleet.Config
