import Mathlib
import LabFleet.Service.Sample
import LabFleet.Proofs.Checks

/-!
Integer arithmetic of the sample service is exact while it stays in the signed 64-bit range.

Numbers as JSON texts carry them are `WellFormed`: an unsigned integer below `2^64`, a negative
integer of the signed 64-bit range, or a finite double. Over such arguments:

* a sum or a product is refused, as an invalid argument, exactly when some positional argument
  is not a number (`foldNumbers_eq_error_iff`);
* when the operands are integers of the signed 64-bit range and every partial result of the
  left fold fits too (`PartialsFit`), the answer is the exact integer (`foldNumbers_exact`);
  otherwise it is a double or `null`, never an integer (`foldNumbers_inexact`). Both rest on
  `foldlM_checked_eq_some_iff`, which says exactly when the checked fold gets through;
* a difference is the exact integer when both arguments are integers of the range and so is
  their difference, and otherwise a double or a refusal as an invalid argument.

`sample_arithmetic_exact_in_int64` collects the three operations of the service.
-/

namespace LabFleet

set_option autoImplicit false

/-! ## Numbers as texts carry them -/

/-- A number as a JSON text can carry it: an unsigned integer below `2^64`, a negative integer
of the signed 64-bit range, or a finite double. -/
def Number.WellFormed : Number → Prop
  | .nat n => n < 2 ^ 64
  | .neg i => -2 ^ 63 ≤ i ∧ i < 0
  | .float f => f.isFinite = true

/-- A value whose every number is well formed. -/
inductive Json.WellFormed : Json → Prop
  | null : Json.WellFormed .null
  | bool (b : Bool) : Json.WellFormed (.bool b)
  | number {n : Number} (h : n.WellFormed) : Json.WellFormed (.number n)
  | string (s : String) : Json.WellFormed (.string s)
  | array {items : List Json} (h : ∀ x ∈ items, x.WellFormed) : Json.WellFormed (.array items)
  | object {fields : List (String × Json)} (h : ∀ f ∈ fields, f.2.WellFormed) :
      Json.WellFormed (.object fields)

namespace Json

theorem WellFormed.number_iff {n : Number} : (Json.number n).WellFormed ↔ n.WellFormed :=
  ⟨fun | .number h => h, .number⟩

theorem WellFormed.items {items : List Json} (h : (Json.array items).WellFormed) :
    ∀ x ∈ items, x.WellFormed := by
  cases h with
  | array h => exact h

theorem WellFormed.field? {j v : Json} {k : String} (h : j.WellFormed) (hv : j.field? k = some v) :
    v.WellFormed := by
  cases h with
  | object h =>
    obtain ⟨f, hf, rfl⟩ := Option.map_eq_some_iff.1 hv
    exact h f (List.mem_of_find?_eq_some hf)
  | _ => simp [Json.field?] at hv

end Json

namespace Service

/-! ## Arguments -/

namespace Args

variable {a : Args} {i : Nat} {name : String}

theorem wellFormed_get? (h : a.value.WellFormed) {v : Json} (hv : a.get? i name = some v) :
    v.WellFormed := by
  unfold get? at hv
  split at hv
  · next items hval =>
    rw [hval] at h
    exact h.items v (List.mem_of_getElem? hv)
  · exact h.field? hv
  · cases hv
  · split at hv
    · cases hv
      exact h
    · cases hv

theorem wellFormed_positional (h : a.value.WellFormed) : ∀ v ∈ a.positional, v.WellFormed := by
  unfold positional
  split
  · next items hval =>
    rw [hval] at h
    exact h.items
  · simp
  · simp
  · intro v hv
    rw [List.mem_singleton.1 hv]
    exact h

section Reading

variable {α : Type} {read : Json.Decoder α}

theorem optional_error {e : Error} (h : a.optional i name read = .error e) :
    ∃ m, e = .invalidArgument m := by
  unfold optional at h
  split at h
  · cases h
  · cases h
  · split at h
    · cases h
    · cases h
      exact ⟨_, rfl⟩

theorem required_error {e : Error} (h : a.required i name read = .error e) :
    ∃ m, e = .invalidArgument m := by
  unfold required at h
  rcases ho : a.optional i name read with e' | o
  · rw [ho] at h
    cases h
    exact optional_error ho
  · rw [ho, Checks.ok_bind] at h
    cases o with
    | some x => cases h
    | none =>
      cases h
      exact ⟨_, rfl⟩

theorem required_of_optional {x : α} (h : a.optional i name read = .ok (some x)) :
    a.required i name read = .ok x := by
  unfold required
  rw [h]
  rfl

theorem optional_of_required {x : α} (h : a.required i name read = .ok x) :
    a.optional i name read = .ok (some x) := by
  unfold required at h
  rcases ho : a.optional i name read with e' | o
  · rw [ho] at h
    cases h
  · rw [ho, Checks.ok_bind] at h
    cases o with
    | some y =>
      cases h
      rfl
    | none => cases h

end Reading

theorem required_anyValue {v : Json} (hv : a.get? i name = some v) (hnull : v ≠ .null) :
    a.required i name anyValue = .ok v := by
  apply required_of_optional
  unfold optional
  split
  · next h => cases hv.symm.trans h
  · next h => cases hnull (Option.some.inj (hv.symm.trans h))
  · rename_i heq
    rw [hv] at heq
    cases heq
    rfl

theorem get?_of_required_anyValue {v : Json} (h : a.required i name anyValue = .ok v) :
    a.get? i name = some v := by
  have ho := optional_of_required h
  unfold optional at ho
  split at ho
  · cases ho
  · cases ho
  · rename_i heq
    cases ho
    exact heq

end Args

/-! ## Signed 64-bit integers -/

theorem fitsInt64_iff (i : Int) : fitsInt64 i = true ↔ -2 ^ 63 ≤ i ∧ i < 2 ^ 63 := by
  simp [fitsInt64, Nat.pow]

theorem checked_eq_some {op : Int → Int → Int} {a b r : Int} :
    checked op a b = some r ↔ r = op a b ∧ fitsInt64 (op a b) = true := by
  simp only [checked]
  by_cases h : fitsInt64 (op a b) = true
  · simp [h, eq_comm]
  · simp [h]

theorem asInt64_ofInt {i : Int} (h : fitsInt64 i = true) : (Number.ofInt i).asInt64 = some i := by
  rw [fitsInt64_iff] at h
  by_cases h0 : 0 ≤ i
  · have hlt : i.toNat < Nat.pow 2 63 := by
      show i.toNat < 2 ^ 63
      omega
    simp [Number.ofInt, Number.asInt64, h0, hlt, Int.toNat_of_nonneg h0]
  · simp [Number.ofInt, Number.asInt64, h0]

theorem eq_ofInt_of_asInt64 {n : Number} (hw : n.WellFormed) {i : Int} (h : n.asInt64 = some i) :
    n = Number.ofInt i ∧ fitsInt64 i = true := by
  rw [fitsInt64_iff]
  cases n with
  | nat m =>
    simp only [Number.asInt64] at h
    split at h
    · next hm =>
      cases h
      have hm' : m < 2 ^ 63 := hm
      exact ⟨by simp [Number.ofInt], by omega, by omega⟩
    · cases h
  | neg j =>
    cases h
    obtain ⟨hlo, hneg⟩ := hw
    exact ⟨by simp [Number.ofInt, Int.not_le.2 hneg], hlo, by omega⟩
  | float f => cases h

theorem wellFormed_ofInt {i : Int} (h : fitsInt64 i = true) : (Number.ofInt i).WellFormed := by
  rw [fitsInt64_iff] at h
  unfold Number.ofInt
  split
  · show i.toNat < 2 ^ 64
    omega
  · exact ⟨h.1, by omega⟩

/-! ## The checked fold -/

/-- Every partial result of the left fold of `op` over `is` from `a`, after one operand or
more, is in the signed 64-bit range. -/
def PartialsFit (op : Int → Int → Int) (a : Int) (is : List Int) : Prop :=
  ∀ k, 0 < k → k ≤ is.length → fitsInt64 ((is.take k).foldl op a) = true

section PartialsFit

variable {op : Int → Int → Int} {a : Int}

theorem partialsFit_nil : PartialsFit op a [] := fun k hk hle => absurd hle (by simp; omega)

theorem partialsFit_cons {i : Int} {is : List Int} :
    PartialsFit op a (i :: is) ↔ fitsInt64 (op a i) = true ∧ PartialsFit op (op a i) is := by
  constructor
  · intro h
    refine ⟨by simpa using h 1 Nat.one_pos (by simp), fun k hk hle => ?_⟩
    simpa using h (k + 1) (Nat.succ_pos k) (by simpa using hle)
  · rintro ⟨hfirst, hrest⟩ k hk hle
    obtain ⟨j, rfl⟩ : ∃ j, k = j + 1 := ⟨k - 1, by omega⟩
    cases j with
    | zero => simpa using hfirst
    | succ j => simpa using hrest (j + 1) (Nat.succ_pos j) (by simpa using hle)

end PartialsFit

/-- **The checked fold.** Folding a checked operation over the integer readings of well-formed
numbers gets through exactly when the numbers are integers of the signed 64-bit range and
every partial result fits, and then it gives the exact fold. -/
theorem foldlM_checked_eq_some_iff (op : Int → Int → Int) :
    ∀ (ns : List Number) (a t : Int), (∀ n ∈ ns, n.WellFormed) →
      (ns.foldlM (fun acc n => n.asInt64 >>= checked op acc) a = some t ↔
        ∃ is : List Int, ns = is.map Number.ofInt ∧ (∀ i ∈ is, fitsInt64 i = true) ∧
          PartialsFit op a is ∧ t = is.foldl op a)
  | [], a, t, _ => by
    constructor
    · intro h
      exact ⟨[], rfl, by simp, partialsFit_nil, (Option.some.inj h).symm⟩
    · rintro ⟨is, his, -, -, rfl⟩
      cases is with
      | nil => rfl
      | cons => cases his
  | n :: ns, a, t, hw => by
    have ih := foldlM_checked_eq_some_iff op ns
    have hwn : n.WellFormed := hw n List.mem_cons_self
    have hws : ∀ m ∈ ns, m.WellFormed := fun m hm => hw m (List.mem_cons_of_mem _ hm)
    rw [List.foldlM_cons]
    constructor
    · intro h
      -- the first number reads as an integer and the first partial result fits
      obtain ⟨b, hb, hrest⟩ := Option.bind_eq_some_iff.1 h
      obtain ⟨i, hi, hcheck⟩ := Option.bind_eq_some_iff.1 hb
      obtain ⟨rfl, hfit⟩ := checked_eq_some.1 hcheck
      obtain ⟨rfl, hfi⟩ := eq_ofInt_of_asInt64 hwn hi
      obtain ⟨is, rfl, his, hpart, rfl⟩ := (ih (op a i) t hws).1 hrest
      refine ⟨i :: is, rfl, ?_, partialsFit_cons.2 ⟨hfit, hpart⟩, rfl⟩
      intro j hj
      rcases List.mem_cons.1 hj with rfl | hj
      · exact hfi
      · exact his j hj
    · rintro ⟨_ | ⟨i, is⟩, hns, hfits, hpart, rfl⟩
      · cases hns
      · obtain ⟨rfl, rfl⟩ := List.cons.inj hns
        obtain ⟨hfit, hpart⟩ := partialsFit_cons.1 hpart
        have hfi : fitsInt64 i = true := hfits i List.mem_cons_self
        have hcheck : checked op a i = some (op a i) := checked_eq_some.2 ⟨rfl, hfit⟩
        simp only [asInt64_ofInt hfi, hcheck, Option.bind_eq_bind, Option.bind_some]
        exact (ih (op a i) _ hws).2
          ⟨is, rfl, fun j hj => hfits j (List.mem_cons_of_mem _ hj), hpart, rfl⟩

/-! ## Folds over argument values -/

section Values

variable {f : Json → Result Number}

theorem mapM_map_number (ns : List Number) (hf : ∀ n, f (.number n) = .ok n) :
    (ns.map Json.number).mapM f = .ok ns := by
  induction ns with
  | nil => rfl
  | cons n ns ih => rw [List.map_cons, List.mapM_cons, hf n, Checks.ok_bind, ih, Checks.ok_bind]; rfl

theorem eq_map_number_of_mapM {values : List Json} {ns : List Number}
    (h : values.mapM f = .ok ns) (hf : ∀ v n, f v = .ok n → v = .number n) :
    values = ns.map Json.number := by
  induction values generalizing ns with
  | nil => cases h; rfl
  | cons v vs ih =>
    rw [List.mapM_cons] at h
    obtain ⟨n, hn, h⟩ := Checks.bind_eq_ok.1 h
    obtain ⟨ns', hns', h⟩ := Checks.bind_eq_ok.1 h
    cases h
    rw [hf v n hn, ih hns']
    rfl

theorem mapM_eq_error {values : List Json} {e : Error} (h : values.mapM f = .error e)
    (hf : ∀ n, f (.number n) = .ok n)
    (hother : ∀ v, (∀ n, v ≠ .number n) → ∃ m, f v = .error (.invalidArgument m)) :
    (∃ m, e = .invalidArgument m) ∧ ∃ v ∈ values, ∀ n, v ≠ .number n := by
  induction values with
  | nil => cases h
  | cons v vs ih =>
    rw [List.mapM_cons] at h
    rcases hv : f v with e' | n
    · -- the first value is refused: it is no number
      have hnum : ∀ n, v ≠ .number n := by
        rintro n rfl
        rw [hf n] at hv
        cases hv
      obtain ⟨m, hm⟩ := hother v hnum
      rw [hv] at h hm
      cases h
      cases hm
      exact ⟨⟨m, rfl⟩, v, List.mem_cons_self, hnum⟩
    · rw [hv, Checks.ok_bind] at h
      rcases hvs : vs.mapM f with e' | ns
      · rw [hvs] at h
        cases h
        obtain ⟨hinv, w, hw, hnum⟩ := ih hvs
        exact ⟨hinv, w, List.mem_cons_of_mem _ hw, hnum⟩
      · rw [hvs] at h
        cases h

end Values

/-- How a fold reads a value: a number as itself, anything else refused as an invalid
argument. -/
def numberArg : Json → Result Number
  | .number n => .ok n
  | other => .error (.invalidArgument s!"expected a number, got {other.write}")

theorem numberArg_number (n : Number) : numberArg (.number n) = .ok n := rfl

theorem numberArg_other {v : Json} (hv : ∀ n, v ≠ .number n) :
    ∃ m, numberArg v = .error (.invalidArgument m) := by
  cases v with
  | number n => exact absurd rfl (hv n)
  | _ => exact ⟨_, rfl⟩

theorem eq_number_of_numberArg {v : Json} {n : Number} (h : numberArg v = .ok n) :
    v = .number n := by
  cases v <;> cases h
  rfl

theorem foldNumbers_eq (values : List Json) (init : Int) (intOp : Int → Int → Option Int)
    (floatOp : Float → Float → Float) :
    foldNumbers values init intOp floatOp = values.mapM numberArg >>= fun numbers =>
      match numbers.foldlM (fun acc n => n.asInt64 >>= intOp acc) init with
      | some total => .ok (Json.int total)
      | none => .ok (doubleValue (numbers.foldl (fun acc n => floatOp acc n.toFloat)
          (Float.ofInt init))) := by
  unfold foldNumbers
  rfl

theorem doubleValue_cases (f : Float) : doubleValue f = Json.float f ∨ doubleValue f = .null := by
  unfold doubleValue
  split
  · exact .inl rfl
  · exact .inr rfl

section Fold

variable {values : List Json} {init : Int} {intOp : Int → Int → Option Int}
  {floatOp : Float → Float → Float}

theorem foldNumbers_error {e : Error} (h : foldNumbers values init intOp floatOp = .error e) :
    (∃ m, e = .invalidArgument m) ∧ ∃ v ∈ values, ∀ n, v ≠ .number n := by
  rw [foldNumbers_eq] at h
  rcases hm : values.mapM numberArg with e' | ns
  · rw [hm] at h
    cases h
    exact mapM_eq_error hm numberArg_number fun v hv => numberArg_other hv
  · rw [hm, Checks.ok_bind] at h
    split at h <;> cases h

theorem eq_map_number_of_forall {values : List Json} (h : ∀ v ∈ values, ∃ n, v = .number n) :
    ∃ ns : List Number, values = ns.map .number := by
  rcases hm : values.mapM numberArg with e | ns
  · obtain ⟨-, v, hv, hnum⟩ := mapM_eq_error hm numberArg_number fun v hv => numberArg_other hv
    obtain ⟨n, rfl⟩ := h v hv
    exact absurd rfl (hnum n)
  · exact ⟨ns, eq_map_number_of_mapM hm fun _ _ => eq_number_of_numberArg⟩

theorem foldNumbers_eq_error_iff :
    (∃ e, foldNumbers values init intOp floatOp = .error e) ↔
      ∃ v ∈ values, ∀ n, v ≠ .number n := by
  constructor
  · rintro ⟨e, h⟩
    exact (foldNumbers_error h).2
  · rintro ⟨v, hv, hnum⟩
    rcases hm : values.mapM numberArg with e | ns
    · exact ⟨e, by rw [foldNumbers_eq, hm]; rfl⟩
    · -- every value read as a number, the one that is none among them
      obtain rfl := eq_map_number_of_mapM hm fun _ _ => eq_number_of_numberArg
      obtain ⟨n, -, rfl⟩ := List.mem_map.1 hv
      exact absurd rfl (hnum n)

theorem foldNumbers_of_some {ns : List Number} {t : Int}
    (h : ns.foldlM (fun acc n => n.asInt64 >>= intOp acc) init = some t) :
    foldNumbers (ns.map .number) init intOp floatOp = .ok (Json.int t) := by
  rw [foldNumbers_eq, mapM_map_number ns numberArg_number, Checks.ok_bind, h]

theorem foldNumbers_of_none {ns : List Number}
    (h : ns.foldlM (fun acc n => n.asInt64 >>= intOp acc) init = none) :
    (∃ f, foldNumbers (ns.map .number) init intOp floatOp = .ok (.number (.float f))) ∨
      foldNumbers (ns.map .number) init intOp floatOp = .ok .null := by
  rw [foldNumbers_eq, mapM_map_number ns numberArg_number, Checks.ok_bind, h]
  rcases doubleValue_cases (ns.foldl (fun acc n => floatOp acc n.toFloat) (Float.ofInt init))
    with hd | hd
  · exact .inl ⟨_, by rw [hd]; rfl⟩
  · exact .inr (by rw [hd])

end Fold

/-! ## Sums and products -/

/-- What a fold of integer arithmetic `op` over `values` from `init` answers (`r`). It is
refused, as an invalid argument, exactly when some value is not a number. Over integers of the
signed 64-bit range whose every partial result fits, it is the exact integer; over any other
numbers it is a double or `null`, never an integer. -/
structure ExactWhileInRange (r : Result Json) (values : List Json) (init : Int)
    (op : Int → Int → Int) : Prop where
  refused_iff : (∃ e, r = .error e) ↔ ∃ v ∈ values, ∀ n, v ≠ .number n
  refused_invalid : ∀ e, r = .error e → ∃ m, e = .invalidArgument m
  exact : ∀ is : List Int, values = is.map Json.int → (∀ i ∈ is, fitsInt64 i = true) →
    PartialsFit op init is → r = .ok (Json.int (is.foldl op init))
  inexact : (∀ v ∈ values, ∃ n, v = .number n) →
    (¬ ∃ is : List Int, values = is.map Json.int ∧ (∀ i ∈ is, fitsInt64 i = true) ∧
      PartialsFit op init is) →
    (∃ f, r = .ok (.number (.float f))) ∨ r = .ok .null

theorem map_int (is : List Int) : is.map Json.int = (is.map Number.ofInt).map .number := by
  rw [List.map_map]
  rfl

theorem foldNumbers_exactWhileInRange {values : List Json} {init : Int} {op : Int → Int → Int}
    {floatOp : Float → Float → Float} (hw : ∀ v ∈ values, v.WellFormed) :
    ExactWhileInRange (foldNumbers values init (checked op) floatOp) values init op where
  refused_iff := foldNumbers_eq_error_iff
  refused_invalid _ h := (foldNumbers_error h).1
  exact is hvalues hfits hpart := by
    subst hvalues
    have hwf : ∀ n ∈ is.map Number.ofInt, n.WellFormed := by
      intro n hn
      obtain ⟨i, hi, rfl⟩ := List.mem_map.1 hn
      exact wellFormed_ofInt (hfits i hi)
    rw [map_int]
    exact foldNumbers_of_some ((foldlM_checked_eq_some_iff op _ init _ hwf).2
      ⟨is, rfl, hfits, hpart, rfl⟩)
  inexact hnum hnot := by
    obtain ⟨ns, rfl⟩ := eq_map_number_of_forall hnum
    have hwf : ∀ n ∈ ns, n.WellFormed := fun n hn =>
      Json.WellFormed.number_iff.1 (hw _ (List.mem_map_of_mem hn))
    rcases hfold : ns.foldlM (fun acc n => n.asInt64 >>= checked op acc) init with _ | t
    · exact foldNumbers_of_none hfold
    · -- the checked fold got through: the values were integers in range after all
      obtain ⟨is, rfl, hfits, hpart, -⟩ := (foldlM_checked_eq_some_iff op ns init t hwf).1 hfold
      exact absurd ⟨is, (map_int is).symm, hfits, hpart⟩ hnot

/-! ## Differences -/

/-- The double difference of two values, refused as an invalid argument where one is not a
number or the result is not finite. -/
def doubleDifference (a b : Json) : Result Json := do
  doubleResult ((← asDouble a "a") - (← asDouble b "b"))

theorem sampleCall_subtract (id : Nat) (args : Args) :
    sampleCall id "subtract" args =
      args.required 0 "a" anyValue >>= fun a => args.required 1 "b" anyValue >>= fun b =>
        match asInt64? a, asInt64? b with
        | some x, some y =>
          match checked (· - ·) x y with
          | some d => .ok (Json.int d)
          | none => doubleDifference a b
        | _, _ => doubleDifference a b := rfl

theorem asDouble_cases (v : Json) (name : String) :
    (∃ f, asDouble v name = .ok f) ∨ ∃ m, asDouble v name = .error (.invalidArgument m) := by
  unfold asDouble
  split
  · exact .inl ⟨_, rfl⟩
  · exact .inr ⟨_, rfl⟩

theorem doubleResult_cases (f : Float) :
    doubleResult f = .ok (Json.float f) ∨ ∃ m, doubleResult f = .error (.invalidArgument m) := by
  unfold doubleResult
  split
  · exact .inl rfl
  · exact .inr ⟨_, rfl⟩

theorem doubleDifference_cases (a b : Json) :
    (∃ f, doubleDifference a b = .ok (.number (.float f))) ∨
      ∃ m, doubleDifference a b = .error (.invalidArgument m) := by
  unfold doubleDifference
  rcases asDouble_cases a "a" with ⟨p, hp⟩ | ⟨m, hm⟩
  · rw [hp, Checks.ok_bind]
    rcases asDouble_cases b "b" with ⟨q, hq⟩ | ⟨m, hm⟩
    · rw [hq, Checks.ok_bind]
      rcases doubleResult_cases (p - q) with hd | ⟨m, hd⟩
      · exact .inl ⟨_, hd⟩
      · exact .inr ⟨m, hd⟩
    · exact .inr ⟨m, by rw [hm]; rfl⟩
  · exact .inr ⟨m, by rw [hm]; rfl⟩

theorem asInt64?_int {x : Int} (h : fitsInt64 x = true) : asInt64? (Json.int x) = some x :=
  asInt64_ofInt h

theorem eq_int_of_asInt64? {v : Json} (hw : v.WellFormed) {x : Int} (h : asInt64? v = some x) :
    v = Json.int x ∧ fitsInt64 x = true := by
  cases v with
  | number n =>
    obtain ⟨rfl, hx⟩ := eq_ofInt_of_asInt64 (Json.WellFormed.number_iff.1 hw) h
    exact ⟨rfl, hx⟩
  | _ => cases h

/-- The arguments of a difference are integers of the signed 64-bit range, and so is their
difference. -/
def DifferenceFits (args : Args) (x y : Int) : Prop :=
  args.get? 0 "a" = some (Json.int x) ∧ args.get? 1 "b" = some (Json.int y) ∧
    fitsInt64 x = true ∧ fitsInt64 y = true ∧ fitsInt64 (x - y) = true

/-- What a difference answers (`r`): the exact integer when its arguments and their difference
are integers of the signed 64-bit range, and otherwise a double or a refusal as an invalid
argument. -/
structure SubtractsExactly (r : Result Json) (args : Args) : Prop where
  exact : ∀ x y, DifferenceFits args x y → r = .ok (Json.int (x - y))
  otherwise : (¬ ∃ x y, DifferenceFits args x y) →
    (∃ f, r = .ok (.number (.float f))) ∨ ∃ m, r = .error (.invalidArgument m)

theorem int_ne_null (x : Int) : Json.int x ≠ .null := nofun

theorem subtractsExactly (id : Nat) (args : Args) (hw : args.value.WellFormed) :
    SubtractsExactly (sampleCall id "subtract" args) args where
  exact x y h := by
    obtain ⟨ha, hb, hx, hy, hxy⟩ := h
    have hd : checked (· - ·) x y = some (x - y) := checked_eq_some.2 ⟨rfl, hxy⟩
    rw [sampleCall_subtract, Args.required_anyValue ha (int_ne_null x), Checks.ok_bind,
      Args.required_anyValue hb (int_ne_null y), Checks.ok_bind, asInt64?_int hx,
      asInt64?_int hy]
    simp only [hd]
  otherwise hnot := by
    rw [sampleCall_subtract]
    rcases ha : args.required 0 "a" anyValue with e | a
    · obtain ⟨m, rfl⟩ := Args.required_error ha
      exact .inr ⟨m, rfl⟩
    rw [Checks.ok_bind]
    rcases hb : args.required 1 "b" anyValue with e | b
    · obtain ⟨m, rfl⟩ := Args.required_error hb
      exact .inr ⟨m, rfl⟩
    rw [Checks.ok_bind]
    split
    · next x y hx hy =>
      split
      · -- an integer difference: the arguments and the difference fit after all
        next d hd =>
        have hga := Args.get?_of_required_anyValue ha
        have hgb := Args.get?_of_required_anyValue hb
        obtain ⟨rfl, hfx⟩ := eq_int_of_asInt64? (Args.wellFormed_get? hw hga) hx
        obtain ⟨rfl, hfy⟩ := eq_int_of_asInt64? (Args.wellFormed_get? hw hgb) hy
        exact absurd ⟨x, y, hga, hgb, hfx, hfy, (checked_eq_some.1 hd).2⟩ hnot
      · exact doubleDifference_cases a b
    · exact doubleDifference_cases a b

/-! ## The service -/

theorem sampleCall_add (id : Nat) (args : Args) :
    sampleCall id "add" args = foldNumbers args.positional 0 (checked (· + ·)) (· + ·) := rfl

theorem sampleCall_multiply (id : Nat) (args : Args) :
    sampleCall id "multiply" args = foldNumbers args.positional 1 (checked (· * ·)) (· * ·) := rfl

/-- **Integer arithmetic is exact while it fits.** For any well-formed arguments, a sum (from 0)
and a product (from 1) are refused as an invalid argument exactly when some positional argument
is not a number; over integers of the signed 64-bit range whose every partial result fits they
are the exact integer, and otherwise a double or `null`. A difference is the exact integer
when both arguments and the difference are integers of the range, and otherwise a double or a
refusal as an invalid argument. -/
theorem sample_arithmetic_exact_in_int64 (id : Nat) (args : Args) (hw : args.value.WellFormed) :
    ExactWhileInRange (sampleCall id "add" args) args.positional 0 (· + ·) ∧
      ExactWhileInRange (sampleCall id "multiply" args) args.positional 1 (· * ·) ∧
      SubtractsExactly (sampleCall id "subtract" args) args := by
  have hpos := Args.wellFormed_positional hw
  refine ⟨?_, ?_, subtractsExactly id args hw⟩
  · rw [sampleCall_add]
    exact foldNumbers_exactWhileInRange hpos
  · rw [sampleCall_multiply]
    exact foldNumbers_exactWhileInRange hpos

/-- The largest signed 64-bit integer, one, and minus one: well-formed arguments. -/
def int64EdgeArgs : Args := ⟨.array [Json.int (2 ^ 63 - 1), Json.int 1, Json.int (-1)]⟩

theorem int64EdgeArgs_wellFormed : int64EdgeArgs.value.WellFormed := by
  refine .array fun x hx => ?_
  simp only [List.mem_cons, List.not_mem_nil, or_false] at hx
  rcases hx with rfl | rfl | rfl <;>
    exact .number (wellFormed_ofInt (by decide))

/-- At the edge of the range: a sum whose total fits but whose first partial result does not. -/
theorem int64_edge_arithmetic :
    int64EdgeArgs.value.WellFormed ∧
      ExactWhileInRange (sampleCall 1 "add" int64EdgeArgs) int64EdgeArgs.positional 0 (· + ·) ∧
      ExactWhileInRange (sampleCall 1 "multiply" int64EdgeArgs) int64EdgeArgs.positional 1 (· * ·) ∧
      SubtractsExactly (sampleCall 1 "subtract" int64EdgeArgs) int64EdgeArgs :=
  ⟨int64EdgeArgs_wellFormed,
    sample_arithmetic_exact_in_int64 1 int64EdgeArgs int64EdgeArgs_wellFormed⟩

end Service

end LabFleet
