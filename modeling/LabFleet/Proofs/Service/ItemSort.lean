import Mathlib
import LabFleet.Service.Sample

/-!
Sorting the item list orders it by value, numbers as their nearest doubles.

IEEE comparison of doubles is partial: NaN compares with nothing. Away from NaN it is the
lexicographic order `doubleOrder` on (place on the line, signed exponent, signed mantissa),
which is transitive, so `≤` on doubles that are not NaN is a total preorder
(`float_le_trans`, `float_le_total`).

An item sorts as one of three kinds (`itemKind`): a number whose double is not NaN, a string,
or a boolean. Two items compare exactly when they are of one kind
(`compareItems_isSome_iff`), so the neighbour test of the sort passes exactly when the items
sort together, all of one kind or at most one of them (`neighboursCompare_iff`). Over items of
one kind the sort's comparator is the order `ItemLE`, and a merge sort by a comparator that is
a total preorder on the members of the list orders it (`pairwise_mergeSort_of_mem`).

`sort_orders_items_by_value` collects the operation: it succeeds exactly when the reverse flag
reads and the items sort together; it then leaves a permutation of the items ordered by
`ItemLE`, or by its converse when reversing, and after a failure the items are as they were.
Numbers are ordered by their doubles, not by their exact values:
`sort_keeps_integers_one_double_apart` sorts `2^53 + 1` and `2^53`, which round to one double,
and keeps them in their given order.
-/

namespace LabFleet.Service

set_option autoImplicit false

open Float.Model UnpackedFloat

/-! ## The order of doubles -/

/-- Where a double falls on the line: negative infinity, the negative finite doubles, zero,
the positive finite doubles, positive infinity. NaN, which compares with nothing, stands with
zero. -/
def doublePlace : UnpackedFloat → Nat
  | .infinity .negative => 0
  | .finite .negative .. => 1
  | .zero _ | .notANumber => 2
  | .finite .positive .. => 3
  | .infinity .positive => 4

/-- The exponent of a finite double, negated for a negative one. -/
def doubleScale : UnpackedFloat → Int
  | .finite s _ e _ => s.apply e
  | _ => 0

/-- The mantissa of a finite double, negated for a negative one. -/
def doubleDigits : UnpackedFloat → Int
  | .finite s m _ _ => s.apply m
  | _ => 0

/-- The order of doubles other than NaN: by place on the line, then by signed exponent, then by
signed mantissa. -/
def doubleOrder : UnpackedFloat → UnpackedFloat → Ordering :=
  compareLex (compareOn doublePlace) (compareLex (compareOn doubleScale) (compareOn doubleDigits))

instance : Std.TransCmp doubleOrder := by
  unfold doubleOrder
  infer_instance

theorem compare_natCast (m m' : Nat) : compare (m : Int) (m' : Int) = compare m m' := by
  simp only [compare, compareOfLessAndEq]
  split_ifs <;> first | rfl | omega

theorem compare_neg_neg (x y : Int) : compare (-x) (-y) = (compare x y).swap := by
  simp only [compare, compareOfLessAndEq]
  split_ifs <;> first | rfl | omega

theorem compare_eq_doubleOrder {a b : UnpackedFloat} (ha : a ≠ .notANumber)
    (hb : b ≠ .notANumber) : a.compare b = some (doubleOrder a b) := by
  rcases a with ⟨_ | _⟩ | _ | ⟨_ | _⟩ | ⟨_ | _, m, e, hm⟩ <;>
  rcases b with ⟨_ | _⟩ | _ | ⟨_ | _⟩ | ⟨_ | _, m', e', hm'⟩ <;>
  simp_all [UnpackedFloat.compare, doubleOrder, compareLex, compareOn, doublePlace, doubleScale,
    doubleDigits, Sign.apply]
  -- doubles in different places are ordered by their places alone
  all_goals try rfl
  -- two finite doubles of one sign are left
  · rw [Ordering.swap_then, compare_neg_neg, compare_neg_neg, compare_natCast]
  · rw [compare_natCast]

theorem compare_nan_left (b : UnpackedFloat) : UnpackedFloat.notANumber.compare b = none := rfl

theorem compare_nan_right (a : UnpackedFloat) : a.compare .notANumber = none := by
  cases a <;> rfl

theorem compare_swap (a b : UnpackedFloat) : b.compare a = (a.compare b).map Ordering.swap := by
  by_cases ha : a = .notANumber
  · simp [ha, compare_nan_left, compare_nan_right]
  by_cases hb : b = .notANumber
  · simp [hb, compare_nan_left, compare_nan_right]
  rw [compare_eq_doubleOrder ha hb, compare_eq_doubleOrder hb ha, Option.map_some,
    @Std.OrientedCmp.eq_swap _ doubleOrder _ b a]

theorem Float.lt_iff_compare (x y : Float) : x < y ↔ x.toModel.compare y.toModel = some .lt := by
  show Float.lt x y = true ↔ _
  simp only [Float.lt, decide_eq_true_eq]
  exact beq_iff_eq

theorem Float.le_iff_compare (x y : Float) :
    x ≤ y ↔ (x.toModel.compare y.toModel).any (·.isLE) := by
  show Float.le x y = true ↔ _
  simp only [Float.le, decide_eq_true_eq]
  rfl

theorem Float.beq_iff_compare (x y : Float) :
    (x == y) = true ↔ x.toModel.compare y.toModel = some .eq := by
  show (x.toModel.unpack.compare y.toModel.unpack == some .eq) = true ↔ _
  exact beq_iff_eq

theorem compare_toModel_swap (x y : Float) :
    y.toModel.compare x.toModel = (x.toModel.compare y.toModel).map Ordering.swap :=
  compare_swap _ _

theorem isNaN_eq_false_iff (x : Float) : x.isNaN = false ↔ x.toModel.unpack ≠ .notANumber := by
  show x.toModel.unpack.isNaN = false ↔ _
  cases x.toModel.unpack <;> simp [UnpackedFloat.isNaN]

theorem compare_of_notNaN {x y : Float} (hx : x.isNaN = false) (hy : y.isNaN = false) :
    x.toModel.compare y.toModel = some (doubleOrder x.toModel.unpack y.toModel.unpack) :=
  compare_eq_doubleOrder ((isNaN_eq_false_iff x).1 hx) ((isNaN_eq_false_iff y).1 hy)

theorem compare_isSome_iff (x y : Float) :
    (x.toModel.compare y.toModel).isSome ↔ x.isNaN = false ∧ y.isNaN = false := by
  constructor
  · intro h
    rw [isNaN_eq_false_iff, isNaN_eq_false_iff]
    constructor
    · intro hx
      simp [Float.Model.compare, hx, compare_nan_left] at h
    · intro hy
      simp [Float.Model.compare, hy, compare_nan_right] at h
  · rintro ⟨hx, hy⟩
    simp [compare_of_notNaN hx hy]

theorem float_le_iff {x y : Float} (hx : x.isNaN = false) (hy : y.isNaN = false) :
    x ≤ y ↔ (doubleOrder x.toModel.unpack y.toModel.unpack).isLE := by
  rw [Float.le_iff_compare, compare_of_notNaN hx hy, Option.any_some]

theorem notNaN_of_le {x y : Float} (h : x ≤ y) : x.isNaN = false ∧ y.isNaN = false := by
  rw [Float.le_iff_compare] at h
  apply (compare_isSome_iff x y).1
  cases hc : x.toModel.compare y.toModel <;> simp_all

theorem float_le_trans {x y z : Float} (hxy : x ≤ y) (hyz : y ≤ z) : x ≤ z := by
  obtain ⟨hx, hy⟩ := notNaN_of_le hxy
  obtain ⟨-, hz⟩ := notNaN_of_le hyz
  rw [float_le_iff hx hy] at hxy
  rw [float_le_iff hy hz] at hyz
  rw [float_le_iff hx hz]
  exact Std.TransCmp.isLE_trans hxy hyz

theorem float_le_total {x y : Float} (hx : x.isNaN = false) (hy : y.isNaN = false) :
    x ≤ y ∨ y ≤ x := by
  rw [float_le_iff hx hy, float_le_iff hy hx]
  by_cases h : (doubleOrder x.toModel.unpack y.toModel.unpack).isLE
  · exact .inl h
  · right
    rw [Std.OrientedCmp.lt_of_not_isLE h]
    rfl

/-! ## Kinds of item and their order -/

/-- The kinds of item that sort among themselves. -/
inductive ItemKind where
  | number
  | string
  | bool
  deriving DecidableEq

/-- The kind an item sorts as: a number whose double is not NaN, a string, or a boolean. Other
items, and numbers whose double is NaN, sort with nothing. -/
def itemKind : Json → Option ItemKind
  | .number n => if n.toFloat.isNaN then none else some .number
  | .string _ => some .string
  | .bool _ => some .bool
  | _ => none

/-- The order of items: numbers by their doubles, strings by code points, `false` before
`true`. Items of different kinds are not ordered. -/
def ItemLE : Json → Json → Prop
  | .number a, .number b => a.toFloat ≤ b.toFloat
  | .string a, .string b => a ≤ b
  | .bool a, .bool b => a ≤ b
  | _, _ => False

/-- Items that sort together: at most one of them, or all of one kind. -/
def SortsTogether (items : List Json) : Prop :=
  items.length ≤ 1 ∨ ∃ k, ∀ x ∈ items, itemKind x = some k

theorem compareItems_number (a b : Number) :
    compareItems (.number a) (.number b) = a.toFloat.toModel.compare b.toFloat.toModel := by
  simp only [compareItems, gt_iff_lt, Float.lt_iff_compare, Float.beq_iff_compare]
  rw [compare_toModel_swap a.toFloat b.toFloat]
  cases a.toFloat.toModel.compare b.toFloat.toModel with
  | none => simp
  | some o => cases o <;> simp

theorem compareItems_of_notNaN {a b : Number} (ha : a.toFloat.isNaN = false)
    (hb : b.toFloat.isNaN = false) :
    compareItems (.number a) (.number b) =
      some (doubleOrder a.toFloat.toModel.unpack b.toFloat.toModel.unpack) := by
  rw [compareItems_number, compare_of_notNaN ha hb]

theorem compareItems_isSome_iff (a b : Json) :
    (compareItems a b).isSome ↔ ∃ k, itemKind a = some k ∧ itemKind b = some k := by
  cases a <;> cases b
  case number.number a b => simp [compareItems_number, compare_isSome_iff, itemKind]
  all_goals simp [compareItems, itemKind]

theorem sameKind_cases {a b : Json} {k : ItemKind} (ha : itemKind a = some k)
    (hb : itemKind b = some k) :
    (∃ m n : Number, a = .number m ∧ b = .number n ∧
        m.toFloat.isNaN = false ∧ n.toFloat.isNaN = false) ∨
      (∃ s t : String, a = .string s ∧ b = .string t) ∨
      (∃ c d : Bool, a = .bool c ∧ b = .bool d) := by
  cases a <;> cases b <;> simp [itemKind] at ha hb ⊢ <;> grind

theorem itemLE_iff {a b : Json} {k : ItemKind} (ha : itemKind a = some k)
    (hb : itemKind b = some k) : ItemLE a b ↔ compareItems a b ≠ some .gt := by
  rcases sameKind_cases ha hb with ⟨m, n, rfl, rfl, hm, hn⟩ | ⟨s, t, rfl, rfl⟩ | ⟨c, d, rfl, rfl⟩
  · rw [compareItems_of_notNaN hm hn, ItemLE, float_le_iff hm hn, Ordering.isLE_iff_ne_gt]
    simp
  · simp [ItemLE, compareItems, compare_le_iff_le]
  · simp [ItemLE, compareItems, compare_le_iff_le]

theorem itemLE_total {a b : Json} {k : ItemKind} (ha : itemKind a = some k)
    (hb : itemKind b = some k) : ItemLE a b ∨ ItemLE b a := by
  rcases sameKind_cases ha hb with ⟨m, n, rfl, rfl, hm, hn⟩ | ⟨s, t, rfl, rfl⟩ | ⟨c, d, rfl, rfl⟩
  · exact float_le_total hm hn
  · exact le_total s t
  · exact le_total c d

theorem itemLE_trans {a b c : Json} (hab : ItemLE a b) (hbc : ItemLE b c) : ItemLE a c := by
  cases a <;> cases b <;> simp only [ItemLE] at hab <;> cases c <;> simp only [ItemLE] at hbc ⊢
  · exact le_trans hab hbc
  · exact float_le_trans hab hbc
  · exact le_trans hab hbc

theorem neighboursCompare_iff (items : List Json) :
    neighboursCompare items = true ↔ SortsTogether items := by
  fun_induction neighboursCompare items with
  | case1 a b rest ih =>
    simp only [Bool.and_eq_true, ih, compareItems_isSome_iff, SortsTogether]
    constructor
    · rintro ⟨⟨k, hak, hbk⟩, hrest | ⟨k', hk'⟩⟩
      · have hnil : rest = [] := by simpa using hrest
        subst hnil
        exact .inr ⟨k, by simp [hak, hbk]⟩
      · have hk : k' = k := Option.some.inj ((hk' b (by simp)).symm.trans hbk)
        subst hk
        refine .inr ⟨k', fun x hx => ?_⟩
        rcases List.mem_cons.1 hx with rfl | hx
        · exact hak
        · exact hk' x hx
    · rintro (hlen | ⟨k, hk⟩)
      · simp at hlen
      · exact ⟨⟨k, hk a (by simp), hk b (by simp)⟩,
          .inr ⟨k, fun x hx => hk x (List.mem_cons_of_mem a hx)⟩⟩
  | case2 items h =>
    simp only [SortsTogether, true_iff]
    left
    match items, h with
    | [], _ => simp
    | [_], _ => simp
    | _ :: _ :: _, h => exact absurd rfl (h _ _ _)

/-! ## Sorting -/

theorem pairwise_mergeSort_of_mem {α : Type} {le : α → α → Bool} {l : List α}
    (trans : ∀ a ∈ l, ∀ b ∈ l, ∀ c ∈ l, le a b → le b c → le a c)
    (total : ∀ a ∈ l, ∀ b ∈ l, le a b || le b a) :
    (l.mergeSort le).Pairwise (fun a b => le a b) := by
  -- sort the members paired with their membership, where the comparator is a total preorder
  have hsorted : (l.attach.mergeSort fun x y => le x.1 y.1).Pairwise (fun x y => le x.1 y.1) :=
    List.pairwise_mergeSort (fun x y z hxy hyz => trans x.1 x.2 y.1 y.2 z.1 z.2 hxy hyz)
      (fun x y => total x.1 x.2 y.1 y.2) l.attach
  have hmap : (l.attach.mergeSort fun x y => le x.1 y.1).map Subtype.val = l.mergeSort le := by
    rw [List.map_mergeSort (s := le) (fun _ _ _ _ => rfl), List.attach_map_subtype_val]
  rw [← hmap, List.pairwise_map]
  exact hsorted

theorem mergeSort_sorted {items : List Json} (h : SortsTogether items) :
    (items.mergeSort fun a b => compareItems a b != some .gt).Pairwise ItemLE := by
  rcases h with hlen | ⟨k, hk⟩
  · match items, hlen with
    | [], _ => simp
    | [_], _ => simp
    | _ :: _ :: _, h => simp at h
  · have hle : ∀ a ∈ items, ∀ b ∈ items,
        (compareItems a b != some .gt) = true ↔ ItemLE a b := by
      intro a ha b hb
      rw [itemLE_iff (hk a ha) (hk b hb)]
      simp
    have hsorted : (items.mergeSort fun a b => compareItems a b != some .gt).Pairwise
        (fun a b => (compareItems a b != some .gt) = true) := pairwise_mergeSort_of_mem
      (fun a ha b hb c hc hab hbc => (hle a ha c hc).2
        (itemLE_trans ((hle a ha b hb).1 hab) ((hle b hb c hc).1 hbc)))
      (fun a ha b hb => by
        rcases itemLE_total (hk a ha) (hk b hb) with h | h
        · simp [(hle a ha b hb).2 h]
        · simp [(hle b hb a ha).2 h])
    have hmem := fun {x} (hx : x ∈ items.mergeSort fun a b => compareItems a b != some .gt) =>
      (List.mergeSort_perm items _).mem_iff.1 hx
    exact hsorted.imp_of_mem fun ha hb hab => (hle _ (hmem ha) _ (hmem hb)).1 hab

theorem sorted_oriented {items : List Json} (h : SortsTogether items) (rev : Bool) :
    let sorted := items.mergeSort fun a b => compareItems a b != some .gt
    (if rev then sorted.reverse else sorted).Perm items ∧
      (if rev then sorted.reverse else sorted).Pairwise
        (fun a b => if rev then ItemLE b a else ItemLE a b) := by
  intro sorted
  have hperm : sorted.Perm items := List.mergeSort_perm items _
  cases rev with
  | false => exact ⟨hperm, by simpa using mergeSort_sorted h⟩
  | true =>
    refine ⟨(List.reverse_perm sorted).trans hperm, ?_⟩
    simpa [List.pairwise_reverse] using mergeSort_sorted h

theorem selectiveCall_sort (items : List Json) (args : Args) :
    selectiveCall items "sort" args =
      match args.optional 0 "reverse" Json.Decoder.bool with
      | .error e => (.error e, items)
      | .ok reverse =>
        if !neighboursCompare items then
          (.error (.invalidArgument "items are not mutually comparable"), items)
        else
          let sorted := items.mergeSort fun a b => compareItems a b != some .gt
          (.ok .null, if reverse.getD false then sorted.reverse else sorted) := rfl

/-- **Sorting orders the items by value.** A sort succeeds exactly when its reverse flag reads
and the items sort together. It then leaves a permutation of the items ordered by `ItemLE`,
or by its converse when the flag is set; after a failure the items are as they were. -/
theorem sort_orders_items_by_value (items : List Json) (args : Args) :
    ((selectiveCall items "sort" args).1 = .ok .null ↔
        (∃ reverse, args.optional 0 "reverse" Json.Decoder.bool = .ok reverse) ∧
          SortsTogether items) ∧
      (∀ reverse, args.optional 0 "reverse" Json.Decoder.bool = .ok reverse →
        SortsTogether items →
          (selectiveCall items "sort" args).2.Perm items ∧
            (selectiveCall items "sort" args).2.Pairwise
              (fun a b => if reverse = some true then ItemLE b a else ItemLE a b)) ∧
      ((selectiveCall items "sort" args).1 ≠ .ok .null →
        (selectiveCall items "sort" args).2 = items) := by
  rw [selectiveCall_sort]
  cases hr : args.optional 0 "reverse" Json.Decoder.bool with
  | error e => simp
  | ok reverse =>
    by_cases hs : SortsTogether items
    · have hn := (neighboursCompare_iff items).2 hs
      simp only [hn, Bool.not_true, Bool.false_eq_true, if_false]
      refine ⟨by simp [hs], ?_, by simp⟩
      rintro r ⟨⟩ -
      have key := sorted_oriented hs (reverse.getD false)
      cases reverse with
      | none => simpa using key
      | some b => cases b <;> simpa using key
    · have hn : neighboursCompare items = false :=
        Bool.eq_false_iff.2 fun h => hs ((neighboursCompare_iff items).1 h)
      simp [hn, hs]

/-- Three integers sort together and come out in order. -/
theorem three_integers_sort_in_order :
    SortsTogether [Json.int 3, Json.int 1, Json.int 2] ∧
      (selectiveCall [Json.int 3, Json.int 1, Json.int 2] "sort" ⟨.array []⟩).1 = .ok .null ∧
      (selectiveCall [Json.int 3, Json.int 1, Json.int 2] "sort" ⟨.array []⟩).2.Pairwise
        ItemLE := by
  have hs : SortsTogether [Json.int 3, Json.int 1, Json.int 2] := .inr ⟨.number, by decide +kernel⟩
  obtain ⟨hok, hsorted, -⟩ :=
    sort_orders_items_by_value [Json.int 3, Json.int 1, Json.int 2] ⟨.array []⟩
  exact ⟨hs, hok.2 ⟨⟨none, rfl⟩, hs⟩, by simpa using (hsorted none rfl hs).2⟩

/-- Two integers that round to one double, `2^53 + 1` and `2^53`, compare equal, and the sort
keeps them in their given order. -/
theorem sort_keeps_integers_one_double_apart :
    selectiveCall [.number (.nat 9007199254740993), .number (.nat 9007199254740992)] "sort"
        ⟨.array []⟩ =
      (.ok .null, [.number (.nat 9007199254740993), .number (.nat 9007199254740992)]) := by
  have htie : compareItems (.number (.nat 9007199254740993)) (.number (.nat 9007199254740992)) =
      some .eq := by
    decide +kernel
  have hflag : Args.optional ⟨.array []⟩ 0 "reverse" Json.Decoder.bool = .ok none := rfl
  have hsorted : [Json.number (.nat 9007199254740993), .number (.nat 9007199254740992)].mergeSort
      (fun a b => compareItems a b != some .gt) =
        [.number (.nat 9007199254740993), .number (.nat 9007199254740992)] :=
    List.mergeSort_of_pairwise (by simp [htie])
  rw [selectiveCall_sort, hflag]
  simp [neighboursCompare, htie, hsorted]

end LabFleet.Service
