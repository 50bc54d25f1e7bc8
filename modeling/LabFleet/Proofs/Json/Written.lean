import Mathlib.Data.List.Basic
import LabFleet.Json.Basic
import LabFleet.Decimal.Text

/-!
What the compact JSON text of a value determines. The writer spells a number by its text only,
and a double with no JSON form as `null`; everything else it writes can be told apart. A value's
`written` form keeps exactly what the text shows, and the text is a function of it
(`text_written`). Reading a text back (`readValue`, a reader for the writer's own output)
recovers the written form (`readValue_write`), so

* `write_eq_iff`: two values have one compact text exactly when their written forms agree.

On the way, the texts of numbers are described: an integer is written with digits and a minus
sign (`numberChars_int`), and a finite double always with a point or an exponent mark
(`write_json_cases`), so no double is written like an integer (`toString_int_ne_write`).
-/

namespace LabFleet.Json

/-! ## What a text shows of a value -/

/-- What the compact text of a value shows of it: a number is only the characters it is
written with, and a number written `null` (a double that is not finite) reads as `null`. -/
inductive Written where
  | null
  | bool (b : Bool)
  | number (text : String)
  | string (s : String)
  | array (items : List Written)
  | object (fields : List (String × Written))

mutual
/-- What the compact text of a value shows of it. -/
def written : Json → Written
  | .null => .null
  | .bool b => .bool b
  | .number n => if numberText n = "null" then .null else .number (numberText n)
  | .string s => .string s
  | .array items => .array (writtenItems items)
  | .object fields => .object (writtenFields fields)

def writtenItems : List Json → List Written
  | [] => []
  | x :: xs => written x :: writtenItems xs

def writtenFields : List (String × Json) → List (String × Written)
  | [] => []
  | (k, v) :: fs => (k, written v) :: writtenFields fs
end

/-! Values other than numbers show all of themselves. -/

@[simp] theorem written_null : written .null = .null := rfl

@[simp] theorem written_bool (b : Bool) : written (.bool b) = .bool b := rfl

@[simp] theorem written_string (s : String) : written (.string s) = .string s := rfl

@[simp] theorem written_array (items : List Json) :
    written (.array items) = .array (writtenItems items) := rfl

@[simp] theorem written_object (fields : List (String × Json)) :
    written (.object fields) = .object (writtenFields fields) := rfl

@[simp] theorem writtenItems_nil : writtenItems [] = [] := rfl

@[simp] theorem writtenItems_cons (x : Json) (xs : List Json) :
    writtenItems (x :: xs) = written x :: writtenItems xs := rfl

@[simp] theorem writtenFields_nil : writtenFields [] = [] := rfl

@[simp] theorem writtenFields_cons (k : String) (v : Json) (fs : List (String × Json)) :
    writtenFields ((k, v) :: fs) = (k, written v) :: writtenFields fs := rfl

/-- The outer form of a written value, a number written as `null` counted with the numbers. -/
def Written.outer : Written → Nat
  | .null | .number _ => 0
  | .bool _ => 1
  | .string _ => 2
  | .array _ => 3
  | .object _ => 4

mutual
/-- The compact text that shows a value. -/
def Written.text : Written → String
  | .null => "null"
  | .bool b => if b then "true" else "false"
  | .number text => text
  | .string s => quote s
  | .array items => "[" ++ Written.textItems items ++ "]"
  | .object fields => "\x7b" ++ Written.textFields fields ++ "\x7d"

def Written.textItems : List Written → String
  | [] => ""
  | [x] => x.text
  | x :: rest => x.text ++ "," ++ Written.textItems rest

def Written.textFields : List (String × Written) → String
  | [] => ""
  | [(k, v)] => quote k ++ ":" ++ v.text
  | (k, v) :: rest => quote k ++ ":" ++ v.text ++ "," ++ Written.textFields rest
end

mutual
theorem text_written : ∀ j : Json, (written j).text = write j
  | .null => rfl
  | .bool b => by cases b <;> rfl
  | .number x => by
    simp only [written, write]
    split
    · rename_i h
      rw [h]
      rfl
    · rfl
  | .string _ => rfl
  | .array items => by simp only [written, write, Written.text, textItems_written items]
  | .object fields => by simp only [written, write, Written.text, textFields_written fields]

theorem textItems_written : ∀ items : List Json,
    Written.textItems (writtenItems items) = writeItems items
  | [] => rfl
  | [x] => by simp only [writtenItems, Written.textItems, writeItems, text_written x]
  | x :: y :: ys => by
    simp only [writtenItems, Written.textItems, writeItems, text_written x]
    rw [← writtenItems, textItems_written (y :: ys)]

theorem textFields_written : ∀ fields : List (String × Json),
    Written.textFields (writtenFields fields) = writeFields fields
  | [] => rfl
  | [(k, v)] => by simp only [writtenFields, Written.textFields, writeFields, text_written v]
  | (k, v) :: (l, w) :: fs => by
    simp only [writtenFields, Written.textFields, writeFields, text_written v]
    rw [← writtenFields, textFields_written ((l, w) :: fs)]
end

/-! ## Reading a compact text back -/

/-- The value of a hexadecimal digit, lowercase as `hex4` writes them. -/
def hexDigitValue (c : Char) : Nat :=
  if c.isDigit then c.toNat - 48 else c.toNat - 87

/-- The characters of a string literal's body, escapes undone, up to its closing quote, and
what follows the quote. -/
def readChars : List Char → Option (List Char × List Char)
  | [] => none
  | '"' :: rest => some ([], rest)
  | '\\' :: '"' :: rest => (readChars rest).map fun p => ('"' :: p.1, p.2)
  | '\\' :: '\\' :: rest => (readChars rest).map fun p => ('\\' :: p.1, p.2)
  | '\\' :: 'n' :: rest => (readChars rest).map fun p => ('\n' :: p.1, p.2)
  | '\\' :: 'r' :: rest => (readChars rest).map fun p => ('\r' :: p.1, p.2)
  | '\\' :: 't' :: rest => (readChars rest).map fun p => ('\t' :: p.1, p.2)
  | '\\' :: 'b' :: rest => (readChars rest).map fun p => (Char.ofNat 8 :: p.1, p.2)
  | '\\' :: 'f' :: rest => (readChars rest).map fun p => (Char.ofNat 12 :: p.1, p.2)
  | '\\' :: 'u' :: a :: b :: c :: d :: rest =>
    (readChars rest).map fun p =>
      (Char.ofNat (((hexDigitValue a * 16 + hexDigitValue b) * 16 + hexDigitValue c) * 16 +
        hexDigitValue d) :: p.1, p.2)
  | c :: rest => (readChars rest).map fun p => (c :: p.1, p.2)

/-- The characters numbers are written with. -/
def isNumberChar (c : Char) : Bool :=
  c.isDigit || c == '-' || c == '+' || c == '.' || c == 'e'

mutual
/-- Reads one value at the start of a text, and gives what follows it. -/
def readValue : Nat → List Char → Option (Written × List Char)
  | 0, _ => none
  | _ + 1, 'n' :: 'u' :: 'l' :: 'l' :: rest => some (.null, rest)
  | _ + 1, 't' :: 'r' :: 'u' :: 'e' :: rest => some (.bool true, rest)
  | _ + 1, 'f' :: 'a' :: 'l' :: 's' :: 'e' :: rest => some (.bool false, rest)
  | _ + 1, '"' :: rest => (readChars rest).map fun p => (.string (String.ofList p.1), p.2)
  | _ + 1, '[' :: ']' :: rest => some (.array [], rest)
  | n + 1, '[' :: rest => (readItems n rest).map fun p => (.array p.1, p.2)
  | _ + 1, '\x7b' :: '\x7d' :: rest => some (.object [], rest)
  | n + 1, '\x7b' :: rest => (readMembers n rest).map fun p => (.object p.1, p.2)
  | _ + 1, cs =>
    if cs.takeWhile isNumberChar = [] then none
    else some (.number (String.ofList (cs.takeWhile isNumberChar)), cs.dropWhile isNumberChar)

/-- Reads the items of an array after its opening bracket, through its closing one. -/
def readItems : Nat → List Char → Option (List Written × List Char)
  | 0, _ => none
  | n + 1, cs =>
    match readValue n cs with
    | some (x, ',' :: rest) => (readItems n rest).map fun p => (x :: p.1, p.2)
    | some (x, ']' :: rest) => some ([x], rest)
    | _ => none

/-- Reads the fields of an object after its opening brace, through its closing one. -/
def readMembers : Nat → List Char → Option (List (String × Written) × List Char)
  | 0, _ => none
  | n + 1, '"' :: cs =>
    match readChars cs with
    | some (k, ':' :: rest) =>
      match readValue n rest with
      | some (v, ',' :: rest') =>
        (readMembers n rest').map fun p => ((String.ofList k, v) :: p.1, p.2)
      | some (v, '\x7d' :: rest') => some ([(String.ofList k, v)], rest')
      | _ => none
    | _ => none
  | _ + 1, _ => none
end

/-! ## Strings -/

/-- Four hexadecimal digits, read as one number. -/
def hexValueOf : List Char → Option Nat
  | [a, b, c, d] =>
    some (((hexDigitValue a * 16 + hexDigitValue b) * 16 + hexDigitValue c) * 16 + hexDigitValue d)
  | _ => none

theorem hexValueOf_hex4 : ∀ n < 32, hexValueOf (hex4 n).toList = some n := by decide

theorem readChars_plain {c : Char} (h₁ : c ≠ '"') (h₂ : c ≠ '\\') (rest : List Char) :
    readChars (c :: rest) = (readChars rest).map fun p => (c :: p.1, p.2) := by
  rw [readChars] <;> simp [h₁, h₂]

theorem readChars_escapeChar (c : Char) (rest : List Char) :
    readChars ((escapeChar c).toList ++ rest) = (readChars rest).map fun p => (c :: p.1, p.2) := by
  unfold escapeChar
  split_ifs with h₁ h₂ h₃ h₄ h₅ h₆ h₇ h₈
  · subst h₁
    rfl
  · subst h₂
    rfl
  · subst h₃
    rfl
  · subst h₄
    rfl
  · subst h₅
    rfl
  · rw [← Char.ofNat_toNat c, h₆]
    rfl
  · rw [← Char.ofNat_toNat c, h₇]
    rfl
  · -- a control character without a short escape: four hexadecimal digits
    have hv := hexValueOf_hex4 c.toNat h₈
    match hl : (hex4 c.toNat).toList, hv with
    | [a, b, d, e], hv =>
      simp only [hexValueOf, Option.some.injEq] at hv
      have hcs : ("\\u" ++ hex4 c.toNat).toList ++ rest =
          '\\' :: 'u' :: a :: b :: d :: e :: rest := by
        rw [String.toList_append, hl]
        rfl
      rw [hcs, readChars, hv, Char.ofNat_toNat]
  · -- any other character stands for itself
    have hq : c ≠ '"' := h₁
    have hb : c ≠ '\\' := h₂
    rw [Char.toString, String.toList_singleton, List.singleton_append, readChars_plain hq hb]

theorem readChars_quoted (s : List Char) (rest : List Char) :
    readChars ((String.join (s.map escapeChar)).toList ++ '"' :: rest) = some (s, rest) := by
  induction s with
  | nil => rfl
  | cons c cs ih =>
    rw [List.map_cons, String.join_cons, String.toList_append, List.append_assoc,
      readChars_escapeChar, ih]
    rfl

/-! ## Numbers -/

/-- The text of a number as the reader takes it: number characters only, the first a digit or
a minus sign. -/
structure NumberChars (cs : List Char) : Prop where
  chars : ∀ c ∈ cs, isNumberChar c = true
  head : ∃ c t, cs = c :: t ∧ (c.isDigit = true ∨ c = '-')

/-- A digit, then number characters. -/
def LeadDigit (cs : List Char) : Prop :=
  ∃ c t, cs = c :: t ∧ c.isDigit = true ∧ ∀ x ∈ t, isNumberChar x = true

/-- The text of a finite double without its sign: a digit, then number characters, among them
a point or an exponent mark. -/
def FloatText (cs : List Char) : Prop :=
  LeadDigit cs ∧ ('.' ∈ cs ∨ 'e' ∈ cs)

theorem isNumberChar_of_isDigit {c : Char} (h : c.isDigit = true) : isNumberChar c = true := by
  simp [isNumberChar, h]

theorem leadDigit_of_digits {cs : List Char} (hd : ∀ c ∈ cs, c.isDigit = true) (hne : cs ≠ []) :
    LeadDigit cs := by
  obtain ⟨c, t, rfl⟩ := List.exists_cons_of_ne_nil hne
  exact ⟨c, t, rfl, hd c List.mem_cons_self,
    fun x hx => isNumberChar_of_isDigit (hd x (List.mem_cons_of_mem c hx))⟩

theorem LeadDigit.append {cs rest : List Char} (h : LeadDigit cs)
    (hr : ∀ x ∈ rest, isNumberChar x = true) : LeadDigit (cs ++ rest) := by
  obtain ⟨c, t, rfl, hc, ht⟩ := h
  refine ⟨c, t ++ rest, rfl, hc, fun x hx => ?_⟩
  rcases List.mem_append.1 hx with hx | hx
  · exact ht x hx
  · exact hr x hx

theorem NumberChars.of_leadDigit {cs : List Char} (h : LeadDigit cs) : NumberChars cs := by
  obtain ⟨c, t, rfl, hc, ht⟩ := h
  refine ⟨fun x hx => ?_, c, t, rfl, .inl hc⟩
  rcases List.mem_cons.1 hx with rfl | hx
  · exact isNumberChar_of_isDigit hc
  · exact ht x hx

theorem NumberChars.neg {cs : List Char} (h : LeadDigit cs) : NumberChars ('-' :: cs) := by
  refine ⟨fun x hx => ?_, '-', cs, rfl, .inr rfl⟩
  rcases List.mem_cons.1 hx with rfl | hx
  · rfl
  · exact (NumberChars.of_leadDigit h).chars x hx

theorem NumberChars.ne_null {s : String} (h : NumberChars s.toList) : s ≠ "null" := by
  rintro rfl
  obtain ⟨c, t, hct, hc⟩ := h.head
  rw [show "null".toList = ['n', 'u', 'l', 'l'] by simp, List.cons.injEq] at hct
  rw [← hct.1] at hc
  simp at hc

theorem isDigit_of_mem_toString {n : Nat} {c : Char} (h : c ∈ (toString n).toList) :
    c.isDigit = true := by
  simp only [toString, Nat.repr, String.toList_ofList] at h
  exact Nat.isDigit_of_mem_toDigits (by decide) (by decide) h

theorem toString_toList_ne_nil (n : Nat) : (toString n).toList ≠ [] := by
  simp only [toString, Nat.repr, String.toList_ofList]
  exact Nat.toDigits_ne_nil

theorem leadDigit_toString (n : Nat) : LeadDigit (toString n).toList :=
  leadDigit_of_digits (fun _ h => isDigit_of_mem_toString h) (toString_toList_ne_nil n)

theorem numberChars_int (i : Int) : NumberChars (toString i).toList := by
  cases i with
  | ofNat n => exact .of_leadDigit (leadDigit_toString n)
  | negSucc n =>
    show NumberChars ("-" ++ toString (n + 1)).toList
    rw [String.toList_append, show "-".toList = ['-'] by simp, List.singleton_append]
    exact .neg (leadDigit_toString (n + 1))

theorem mem_toString_int {i : Int} {c : Char} (h : c ∈ (toString i).toList) :
    c.isDigit = true ∨ c = '-' := by
  cases i with
  | ofNat n => exact .inl (isDigit_of_mem_toString h)
  | negSucc n =>
    change c ∈ ("-" ++ toString (n + 1)).toList at h
    rw [String.toList_append, show "-".toList = ['-'] by simp, List.singleton_append] at h
    rcases List.mem_cons.1 h with rfl | h
    · exact .inr rfl
    · exact .inl (isDigit_of_mem_toString h)

theorem isNumberChar_of_mem_int {i : Int} {c : Char} (h : c ∈ (toString i).toList) :
    isNumberChar c = true := (numberChars_int i).chars c h

theorem toList_zeros (n : Nat) : (Decimal.zeros n).toList = List.replicate n '0' := by
  simp [Decimal.zeros]

theorem isNumberChar_of_mem_exponent {b : Prop} [Decidable b] {e : Int} {x : Char}
    (h : x ∈ ("e" ++ (if b then "+" else "") ++ toString e).toList) : isNumberChar x = true := by
  simp only [String.toList_append, List.mem_append] at h
  rcases h with (h | h) | h
  · simp_all [isNumberChar]
  · split at h <;> simp_all [isNumberChar]
  · exact isNumberChar_of_mem_int h

theorem floatText_scientific {m : String} (hm : LeadDigit m.toList) (b : Prop) [Decidable b]
    (e : Int) :
    FloatText (m ++ "e" ++ (if b then "+" else "") ++ toString e).toList := by
  have hexp := @isNumberChar_of_mem_exponent b _ e
  simp only [String.append_assoc] at hexp ⊢
  rw [String.toList_append]
  exact ⟨hm.append fun x hx => hexp hx, .inr (by simp)⟩

theorem leadDigit_point {cs : List Char} (hd : ∀ c ∈ cs, c.isDigit = true) (hne : cs ≠ [])
    {k : Nat} (hk : 0 < k) : LeadDigit (cs.take k ++ '.' :: cs.drop k) := by
  have htake : cs.take k ≠ [] := by simp [hne, Nat.pos_iff_ne_zero.1 hk]
  refine (leadDigit_of_digits (fun c h => hd c (List.mem_of_mem_take h)) htake).append ?_
  intro x hx
  rcases List.mem_cons.1 hx with rfl | hx
  · rfl
  · exact isNumberChar_of_isDigit (hd x (List.mem_of_mem_drop hx))

theorem floatText_render (d : Decimal.Digits) : FloatText (d.render .json).toList := by
  have hdig : ∀ c ∈ (toString d.digits).toList, c.isDigit = true :=
    fun _ h => isDigit_of_mem_toString h
  have hne := toString_toList_ne_nil d.digits
  have hds := leadDigit_toString d.digits
  simp only [Decimal.Digits.render, Decimal.Style.json, Bool.false_eq_true, if_false]
  split
  · -- a whole number: the digits, zeros, then `.0`
    simp only [String.toList_append, toList_zeros, List.append_assoc]
    refine ⟨hds.append fun x hx => ?_, .inl (by simp)⟩
    simp only [List.mem_append, List.mem_replicate] at hx
    rcases hx with ⟨_, rfl⟩ | hx
    · rfl
    · simp at hx
      rcases hx with rfl | rfl <;> rfl
  split
  · -- the point falls inside the digits
    rename_i hk
    simp only [String.toList_append, String.toList_ofList, List.append_assoc]
    exact ⟨leadDigit_point hdig hne (by omega), .inl (by simp)⟩
  split
  · -- a small fraction: `0.`, zeros, then the digits
    simp only [String.toList_append, toList_zeros, List.append_assoc]
    rw [show "0.".toList = ['0', '.'] by simp, List.cons_append, List.cons_append, List.nil_append]
    refine ⟨⟨'0', _, rfl, rfl, fun x hx => ?_⟩, .inl (by simp)⟩
    rcases List.mem_cons.1 hx with rfl | hx
    · rfl
    rcases List.mem_append.1 hx with hx | hx
    · rw [List.eq_of_mem_replicate hx]
      rfl
    · exact isNumberChar_of_isDigit (hdig x hx)
  apply floatText_scientific
  split
  · exact hds
  · simp only [String.toList_append, String.toList_ofList, List.append_assoc]
    exact leadDigit_point hdig hne Nat.one_pos

theorem floatText_signed (b : Prop) [Decidable b] {x : String} (h : FloatText x.toList) :
    NumberChars ((if b then "-" else "") ++ x).toList ∧
      ('.' ∈ ((if b then "-" else "") ++ x).toList ∨
        'e' ∈ ((if b then "-" else "") ++ x).toList) := by
  obtain ⟨hx, hp⟩ := h
  rw [String.toList_append]
  split
  · rw [show "-".toList = ['-'] by simp, List.singleton_append]
    exact ⟨.neg hx, by simp [hp]⟩
  · rw [show "".toList = [] by simp, List.nil_append]
    exact ⟨.of_leadDigit hx, hp⟩

theorem write_json_cases (f : Float) :
    Decimal.Style.json.write f = "null" ∨
      (NumberChars (Decimal.Style.json.write f).toList ∧
        ('.' ∈ (Decimal.Style.json.write f).toList ∨
          'e' ∈ (Decimal.Style.json.write f).toList)) := by
  simp only [Decimal.Style.write, Decimal.Style.json]
  split
  · left
    split_ifs <;> rfl
  right
  split
  · apply floatText_signed
    rw [if_pos trivial, show "0.0".toList = ['0', '.', '0'] by simp]
    refine ⟨⟨'0', _, rfl, rfl, by simp [isNumberChar]⟩, .inl (by simp)⟩
  · exact floatText_signed _ (floatText_render _)

theorem numberChars_numberText {n : Number} (h : numberText n ≠ "null") :
    NumberChars (numberText n).toList := by
  cases n with
  | nat n => exact .of_leadDigit (leadDigit_toString n)
  | neg i => exact numberChars_int i
  | float f => exact ((write_json_cases f).resolve_left h).1

theorem toString_int_ne_write (i : Int) {f : Float} (h : Decimal.Style.json.write f ≠ "null") :
    toString i ≠ Decimal.Style.json.write f := by
  intro he
  have hp := ((write_json_cases f).resolve_left h).2
  rw [← he] at hp
  rcases hp with hp | hp <;> simpa using mem_toString_int hp

theorem numberText_ofInt (i : Int) : numberText (Number.ofInt i) = toString i := by
  unfold Number.ofInt
  split
  · rename_i h
    obtain ⟨n, rfl⟩ := Int.eq_ofNat_of_zero_le h
    rfl
  · rfl

@[simp] theorem toString_nat_ne_null (n : Nat) : toString n ≠ "null" :=
  (NumberChars.of_leadDigit (leadDigit_toString n)).ne_null

@[simp] theorem toString_int_ne_null (i : Int) : toString i ≠ "null" :=
  (numberChars_int i).ne_null

theorem written_nat (n : Nat) : written (.number (.nat n)) = .number (toString n) :=
  if_neg (toString_nat_ne_null n)

theorem written_int (i : Int) : written (.number (Number.ofInt i)) = .number (toString i) := by
  rw [written, numberText_ofInt, if_neg (toString_int_ne_null i)]

theorem written_float (f : Float) :
    written (.number (.float f)) =
      if Decimal.Style.json.write f = "null" then .null else .number (Decimal.Style.json.write f) :=
  rfl

/-- What follows a value does not continue a number. -/
def NoNumberHead (rest : List Char) : Prop :=
  ∀ c t, rest = c :: t → isNumberChar c = false

theorem NoNumberHead.takeWhile {rest : List Char} (h : NoNumberHead rest) :
    rest.takeWhile isNumberChar = [] := by
  cases rest with
  | nil => rfl
  | cons c t => exact List.takeWhile_cons_of_neg (by simp [h c t rfl])

theorem NoNumberHead.dropWhile {rest : List Char} (h : NoNumberHead rest) :
    rest.dropWhile isNumberChar = rest := by
  cases rest with
  | nil => rfl
  | cons c t => exact List.dropWhile_cons_of_neg (by simp [h c t rfl])

theorem readValue_number {cs rest : List Char} (hcs : NumberChars cs) (hr : NoNumberHead rest)
    (k : Nat) : readValue (k + 1) (cs ++ rest) = some (.number (String.ofList cs), rest) := by
  have htake : (cs ++ rest).takeWhile isNumberChar = cs := by
    rw [List.takeWhile_append_of_pos hcs.chars, hr.takeWhile, List.append_nil]
  have hdrop : (cs ++ rest).dropWhile isNumberChar = rest := by
    rw [List.dropWhile_append_of_pos hcs.chars, hr.dropWhile]
  obtain ⟨c, t, rfl, -⟩ := hcs.head
  have hc := hcs.chars c List.mem_cons_self
  rw [List.cons_append] at htake hdrop ⊢
  -- the first character is none of those that open a keyword, a string, an array or an object
  rw [readValue]
  · rw [htake, hdrop, if_neg (List.cons_ne_nil _ _)]
  all_goals
    intro _ h
    obtain ⟨rfl, -⟩ := List.cons.inj h
    exact absurd hc (by decide)

/-! ## Reading back what is written -/

mutual
/-- A bound on the nesting and length of a value, for reading it back with fuel. -/
def weight : Json → Nat
  | .array items => itemsWeight items + 1
  | .object fields => fieldsWeight fields + 1
  | _ => 1

def itemsWeight : List Json → Nat
  | [] => 0
  | x :: xs => weight x + itemsWeight xs + 1

def fieldsWeight : List (String × Json) → Nat
  | [] => 0
  | (_, v) :: fs => weight v + fieldsWeight fs + 1
end

theorem noNumberHead_cons {c : Char} (h : isNumberChar c = false) (t : List Char) :
    NoNumberHead (c :: t) := by
  rintro _ _ ⟨⟩
  exact h

theorem one_le_weight (j : Json) : 1 ≤ weight j := by
  cases j <;> simp [weight]

theorem write_ne_close (j : Json) (r s : List Char) : (write j).toList ++ r ≠ ']' :: s := by
  cases j with
  | number x =>
    by_cases hx : numberText x = "null"
    · simp [write, hx]
    · obtain ⟨c, t, hct, hc⟩ := (numberChars_numberText hx).head
      simp only [write, hct, List.cons_append, ne_eq, List.cons.injEq, not_and]
      rintro rfl
      simp at hc
  | bool b => cases b <;> simp [write]
  | _ => simp [write, quote]

theorem writeItems_ne_close (x : Json) (xs : List Json) (r s : List Char) :
    (writeItems (x :: xs)).toList ++ r ≠ ']' :: s := by
  cases xs with
  | nil => exact write_ne_close x r s
  | cons y ys =>
    simp only [writeItems, String.toList_append, List.append_assoc]
    exact write_ne_close x _ s

theorem writeFields_ne_close (f : String × Json) (fs : List (String × Json)) (r s : List Char) :
    (writeFields (f :: fs)).toList ++ r ≠ '\x7d' :: s := by
  obtain ⟨k, v⟩ := f
  cases fs <;> simp [writeFields, quote]

mutual
theorem readValue_write : ∀ (j : Json) (n : Nat) (rest : List Char), weight j ≤ n →
    NoNumberHead rest → readValue n ((write j).toList ++ rest) = some (written j, rest)
  | j, 0, _, h, _ => absurd h (by have := one_le_weight j; omega)
  | .null, _ + 1, rest, _, _ => by
    simp [write, written, readValue]
  | .bool b, _ + 1, rest, _, _ => by
    cases b <;> simp [write, written, readValue]
  | .number x, n + 1, rest, _, hr => by
    simp only [write, written]
    split
    · rename_i hnull
      rw [hnull]
      simp [readValue]
    · rename_i hnull
      rw [readValue_number (numberChars_numberText hnull) hr, String.ofList_toList]
  | .string s, _ + 1, rest, _, _ => by
    simp only [write, written, quote, String.toList_append, List.append_assoc]
    rw [show "\"".toList = ['"'] by simp, List.singleton_append, List.singleton_append, readValue,
      readChars_quoted]
    simp
  | .array [], _ + 1, rest, _, _ => by
    simp [write, writeItems, written, writtenItems, readValue]
  | .array (x :: xs), n + 1, rest, h, _ => by
    have hitems := readItems_write x xs n rest (by simp only [weight] at h; omega)
    simp only [write, written, String.toList_append, List.append_assoc]
    rw [show "[".toList = ['['] by simp, show "]".toList = [']'] by simp, List.singleton_append,
      List.singleton_append, readValue, hitems]
    · rfl
    · exact writeItems_ne_close x xs _
  | .object [], _ + 1, rest, _, _ => by
    simp [write, writeFields, written, writtenFields, readValue]
  | .object (f :: fs), n + 1, rest, h, _ => by
    have hfields := readMembers_write f fs n rest (by simp only [weight] at h; omega)
    simp only [write, written, String.toList_append, List.append_assoc]
    rw [show "\x7b".toList = ['\x7b'] by simp, show "\x7d".toList = ['\x7d'] by simp,
      List.singleton_append, List.singleton_append, readValue, hfields]
    · rfl
    · exact writeFields_ne_close f fs _
termination_by _ n => n

theorem readItems_write : ∀ (x : Json) (xs : List Json) (n : Nat) (rest : List Char),
    itemsWeight (x :: xs) ≤ n →
      readItems n ((writeItems (x :: xs)).toList ++ ']' :: rest) =
        some (writtenItems (x :: xs), rest)
  | _, _, 0, _, h => by simp [itemsWeight] at h
  | x, [], n + 1, rest, h => by
    simp only [itemsWeight] at h
    have hx := readValue_write x n (']' :: rest) (by omega) (noNumberHead_cons (by decide) rest)
    simp only [writeItems, writtenItems]
    rw [readItems, hx]
    rfl
  | x, y :: ys, n + 1, rest, h => by
    simp only [itemsWeight] at h
    have hx := readValue_write x n (',' :: ((writeItems (y :: ys)).toList ++ ']' :: rest))
      (by omega) (noNumberHead_cons (by decide) _)
    have hys := readItems_write y ys n rest (by simp only [itemsWeight]; omega)
    simp only [writeItems, writtenItems, String.toList_append, List.append_assoc]
    rw [show ",".toList = [','] by simp, List.singleton_append, readItems, hx]
    simp only [hys, Option.map_some]
    rfl
termination_by _ _ n => n

theorem readMembers_write : ∀ (f : String × Json) (fs : List (String × Json)) (n : Nat)
    (rest : List Char), fieldsWeight (f :: fs) ≤ n →
      readMembers n ((writeFields (f :: fs)).toList ++ '\x7d' :: rest) =
        some (writtenFields (f :: fs), rest)
  | _, _, 0, _, h => by simp [fieldsWeight] at h
  | (k, v), [], n + 1, rest, h => by
    simp only [fieldsWeight] at h
    have hv := readValue_write v n ('\x7d' :: rest) (by omega) (noNumberHead_cons (by decide) rest)
    simp only [writeFields, writtenFields, quote, String.toList_append, List.append_assoc]
    rw [show "\"".toList = ['"'] by simp, show ":".toList = [':'] by simp, List.singleton_append,
      List.singleton_append, List.singleton_append, readMembers, readChars_quoted]
    simp only [hv, String.ofList_toList]
  | (k, v), (l, w) :: gs, n + 1, rest, h => by
    simp only [fieldsWeight] at h
    have hv := readValue_write v n (',' :: ((writeFields ((l, w) :: gs)).toList ++ '\x7d' :: rest))
      (by omega) (noNumberHead_cons (by decide) _)
    have hgs := readMembers_write (l, w) gs n rest (by simp only [fieldsWeight]; omega)
    simp only [writeFields, writtenFields, quote, String.toList_append, List.append_assoc]
    rw [show "\"".toList = ['"'] by simp, show ":".toList = [':'] by simp,
      show ",".toList = [','] by simp, List.singleton_append, List.singleton_append,
      List.singleton_append, List.singleton_append, readMembers, readChars_quoted]
    simp only [hv, hgs, Option.map_some, String.ofList_toList]
    rfl
termination_by _ _ n => n
end

theorem write_eq_iff {j₁ j₂ : Json} : write j₁ = write j₂ ↔ written j₁ = written j₂ := by
  constructor
  · intro h
    have hr : NoNumberHead [] := by rintro _ _ ⟨⟩
    have h₁ := readValue_write j₁ (weight j₁ + weight j₂) [] (by omega) hr
    have h₂ := readValue_write j₂ (weight j₁ + weight j₂) [] (by omega) hr
    rw [h, h₂] at h₁
    simpa using h₁.symm
  · intro h
    rw [← text_written j₁, ← text_written j₂, h]

end LabFleet.Json
