import Mathlib.Tactic.SplitIfs
import LabFleet.Json.Read
import LabFleet.Proofs.Checks

/-!
The JSON reader takes back what the writer writes. `Reads r bs a` says that the reader `r`,
started on the bytes `bs` followed by anything, returns `a` and stops right after `bs`; it has
rules for `pure` and `>>=`, and every reader of the JSON grammar gets one such lemma, stated on
the bytes the writer gives (`nextKey_first`, `colon_reads`, `stringBody_reads`).

A string is written with its quote, its backslash and its control characters escaped and every
other character as its UTF-8 bytes (`escapeChar_cases`); the reader's string loop turns each
escape back into the character's bytes and copies the other bytes as they are, so the body it
gathers is the string's own encoding, which decodes back to the string (`stringBody_reads`).
Numbers are left out: a number's text is not its value.

* `value_reads`: a value with no number in it, nested within the reader's depth, is read back
  whole from its compact text, whatever follows the text;
* `ofBytesOrdered_write`: such a value is the value of its own text.
-/

namespace LabFleet.Json

open Checks

variable {α β : Type}

/-! ## Running readers

A reader is a function of the cursor; these unfold its steps on a given cursor. -/

theorem bind_apply (r : Reader α) (f : α → Reader β) (c : Cursor) :
    (r >>= f) c = (r c) >>= fun p => f p.1 p.2 := rfl

theorem peek_apply (c : Cursor) : peek c = .ok (c.rest.head?, c) := rfl

theorem get_apply (c : Cursor) : (get : Reader Cursor) c = .ok (c, c) := rfl

theorem eat_apply (c : Cursor) : eat c = .ok ((), c.advance) := rfl

theorem modify_apply (f : Cursor → Cursor) (c : Cursor) :
    (modify f : Reader Unit) c = .ok ((), f c) := rfl

theorem Cursor.advance_rest {c : Cursor} {b : UInt8} {rest : List UInt8} (h : c.rest = b :: rest) :
    c.advance.rest = rest := by
  simp only [Cursor.advance, h]
  split <;> rfl

/-! ## Reading exactly some bytes -/

/-- `r` reads the bytes `bs` as `a`, whatever follows them, and stops right after them. -/
def Reads (r : Reader α) (bs : List UInt8) (a : α) : Prop :=
  ∀ (c : Cursor) (rest : List UInt8), c.rest = bs ++ rest →
    ∃ c' : Cursor, r c = .ok (a, c') ∧ c'.rest = rest

theorem Reads.pure (a : α) : Reads (Pure.pure a : Reader α) [] a :=
  fun c _ hc => ⟨c, rfl, hc⟩

theorem Reads.bind {r : Reader α} {f : α → Reader β} {bs bs' : List UInt8} {a : α} {b : β}
    (hr : Reads r bs a) (hf : Reads (f a) bs' b) : Reads (r >>= f) (bs ++ bs') b := by
  intro c rest hc
  obtain ⟨c₁, h₁, hc₁⟩ := hr c (bs' ++ rest) (by rw [hc, List.append_assoc])
  obtain ⟨c₂, h₂, hc₂⟩ := hf c₁ rest hc₁
  exact ⟨c₂, by rw [bind_apply, h₁]; exact h₂, hc₂⟩

theorem Reads.bind_eq {r : Reader α} {f : α → Reader β} {bs bs' bs'' : List UInt8} {a : α} {b : β}
    (hr : Reads r bs a) (hf : Reads (f a) bs' b) (he : bs ++ bs' = bs'') : Reads (r >>= f) bs'' b :=
  he ▸ hr.bind hf

theorem eat_reads (b : UInt8) : Reads eat [b] () :=
  fun c _ hc => ⟨c.advance, rfl, Cursor.advance_rest hc⟩

theorem next_reads (b : UInt8) : Reads next [b] (some b) := by
  intro c rest hc
  refine ⟨c.advance, ?_, Cursor.advance_rest hc⟩
  simp only [Json.next, bind_apply, peek_apply, eat_apply, hc, ok_bind]
  rfl

theorem Reads.next_bind {f : Option UInt8 → Reader β} {b : UInt8} {bs : List UInt8} {x : β}
    (h : Reads (f (some b)) bs x) : Reads (next >>= f) (b :: bs) x :=
  (next_reads b).bind h

/-- A byte the reader does not skip as blank. -/
def Solid (b : UInt8) : Prop := ¬(b = 32 ∨ b = 9 ∨ b = 13) ∧ b ≠ 10

instance : DecidablePred Solid :=
  fun b => inferInstanceAs (Decidable (¬(b = 32 ∨ b = 9 ∨ b = 13) ∧ b ≠ 10))

theorem skipBlanks_solid {b : UInt8} (hb : Solid b) {c : Cursor} {rest : List UInt8}
    (hc : c.rest = b :: rest) : c.skipBlanks.rest = b :: rest := by
  simp only [Cursor.skipBlanks, hc, skipBlanksFrom, if_neg hb.1, if_neg hb.2]

theorem blank_solid {b : UInt8} (hb : Solid b) {c : Cursor} {rest : List UInt8}
    (hc : c.rest = b :: rest) : blank c = .ok (some b, c.skipBlanks) := by
  simp only [blank, bind_apply, modify_apply, peek_apply, ok_bind, skipBlanks_solid hb hc,
    List.head?_cons]

theorem Reads.blank_bind {f : Option UInt8 → Reader β} {b : UInt8} {bs : List UInt8} {x : β}
    (hb : Solid b) (h : Reads (f (some b)) (b :: bs) x) : Reads (blank >>= f) (b :: bs) x := by
  intro c rest hc
  obtain ⟨c', h', hc'⟩ := h c.skipBlanks rest (skipBlanks_solid hb hc)
  exact ⟨c', by rw [bind_apply, blank_solid hb hc]; exact h', hc'⟩

theorem ident_reads (bs : List UInt8) : Reads (ident bs) bs () := by
  induction bs with
  | nil => exact Reads.pure ()
  | cons b bs ih =>
    refine Reads.next_bind ?_
    simp only [if_pos]
    exact ih

theorem colon_reads : Reads colon [58] () := by
  unfold colon
  exact Reads.blank_bind (by decide) (eat_reads 58)

theorem endObject_reads : Reads endObject [125] () := by
  unfold endObject
  exact Reads.blank_bind (by decide) (eat_reads 125)

theorem endArray_reads : Reads endArray [93] () := by
  unfold endArray
  exact Reads.blank_bind (by decide) (eat_reads 93)

/-! ## The bytes of a text -/

theorem ByteArray.toList_loop_eq (bs : ByteArray) (i : Nat) (r : List UInt8) :
    ByteArray.toList.loop bs i r = r.reverse ++ bs.data.toList.drop i := by
  fun_induction ByteArray.toList.loop bs i r with
  | case1 i r h ih =>
    have hi : i < bs.data.toList.length := by rw [Array.length_toList]; exact h
    rw [ih, List.drop_eq_getElem_cons hi]
    simp only [ByteArray.get!, List.reverse_cons, List.append_assoc, List.singleton_append,
      Array.getElem_toList]
    rw [getElem!_pos bs.data i h]
  | case2 i r h =>
    have hi : bs.data.toList.length ≤ i := by rw [Array.length_toList]; exact Nat.not_lt.1 h
    rw [List.drop_eq_nil_of_le hi, List.append_nil]

theorem ByteArray.toList_eq (bs : ByteArray) : bs.toList = bs.data.toList := by
  simp [ByteArray.toList, ByteArray.toList_loop_eq]

theorem toUTF8_toList (s : String) : s.toUTF8.toList = s.toList.flatMap String.utf8EncodeChar := by
  rw [ByteArray.toList_eq, String.toUTF8_eq_toByteArray, ← String.utf8Encode_toList, List.utf8Encode]
  simp

theorem fromUTF8?_toUTF8 (s : String) :
    String.fromUTF8? (ByteArray.mk s.toUTF8.toList.toArray) = some s := by
  rw [ByteArray.toList_eq, Array.toArray_toList]
  simp [String.fromUTF8?, String.fromUTF8, s.isValidUTF8]

theorem toUTF8_toList_append (s t : String) :
    (s ++ t).toUTF8.toList = s.toUTF8.toList ++ t.toUTF8.toList := by
  rw [toUTF8_toList, toUTF8_toList, toUTF8_toList, String.toList_append, List.flatMap_append]

theorem toUTF8_toList_join_map {γ : Type} (f : γ → String) (l : List γ) :
    (String.join (l.map f)).toUTF8.toList = l.flatMap fun x => (f x).toUTF8.toList := by
  induction l with
  | nil => rw [toUTF8_toList]; rfl
  | cons x l ih => rw [List.map_cons, String.join_cons, toUTF8_toList_append, ih, List.flatMap_cons]

@[simp] theorem toUTF8_colon : ":".toUTF8.toList = [58] := by rw [toUTF8_toList]; rfl
@[simp] theorem toUTF8_comma : ",".toUTF8.toList = [44] := by rw [toUTF8_toList]; rfl
@[simp] theorem toUTF8_openBrace : "\x7b".toUTF8.toList = [123] := by rw [toUTF8_toList]; rfl
@[simp] theorem toUTF8_closeBrace : "\x7d".toUTF8.toList = [125] := by rw [toUTF8_toList]; rfl
@[simp] theorem toUTF8_openBracket : "[".toUTF8.toList = [91] := by rw [toUTF8_toList]; rfl
@[simp] theorem toUTF8_closeBracket : "]".toUTF8.toList = [93] := by rw [toUTF8_toList]; rfl

theorem toUTF8_quote (s : String) :
    (quote s).toUTF8.toList =
      34 :: s.toList.flatMap (fun ch => (escapeChar ch).toUTF8.toList) ++ [34] := by
  have hq : "\"".toUTF8.toList = [34] := by rw [toUTF8_toList]; rfl
  rw [quote, toUTF8_toList_append, toUTF8_toList_append, toUTF8_toList_join_map, hq]
  rfl

/-- The bytes of one field as the writer gives it: the quoted key, a colon, the value. -/
def memberBytes (f : String × Json) : List UInt8 :=
  (quote f.1).toUTF8.toList ++ 58 :: (write f.2).toUTF8.toList

theorem toUTF8_writeFields (f : String × Json) (fs : List (String × Json)) :
    (writeFields (f :: fs)).toUTF8.toList = memberBytes f ++ fs.flatMap (44 :: memberBytes ·) := by
  induction fs generalizing f with
  | nil =>
    obtain ⟨k, v⟩ := f
    rw [writeFields, toUTF8_toList_append, toUTF8_toList_append, toUTF8_colon]
    simp only [memberBytes, List.flatMap_nil, List.append_nil, List.append_assoc,
      List.singleton_append]
  | cons g gs ih =>
    obtain ⟨k, v⟩ := f
    rw [writeFields]
    · rw [toUTF8_toList_append, toUTF8_toList_append, toUTF8_toList_append, toUTF8_toList_append,
        toUTF8_colon, toUTF8_comma, ih, List.flatMap_cons]
      simp only [memberBytes, List.append_assoc, List.cons_append, List.nil_append]
    · exact List.cons_ne_nil _ _

theorem toUTF8_writeItems (x : Json) (xs : List Json) :
    (writeItems (x :: xs)).toUTF8.toList =
      (write x).toUTF8.toList ++ xs.flatMap (fun y => 44 :: (write y).toUTF8.toList) := by
  induction xs generalizing x with
  | nil => rw [writeItems, List.flatMap_nil, List.append_nil]
  | cons y ys ih =>
    rw [writeItems]
    · rw [toUTF8_toList_append, toUTF8_toList_append, toUTF8_comma, ih, List.flatMap_cons]
      simp only [List.append_assoc, List.cons_append, List.nil_append]
    · exact List.cons_ne_nil _ _

theorem toUTF8_write_null : (write .null).toUTF8.toList = [110, 117, 108, 108] := by
  rw [write, toUTF8_toList]; rfl

theorem toUTF8_write_true : (write (.bool true)).toUTF8.toList = [116, 114, 117, 101] := by
  rw [write, if_pos rfl, toUTF8_toList]; rfl

theorem toUTF8_write_false : (write (.bool false)).toUTF8.toList = [102, 97, 108, 115, 101] := by
  rw [write, if_neg Bool.false_ne_true, toUTF8_toList]; rfl

theorem toUTF8_write_string (s : String) :
    (write (.string s)).toUTF8.toList =
      34 :: s.toList.flatMap (fun ch => (escapeChar ch).toUTF8.toList) ++ [34] := by
  rw [write, toUTF8_quote]

theorem toUTF8_write_object (fs : List (String × Json)) :
    (write (.object fs)).toUTF8.toList = 123 :: (writeFields fs).toUTF8.toList ++ [125] := by
  rw [write, toUTF8_toList_append, toUTF8_toList_append, toUTF8_openBrace, toUTF8_closeBrace]
  rfl

theorem toUTF8_write_array (xs : List Json) :
    (write (.array xs)).toUTF8.toList = 91 :: (writeItems xs).toUTF8.toList ++ [93] := by
  rw [write, toUTF8_toList_append, toUTF8_toList_append, toUTF8_openBracket, toUTF8_closeBracket]
  rfl

theorem length_le_flatMap_cons {γ : Type} (ys : List γ) (g : γ → List UInt8) (b : UInt8) :
    ys.length ≤ (ys.flatMap fun y => b :: g y).length := by
  induction ys with
  | nil => exact Nat.le_refl 0
  | cons y ys ih =>
    rw [List.flatMap_cons, List.length_append, List.length_cons, List.length_cons]
    omega

theorem length_le_writeItems (xs : List Json) :
    xs.length ≤ (writeItems xs).toUTF8.toList.length + 1 := by
  cases xs with
  | nil => exact Nat.zero_le _
  | cons x xs =>
    have := length_le_flatMap_cons xs (fun y => (write y).toUTF8.toList) 44
    rw [toUTF8_writeItems, List.length_append, List.length_cons]
    omega

theorem length_le_writeFields (fs : List (String × Json)) :
    fs.length ≤ (writeFields fs).toUTF8.toList.length + 1 := by
  cases fs with
  | nil => exact Nat.zero_le _
  | cons f fs =>
    have := length_le_flatMap_cons fs memberBytes 44
    rw [toUTF8_writeFields, List.length_append, List.length_cons]
    omega

/-! ## String bodies

The loop `stringBytes` takes one byte, or one escape, per turn. -/

/-- A byte a string body holds as it is: not a quote, a backslash or a control byte. -/
def PlainByte (b : UInt8) : Prop := b ≠ 34 ∧ b ≠ 92 ∧ 32 ≤ b

theorem stringBytes_plain {b : UInt8} (hb : PlainByte b) {c : Cursor} {rest : List UInt8}
    (hc : c.rest = b :: rest) (fuel : Nat) (acc : List UInt8) :
    stringBytes (fuel + 1) acc c = stringBytes fuel (b :: acc) c.advance := by
  obtain ⟨h34, h92, h32⟩ := hb
  have hlt : ¬ b < 32 := by simpa [UInt8.not_lt] using h32
  simp only [stringBytes, bind_apply, peek_apply, hc, List.head?_cons]
  simp [h34, h92, hlt, bind_apply, eat_apply]

theorem stringBytes_plains {bs : List UInt8} (hb : ∀ b ∈ bs, PlainByte b) (acc : List UInt8)
    {c : Cursor} {rest : List UInt8} (hc : c.rest = bs ++ rest) :
    ∃ c' : Cursor, c'.rest = rest ∧
      ∀ fuel, stringBytes (fuel + bs.length) acc c = stringBytes fuel (bs.reverse ++ acc) c' := by
  induction bs generalizing acc c with
  | nil => exact ⟨c, hc, fun _ => rfl⟩
  | cons b bs ih =>
    have hc' : c.rest = b :: (bs ++ rest) := hc
    obtain ⟨c', hrest, hsteps⟩ := ih (fun x hx => hb x (List.mem_cons_of_mem b hx)) (b :: acc)
      (Cursor.advance_rest hc')
    refine ⟨c', hrest, fun fuel => ?_⟩
    rw [List.length_cons, ← Nat.add_assoc, stringBytes_plain (hb b List.mem_cons_self) hc',
      hsteps, List.reverse_cons, List.append_assoc, List.singleton_append]

theorem plainByte_of_high {b : UInt8} (h : 128 ≤ b) : PlainByte b := by
  have h' : 128 ≤ b.toNat := UInt8.le_iff_toNat_le.1 h
  refine ⟨fun hb => ?_, fun hb => ?_, UInt8.le_iff_toNat_le.2 (Nat.le_trans (by decide) h')⟩
  · rw [hb] at h'; exact absurd h' (by decide)
  · rw [hb] at h'; exact absurd h' (by decide)

theorem high_le_or (x y : UInt8) (hy : 128 ≤ y) : 128 ≤ x ||| y := UInt8.le_trans hy UInt8.right_le_or

theorem plainByte_of_utf8EncodeChar {ch : Char} (h34 : ch ≠ '"') (h92 : ch ≠ '\\')
    (h32 : 32 ≤ ch.toNat) : ∀ b ∈ String.utf8EncodeChar ch, PlainByte b := by
  rcases ch.utf8Size_eq with h1 | h2 | h3 | h4
  · rw [String.utf8EncodeChar_eq_singleton h1]
    have hv := Char.utf8Size_eq_one_iff.1 h1
    intro b hb
    rw [List.mem_singleton] at hb
    subst hb
    have hv' : ch.val.toNat ≤ 127 := UInt32.le_iff_toNat_le.1 hv
    have hn : ch.val.toUInt8.toNat = ch.toNat := by
      rw [UInt32.toNat_toUInt8, Nat.mod_eq_of_lt (by omega)]
      rfl
    refine ⟨fun h => h34 ?_, fun h => h92 ?_, ?_⟩
    · rw [← Char.toNat_inj, ← hn, h]; rfl
    · rw [← Char.toNat_inj, ← hn, h]; rfl
    · rw [UInt8.le_iff_toNat_le, hn]; simpa using h32
  · rw [String.utf8EncodeChar_eq_cons_cons h2]
    simp only [List.mem_cons, List.not_mem_nil, or_false]
    rintro b (rfl | rfl) <;> exact plainByte_of_high (high_le_or _ _ (by decide))
  · rw [String.utf8EncodeChar_eq_cons_cons_cons h3]
    simp only [List.mem_cons, List.not_mem_nil, or_false]
    rintro b (rfl | rfl | rfl) <;> exact plainByte_of_high (high_le_or _ _ (by decide))
  · rw [String.utf8EncodeChar_eq_cons_cons_cons_cons h4]
    simp only [List.mem_cons, List.not_mem_nil, or_false]
    rintro b (rfl | rfl | rfl | rfl) <;> exact plainByte_of_high (high_le_or _ _ (by decide))

theorem escape_short {x y : UInt8}
    (h : (x, y) ∈ [((34 : UInt8), (34 : UInt8)), (92, 92), (98, 8), (102, 12), (110, 10),
      (114, 13), (116, 9)]) : Reads escape [x] [y] := by
  simp only [List.mem_cons, Prod.mk.injEq, List.not_mem_nil, or_false] at h
  rcases h with ⟨rfl, rfl⟩ | ⟨rfl, rfl⟩ | ⟨rfl, rfl⟩ | ⟨rfl, rfl⟩ | ⟨rfl, rfl⟩ | ⟨rfl, rfl⟩ |
    ⟨rfl, rfl⟩ <;>
  exact Reads.next_bind (Reads.pure _)

/-- Four hex digits read as one number, as `hexEscape` combines them. -/
def hexQuad : List UInt8 → Option Nat
  | [a, b, d, e] =>
    match hexValue a, hexValue b, hexValue d, hexValue e with
    | some w, some x, some y, some z => some (((w * 16 + x) * 16 + y) * 16 + z)
    | _, _, _, _ => none
  | _ => none

theorem hexEscape_reads {bs : List UInt8} {n : Nat} (h : hexQuad bs = some n) :
    Reads hexEscape bs n := by
  match bs, h with
  | [a, b, d, e], h =>
    obtain ⟨w, x, y, z, hw, hx, hy, hz, rfl⟩ : ∃ w x y z, hexValue a = some w ∧
        hexValue b = some x ∧ hexValue d = some y ∧ hexValue e = some z ∧
        n = ((w * 16 + x) * 16 + y) * 16 + z := by
      simp only [hexQuad] at h
      split at h <;> simp_all
    intro c rest hc
    have hc' : c.rest = a :: b :: d :: e :: rest := hc
    refine ⟨c.advance.advance.advance.advance, ?_, ?_⟩
    · simp only [hexEscape, bind_apply, get_apply, hc', ok_bind, hw, hx, hy, hz]
      rfl
    · exact Cursor.advance_rest (Cursor.advance_rest (Cursor.advance_rest (Cursor.advance_rest hc')))

theorem hexQuad_hex4 : ∀ n < 32, hexQuad ((hex4 n).toList.flatMap String.utf8EncodeChar) = some n := by
  decide

theorem unicodeEscape_low {bs : List UInt8} {n : Nat} (h : Reads hexEscape bs n) (hn : n < 0xD800) :
    Reads unicodeEscape bs (utf8 n) := by
  intro c rest hc
  obtain ⟨c', h₁, hc'⟩ := h c rest hc
  refine ⟨c', ?_, hc'⟩
  simp only [unicodeEscape, bind_apply, h₁, ok_bind]
  rw [if_neg (by omega), if_pos (by omega)]
  rfl

theorem escape_unicode {bs : List UInt8} {n : Nat} (h : hexQuad bs = some n) (hn : n < 0xD800) :
    Reads escape (117 :: bs) (utf8 n) :=
  Reads.next_bind (unicodeEscape_low (hexEscape_reads h) hn)

theorem escapeChar_cases (ch : Char) :
    (∃ x y, (x, y) ∈ [((34 : UInt8), (34 : UInt8)), (92, 92), (98, 8), (102, 12), (110, 10),
      (114, 13), (116, 9)] ∧ (escapeChar ch).toUTF8.toList = [92, x] ∧
      String.utf8EncodeChar ch = [y]) ∨
    (ch.toNat < 32 ∧ (escapeChar ch).toUTF8.toList =
      92 :: 117 :: (hex4 ch.toNat).toList.flatMap String.utf8EncodeChar) ∨
    ((escapeChar ch).toUTF8.toList = String.utf8EncodeChar ch ∧ ch ≠ '"' ∧ ch ≠ '\\' ∧
      32 ≤ ch.toNat) := by
  rw [toUTF8_toList]
  unfold escapeChar
  split_ifs with h₁ h₂ h₃ h₄ h₅ h₆ h₇ h₈
  · subst h₁; exact .inl ⟨34, 34, by decide, rfl, rfl⟩
  · subst h₂; exact .inl ⟨92, 92, by decide, rfl, rfl⟩
  · subst h₃; exact .inl ⟨110, 10, by decide, rfl, rfl⟩
  · subst h₄; exact .inl ⟨114, 13, by decide, rfl, rfl⟩
  · subst h₅; exact .inl ⟨116, 9, by decide, rfl, rfl⟩
  · rw [← Char.ofNat_toNat ch, h₆]; exact .inl ⟨98, 8, by decide, rfl, rfl⟩
  · rw [← Char.ofNat_toNat ch, h₇]; exact .inl ⟨102, 12, by decide, rfl, rfl⟩
  · refine .inr (.inl ⟨h₈, ?_⟩)
    rw [String.toList_append, List.flatMap_append]
    rfl
  · refine .inr (.inr ⟨?_, h₁, h₂, Nat.not_lt.1 h₈⟩)
    rw [Char.toString, String.toList_singleton, List.flatMap_singleton]

theorem stringBytes_escape {bs out : List UInt8} (he : Reads escape bs out) (acc : List UInt8)
    {c : Cursor} {rest : List UInt8} (hc : c.rest = 92 :: (bs ++ rest)) :
    ∃ c' : Cursor, c'.rest = rest ∧
      ∀ fuel, stringBytes (fuel + 1) acc c = stringBytes fuel (out.reverse ++ acc) c' := by
  obtain ⟨c', h₁, h₂⟩ := he c.advance rest (Cursor.advance_rest hc)
  refine ⟨c', h₂, fun fuel => ?_⟩
  simp only [stringBytes, bind_apply, peek_apply, hc, List.head?_cons, ok_bind]
  simp [bind_apply, eat_apply, h₁]

theorem stringBytes_escapeChar (ch : Char) (acc : List UInt8) {c : Cursor} {rest : List UInt8}
    (hc : c.rest = (escapeChar ch).toUTF8.toList ++ rest) :
    ∃ k c', k ≤ (escapeChar ch).toUTF8.toList.length ∧ c'.rest = rest ∧
      ∀ fuel, stringBytes (fuel + k) acc c =
        stringBytes fuel ((String.utf8EncodeChar ch).reverse ++ acc) c' := by
  rcases escapeChar_cases ch with ⟨x, y, hxy, he, hy⟩ | ⟨hlt, he⟩ | ⟨he, h34, h92, h32⟩
  · -- a short escape: one turn
    rw [he] at hc ⊢
    obtain ⟨c', hrest, hstep⟩ := stringBytes_escape (escape_short hxy) acc hc
    exact ⟨1, c', by simp, hrest, by rw [hy]; exact hstep⟩
  · -- a control character: one turn reads the backslash, the `u` and four hex digits
    rw [he] at hc ⊢
    have hq := hexQuad_hex4 ch.toNat hlt
    have hu : utf8 ch.toNat = String.utf8EncodeChar ch := by
      have hv : ch.val ≤ 127 := UInt32.le_iff_toNat_le.2 (show ch.toNat ≤ 127 by omega)
      rw [String.utf8EncodeChar_eq_singleton (Char.utf8Size_eq_one_iff.2 hv), utf8,
        if_pos (by omega)]
      rfl
    obtain ⟨c', hrest, hstep⟩ :=
      stringBytes_escape (escape_unicode hq (by omega)) acc hc
    exact ⟨1, c', by simp, hrest, by rw [← hu]; exact hstep⟩
  · -- a character written as itself: one turn per byte
    rw [he] at hc ⊢
    obtain ⟨c', hrest, hsteps⟩ := stringBytes_plains (plainByte_of_utf8EncodeChar h34 h92 h32) acc hc
    exact ⟨_, c', Nat.le_refl _, hrest, hsteps⟩

theorem stringBytes_body (cs : List Char) (acc : List UInt8) {c : Cursor} {rest : List UInt8}
    (hc : c.rest = cs.flatMap (fun ch => (escapeChar ch).toUTF8.toList) ++ 34 :: rest)
    (fuel : Nat) (hfuel : (cs.flatMap fun ch => (escapeChar ch).toUTF8.toList).length < fuel) :
    ∃ c' : Cursor, stringBytes fuel acc c =
      .ok (acc.reverse ++ cs.flatMap String.utf8EncodeChar, c') ∧ c'.rest = 34 :: rest := by
  induction cs generalizing acc c fuel with
  | nil =>
    obtain ⟨f, rfl⟩ : ∃ f, fuel = f + 1 := ⟨fuel - 1, by simp at hfuel; omega⟩
    refine ⟨c, ?_, hc⟩
    simp only [stringBytes, bind_apply, peek_apply, hc, List.flatMap_nil, List.nil_append,
      List.head?_cons, ok_bind, List.append_nil]
    rfl
  | cons ch cs ih =>
    rw [List.flatMap_cons, List.append_assoc] at hc
    rw [List.flatMap_cons, List.length_append] at hfuel
    obtain ⟨k, c₁, hk, hc₁, hsteps⟩ := stringBytes_escapeChar ch acc hc
    obtain ⟨c', h', hc'⟩ := ih ((String.utf8EncodeChar ch).reverse ++ acc) hc₁ (fuel - k) (by omega)
    refine ⟨c', ?_, hc'⟩
    rw [show fuel = (fuel - k) + k by omega, hsteps, h', List.reverse_append, List.reverse_reverse,
      List.flatMap_cons, List.append_assoc]

theorem stringBody_reads (s : String) :
    Reads stringBody (s.toList.flatMap (fun ch => (escapeChar ch).toUTF8.toList) ++ [34]) s := by
  intro c rest hc
  rw [List.append_assoc, List.singleton_append] at hc
  obtain ⟨c', h₁, hc'⟩ := stringBytes_body s.toList [] hc c.rest.length
    (by rw [hc, List.length_append, List.length_cons]; omega)
  refine ⟨c'.advance, ?_, Cursor.advance_rest hc'⟩
  rw [List.reverse_nil, List.nil_append, ← toUTF8_toList] at h₁
  simp only [stringBody, bind_apply, get_apply, ok_bind, h₁, fromUTF8?_toUTF8]
  rfl

/-! ## Keys, fields and items -/

theorem nextKey_first (k : String) : Reads (nextKey true) (quote k).toUTF8.toList (some k) := by
  rw [toUTF8_quote]
  unfold nextKey
  refine Reads.blank_bind (by decide) ?_
  refine Reads.bind_eq (Reads.pure _) ?_ (List.nil_append _)
  refine Reads.bind_eq (eat_reads 34) ?_ rfl
  exact Reads.bind_eq (stringBody_reads k) (Reads.pure _) (List.append_nil _)

theorem nextKey_more (k : String) :
    Reads (nextKey false) (44 :: (quote k).toUTF8.toList) (some k) := by
  rw [toUTF8_quote]
  unfold nextKey
  refine Reads.blank_bind (by decide) ?_
  simp only [Bool.false_eq_true, if_false]
  refine Reads.bind_eq (eat_reads 44) ?_ rfl
  refine Reads.blank_bind (by decide) ?_
  simp only [pure_bind]
  refine Reads.bind_eq (eat_reads 34) ?_ rfl
  exact Reads.bind_eq (stringBody_reads k) (Reads.pure _) (List.append_nil _)

theorem nextKey_close (first : Bool) {c : Cursor} {rest : List UInt8} (hc : c.rest = 125 :: rest) :
    ∃ c' : Cursor, nextKey first c = .ok (none, c') ∧ c'.rest = 125 :: rest := by
  have hs := skipBlanks_solid (by decide) hc
  refine ⟨c.skipBlanks, ?_, hs⟩
  simp only [nextKey, blank, bind_apply, modify_apply, peek_apply, ok_bind, hs, List.head?_cons]
  rfl

theorem fields_rest {d : Nat} (fs : List (String × Json))
    (hv : ∀ f ∈ fs, Reads (value d) (write f.2).toUTF8.toList f.2) (acc : List (String × Json))
    {c : Cursor} {rest : List UInt8} (hc : c.rest = fs.flatMap (44 :: memberBytes ·) ++ 125 :: rest)
    (fuel : Nat) (hfuel : fs.length < fuel) :
    ∃ c' : Cursor, fields (value d) fuel false acc c = .ok (acc.reverse ++ fs, c') ∧
      c'.rest = 125 :: rest := by
  obtain ⟨f, rfl⟩ : ∃ f, fuel = f + 1 := ⟨fuel - 1, by omega⟩
  induction fs generalizing acc c f with
  | nil =>
    obtain ⟨c₁, h₁, hc₁⟩ := nextKey_close false hc
    refine ⟨c₁, ?_, hc₁⟩
    simp only [fields, bind_apply, h₁, ok_bind, List.append_nil]
    rfl
  | cons kv fs ih =>
    obtain ⟨k, v⟩ := kv
    have hc' : c.rest = (44 :: (quote k).toUTF8.toList) ++
        (58 :: (write v).toUTF8.toList ++ (fs.flatMap (44 :: memberBytes ·) ++ 125 :: rest)) := by
      rw [hc]; simp [memberBytes]
    obtain ⟨c₁, h₁, hc₁⟩ := nextKey_more k c _ hc'
    obtain ⟨c₂, h₂, hc₂⟩ := colon_reads c₁ _ hc₁
    obtain ⟨c₃, h₃, hc₃⟩ := hv (k, v) List.mem_cons_self c₂ _ hc₂
    rw [List.length_cons] at hfuel
    obtain ⟨g, rfl⟩ : ∃ g, f = g + 1 := ⟨f - 1, by omega⟩
    obtain ⟨c', h', hc'⟩ := ih (fun g hg => hv g (List.mem_cons_of_mem _ hg)) ((k, v) :: acc) hc₃
      g (by omega)
    refine ⟨c', ?_, hc'⟩
    rw [fields, bind_apply, h₁]
    simp only [ok_bind, bind_apply, h₂, h₃, h', List.reverse_cons, List.append_assoc,
      List.singleton_append]

theorem fields_reads {d : Nat} (fs : List (String × Json))
    (hv : ∀ f ∈ fs, Reads (value d) (write f.2).toUTF8.toList f.2)
    {c : Cursor} {rest : List UInt8} (hc : c.rest = (writeFields fs).toUTF8.toList ++ 125 :: rest)
    (fuel : Nat) (hfuel : fs.length < fuel) :
    ∃ c' : Cursor, fields (value d) fuel true [] c = .ok (fs, c') ∧ c'.rest = 125 :: rest := by
  obtain ⟨f, rfl⟩ : ∃ f, fuel = f + 1 := ⟨fuel - 1, by omega⟩
  cases fs with
  | nil =>
    have hc' : c.rest = 125 :: rest := by rw [hc, writeFields, toUTF8_toList]; rfl
    obtain ⟨c₁, h₁, hc₁⟩ := nextKey_close true hc'
    refine ⟨c₁, ?_, hc₁⟩
    rw [fields, bind_apply, h₁]
    rfl
  | cons kv fs =>
    obtain ⟨k, v⟩ := kv
    have hc' : c.rest = (quote k).toUTF8.toList ++
        (58 :: (write v).toUTF8.toList ++ (fs.flatMap (44 :: memberBytes ·) ++ 125 :: rest)) := by
      rw [hc, toUTF8_writeFields]; simp [memberBytes]
    obtain ⟨c₁, h₁, hc₁⟩ := nextKey_first k c _ hc'
    obtain ⟨c₂, h₂, hc₂⟩ := colon_reads c₁ _ hc₁
    obtain ⟨c₃, h₃, hc₃⟩ := hv (k, v) List.mem_cons_self c₂ _ hc₂
    obtain ⟨c', h', hc'⟩ := fields_rest fs (fun g hg => hv g (List.mem_cons_of_mem _ hg))
      [(k, v)] hc₃ f (by simp at hfuel; omega)
    refine ⟨c', ?_, hc'⟩
    rw [fields, bind_apply, h₁]
    simp only [ok_bind, bind_apply, h₂, h₃, h']
    rfl

/-- Bytes that start with one that is neither blank nor a closing bracket. -/
def OpensValue (bs : List UInt8) : Prop := ∃ b t, bs = b :: t ∧ Solid b ∧ b ≠ 93

theorem items_rest {d : Nat} (xs : List Json)
    (hv : ∀ x ∈ xs, Reads (value d) (write x).toUTF8.toList x)
    (ho : ∀ x ∈ xs, OpensValue (write x).toUTF8.toList) (acc : List Json)
    {c : Cursor} {rest : List UInt8}
    (hc : c.rest = xs.flatMap (fun y => 44 :: (write y).toUTF8.toList) ++ 93 :: rest)
    (fuel : Nat) (hfuel : xs.length < fuel) :
    ∃ c' : Cursor, items (value d) fuel false acc c = .ok (acc.reverse ++ xs, c') ∧
      c'.rest = 93 :: rest := by
  obtain ⟨f, rfl⟩ : ∃ f, fuel = f + 1 := ⟨fuel - 1, by omega⟩
  induction xs generalizing acc c f with
  | nil =>
    refine ⟨c.skipBlanks, ?_, skipBlanks_solid (by decide) hc⟩
    rw [items, bind_apply, blank_solid (by decide) hc]
    simp only [Bool.false_eq_true, ↓reduceIte, ok_bind, List.append_nil]
    rfl
  | cons y ys ih =>
    obtain ⟨b, t, hbt, hb, hb93⟩ := ho y List.mem_cons_self
    have hc₁ : c.rest = 44 :: (b :: t ++ (ys.flatMap (fun y => 44 :: (write y).toUTF8.toList) ++ 93 :: rest)) := by
      rw [hc, List.flatMap_cons, hbt]; simp
    have hc₂ := Cursor.advance_rest (skipBlanks_solid (by decide) hc₁)
    obtain ⟨c₃, h₃, hc₃⟩ := hv y List.mem_cons_self c.skipBlanks.advance.skipBlanks _
      ((skipBlanks_solid hb hc₂).trans (by rw [hbt]; rfl))
    rw [List.length_cons] at hfuel
    obtain ⟨g, rfl⟩ : ∃ g, f = g + 1 := ⟨f - 1, by omega⟩
    obtain ⟨c', h', hc'⟩ := ih (fun x hx => hv x (List.mem_cons_of_mem _ hx))
      (fun x hx => ho x (List.mem_cons_of_mem _ hx)) (y :: acc) hc₃ g (by omega)
    refine ⟨c', ?_, hc'⟩
    rw [items, bind_apply, blank_solid (by decide) hc₁, ok_bind]
    simp only [if_neg (by decide : (44 : UInt8) ≠ 93), Bool.false_eq_true, ↓reduceIte,
      bind_apply, eat_apply, ok_bind, blank_solid hb hc₂]
    rw [h₃, ok_bind, h', List.reverse_cons, List.append_assoc, List.singleton_append]

theorem items_reads {d : Nat} (xs : List Json)
    (hv : ∀ x ∈ xs, Reads (value d) (write x).toUTF8.toList x)
    (ho : ∀ x ∈ xs, OpensValue (write x).toUTF8.toList)
    {c : Cursor} {rest : List UInt8} (hc : c.rest = (writeItems xs).toUTF8.toList ++ 93 :: rest)
    (fuel : Nat) (hfuel : xs.length < fuel) :
    ∃ c' : Cursor, items (value d) fuel true [] c = .ok (xs, c') ∧ c'.rest = 93 :: rest := by
  obtain ⟨f, rfl⟩ : ∃ f, fuel = f + 1 := ⟨fuel - 1, by omega⟩
  cases xs with
  | nil =>
    have hc' : c.rest = 93 :: rest := by rw [hc, writeItems, toUTF8_toList]; rfl
    refine ⟨c.skipBlanks, ?_, skipBlanks_solid (by decide) hc'⟩
    rw [items, bind_apply, blank_solid (by decide) hc', ok_bind]
    rfl
  | cons y ys =>
    obtain ⟨b, t, hbt, hb, hb93⟩ := ho y List.mem_cons_self
    have hc' : c.rest = b :: t ++ (ys.flatMap (fun y => 44 :: (write y).toUTF8.toList) ++ 93 :: rest) := by
      rw [hc, toUTF8_writeItems, hbt, List.append_assoc]
    obtain ⟨c₁, h₁, hc₁⟩ := hv y List.mem_cons_self c.skipBlanks _
      ((skipBlanks_solid hb hc').trans (by rw [hbt]; rfl))
    obtain ⟨c', h', hc''⟩ := items_rest ys (fun x hx => hv x (List.mem_cons_of_mem _ hx))
      (fun x hx => ho x (List.mem_cons_of_mem _ hx)) [y] hc₁ f (by simp at hfuel; omega)
    refine ⟨c', ?_, hc''⟩
    rw [items, bind_apply, blank_solid hb hc', ok_bind]
    simp only [if_neg hb93, ↓reduceIte, bind_apply, h₁, ok_bind, h']
    rfl

/-! ## Values -/

/-- A value with no number in it that `value depth` takes whole: a scalar at depth one or
more, an array or an object at one more than each of its members. -/
inductive NumberFree : Nat → Json → Prop
  | null (d : Nat) : NumberFree (d + 1) .null
  | bool (d : Nat) (b : Bool) : NumberFree (d + 1) (.bool b)
  | string (d : Nat) (s : String) : NumberFree (d + 1) (.string s)
  | array (d : Nat) (items : List Json) (h : ∀ x ∈ items, NumberFree (d + 1) x) :
      NumberFree (d + 2) (.array items)
  | object (d : Nat) (fields : List (String × Json)) (h : ∀ f ∈ fields, NumberFree (d + 1) f.2) :
      NumberFree (d + 2) (.object fields)

theorem NumberFree.opens {d : Nat} {j : Json} (h : NumberFree d j) :
    OpensValue (write j).toUTF8.toList := by
  cases h with
  | null => exact ⟨110, _, toUTF8_write_null, by decide, by decide⟩
  | bool _ b =>
    cases b
    · exact ⟨102, _, toUTF8_write_false, by decide, by decide⟩
    · exact ⟨116, _, toUTF8_write_true, by decide, by decide⟩
  | string => exact ⟨34, _, toUTF8_write_string _, by decide, by decide⟩
  | array => exact ⟨91, _, toUTF8_write_array _, by decide, by decide⟩
  | object => exact ⟨123, _, toUTF8_write_object _, by decide, by decide⟩

theorem value_reads {d : Nat} {j : Json} (h : NumberFree d j) :
    Reads (value d) (write j).toUTF8.toList j := by
  induction h with
  | null d =>
    rw [toUTF8_write_null, value]
    exact Reads.blank_bind (by decide)
      ((eat_reads 110).bind_eq ((ident_reads _).bind_eq (Reads.pure _) rfl) rfl)
  | bool d b =>
    cases b
    · rw [toUTF8_write_false, value]
      exact Reads.blank_bind (by decide)
        ((eat_reads 102).bind_eq ((ident_reads _).bind_eq (Reads.pure _) rfl) rfl)
    · rw [toUTF8_write_true, value]
      exact Reads.blank_bind (by decide)
        ((eat_reads 116).bind_eq ((ident_reads _).bind_eq (Reads.pure _) rfl) rfl)
  | string d s =>
    rw [toUTF8_write_string, value]
    exact Reads.blank_bind (by decide)
      ((eat_reads 34).bind_eq ((stringBody_reads s).bind_eq (Reads.pure _) (List.append_nil _)) rfl)
  | array d xs hxs ih =>
    intro c rest hc
    have hc' : c.rest = 91 :: ((writeItems xs).toUTF8.toList ++ 93 :: rest) := by
      rw [hc, toUTF8_write_array]; simp
    have hs := skipBlanks_solid (by decide) hc'
    obtain ⟨c₁, h₁, hc₁⟩ := items_reads xs ih (fun x hx => (hxs x hx).opens)
      (Cursor.advance_rest hs) (c.skipBlanks.advance.rest.length + 1)
      (by rw [Cursor.advance_rest hs, List.length_append, List.length_cons]
          have := length_le_writeItems xs; omega)
    obtain ⟨c₂, h₂, hc₂⟩ := endArray_reads c₁ rest (by rw [hc₁]; rfl)
    refine ⟨c₂, ?_, hc₂⟩
    rw [value, bind_apply, blank_solid (by decide) hc', ok_bind]
    simp +decide only [↓reduceIte, Nat.add_one_ne_zero, bind_apply, eat_apply, get_apply, ok_bind,
      h₁, h₂]
    rfl
  | object d fs hfs ih =>
    intro c rest hc
    have hc' : c.rest = 123 :: ((writeFields fs).toUTF8.toList ++ 125 :: rest) := by
      rw [hc, toUTF8_write_object]; simp
    have hs := skipBlanks_solid (by decide) hc'
    obtain ⟨c₁, h₁, hc₁⟩ := fields_reads fs ih (Cursor.advance_rest hs)
      (c.skipBlanks.advance.rest.length + 1)
      (by rw [Cursor.advance_rest hs, List.length_append, List.length_cons]
          have := length_le_writeFields fs; omega)
    obtain ⟨c₂, h₂, hc₂⟩ := endObject_reads c₁ rest (by rw [hc₁]; rfl)
    refine ⟨c₂, ?_, hc₂⟩
    rw [value, bind_apply, blank_solid (by decide) hc', ok_bind]
    simp +decide only [↓reduceIte, Nat.add_one_ne_zero, bind_apply, eat_apply, get_apply, ok_bind,
      h₁, h₂]
    rfl

theorem runReader_reads {r : Reader α} {bs : List UInt8} {a : α} (h : Reads r bs a) :
    runReader r bs = .ok a := by
  obtain ⟨c', h', hc'⟩ := h (Cursor.start bs) [] (List.append_nil _).symm
  have hf : finish c' = .ok ((), c'.skipBlanks) := by
    have hs : c'.skipBlanks.rest = [] := by simp only [Cursor.skipBlanks, hc', skipBlanksFrom]
    simp only [finish, blank, bind_apply, modify_apply, peek_apply, ok_bind, hs, List.head?_nil]
    rfl
  simp only [runReader, StateT.run, bind_apply, h', ok_bind, hf]
  rfl

theorem ofBytesOrdered_write {j : Json} (h : NumberFree maxDepth j) :
    ofBytesOrdered (write j).toUTF8.toList = .ok j :=
  runReader_reads (value_reads h)

end LabFleet.Json
