import LabFleet.Wire.Address
import LabFleet.Nameserver.Directory
import LabFleet.Daemon.Registration
import LabFleet.Service.Sample

/-!
The written form of an address, read back.

An address is written `obj:<object>@<location>` with nothing escaped, and reading splits the
text at the first `@` and a TCP location at its last `:`. The text of an address therefore
names it exactly when nothing in the address moves those splits (`Address.Readable`): the
object is not empty and holds no `@`, the port fits sixteen bits, and the host, followed by the
`:` before the port, does not begin like a Unix endpoint.

* `Address.parse_text` and `Address.readable_of_parse`: a readable address reads back from its
  text, and whatever reading gives is readable;
* `text_round_trip`: an address reads back exactly when it is readable, writing what was read
  and reading it again gives the same answer, and the JSON string form of an address in calls
  and snapshots obeys the same two laws;
* `published_name_with_at_misread`: a valid configuration may name a service with an `@`, and
  the address its daemon publishes then reads back as another object at another host.
-/

namespace LabFleet.Wire

/-! ## Splitting at a character -/

theorem splitFirst_append {c : Char} {xs : List Char} (hc : c ∉ xs) (ys : List Char) :
    splitFirst c (xs ++ c :: ys) = some (xs, ys) := by
  induction xs with
  | nil => simp [splitFirst]
  | cons x xs ih =>
    have hx : x ≠ c := fun h => hc (h ▸ List.mem_cons_self)
    simp [splitFirst, hx, ih (fun h => hc (List.mem_cons_of_mem _ h))]

theorem splitFirst_eq_some {c : Char} {l xs ys : List Char} (h : splitFirst c l = some (xs, ys)) :
    l = xs ++ c :: ys ∧ c ∉ xs := by
  induction l generalizing xs with
  | nil => simp [splitFirst] at h
  | cons x l ih =>
    simp only [splitFirst] at h
    split at h
    · next hx =>
      cases h
      exact ⟨by simp [hx], by simp⟩
    · next hx =>
      obtain ⟨⟨a, b⟩, hab, he⟩ := Option.map_eq_some_iff.1 h
      cases he
      obtain ⟨rfl, ha⟩ := ih hab
      exact ⟨rfl, by simp [ha, Ne.symm hx]⟩

theorem splitLast_append {c : Char} {ys : List Char} (hc : c ∉ ys) (xs : List Char) :
    splitLast c (xs ++ c :: ys) = some (xs, ys) := by
  have hrev : (xs ++ c :: ys).reverse = ys.reverse ++ c :: xs.reverse := by simp
  rw [splitLast, hrev, splitFirst_append (fun h => hc (List.mem_reverse.1 h))]
  simp

theorem splitLast_eq_some {c : Char} {l xs ys : List Char} (h : splitLast c l = some (xs, ys)) :
    l = xs ++ c :: ys ∧ c ∉ ys := by
  obtain ⟨⟨a, b⟩, hab, he⟩ := Option.map_eq_some_iff.1 h
  cases he
  obtain ⟨hl, ha⟩ := splitFirst_eq_some hab
  refine ⟨?_, fun h => ha (List.mem_reverse.1 h)⟩
  simpa using congrArg List.reverse hl

/-! ## Ports -/

theorem digitsValue_toString (n : Nat) : digitsValue (toString n).toList = n := by
  -- `digitsValue` is the library's digit reader with its product commuted
  have hfold : ∀ (ds : List Char) (m : Nat), ds.foldl (fun n d => n * 10 + (d.toNat - 48)) m =
      Nat.ofDigitChars 10 ds m := by
    intro ds
    induction ds with
    | nil => intro m; rfl
    | cons d ds ih =>
      intro m
      rw [List.foldl_cons, ih, Nat.ofDigitChars_cons, Nat.mul_comm]
      rfl
  rw [digitsValue, hfold, Nat.toString_eq_repr, Nat.toList_repr, Nat.ofDigitChars_ten_toDigits]

theorem isDigit_of_mem_toString {n : Nat} {c : Char} (h : c ∈ (toString n).toList) :
    c.isDigit = true := by
  rw [Nat.toString_eq_repr, Nat.toList_repr] at h
  exact Nat.isDigit_of_mem_toDigits (by decide) (by decide) h

theorem colon_not_mem_toString (n : Nat) : ':' ∉ (toString n).toList :=
  fun h => absurd (isDigit_of_mem_toString h) (by decide)

theorem parsePort_toString {n : Nat} (hn : n < 65536) : parsePort (toString n).toList = some n := by
  have hne : (toString n).toList ≠ [] := by
    rw [Nat.toString_eq_repr, Nat.toList_repr]
    exact Nat.toDigits_ne_nil
  have hall : (toString n).toList.all Char.isDigit = true :=
    List.all_eq_true.2 fun _ => isDigit_of_mem_toString
  unfold parsePort
  split
  · next rest hplus =>
    -- the digits of a number never start with a sign
    have hmem : '+' ∈ (toString n).toList := by
      rw [hplus]
      exact List.mem_cons_self
    exact absurd (isDigit_of_mem_toString hmem) (by decide)
  · have hempty : (toString n).toList.isEmpty = false := List.isEmpty_eq_false_iff.2 hne
    simp only [hempty, hall, Bool.not_true, Bool.or_false, digitsValue_toString, if_pos hn]
    rfl

theorem lt_of_parsePort {p : List Char} {n : Nat} (h : parsePort p = some n) : n < 65536 := by
  -- with or without a sign, the value passes the bound before it is returned
  have bound : ∀ {b : Bool} {m : Nat},
      (if b = true then none else if m < 65536 then some m else none) = some n → n < 65536 := by
    intro b m hb
    split at hb
    · cases hb
    · split at hb
      · cases hb
        assumption
      · cases hb
  simp only [parsePort] at h
  split at h <;> exact bound h

/-! ## Readable addresses -/

/-- A location that begins like a Unix endpoint. -/
def UnixLike (l : List Char) : Prop := unixMarker.toList <+: l

instance (l : List Char) : Decidable (UnixLike l) := inferInstanceAs (Decidable (_ <+: _))

/-- An endpoint its text names: a TCP port fits sixteen bits, and the host, with the `:`
after it, does not begin like a Unix endpoint. -/
def Endpoint.Readable : Endpoint → Prop
  | .tcp host port => port < 65536 ∧ ¬ UnixLike (host.toList ++ [':'])
  | .unix _ => True

instance : DecidablePred Endpoint.Readable
  | .tcp _ _ => inferInstanceAs (Decidable (_ ∧ _))
  | .unix _ => inferInstanceAs (Decidable True)

/-- An address its text names: a non-empty object without `@`, at a readable endpoint. -/
def Address.Readable (a : Address) : Prop :=
  a.object.toList ≠ [] ∧ '@' ∉ a.object.toList ∧ a.endpoint.Readable

instance : DecidablePred Address.Readable := fun _ =>
  inferInstanceAs (Decidable (_ ∧ _ ∧ _))

theorem unixLike_iff {l : List Char} :
    UnixLike l ↔ ∃ path, l = '.' :: '/' :: 'u' :: ':' :: path := by
  constructor
  · rintro ⟨path, rfl⟩
    exact ⟨path, rfl⟩
  · rintro ⟨path, rfl⟩
    exact ⟨path, rfl⟩

theorem unixLike_location_iff (host rest : List Char) :
    UnixLike (host ++ ':' :: rest) ↔ UnixLike (host ++ [':']) := by
  constructor
  · intro h
    obtain ⟨path, hp⟩ := unixLike_iff.1 h
    match host, hp with
    | [], hp => simp at hp
    | [_], hp => simp at hp
    | [_, _], hp => simp at hp
    | [a, b, c], hp =>
      simp only [List.cons_append, List.nil_append, List.cons.injEq] at hp
      obtain ⟨rfl, rfl, rfl, -⟩ := hp
      exact unixLike_iff.2 ⟨[], rfl⟩
    | a :: b :: c :: d :: t, hp =>
      simp only [List.cons_append, List.cons.injEq] at hp
      obtain ⟨rfl, rfl, rfl, rfl, -⟩ := hp
      exact unixLike_iff.2 ⟨t ++ [':'], rfl⟩
  · intro h
    exact List.IsPrefix.trans h (by simp)

theorem text_toList (a : Address) :
    a.text.toList = 'o' :: 'b' :: 'j' :: ':' :: (a.object.toList ++ '@' :: a.endpoint.text.toList) := by
  simp [Address.text]

theorem tcp_text_toList (host : String) (port : Nat) :
    (Endpoint.tcp host port).text.toList = host.toList ++ ':' :: (toString port).toList := by
  simp [Endpoint.text]

theorem unix_text_toList (path : String) :
    (Endpoint.unix path).text.toList = '.' :: '/' :: 'u' :: ':' :: path.toList := by
  simp [Endpoint.text, unixMarker]

namespace Address

/-- **A readable address reads back from its text.** -/
theorem parse_text {a : Address} (h : a.Readable) : Address.parse a.text = .ok a := by
  obtain ⟨object, endpoint⟩ := a
  obtain ⟨hne, hat, hend⟩ := h
  unfold Address.parse
  rw [text_toList]
  simp only [splitFirst_append hat]
  rw [if_neg (by simpa using hne)]
  cases endpoint with
  | unix path =>
    simp [unix_text_toList]
  | tcp host port =>
    obtain ⟨hport, hhost⟩ := hend
    rw [tcp_text_toList]
    split
    · next path hp =>
      exact absurd ((unixLike_location_iff _ _).1 (unixLike_iff.2 ⟨path, hp⟩)) hhost
    · simp only [splitLast_append (colon_not_mem_toString port)]
      rw [parsePort_toString hport]
      simp

/-- **Whatever reading gives is readable.** -/
theorem readable_of_parse {s : String} {a : Address} (h : Address.parse s = .ok a) :
    a.Readable := by
  unfold Address.parse at h
  split at h
  · next rest _ =>
    split at h
    · cases h
    · next object location hsplit =>
      obtain ⟨-, hat⟩ := splitFirst_eq_some hsplit
      split at h
      · cases h
      · next hne =>
        have hne : object ≠ [] := by simpa using hne
        split at h
        · cases h
          exact ⟨by simpa using hne, by simpa using hat, trivial⟩
        · next hnot =>
          split at h
          · cases h
          · next host port hlast =>
            split at h
            · next p hp =>
              cases h
              obtain ⟨hl, -⟩ := splitLast_eq_some hlast
              refine ⟨by simpa using hne, by simpa using hat, lt_of_parsePort hp, fun hu => ?_⟩
              rw [String.toList_ofList, ← unixLike_location_iff host port, ← hl] at hu
              obtain ⟨path, hpath⟩ := unixLike_iff.1 hu
              exact hnot path hpath
            · cases h
  · cases h

theorem parse_text_parse (s : String) :
    (Address.parse s >>= fun a => Address.parse a.text) = Address.parse s := by
  cases h : Address.parse s with
  | error e => rfl
  | ok a => exact parse_text (readable_of_parse h)

theorem parse_text_eq_ok_iff (a : Address) : Address.parse a.text = .ok a ↔ a.Readable :=
  ⟨readable_of_parse, parse_text⟩

end Address

/-! ## The JSON string form -/

section Json

open Nameserver

theorem addressValue_string (s : String) :
    addressValue (.string s) = match Address.parse s with
      | .ok a => .ok a
      | .error e => .error e.message := rfl

theorem addressValue_text_eq_ok_iff (a : Address) :
    addressValue (.string a.text) = .ok a ↔ a.Readable := by
  rw [addressValue_string, ← Address.parse_text_eq_ok_iff]
  cases Address.parse a.text <;> simp

theorem addressValue_text_addressValue (s : String) :
    (addressValue (.string s) >>= fun a => addressValue (.string a.text)) =
      addressValue (.string s) := by
  rw [addressValue_string]
  cases h : Address.parse s with
  | error e => rfl
  | ok a => exact (addressValue_text_eq_ok_iff a).2 (Address.readable_of_parse h)

end Json

/-- **The text form of an address.** An address reads back from its text exactly when it is
readable; reading, writing and reading again answers as the first reading did; and the JSON
string form, in calls and in snapshots, keeps both laws. -/
theorem text_round_trip :
    (∀ a : Address, Address.parse a.text = .ok a ↔ a.Readable) ∧
    (∀ s : String, (Address.parse s >>= fun a => Address.parse a.text) = Address.parse s) ∧
    (∀ a : Address, Nameserver.addressValue (.string a.text) = .ok a ↔ a.Readable) ∧
    (∀ s : String, (Nameserver.addressValue (.string s) >>= fun a =>
      Nameserver.addressValue (.string a.text)) = Nameserver.addressValue (.string s)) :=
  ⟨Address.parse_text_eq_ok_iff, Address.parse_text_parse, addressValue_text_eq_ok_iff,
    addressValue_text_addressValue⟩

/-- A lab with one service whose name holds an `@`; names are refused only when blank or
`all`. -/
def atSignLab : Config.LabConfig where
  daemons := [("bench", {}), (Config.defaultProfile, {})]
  services := [("probe@bench",
    { implementation := Service.sampleReference, daemon := "bench",
      nameservers := [Config.defaultProfile] })]

/-- The lab is valid, its daemon publishes the service at `obj:probe@bench@localhost:7000`, and
that text reads back as the object `probe` at the host `bench@localhost`. -/
theorem published_name_with_at_misread :
    atSignLab.validate none = .ok () ∧
    (Daemon.registrations "bench" atSignLab (.tcp "localhost" 7000)).map (·.map (·.address)) =
      .ok [⟨"probe@bench", .tcp "localhost" 7000⟩] ∧
    Address.parse (⟨"probe@bench", .tcp "localhost" 7000⟩ : Address).text =
      .ok ⟨"probe", .tcp "bench@localhost" 7000⟩ :=
  ⟨by rfl, by rfl, by rfl⟩

end LabFleet.Wire
