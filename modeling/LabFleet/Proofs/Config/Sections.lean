import LabFleet.Config.Load
import LabFleet.Proofs.Config.Fields
import LabFleet.Proofs.Config.Valid

/-!
Sections of a configuration document written and read back.

A section is written as a mapping from names to records, each in full or as the entries that
differ from the defaults, and a built-in record still at its defaults is left out of the diff
view. Reading the section sets each record read under its name in the map the section starts
with, which holds the built-in records. So a section reads back as the map written when every
record left out is the starting map's at its name and the starting map names no record the map
written lacks (`readSection_written`). Reading any section gives a sorted map of fitting records
(`readSection_inv`).
-/

namespace LabFleet.Config

open Yaml NameMap Checks

set_option autoImplicit false

namespace Loader

variable {α : Type} {fields : List String} {toNode : α → Node} {reader : FieldReader α}
  {Fits : α → Prop}

theorem record_written (l : Loader) (form : RecordForm fields toNode reader Fits) {p d : α}
    (hp : Fits p) (keep : Node × Node → Bool)
    (hkeep : ∀ (i : Nat) (k : String) (x : Node), fields[i]? = some k →
      (mappingValues (toNode p))[i]? = some x → keep (.string k, x) = false →
      (mappingValues (toNode d))[i]? = some x)
    (sectionName name : String) :
    l.record reader d fields sectionName name
      (.mapping (((fields.map Node.string).zip (mappingValues (toNode p))).filter keep)) =
      .ok p := by
  unfold record
  dsimp only
  rw [forIn_unit_ok ?keys, ok_bind]
  · simp only [readRecord, form.readFields_written hp keep hkeep]
    rfl
  case keys =>
    rintro ⟨k, v⟩ he
    have hk : k ∈ fields.map Node.string := (List.of_mem_zip (List.mem_filter.1 he).1).1
    obtain ⟨f, hf, rfl⟩ := List.mem_map.1 hk
    have hcontains : fields.contains f = true := List.contains_iff_mem.2 hf
    simp only [keyText, Read.untag, hcontains, Bool.not_true, Bool.false_eq_true, if_false]
    rfl

@[simp] theorem lookup_nil (key : String) : lookup [] key = none := rfl

@[simp] theorem lookup_cons_string (k key : String) (v : Node) (rest : List (Node × Node)) :
    lookup ((.string k, v) :: rest) key = if k = key then some v else lookup rest key := by
  by_cases h : k = key
  · subst h
    simp [lookup]
  · simp [lookup, h]

theorem lookup_eq_none {entries : List (Node × Node)} {key : String}
    (h : ∀ e ∈ entries, e.1 ≠ .string key) : lookup entries key = none := by
  unfold lookup
  rw [List.find?_eq_none.2 fun e he => ?_]
  · rfl
  · obtain ⟨k, v⟩ := e
    have hne := h (k, v) he
    cases k with
    | string s =>
      have hs : s ≠ key := fun hs => hne (hs ▸ rfl)
      simpa using hs
    | _ => simp

theorem sectionEntries_written {β : Type} (sectionName : String) (kept : List (String × β))
    (write : β → Node) (hnames : ∀ e ∈ kept, NameOk e.1) :
    sectionEntries sectionName (some (.mapping (kept.map fun e => (.string e.1, write e.2)))) =
      .ok (kept.map fun e => (e.1, write e.2)) := by
  unfold sectionEntries
  dsimp only
  rw [List.mapM_map]
  refine mapM_eq_ok_map fun e he => ?_
  simp only [Function.comp, entryName, keyText, Read.untag, checkName_eq_ok.2 (hnames e he),
    ok_bind]
  rfl

theorem readSection_eq_ok (l : Loader) (base : α) (sectionName : String)
    (entries : List (Node × Node)) (init : NameMap α) {kept : List (String × α)}
    {write : α → Node}
    (hsec : sectionEntries sectionName (lookup entries sectionName) =
      .ok (kept.map fun e => (e.1, write e.2)))
    (hrec : ∀ e ∈ kept, l.record reader base fields sectionName e.1 (write e.2) = .ok e.2) :
    l.readSection reader base fields sectionName entries init =
      .ok (kept.foldl (fun m e => NameMap.insert e.1 e.2 m) init) := by
  unfold readSection
  simp only [hsec, ok_bind, List.forIn_map]
  rw [forIn_eq_ok_foldl (fun m e => NameMap.insert e.1 e.2 m) fun e he m => by
    simp only [hrec e he, ok_bind]; rfl]
  rfl

/-! ## Reading any section -/

theorem lookup_canonical {entries : List (Node × Node)} {key : String} {v : Node}
    (hentries : ∀ e ∈ entries, e.2.Canonical) (h : lookup entries key = some v) :
    v.Canonical := by
  unfold lookup at h
  obtain ⟨e, he, rfl⟩ := Option.map_eq_some_iff.1 h
  exact hentries e (List.mem_of_find?_eq_some he)

theorem sectionEntries_canonical {sectionName : String} {n : Option Node}
    {pairs : List (String × Node)} (hn : ∀ v, n = some v → v.Canonical)
    (h : sectionEntries sectionName n = .ok pairs) : ∀ e ∈ pairs, e.2.Canonical := by
  unfold sectionEntries at h
  split at h
  · cases h
    exact fun _ h => nomatch h
  · cases h
    exact fun _ h => nomatch h
  · -- a mapping: each name is checked and its record kept
    next entries =>
    have hentries : ∀ e ∈ entries, e.2.Canonical := by
      cases hn _ rfl with
      | mapping _ hv => exact hv
    intro e he
    obtain ⟨⟨k, v⟩, hkv, hstep⟩ := mem_of_mapM_eq_ok h e he
    obtain ⟨name, -, hstep⟩ := bind_eq_ok.1 hstep
    cases hstep
    exact hentries _ hkv
  · -- a list of single-entry mappings: each entry's record is kept
    next items =>
    have hitems : ∀ x ∈ items, x.Canonical := by
      cases hn _ rfl with
      | sequence h => exact h
    obtain ⟨s, hs, h⟩ := bind_eq_ok.1 h
    cases h
    refine forIn_inv (fun s : List String × List (String × Node) => ∀ e ∈ s.2, e.2.Canonical)
      (by simp) (fun item hitem s step hP hstep => ?_) hs
    split at hstep
    · next k v =>
      obtain ⟨name, -, hstep⟩ := bind_eq_ok.1 hstep
      have hv : v.Canonical := by
        cases hitems _ hitem with
        | mapping _ hv => exact hv (k, v) List.mem_cons_self
      split at hstep
      · simp [throw, throwThe, MonadExceptOf.throw, bind, Except.bind] at hstep
      · cases hstep
        intro e he
        rcases List.mem_append.1 he with he | he
        · exact hP e he
        · rw [List.mem_singleton.1 he]
          exact hv
    · simp [throw, throwThe, MonadExceptOf.throw, bind, Except.bind] at hstep
  · cases h

theorem record_inv (l : Loader) (P : α → Prop) {base p : α} {sectionName name : String}
    {v : Node} (hbase : P base)
    (hset : ∀ name set, reader name = some set → ∀ r r' x, x.Canonical → P r →
      set r x = .ok r' → P r')
    (hv : v.Canonical) (h : l.record reader base fields sectionName name v = .ok p) : P p := by
  unfold record at h
  dsimp only at h
  split at h
  · cases h
    exact hbase
  · next entries =>
    have hentries : ∀ e ∈ entries, e.2.Canonical := by
      cases hv with
      | mapping _ hv => exact hv
    obtain ⟨_, -, h⟩ := bind_eq_ok.1 h
    split at h
    · next r hread =>
      cases h
      unfold readRecord at hread
      split at hread
      · next r' hfields =>
        cases hread
        exact readFields_inv P hbase
          (fun name set hr e he r r' hP hs => hset name set hr r r' e.2 (hentries e he) hP hs)
          hfields
      · cases hread
    · cases h
  · cases h

/-- **Reading any section** of a loaded document gives a sorted map of records that keep what
the map it starts with and the records' defaults have, and every field's reader keeps. -/
theorem readSection_inv (l : Loader) (P : α → Prop) {base : α} {sectionName : String}
    {entries : List (Node × Node)} {init m : NameMap α} (hinit : Sorted init)
    (hinitP : ∀ e ∈ init, P e.2) (hbase : P base)
    (hset : ∀ name set, reader name = some set → ∀ r r' x, x.Canonical → P r →
      set r x = .ok r' → P r')
    (hentries : ∀ e ∈ entries, e.2.Canonical)
    (h : l.readSection reader base fields sectionName entries init = .ok m) :
    Sorted m ∧ ∀ e ∈ m, P e.2 := by
  unfold readSection at h
  obtain ⟨pairs, hpairs, h⟩ := bind_eq_ok.1 h
  obtain ⟨m', hm', h⟩ := bind_eq_ok.1 h
  cases h
  have hcanon := sectionEntries_canonical (fun v hv => lookup_canonical hentries hv) hpairs
  refine forIn_inv (fun m : NameMap α => Sorted m ∧ ∀ e ∈ m, P e.2) ⟨hinit, hinitP⟩
    (fun e he m step hm hstep => ?_) hm'
  obtain ⟨p, hp, hstep⟩ := bind_eq_ok.1 hstep
  cases hstep
  have hpP := record_inv l P hbase hset (hcanon e he) hp
  refine ⟨hm.1.insert _ _, fun e' he' => ?_⟩
  rcases mem_insert he' with rfl | he'
  · exact hpP
  · exact hm.2 e' he'

theorem readSection_keys (l : Loader) {base : α} {sectionName : String}
    {entries : List (Node × Node)} {init m : NameMap α}
    (h : l.readSection reader base fields sectionName entries init = .ok m) :
    ∀ k ∈ keys init, k ∈ keys m := by
  unfold readSection at h
  obtain ⟨pairs, -, h⟩ := bind_eq_ok.1 h
  obtain ⟨m', hm', h⟩ := bind_eq_ok.1 h
  cases h
  intro k hk
  -- each record read is set under its name, which keeps the names already there
  refine forIn_inv (fun m : NameMap α => k ∈ keys m) hk (fun e _ m step hm hstep => ?_) hm'
  obtain ⟨p, -, hstep⟩ := bind_eq_ok.1 hstep
  cases hstep
  exact mem_keys_insert.2 (.inr hm)

end Loader

/-! ## Sections written -/

section Written

variable {α : Type}

/-- Whether a section writes a record: always in the merged view, and in the diff view unless it
is the built-in record still at its defaults. -/
def shown (view : RenderView) (builtin : Option String) (isDefault : α → Bool)
    (e : String × α) : Bool :=
  match view with
  | .merged => true
  | .diff => !(builtin == some e.1 && isDefault e.2)

/-- How a section writes a record: all its entries, or those differing from the defaults'. -/
def recordNode (toNode : α → Node) (base : α) : RenderView → α → Node
  | .merged, r => toNode r
  | .diff, r => diffEntries (toNode r) (toNode base)

theorem renderSection_eq (records : NameMap α) (toNode : α → Node) (isDefault : α → Bool)
    (base : α) (view : RenderView) (builtin : Option String) :
    renderSection records toNode isDefault base view builtin =
      (records.filter (shown view builtin isDefault)).map fun e =>
        (.string e.1, recordNode toNode base view e.2) := by
  induction records with
  | nil => rfl
  | cons e rest ih =>
    obtain ⟨name, r⟩ := e
    unfold renderSection at ih ⊢
    rw [List.filterMap_cons, List.filter_cons, ih]
    cases view with
    | merged => rfl
    | diff =>
      by_cases h : (builtin == some name && isDefault r) = true
      · simp [shown, h]
      · simp [shown, h, recordNode]

/-- **A section's records, laid over the map it starts with.** When every record the section
leaves out is the starting map's at its name, and the starting map names no other record, the
records shown, set one after another, give the map written. -/
theorem foldl_insert_shown {records init : NameMap α} (hs : Sorted records) (hinit : Sorted init)
    {view : RenderView} {builtin : Option String} {isDefault : α → Bool}
    (hleft : ∀ e ∈ records, shown view builtin isDefault e = false →
      find? init e.1 = some e.2)
    (hkeys : ∀ k v, find? init k = some v → k ∈ keys records) :
    (records.filter (shown view builtin isDefault)).foldl (fun m e => NameMap.insert e.1 e.2 m)
      init = records := by
  have hkept : Sorted (records.filter (shown view builtin isDefault)) := hs.filter _
  refine Sorted.ext_find? (hinit.foldl_insert _) hs fun k => ?_
  rw [find?_foldl_insert_of_nodup _ hkept.keys_nodup]
  cases hk : find? records k with
  | some v =>
    have hmem := find?_mem hk
    by_cases hshown : shown view builtin isDefault (k, v) = true
    · -- a record shown is read back under its name
      rw [hkept.find?_eq_some_iff.2 (List.mem_filter.2 ⟨hmem, hshown⟩)]
      rfl
    · -- a record left out comes from the starting map
      have hnone : find? (records.filter (shown view builtin isDefault)) k = none := by
        cases hf : find? (records.filter (shown view builtin isDefault)) k with
        | none => rfl
        | some v' =>
          obtain ⟨hmem', hshown'⟩ := List.mem_filter.1 (find?_mem hf)
          have hv : v' = v := Option.some.inj ((hs.find?_eq_some_iff.2 hmem').symm.trans hk)
          exact absurd (hv ▸ hshown') hshown
      rw [hnone, Option.none_or, hleft (k, v) hmem (by simpa using hshown)]
  | none =>
    -- a name with no record is in neither map
    have hkept_none : find? (records.filter (shown view builtin isDefault)) k = none := by
      cases hf : find? (records.filter (shown view builtin isDefault)) k with
      | none => rfl
      | some v' =>
        have hmem' := (List.mem_filter.1 (find?_mem hf)).1
        rw [hs.find?_eq_some_iff.2 hmem'] at hk
        cases hk
    have hinit_none : find? init k = none := by
      cases hf : find? init k with
      | none => rfl
      | some v' =>
        have hkey := hkeys k v' hf
        rw [← isSome_find?_iff, hk] at hkey
        cases hkey
    rw [hkept_none, hinit_none]
    rfl

end Written

namespace Loader

variable {α : Type} {fields : List String} {toNode : α → Node} {reader : FieldReader α}
  {Fits : α → Prop}

theorem record_recordNode (l : Loader) (form : RecordForm fields toNode reader Fits) {p d : α}
    (hp : Fits p) (hatoms : ∀ y ∈ mappingValues (toNode d), Atom y) (view : RenderView)
    (sectionName name : String) :
    l.record reader d fields sectionName name (recordNode toNode d view p) = .ok p := by
  cases view with
  | merged =>
    -- every entry is written
    show l.record reader d fields sectionName name (toNode p) = .ok p
    have hall : (fields.map Node.string).zip (mappingValues (toNode p)) =
        ((fields.map Node.string).zip (mappingValues (toNode p))).filter fun _ => true :=
      (List.filter_true _).symm
    rw [form.written p, hall]
    exact l.record_written form hp _ (fun _ _ _ _ _ h => absurd h (by simp)) sectionName name
  | diff =>
    -- the entries that differ from the defaults' are written
    show l.record reader d fields sectionName name (diffEntries (toNode p) (toNode d)) = .ok p
    rw [form.written p, form.written d, diffEntries_mapping]
    exact l.record_written form hp _ (form.differs_keeps hatoms) sectionName name

/-- **A section written from a map of records reads back as the map**, when the records left out
are the starting map's at their names and the starting map names no other record. -/
theorem readSection_written (l : Loader) (form : RecordForm fields toNode reader Fits) {d : α}
    (hatoms : ∀ y ∈ mappingValues (toNode d), Atom y) {records init : NameMap α}
    (hs : Sorted records) (hfits : ∀ e ∈ records, Fits e.2)
    (hnames : ∀ e ∈ records, NameOk e.1)
    (hinit : Sorted init) {view : RenderView} {builtin : Option String} {isDefault : α → Bool}
    (hleft : ∀ e ∈ records, shown view builtin isDefault e = false →
      find? init e.1 = some e.2)
    (hkeys : ∀ k v, find? init k = some v → k ∈ keys records) {sectionName : String}
    {entries : List (Node × Node)}
    (hlookup : sectionEntries sectionName (lookup entries sectionName) =
      sectionEntries sectionName
        (some (.mapping (renderSection records toNode isDefault d view builtin)))) :
    l.readSection reader d fields sectionName entries init = .ok records := by
  rw [renderSection_eq] at hlookup
  have hsec := hlookup.trans (sectionEntries_written sectionName _ (recordNode toNode d view)
    fun e he => hnames e (List.mem_filter.1 he).1)
  rw [readSection_eq_ok l d sectionName entries init hsec fun e he =>
      l.record_recordNode form (hfits e (List.mem_filter.1 he).1) hatoms view sectionName e.1,
    foldl_insert_shown hs hinit hleft hkeys]

end Loader

end LabFleet.Config
