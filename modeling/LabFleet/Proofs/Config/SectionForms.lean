import LabFleet.Proofs.Config.Sections

/-!
The two forms of a section of named records.

A document may write each of its sections `nameservers`, `daemons` and `services` as a mapping
from names to records (`mappingForm`) or as a list of single-entry mappings (`listForm`). The
mapping form checks its names in order and stops at the first bad one; the list form walks its
entries with the names seen so far, and also refuses a name given twice. With distinct names the
two meet the same first bad name or read the same entries (`sectionEntries_listForm`), and the
loader sees a section only through what it reads there (`loadNode_congr`), so the two forms load
alike.

The list walk is stated once, through the shape of one of its turns (`ListTurn`): a fresh name
is read and remembered, a seen one is refused as a duplicate. From it:
  * `forIn_listForm_distinct`: with distinct names the walk reads what the mapping form reads;
  * `forIn_listForm_repeat`: after good, distinct names, a repeat is refused under its name;
  * `nodup_of_forIn_listForm`: a walk that reaches its end saw distinct names.

Main statement: `section_forms_load_alike`. A section value that cannot be read refuses the
document, with its own refusal or with one found before the section is read
(`loadNode_section_refusal`).
-/

namespace LabFleet.Config

open Yaml Checks

set_option autoImplicit false

namespace Loader

/-- The sections of a document that hold named records. -/
def recordSections : List String := ["nameservers", "daemons", "services"]

/-- A section written as a mapping from names to records. -/
def mappingForm (es : List (String × Node)) : Node := .mapping (es.map fun e => (.string e.1, e.2))

/-- A section written as a list of single-entry mappings. -/
def listForm (es : List (String × Node)) : Node :=
  .sequence (es.map fun e => .mapping [(.string e.1, e.2)])

/-- The entries of a section read one by one, each name checked. -/
def readEntries (sectionName : String) (es : List (String × Node)) :
    Result (List (String × Node)) :=
  es.mapM fun e => entryName sectionName (.string e.1) >>= fun n => pure (n, e.2)

theorem entryName_string (sectionName n : String) :
    entryName sectionName (.string n) = checkName sectionName n >>= fun _ => pure n := rfl

theorem sectionEntries_mappingForm (sectionName : String) (es : List (String × Node)) :
    sectionEntries sectionName (some (mappingForm es)) = readEntries sectionName es := by
  unfold sectionEntries mappingForm readEntries
  dsimp only
  rw [List.mapM_map]
  rfl

theorem readEntries_cons (sectionName : String) (e : String × Node) (rest : List (String × Node)) :
    readEntries sectionName (e :: rest) = (checkName sectionName e.1 >>= fun _ =>
      readEntries sectionName rest >>= fun l => pure ((e.1, e.2) :: l)) := by
  unfold readEntries
  rw [List.mapM_cons, entryName_string]
  cases checkName sectionName e.1 <;> rfl

/-! ## The walk over a list section -/

/-- What the walk over a list section carries: the names seen, and the entries read. -/
abbrev ListState := List String × List (String × Node)

/-- One turn of the walk over a list section, on an entry `n: v`: the name is checked, and
refused if seen before; otherwise it is remembered and the entry read. -/
def ListTurn (sectionName : String) (F : Node → ListState → Result (ForInStep ListState)) :
    Prop :=
  ∀ (n : String) (v : Node) (s : ListState), F (.mapping [(.string n, v)]) s =
    entryName sectionName (.string n) >>= fun name =>
      if s.1.contains name then
        .error (.configuration (sectionName ++ "." ++ name) "name" "duplicate name")
      else .ok (.yield (name :: s.1, s.2 ++ [(name, v)]))

theorem sectionEntries_sequence (sectionName : String) :
    ∃ F, ListTurn sectionName F ∧ ∀ items, sectionEntries sectionName (some (.sequence items)) =
      forIn items (([], []) : ListState) F >>= fun s => pure s.2 :=
  ⟨_, fun _ _ _ => rfl, fun _ => rfl⟩

variable {sectionName : String} {F : Node → ListState → Result (ForInStep ListState)}

theorem forIn_listForm_distinct (hF : ListTurn sectionName F) (es : List (String × Node))
    (s : ListState) (hnd : (es.map Prod.fst).Nodup) (hfresh : ∀ e ∈ es, e.1 ∉ s.1) :
    (forIn (es.map fun e => Node.mapping [(.string e.1, e.2)]) s F >>= fun s => pure s.2) =
      readEntries sectionName es >>= fun l => pure (s.2 ++ l) := by
  induction es generalizing s with
  | nil => simp [readEntries, pure, Except.pure]
  | cons e rest ih =>
    obtain ⟨he, hrest⟩ := List.nodup_cons.1 hnd
    rw [List.map_cons, List.forIn_cons, hF, entryName_string, readEntries_cons]
    cases hc : checkName sectionName e.1 with
    | error err => rfl
    | ok u =>
      -- a fresh name: the entry is read and the walk goes on with its name seen
      have hnew : s.1.contains e.1 = false := by
        simpa using hfresh e List.mem_cons_self
      have hnext := ih (e.1 :: s.1, s.2 ++ [(e.1, e.2)]) hrest fun x hx hmem =>
        (List.mem_cons.1 hmem).elim (fun h => he (h ▸ List.mem_map_of_mem hx))
          (hfresh x (List.mem_cons_of_mem _ hx))
      simp only [ok_bind, pure_bind, hnew, Bool.false_eq_true, if_false]
      rw [hnext]
      cases readEntries sectionName rest <;> simp [pure, Except.pure, bind, Except.bind]

theorem forIn_listForm_repeat (hF : ListTurn sectionName F) (n : String) (r : Node)
    (after : List (String × Node)) (hn : NameOk n) :
    ∀ (before : List (String × Node)) (s : ListState), (before.map Prod.fst).Nodup →
      (∀ e ∈ before, NameOk e.1 ∧ e.1 ∉ s.1) → n ∈ before.map Prod.fst ∨ n ∈ s.1 →
      forIn ((before ++ (n, r) :: after).map fun e => Node.mapping [(.string e.1, e.2)]) s F =
        .error (.configuration (sectionName ++ "." ++ n) "name" "duplicate name")
  | [], s, _, _, hrep => by
    have hseen : s.1.contains n = true := by
      simpa using hrep
    rw [List.nil_append, List.map_cons, List.forIn_cons, hF, entryName_string,
      checkName_eq_ok.2 hn]
    simp only [ok_bind, pure_bind, hseen, if_true]
    rfl
  | e :: before, s, hnd, hgood, hrep => by
    obtain ⟨he, hrest⟩ := List.nodup_cons.1 hnd
    obtain ⟨hok, hfresh⟩ := hgood e List.mem_cons_self
    have hnew : s.1.contains e.1 = false := by
      simpa using hfresh
    rw [List.cons_append, List.map_cons, List.forIn_cons, hF, entryName_string,
      checkName_eq_ok.2 hok]
    simp only [ok_bind, pure_bind, hnew, Bool.false_eq_true, if_false]
    -- the entry is read, and its name joins those the repeat may be a repeat of
    refine forIn_listForm_repeat hF n r after hn before _ hrest (fun x hx => ⟨(hgood x
      (List.mem_cons_of_mem _ hx)).1, fun hmem => ?_⟩) ?_
    · rcases List.mem_cons.1 hmem with h | h
      · exact he (h ▸ List.mem_map_of_mem hx)
      · exact (hgood x (List.mem_cons_of_mem _ hx)).2 h
    · rcases hrep with h | h
      · rcases List.mem_cons.1 h with h | h
        · exact .inr (List.mem_cons.2 (.inl h))
        · exact .inl h
      · exact .inr (List.mem_cons_of_mem _ h)

theorem nodup_of_forIn_listForm (hF : ListTurn sectionName F) :
    ∀ (es : List (String × Node)) (s out : ListState),
      forIn (es.map fun e => Node.mapping [(.string e.1, e.2)]) s F = .ok out →
      (es.map Prod.fst).Nodup ∧ ∀ e ∈ es, e.1 ∉ s.1
  | [], _, _, _ => ⟨List.nodup_nil, fun _ h => nomatch h⟩
  | e :: rest, s, out, h => by
    rw [List.map_cons, List.forIn_cons, hF, entryName_string] at h
    obtain ⟨step, hstep, h⟩ := bind_eq_ok.1 h
    obtain ⟨u, hu, hstep⟩ := bind_eq_ok.1 hstep
    obtain ⟨_, -, hu⟩ := bind_eq_ok.1 hu
    cases hu
    -- the entry passed: its name was new, and the rest is read with it seen
    have hnew : s.1.contains e.1 = false := by
      cases hc : s.1.contains e.1
      · rfl
      · simp only [hc, if_true] at hstep
        cases hstep
    simp only [hnew, Bool.false_eq_true, if_false, Except.ok.injEq] at hstep
    subst hstep
    obtain ⟨hnd, hfresh⟩ := nodup_of_forIn_listForm hF rest _ out h
    refine ⟨List.nodup_cons.2 ⟨fun hmem => ?_, hnd⟩, fun x hx => ?_⟩
    · obtain ⟨x, hx, hxe⟩ := List.mem_map.1 hmem
      exact hfresh x hx (List.mem_cons.2 (.inl hxe))
    · rcases List.mem_cons.1 hx with rfl | hx
      · simpa using hnew
      · exact fun hmem => hfresh x hx (List.mem_cons_of_mem _ hmem)

theorem sectionEntries_listForm (sectionName : String) (es : List (String × Node))
    (hnd : (es.map Prod.fst).Nodup) :
    sectionEntries sectionName (some (listForm es)) =
      sectionEntries sectionName (some (mappingForm es)) := by
  obtain ⟨F, hF, hseq⟩ := sectionEntries_sequence sectionName
  rw [sectionEntries_mappingForm, listForm, hseq,
    forIn_listForm_distinct hF es _ hnd fun _ _ => List.not_mem_nil]
  cases readEntries sectionName es <;> rfl

/-! ## What a document's load reads -/

theorem lookup_append (a b : List (Node × Node)) (key : String) :
    lookup (a ++ b) key = (lookup a key).or (lookup b key) := by
  unfold lookup
  rw [List.find?_append]
  cases List.find? _ a <;> rfl

theorem lookup_section (pre post : List (Node × Node)) (sec key : String) (v : Node) :
    lookup (pre ++ (.string sec, v) :: post) key =
      (lookup pre key).or (if sec = key then some v else lookup post key) := by
  rw [lookup_append, lookup_cons_string]

theorem checkTopLevel_keys (l : Loader) (E : List (Node × Node)) :
    l.checkTopLevel E = l.checkTopLevel ((E.map Prod.fst).map fun k => (k, .null)) := by
  unfold checkTopLevel
  rw [List.map_map, List.forIn_map]
  rfl

theorem readVersion_congr {E₁ E₂ : List (Node × Node)}
    (h : lookup E₁ "version" = lookup E₂ "version") : readVersion E₁ = readVersion E₂ := by
  unfold readVersion
  rw [h]

theorem readAutolaunch_congr (l : Loader) {E₁ E₂ : List (Node × Node)}
    (h : lookup E₁ "autolaunch" = lookup E₂ "autolaunch") :
    l.readAutolaunch E₁ = l.readAutolaunch E₂ := by
  unfold readAutolaunch
  rw [h]

section

variable {α : Type} {reader : FieldReader α} {fields : List String}

theorem readSection_congr (l : Loader) (base : α) (sectionName : String)
    {E₁ E₂ : List (Node × Node)} (init : NameMap α)
    (h : sectionEntries sectionName (lookup E₁ sectionName) =
      sectionEntries sectionName (lookup E₂ sectionName)) :
    l.readSection reader base fields sectionName E₁ init =
      l.readSection reader base fields sectionName E₂ init := by
  unfold readSection
  rw [h]

theorem readSection_of_error (l : Loader) (base : α) (sectionName : String)
    {E : List (Node × Node)} (init : NameMap α) {e : Error}
    (h : sectionEntries sectionName (lookup E sectionName) = .error e) :
    l.readSection reader base fields sectionName E init = .error e := by
  unfold readSection
  rw [h]
  rfl

end

theorem loadNode_congr (l : Loader) {E₁ E₂ : List (Node × Node)}
    (hkeys : E₁.map Prod.fst = E₂.map Prod.fst)
    (hversion : lookup E₁ "version" = lookup E₂ "version")
    (hauto : lookup E₁ "autolaunch" = lookup E₂ "autolaunch")
    (hsections : ∀ sec ∈ recordSections,
      sectionEntries sec (lookup E₁ sec) = sectionEntries sec (lookup E₂ sec)) :
    l.loadNode (.mapping E₁) = l.loadNode (.mapping E₂) := by
  unfold loadNode
  simp only [topLevelEntries, ok_bind]
  rw [checkTopLevel_keys l E₁, checkTopLevel_keys l E₂, hkeys, readVersion_congr hversion,
    readSection_congr l _ _ _ (hsections "nameservers" (by decide)),
    readSection_congr l _ _ _ (hsections "daemons" (by decide)),
    readSection_congr l _ _ _ (hsections "services" (by decide)), readAutolaunch_congr l hauto]

theorem sectionEntries_ok_of_loadNode (l : Loader) {sec : String} (hsec : sec ∈ recordSections)
    {E : List (Node × Node)} {c : LabConfig} (h : l.loadNode (.mapping E) = .ok c) :
    ∃ es, sectionEntries sec (lookup E sec) = .ok es := by
  have hread : ∀ {α : Type} {reader : FieldReader α} {base : α} {fields : List String}
      {sectionName : String} {init m : NameMap α},
      l.readSection reader base fields sectionName E init = .ok m →
      ∃ es, sectionEntries sectionName (lookup E sectionName) = .ok es := fun h => by
    unfold readSection at h
    obtain ⟨es, hes, -⟩ := bind_eq_ok.1 h
    exact ⟨es, hes⟩
  unfold loadNode at h
  simp only [topLevelEntries, ok_bind] at h
  obtain ⟨_, -, h⟩ := bind_eq_ok.1 h
  obtain ⟨_, -, h⟩ := bind_eq_ok.1 h
  obtain ⟨_, hns, h⟩ := bind_eq_ok.1 h
  obtain ⟨_, hds, h⟩ := bind_eq_ok.1 h
  obtain ⟨_, hss, -⟩ := bind_eq_ok.1 h
  have hnames : sec = "nameservers" ∨ sec = "daemons" ∨ sec = "services" := by
    simpa [recordSections] using hsec
  rcases hnames with rfl | rfl | rfl
  · exact hread hns
  · exact hread hds
  · exact hread hss

theorem loadNode_section_refusal (l : Loader) {sec : String} (hsec : sec ∈ recordSections)
    {pre post : List (Node × Node)} (hpre : ∀ e ∈ pre, e.1 ≠ .string sec) {v : Node} {e : Error}
    (h : sectionEntries sec (some v) = .error e) (v' : Node) :
    l.loadNode (.mapping (pre ++ (.string sec, v) :: post)) = .error e ∨
      l.loadNode (.mapping (pre ++ (.string sec, v') :: post)) =
        l.loadNode (.mapping (pre ++ (.string sec, v) :: post)) := by
  have hkeys : (pre ++ (.string sec, v') :: post).map Prod.fst =
      (pre ++ (.string sec, v) :: post).map Prod.fst := by simp
  have hother : ∀ key, key ≠ sec → lookup (pre ++ (.string sec, v') :: post) key =
      lookup (pre ++ (.string sec, v) :: post) key := fun key hk => by
    rw [lookup_section, lookup_section, if_neg (Ne.symm hk), if_neg (Ne.symm hk)]
  have hread : ∀ {α : Type} (reader : FieldReader α) (base : α) (fields : List String)
      (init : NameMap α), l.readSection reader base fields sec
        (pre ++ (.string sec, v) :: post) init = .error e := fun reader base fields init =>
    readSection_of_error l base sec init
      (by rw [lookup_section, lookup_eq_none hpre, if_pos rfl]; exact h)
  have hnames : sec = "nameservers" ∨ sec = "daemons" ∨ sec = "services" := by
    simpa [recordSections] using hsec
  unfold loadNode
  simp only [topLevelEntries, ok_bind]
  rw [checkTopLevel_keys l (pre ++ (.string sec, v') :: post), hkeys, ← checkTopLevel_keys,
    readVersion_congr (hother "version" (by rcases hnames with rfl | rfl | rfl <;> decide))]
  -- what is read before the section is the same for both values; a refusal there is shared
  cases hc : l.checkTopLevel (pre ++ (.string sec, v) :: post) with
  | error e' => exact .inr rfl
  | ok u =>
  cases hv : readVersion (pre ++ (.string sec, v) :: post) with
  | error e' => exact .inr rfl
  | ok version =>
  simp only [ok_bind]
  rcases hnames with rfl | rfl | rfl
  · rw [hread]
    exact .inl rfl
  · rw [readSection_congr l _ _ _ (congrArg _ (hother "nameservers" (by decide)))]
    cases hn : l.readSection NameserverProfile.reader {} NameserverProfile.fields "nameservers"
      (pre ++ (.string "daemons", v) :: post) ({} : LabConfig).nameservers with
    | error e' => exact .inr rfl
    | ok ns =>
      rw [ok_bind, ok_bind, hread]
      exact .inl rfl
  · rw [readSection_congr l _ _ _ (congrArg _ (hother "nameservers" (by decide))),
      readSection_congr l _ _ _ (congrArg _ (hother "daemons" (by decide)))]
    cases hn : l.readSection NameserverProfile.reader {} NameserverProfile.fields "nameservers"
      (pre ++ (.string "services", v) :: post) ({} : LabConfig).nameservers with
    | error e' => exact .inr rfl
    | ok ns =>
    cases hd : l.readSection DaemonProfile.reader {} DaemonProfile.fields "daemons"
      (pre ++ (.string "services", v) :: post) ({} : LabConfig).daemons with
    | error e' => exact .inr rfl
    | ok ds =>
      rw [ok_bind, ok_bind, ok_bind, ok_bind, hread]
      exact .inl rfl

/-! ## The two forms load alike -/

/-- **The two forms of a section load alike.** For each section of named records, written as a
mapping or as a list of single-entry mappings, with distinct names and all else equal, a
document loads to the same configuration or the same refusal. A list that names a profile twice
never loads. After entries with good, distinct names, the repeat is refused as a duplicate under
the section and that name, and the document with it, unless something read before the section
refuses the document whatever the section holds. -/
theorem section_forms_load_alike (l : Loader) {sec : String} (hsec : sec ∈ recordSections) :
    (∀ (es : List (String × Node)) (pre post : List (Node × Node)), (es.map Prod.fst).Nodup →
      l.loadNode (.mapping (pre ++ (.string sec, mappingForm es) :: post)) =
        l.loadNode (.mapping (pre ++ (.string sec, listForm es) :: post))) ∧
    (∀ (es : List (String × Node)) (pre post : List (Node × Node)) (c : LabConfig),
      (∀ e ∈ pre, e.1 ≠ .string sec) →
      l.loadNode (.mapping (pre ++ (.string sec, listForm es) :: post)) = .ok c →
      (es.map Prod.fst).Nodup) ∧
    (∀ (before : List (String × Node)) (n : String) (r : Node) (after : List (String × Node))
      (pre post : List (Node × Node)), (before.map Prod.fst).Nodup →
      (∀ e ∈ before, NameOk e.1) → n ∈ before.map Prod.fst → (∀ e ∈ pre, e.1 ≠ .string sec) →
      sectionEntries sec (some (listForm (before ++ (n, r) :: after))) =
          .error (.configuration (sec ++ "." ++ n) "name" "duplicate name") ∧
        (l.loadNode (.mapping (pre ++ (.string sec, listForm (before ++ (n, r) :: after)) ::
            post)) = .error (.configuration (sec ++ "." ++ n) "name" "duplicate name") ∨
          ∀ v, l.loadNode (.mapping (pre ++ (.string sec, v) :: post)) =
            l.loadNode (.mapping (pre ++ (.string sec, listForm (before ++ (n, r) :: after)) ::
              post)))) := by
  obtain ⟨F, hF, hseq⟩ := sectionEntries_sequence sec
  refine ⟨fun es pre post hnd => ?agree, fun es pre post c hpre hc => ?distinct,
    fun before n r after pre post hnd hok hn hpre => ?twice⟩
  case agree =>
    -- only the section's own value differs, and both of its forms read alike
    have hv : sec ≠ "version" := fun h => absurd (h ▸ hsec) (by decide)
    have ha : sec ≠ "autolaunch" := fun h => absurd (h ▸ hsec) (by decide)
    refine loadNode_congr l (by simp) ?_ ?_ fun s _ => ?_
    · rw [lookup_section, lookup_section, if_neg hv, if_neg hv]
    · rw [lookup_section, lookup_section, if_neg ha, if_neg ha]
    · rw [lookup_section, lookup_section]
      cases lookup pre s with
      | some x => rfl
      | none =>
        by_cases hs : sec = s
        · subst hs
          simp only [Option.none_or]
          exact (sectionEntries_listForm sec es hnd).symm
        · simp only [Option.none_or, if_neg hs]
  case distinct =>
    obtain ⟨out, hout⟩ := sectionEntries_ok_of_loadNode l hsec hc
    rw [lookup_section, lookup_eq_none hpre, Option.none_or, if_pos rfl, listForm, hseq] at hout
    obtain ⟨s, hs, -⟩ := bind_eq_ok.1 hout
    exact (nodup_of_forIn_listForm hF es _ s hs).1
  case twice =>
    have hdup : sectionEntries sec (some (listForm (before ++ (n, r) :: after))) =
        .error (.configuration (sec ++ "." ++ n) "name" "duplicate name") := by
      obtain ⟨x, hx, rfl⟩ := List.mem_map.1 hn
      rw [listForm, hseq, forIn_listForm_repeat hF x.1 r after (hok x hx) before _ hnd
        (fun e he => ⟨hok e he, List.not_mem_nil⟩) (.inl hn)]
      rfl
    refine ⟨hdup, ?_⟩
    by_cases herr : l.loadNode (.mapping (pre ++ (.string sec, listForm (before ++ (n, r) ::
        after)) :: post)) = .error (.configuration (sec ++ "." ++ n) "name" "duplicate name")
    · exact .inl herr
    · exact .inr fun v => (loadNode_section_refusal l hsec hpre hdup v).resolve_left herr

/-- Daemons `a` and `b`, written as a mapping or as a list, load alike; and a list naming `a`
twice is refused as a duplicate. -/
theorem daemon_section_forms_load_alike :
    "daemons" ∈ recordSections ∧
    ({} : Loader).loadNode
        (.mapping [(.string "daemons", mappingForm [("a", .null), ("b", .null)])]) =
      ({} : Loader).loadNode
        (.mapping [(.string "daemons", listForm [("a", .null), ("b", .null)])]) ∧
    sectionEntries "daemons" (some (listForm [("a", .null), ("a", .null)])) =
      .error (.configuration "daemons.a" "name" "duplicate name") := by
  have hsec : "daemons" ∈ recordSections := by decide
  have h := section_forms_load_alike ({} : Loader) hsec
  have hok : NameOk "a" := ⟨by decide, by decide⟩
  refine ⟨hsec, h.1 _ [] [] (by decide), ?_⟩
  exact (h.2.2 [("a", .null)] "a" .null [] [] [] (by decide) (by simpa using hok) (by simp)
    (by simp)).1

end Loader

end LabFleet.Config
