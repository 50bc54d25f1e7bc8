import LabFleet.Proofs.Config.RoundTrip

/-!
Strict and lenient loading, and the keys a document does not define.

A loader in strict mode refuses every key a document does not define: a top-level key other
than the version and the four sections, and a key of a record that its type has no field for.
A lenient loader passes those over, except a record key that is not a string, which both refuse.
So a strict load succeeds exactly when a lenient one does and the document has no unknown key,
and deleting a document's unknown top-level keys and the unknown string keys of its records
changes nothing a lenient loader gives. Deleting a record key that is not a string can: the
record is refused with it and read without it.

* `loadNode_congr_of_known`: a document with no unknown key loads alike in both modes.
* `loadNode_accepts`: a document loads only if each of its keys passes the loader's check.
* `loadNode_stripDocument`: a lenient loader gives the same for a document and for the document
  with its unknown keys deleted.
* `strict_and_lenient_loading`: the three together, for documents given as text.
-/

namespace LabFleet.Config

open Yaml Checks

set_option autoImplicit false

namespace Loader

/-! ## Unknown keys -/

/-- Whether a key names one of `fields`: a string, looking through tags, that `fields` lists. -/
def knownKey (fields : List String) (k : Node) : Bool :=
  match keyText k with
  | some key => fields.contains key
  | none => false

/-- Whether every key of a record's value names one of its fields; a value that is not a
mapping has no keys. -/
def recordKnown (fields : List String) : Node → Bool
  | .mapping entries => entries.all fun e => knownKey fields e.1
  | _ => true

/-- The records a section's value holds: the values of a mapping, or of each single-entry
mapping of a list. -/
def sectionRecords : Option Node → List Node
  | some (.mapping entries) => entries.map (·.2)
  | some (.sequence items) => items.flatMap fun
    | .mapping [(_, v)] => [v]
    | _ => []
  | _ => []

/-- The records of a document's entries, each with the fields of its type: the nameserver,
daemon and service records, and the autolaunch record. -/
def documentRecords (entries : List (Node × Node)) : List (List String × Node) :=
  (sectionRecords (lookup entries "nameservers")).map (NameserverProfile.fields, ·) ++
  (sectionRecords (lookup entries "daemons")).map (DaemonProfile.fields, ·) ++
  (sectionRecords (lookup entries "services")).map (ServiceBinding.fields, ·) ++
  (lookup entries "autolaunch").toList.map (Autolaunch.fields, ·)

/-- Whether a document has no unknown key: every top-level key is one a document defines, and
every key of every record names a field of the record's type. -/
def noUnknownKeys : Node → Bool
  | .mapping entries => entries.all (fun e => knownKey topLevelFields e.1) &&
    (documentRecords entries).all fun r => recordKnown r.1 r.2
  | _ => true

/-- Whether a loader lets a record key through: a string, naming a field unless the loader is
lenient. -/
def keyAccepted (l : Loader) (fields : List String) (k : Node) : Bool :=
  match keyText k with
  | some key => fields.contains key || !l.strict
  | none => false

/-- Whether a loader lets every key of a record's value through. -/
def recordAccepted (l : Loader) (fields : List String) : Node → Bool
  | .mapping entries => entries.all fun e => keyAccepted l fields e.1
  | _ => true

theorem keyAccepted_of_known {l : Loader} {fields : List String} {k : Node}
    (h : knownKey fields k = true) : keyAccepted l fields k = true := by
  unfold knownKey at h
  unfold keyAccepted
  split at h
  · next key _ => simp only [h, Bool.true_or]
  · cases h

theorem keyAccepted_strict {l : Loader} (hs : l.strict = true) (fields : List String) (k : Node) :
    keyAccepted l fields k = knownKey fields k := by
  unfold keyAccepted knownKey
  split <;> simp [hs]

theorem keyAccepted_lenient {l : Loader} (hs : l.strict = false) (fields : List String)
    (k : Node) : keyAccepted l fields k = (keyText k).isSome := by
  unfold keyAccepted
  split <;> simp_all

/-! ## Records -/

section Records

variable {α : Type} (reader : FieldReader α) (init : α) (fields : List String)
  (sectionName name : String)

theorem record_key_step (l : Loader) (label : String) (k : Node) :
    (match keyText k with
      | none => (throw (Error.configuration label "-" "field names must be strings") >>=
          fun (_ : PUnit) => pure (ForInStep.yield PUnit.unit) : Result (ForInStep PUnit))
      | some key => if (!fields.contains key) = true then
          l.unknownField label key >>= fun _ => pure (ForInStep.yield PUnit.unit)
        else pure (ForInStep.yield PUnit.unit)) = .ok (.yield PUnit.unit) ↔
      keyAccepted l fields k = true := by
  unfold keyAccepted
  cases keyText k with
  | none => simp [throw, throwThe, MonadExceptOf.throw, bind, Except.bind]
  | some key =>
    by_cases hc : key ∈ fields <;> cases hs : l.strict <;>
      simp [hc, hs, unknownField, bind, Except.bind, pure, Except.pure]

theorem record_key_step_yields (l : Loader) (label : String) (k : Node) (s : ForInStep PUnit)
    (h : (match keyText k with
      | none => (throw (Error.configuration label "-" "field names must be strings") >>=
          fun (_ : PUnit) => pure (ForInStep.yield PUnit.unit) : Result (ForInStep PUnit))
      | some key => if (!fields.contains key) = true then
          l.unknownField label key >>= fun _ => pure (ForInStep.yield PUnit.unit)
        else pure (ForInStep.yield PUnit.unit)) = .ok s) : s = .yield PUnit.unit := by
  revert h
  cases keyText k with
  | none => simp [throw, throwThe, MonadExceptOf.throw, bind, Except.bind]
  | some key =>
    by_cases hc : key ∈ fields <;> cases hs : l.strict <;>
      simp [hc, hs, unknownField, bind, Except.bind, pure, Except.pure, eq_comm]

theorem record_mapping_eq_ok_iff (l : Loader) (entries : List (Node × Node)) (r : α) :
    l.record reader init fields sectionName name (.mapping entries) = .ok r ↔
      (∀ e ∈ entries, keyAccepted l fields e.1 = true) ∧
        readRecord reader init entries = .ok r := by
  unfold record
  dsimp only
  rw [bind_eq_ok]
  -- the label the record's refusals carry
  generalize (if (name == "-") = true then sectionName else sectionName ++ "." ++ name) = label
  constructor
  · rintro ⟨u, hloop, hread⟩
    have hkeys := (forIn_unit_eq_ok fun e s h =>
      record_key_step_yields fields l label e.1 s h).1 hloop
    refine ⟨fun e he => (record_key_step fields l label e.1).1 (hkeys e he), ?_⟩
    split at hread
    · next r' hr' =>
      cases hread
      exact hr'
    · cases hread
  · rintro ⟨hkeys, hread⟩
    refine ⟨(), forIn_unit_ok fun e he =>
      (record_key_step fields l label e.1).2 (hkeys e he), ?_⟩
    simp [hread, pure, Except.pure]

theorem record_congr_of_known (l l' : Loader) {v : Node} (hv : recordKnown fields v = true) :
    l.record reader init fields sectionName name v =
      l'.record reader init fields sectionName name v := by
  cases v with
  | mapping entries =>
    have hkeys : ∀ e ∈ entries, knownKey fields e.1 = true := by simpa [recordKnown] using hv
    unfold record
    dsimp only
    generalize (if (name == "-") = true then sectionName else sectionName ++ "." ++ name) = label
    -- both loops over the keys pass every key
    rw [forIn_unit_ok ?first, forIn_unit_ok ?second]
    case first =>
      exact fun e he => (record_key_step fields l label e.1).2 (keyAccepted_of_known (hkeys e he))
    case second =>
      exact fun e he => (record_key_step fields l' label e.1).2 (keyAccepted_of_known (hkeys e he))
  | _ => rfl

theorem record_accepted (l : Loader) {v : Node} {r : α}
    (h : l.record reader init fields sectionName name v = .ok r) :
    recordAccepted l fields v = true := by
  cases v with
  | mapping entries =>
    have hkeys := ((record_mapping_eq_ok_iff reader init fields sectionName name l entries r).1 h).1
    simpa [recordAccepted] using hkeys
  | _ => rfl

/-! ### Deleting the keys a record's type does not define -/

/-- Whether a reader knows exactly the fields a list names. -/
def ReaderMatches (reader : FieldReader α) (fields : List String) : Prop :=
  ∀ key, (reader key).isSome = fields.contains key

/-- A record with the string keys its type does not define deleted; a key that is not a string
stays. -/
def stripRecord (fields : List String) : Node → Node
  | .mapping entries => .mapping (entries.filter fun e => (keyText e.1).all fields.contains)
  | v => v

theorem fieldName_eq_keyText (k : Node) : fieldName k = keyText k := rfl

theorem find?_filter_of_skip {β : Type} {xs : List β} {p q : β → Bool}
    (h : ∀ x ∈ xs, q x = false → p x = false) : (xs.filter q).find? p = xs.find? p := by
  induction xs with
  | nil => rfl
  | cons x rest ih =>
    have ih' := ih fun y hy => h y (List.mem_cons_of_mem _ hy)
    cases hq : q x with
    | false =>
      rw [List.filter_cons_of_neg (by simp [hq]),
        List.find?_cons_of_neg (by simp [h x List.mem_cons_self hq]), ih']
    | true => rw [List.filter_cons_of_pos hq, List.find?_cons, List.find?_cons, ih']

theorem readFields_filter (q : Node × Node → Bool) (entries : List (Node × Node))
    (hskip : ∀ e ∈ entries, q e = false →
      ∀ key, fieldName e.1 = some key → reader key = none) :
    readFields reader init (entries.filter q) = readFields reader init entries := by
  unfold readFields
  dsimp only
  rw [forIn_filter_of_skip fun e he hq b => ?_]
  cases hk : fieldName e.1 with
  | none => rfl
  | some key =>
    simp only [hskip e he hq key hk]
    rfl

theorem readRecord_filter (q : Node × Node → Bool) (entries : List (Node × Node))
    (hskip : ∀ e ∈ entries, q e = false →
      ∀ key, fieldName e.1 = some key → reader key = none) :
    readRecord reader init (entries.filter q) = readRecord reader init entries := by
  have hblame : (entries.filter q).find? (fun e => (readFields reader init [e]).toBool == false) =
      entries.find? (fun e => (readFields reader init [e]).toBool == false) := by
    refine find?_filter_of_skip fun e he hq => ?_
    have hone := readFields_filter reader init q [e] fun e' he' => by
      rw [List.mem_singleton.1 he']
      exact hskip e he
    rw [List.filter_cons_of_neg (by simp [hq]), List.filter_nil] at hone
    rw [← hone]
    rfl
  unfold readRecord
  rw [readFields_filter reader init q entries hskip, hblame]

theorem record_stripRecord (l : Loader) (hl : l.strict = false)
    (hreader : ReaderMatches reader fields) (v : Node) :
    l.record reader init fields sectionName name (stripRecord fields v) =
      l.record reader init fields sectionName name v := by
  cases v with
  | mapping entries =>
    -- an entry deleted has a string key outside the fields: no field reads it
    have hdeleted : ∀ e ∈ entries, (keyText e.1).all fields.contains = false →
        ∃ key, keyText e.1 = some key ∧ reader key = none := by
      intro e _ hq
      cases hk : keyText e.1 with
      | none => simp [hk] at hq
      | some key =>
        refine ⟨key, rfl, ?_⟩
        have hc : fields.contains key = false := by simpa [hk] using hq
        have hr := hreader key
        rw [hc] at hr
        cases hrk : reader key with
        | none => rfl
        | some set => simp [hrk] at hr
    unfold stripRecord record
    dsimp only
    generalize (if (name == "-") = true then sectionName else sectionName ++ "." ++ name) = label
    rw [forIn_filter_of_skip ?keys, readRecord_filter reader init _ entries ?fields]
    case keys =>
      intro e he hq u
      obtain ⟨key, hk, -⟩ := hdeleted e he hq
      have hpass := (record_key_step fields l label e.1).2
        (by rw [keyAccepted_lenient hl, hk]; rfl)
      exact hpass
    case fields =>
      intro e he hq key hk
      obtain ⟨key', hk', hr⟩ := hdeleted e he hq
      rw [fieldName_eq_keyText, hk'] at hk
      cases hk
      exact hr
  | _ => rfl

end Records

/-! ## The top level -/

theorem topLevel_key_step (l : Loader) (k : Node) :
    (if (!topLevelFields.contains ((keyText k).getD "<non-string>")) = true then
        l.unknownField "<document>" ((keyText k).getD "<non-string>") >>= fun _ =>
          (pure (ForInStep.yield PUnit.unit) : Result (ForInStep PUnit))
      else pure (ForInStep.yield PUnit.unit)) = .ok (.yield PUnit.unit) ↔
      (knownKey topLevelFields k || !l.strict) = true := by
  -- a key that is not a string is checked under a name no document defines
  have hname : topLevelFields.contains ((keyText k).getD "<non-string>") =
      knownKey topLevelFields k := by
    unfold knownKey
    cases keyText k <;> rfl
  rw [hname]
  cases knownKey topLevelFields k <;> cases hs : l.strict <;>
    simp [unknownField, hs, bind, Except.bind, pure, Except.pure]

theorem topLevel_key_step_yields (l : Loader) (k : Node) (s : ForInStep PUnit)
    (h : (if (!topLevelFields.contains ((keyText k).getD "<non-string>")) = true then
        l.unknownField "<document>" ((keyText k).getD "<non-string>") >>= fun _ =>
          (pure (ForInStep.yield PUnit.unit) : Result (ForInStep PUnit))
      else pure (ForInStep.yield PUnit.unit)) = .ok s) : s = .yield PUnit.unit := by
  revert h
  cases topLevelFields.contains ((keyText k).getD "<non-string>") <;> cases hs : l.strict <;>
    simp [unknownField, hs, bind, Except.bind, pure, Except.pure, eq_comm]

theorem checkTopLevel_eq_ok_iff (l : Loader) (entries : List (Node × Node)) :
    l.checkTopLevel entries = .ok () ↔
      ∀ e ∈ entries, (knownKey topLevelFields e.1 || !l.strict) = true := by
  unfold checkTopLevel
  dsimp only
  rw [bind_eq_ok]
  constructor
  · rintro ⟨u, hloop, -⟩
    have hkeys := (forIn_unit_eq_ok fun e s h => topLevel_key_step_yields l e.1 s h).1 hloop
    exact fun e he => (topLevel_key_step l e.1).1 (hkeys e he)
  · intro hkeys
    exact ⟨(), forIn_unit_ok fun e he => (topLevel_key_step l e.1).2 (hkeys e he), rfl⟩

/-! ## Sections -/

/-- A single-entry mapping of a list section with its record stripped; any other item stays. -/
def stripListEntry (fields : List String) : Node → Node
  | .mapping [(k, v)] => .mapping [(k, stripRecord fields v)]
  | item => item

/-- A section's value with each of its records stripped. -/
def stripSection (fields : List String) : Node → Node
  | .mapping entries => .mapping (entries.map fun e => (e.1, stripRecord fields e.2))
  | .sequence items => .sequence (items.map (stripListEntry fields))
  | v => v

theorem sectionRecords_sequence_append (pre : List Node) (k v : Node) :
    sectionRecords (some (.sequence (pre ++ [.mapping [(k, v)]]))) =
      sectionRecords (some (.sequence pre)) ++ [v] := by
  simp [sectionRecords]

theorem sectionEntries_records {sectionName : String} {v : Option Node}
    {named : List (String × Node)} (h : sectionEntries sectionName v = .ok named) :
    named.map (·.2) = sectionRecords v := by
  unfold sectionEntries at h
  split at h
  · cases h
    rfl
  · cases h
    rfl
  · -- a mapping: each entry keeps its record under its checked name
    next entries =>
    induction entries generalizing named with
    | nil =>
      cases h
      rfl
    | cons e rest ih =>
      rw [List.mapM_cons] at h
      obtain ⟨p, hp, h⟩ := bind_eq_ok.1 h
      obtain ⟨ps, hps, h⟩ := bind_eq_ok.1 h
      cases h
      obtain ⟨name, -, hp⟩ := bind_eq_ok.1 hp
      cases hp
      have hrest := ih hps
      simp only [sectionRecords, List.map_cons] at hrest ⊢
      rw [hrest]
  · -- a list: each single-entry mapping adds its record, anything else is refused
    next items =>
    obtain ⟨st, hst, h⟩ := bind_eq_ok.1 h
    cases h
    refine forIn_prefix_inv (fun pre (st : List String × List (String × Node)) =>
      st.2.map (·.2) = sectionRecords (some (.sequence pre))) rfl
      (fun pre item st step hpre hstep => ?_) hst
    split at hstep
    · next k v =>
      obtain ⟨name, -, hstep⟩ := bind_eq_ok.1 hstep
      split at hstep
      · simp [throw, throwThe, MonadExceptOf.throw, bind, Except.bind] at hstep
      · cases hstep
        refine ⟨_, rfl, ?_⟩
        simp only [List.map_append, hpre, sectionRecords_sequence_append]
        rfl
    · simp [throw, throwThe, MonadExceptOf.throw, bind, Except.bind] at hstep
  · cases h

theorem map_state_records {ε β : Type} (x : Except ε (List String × List (String × β)))
    (h : β → β) :
    (x.map (fun st => (st.1, st.2.map fun e => (e.1, h e.2))) >>= fun st => pure st.2) =
      (x >>= fun st => pure st.2).map (List.map fun e => (e.1, h e.2)) := by
  cases x <;> rfl

theorem sectionEntries_stripSection (sectionName : String) (fields : List String) (v : Node) :
    sectionEntries sectionName (some (stripSection fields v)) =
      (sectionEntries sectionName (some v)).map
        (List.map fun e => (e.1, stripRecord fields e.2)) := by
  cases v with
  | mapping entries =>
    unfold sectionEntries stripSection
    dsimp only
    rw [List.mapM_map]
    refine mapM_map_result _ fun e _ => ?_
    simp only [Function.comp]
    cases entryName sectionName e.1 <;> rfl
  | sequence items =>
    unfold sectionEntries stripSection
    dsimp only
    rw [List.forIn_map]
    -- the stripped walk holds the names seen and the records so far, stripped
    refine (congrArg (· >>= fun st => pure st.2) (@forIn_map_state _ _ _ _ items ([], []) _ _
      (fun st : List String × List (String × Node) =>
        (st.1, st.2.map fun e => (e.1, stripRecord fields e.2))) ?_)).trans
      (map_state_records _ _)
    intro item _ st
    cases item with
    | mapping es =>
      match es with
      | [(k, x)] =>
        simp only [stripListEntry]
        cases entryName sectionName k with
        | error err => rfl
        | ok name =>
          by_cases hseen : name ∈ st.1
          · simp [hseen, throw, throwThe, MonadExceptOf.throw, bind, Except.bind, Except.map]
          · simp [hseen, bind, Except.bind, Except.map, pure, Except.pure]
      | [] => rfl
      | _ :: _ :: _ => rfl
    | _ => rfl
  | _ => rfl

theorem readerMatches_nameserver :
    ReaderMatches NameserverProfile.reader NameserverProfile.fields := by
  intro key
  unfold NameserverProfile.reader
  split <;> simp_all [NameserverProfile.fields]

theorem readerMatches_daemon : ReaderMatches DaemonProfile.reader DaemonProfile.fields := by
  intro key
  unfold DaemonProfile.reader
  split <;> simp_all [DaemonProfile.fields]

theorem readerMatches_service : ReaderMatches ServiceBinding.reader ServiceBinding.fields := by
  intro key
  unfold ServiceBinding.reader
  split <;> simp_all [ServiceBinding.fields]

theorem readerMatches_autolaunch : ReaderMatches Autolaunch.reader Autolaunch.fields := by
  intro key
  unfold Autolaunch.reader
  split <;> simp_all [Autolaunch.fields]

section Sections

variable {α : Type} (reader : FieldReader α) (base : α) (fields : List String)
  (sectionName : String)

theorem readSection_congr_of_known (l l' : Loader) (entries : List (Node × Node))
    (init : NameMap α)
    (hknown : ∀ v ∈ sectionRecords (lookup entries sectionName), recordKnown fields v = true) :
    l.readSection reader base fields sectionName entries init =
      l'.readSection reader base fields sectionName entries init := by
  unfold readSection
  cases hs : sectionEntries sectionName (lookup entries sectionName) with
  | error e => rfl
  | ok named =>
    have hrec := sectionEntries_records hs
    simp only [ok_bind]
    refine congrArg (· >>= _) (forIn_congr_mem fun e he b => ?_)
    have hv : recordKnown fields e.2 = true :=
      hknown e.2 (hrec ▸ List.mem_map_of_mem he)
    rw [record_congr_of_known reader base fields sectionName e.1 l l' hv]

theorem readSection_accepted (l : Loader) (entries : List (Node × Node)) (init : NameMap α)
    {m : NameMap α} (h : l.readSection reader base fields sectionName entries init = .ok m) :
    ∀ v ∈ sectionRecords (lookup entries sectionName), recordAccepted l fields v = true := by
  unfold readSection at h
  obtain ⟨named, hs, h⟩ := bind_eq_ok.1 h
  obtain ⟨m', hm', -⟩ := bind_eq_ok.1 h
  -- every record the walk passed was read
  have hall := forIn_prefix_inv (fun pre (_ : NameMap α) => ∀ e ∈ pre,
      recordAccepted l fields e.2 = true) (fun _ h => nomatch h)
    (fun pre e b step hpre hstep => ?_) hm'
  · intro v hv
    rw [← sectionEntries_records hs] at hv
    obtain ⟨e, he, rfl⟩ := List.mem_map.1 hv
    exact hall e he
  · obtain ⟨p, hp, hstep⟩ := bind_eq_ok.1 hstep
    cases hstep
    refine ⟨_, rfl, fun e' he' => ?_⟩
    rcases List.mem_append.1 he' with he' | he'
    · exact hpre e' he'
    · rw [List.mem_singleton.1 he']
      exact record_accepted reader base fields sectionName e.1 l hp

theorem readSection_stripSection (l : Loader) (hl : l.strict = false)
    (hreader : ReaderMatches reader fields) {entries entries' : List (Node × Node)}
    (hlook : lookup entries' sectionName = (lookup entries sectionName).map (stripSection fields))
    (init : NameMap α) :
    l.readSection reader base fields sectionName entries' init =
      l.readSection reader base fields sectionName entries init := by
  unfold readSection
  rw [hlook]
  cases lookup entries sectionName with
  | none => rfl
  | some v =>
    rw [Option.map_some, sectionEntries_stripSection]
    cases sectionEntries sectionName (some v) with
    | error e => rfl
    | ok named =>
      simp only [Except.map, ok_bind, List.forIn_map]
      refine congrArg (· >>= _) (forIn_congr_mem fun e _ b => ?_)
      rw [record_stripRecord reader base fields sectionName e.1 l hl hreader]

end Sections

/-! ## The autolaunch record -/

theorem readAutolaunch_congr_of_known (l l' : Loader) (entries : List (Node × Node))
    (hknown : ∀ v, lookup entries "autolaunch" = some v →
      recordKnown Autolaunch.fields v = true) :
    l.readAutolaunch entries = l'.readAutolaunch entries := by
  unfold readAutolaunch
  cases hv : lookup entries "autolaunch" with
  | none => rfl
  | some v =>
    exact record_congr_of_known Autolaunch.reader {} Autolaunch.fields "autolaunch" "-" l l'
      (hknown v hv)

theorem readAutolaunch_accepted (l : Loader) (entries : List (Node × Node)) {a : Autolaunch}
    (h : l.readAutolaunch entries = .ok a) :
    ∀ v, lookup entries "autolaunch" = some v →
      recordAccepted l Autolaunch.fields v = true := by
  intro v hv
  unfold readAutolaunch at h
  rw [hv] at h
  exact record_accepted Autolaunch.reader {} Autolaunch.fields "autolaunch" "-" l h

theorem readAutolaunch_stripRecord (l : Loader) (hl : l.strict = false)
    {entries entries' : List (Node × Node)}
    (hlook : lookup entries' "autolaunch" =
      (lookup entries "autolaunch").map (stripRecord Autolaunch.fields)) :
    l.readAutolaunch entries' = l.readAutolaunch entries := by
  unfold readAutolaunch
  rw [hlook]
  cases lookup entries "autolaunch" with
  | none => rfl
  | some v =>
    exact record_stripRecord Autolaunch.reader {} Autolaunch.fields "autolaunch" "-" l hl
      readerMatches_autolaunch v

/-! ## Deleting a document's unknown keys -/

/-- The value of a top-level key with its records stripped, for the three sections and the
autolaunch record. -/
def stripValue (key : Node) (v : Node) : Node :=
  match keyText key with
  | some "nameservers" => stripSection NameserverProfile.fields v
  | some "daemons" => stripSection DaemonProfile.fields v
  | some "services" => stripSection ServiceBinding.fields v
  | some "autolaunch" => stripRecord Autolaunch.fields v
  | _ => v

/-- A document's top-level entries without the keys a document does not define, each value
stripped. -/
def stripEntries (entries : List (Node × Node)) : List (Node × Node) :=
  (entries.filter fun e => knownKey topLevelFields e.1).map fun e => (e.1, stripValue e.1 e.2)

/-- A document with its unknown keys deleted: the top-level keys it does not define, and the
string keys of its records that their types do not define. -/
def stripDocument : Node → Node
  | .mapping entries => .mapping (stripEntries entries)
  | root => root

theorem lookup_cons_of_ne {k : Node} {key : String} (h : k ≠ .string key) (v : Node)
    (rest : List (Node × Node)) : lookup ((k, v) :: rest) key = lookup rest key := by
  unfold lookup
  cases k <;> simp_all

theorem lookup_stripEntries (entries : List (Node × Node)) {key : String}
    (hkey : key ∈ topLevelFields) :
    lookup (stripEntries entries) key = (lookup entries key).map (stripValue (.string key)) := by
  induction entries with
  | nil => rfl
  | cons e rest ih =>
    obtain ⟨k, v⟩ := e
    unfold stripEntries at ih ⊢
    by_cases hk : k = .string key
    · -- the entry looked up names a key a document defines, so it stays
      subst hk
      have hknown : knownKey topLevelFields (.string key) = true := by
        simpa [knownKey, keyText, Read.untag] using hkey
      simp only [List.filter_cons, hknown, if_true, List.map_cons, lookup_cons_string,
        Option.map_some]
    · rw [lookup_cons_of_ne hk, ← ih, List.filter_cons]
      by_cases hq : knownKey topLevelFields k = true
      · rw [if_pos hq, List.map_cons, lookup_cons_of_ne hk]
      · rw [if_neg hq]

theorem checkTopLevel_lenient (l : Loader) (hl : l.strict = false) (entries : List (Node × Node)) :
    l.checkTopLevel entries = .ok () :=
  (checkTopLevel_eq_ok_iff l entries).2 fun _ _ => by simp [hl]

theorem readVersion_stripEntries (entries : List (Node × Node)) :
    readVersion (stripEntries entries) = readVersion entries := by
  unfold readVersion
  rw [lookup_stripEntries entries (by decide)]
  cases lookup entries "version" <;> rfl

theorem loadNode_stripDocument (l : Loader) (hl : l.strict = false) (root : Node) :
    l.loadNode (stripDocument root) = l.loadNode root := by
  cases root with
  | mapping entries =>
    -- each section and the autolaunch record are looked up stripped
    have hns : lookup (stripEntries entries) "nameservers" =
        (lookup entries "nameservers").map (stripSection NameserverProfile.fields) :=
      lookup_stripEntries entries (by decide)
    have hds : lookup (stripEntries entries) "daemons" =
        (lookup entries "daemons").map (stripSection DaemonProfile.fields) :=
      lookup_stripEntries entries (by decide)
    have hss : lookup (stripEntries entries) "services" =
        (lookup entries "services").map (stripSection ServiceBinding.fields) :=
      lookup_stripEntries entries (by decide)
    have has : lookup (stripEntries entries) "autolaunch" =
        (lookup entries "autolaunch").map (stripRecord Autolaunch.fields) :=
      lookup_stripEntries entries (by decide)
    unfold stripDocument loadNode
    simp only [topLevelEntries, ok_bind]
    rw [checkTopLevel_lenient l hl, checkTopLevel_lenient l hl, readVersion_stripEntries,
      readSection_stripSection _ _ _ _ l hl readerMatches_nameserver hns,
      readSection_stripSection _ _ _ _ l hl readerMatches_daemon hds,
      readSection_stripSection _ _ _ _ l hl readerMatches_service hss,
      readAutolaunch_stripRecord l hl has]
  | _ => rfl

/-! ## Loading in either mode -/

/-- Whether a loader lets every key of a document through: each top-level key, and each key of
each record it reads. -/
def documentAccepted (l : Loader) : Node → Bool
  | .mapping entries => entries.all (fun e => knownKey topLevelFields e.1 || !l.strict) &&
    (documentRecords entries).all fun r => recordAccepted l r.1 r.2
  | _ => true

theorem recordAccepted_strict {l : Loader} (hs : l.strict = true) (fields : List String)
    (v : Node) : recordAccepted l fields v = recordKnown fields v := by
  cases v <;> simp [recordAccepted, recordKnown, keyAccepted_strict hs]

theorem documentAccepted_strict {l : Loader} (hs : l.strict = true) (root : Node) :
    documentAccepted l root = noUnknownKeys root := by
  cases root <;> simp [documentAccepted, noUnknownKeys, hs, recordAccepted_strict hs]

theorem mem_documentRecords {entries : List (Node × Node)} {r : List String × Node}
    (hr : r ∈ documentRecords entries) :
    (∃ v ∈ sectionRecords (lookup entries "nameservers"), r = (NameserverProfile.fields, v)) ∨
    (∃ v ∈ sectionRecords (lookup entries "daemons"), r = (DaemonProfile.fields, v)) ∨
    (∃ v ∈ sectionRecords (lookup entries "services"), r = (ServiceBinding.fields, v)) ∨
    (∃ v, lookup entries "autolaunch" = some v ∧ r = (Autolaunch.fields, v)) := by
  simp only [documentRecords, List.mem_append, List.mem_map, Option.mem_toList] at hr
  rcases hr with ((⟨v, hv, rfl⟩ | ⟨v, hv, rfl⟩) | ⟨v, hv, rfl⟩) | ⟨v, hv, rfl⟩
  · exact .inl ⟨v, hv, rfl⟩
  · exact .inr (.inl ⟨v, hv, rfl⟩)
  · exact .inr (.inr (.inl ⟨v, hv, rfl⟩))
  · exact .inr (.inr (.inr ⟨v, hv, rfl⟩))

theorem loadNode_accepts (l : Loader) {root : Node} {c : LabConfig}
    (h : l.loadNode root = .ok c) : documentAccepted l root = true := by
  unfold loadNode at h
  obtain ⟨es, hes, h⟩ := bind_eq_ok.1 h
  obtain ⟨u, htop, h⟩ := bind_eq_ok.1 h
  obtain ⟨version, -, h⟩ := bind_eq_ok.1 h
  obtain ⟨ns, hns, h⟩ := bind_eq_ok.1 h
  obtain ⟨ds, hds, h⟩ := bind_eq_ok.1 h
  obtain ⟨ss, hss, h⟩ := bind_eq_ok.1 h
  obtain ⟨a, ha, -⟩ := bind_eq_ok.1 h
  cases root with
  | mapping entries =>
    have hent : entries = es := by cases hes; rfl
    subst hent
    simp only [documentAccepted, Bool.and_eq_true, List.all_eq_true]
    refine ⟨(checkTopLevel_eq_ok_iff l entries).1 htop, fun r hr => ?_⟩
    rcases mem_documentRecords hr with
      ⟨v, hv, rfl⟩ | ⟨v, hv, rfl⟩ | ⟨v, hv, rfl⟩ | ⟨v, hv, rfl⟩
    · exact readSection_accepted _ _ _ _ l entries _ hns v hv
    · exact readSection_accepted _ _ _ _ l entries _ hds v hv
    · exact readSection_accepted _ _ _ _ l entries _ hss v hv
    · exact readAutolaunch_accepted l entries ha v hv
  | _ => rfl

theorem noUnknownKeys_entries {root : Node} {entries : List (Node × Node)}
    (hk : noUnknownKeys root = true) (hes : topLevelEntries root = .ok entries) :
    (∀ e ∈ entries, knownKey topLevelFields e.1 = true) ∧
      ∀ r ∈ documentRecords entries, recordKnown r.1 r.2 = true := by
  cases root with
  | null =>
    cases hes
    simp [documentRecords, lookup, sectionRecords]
  | mapping es =>
    cases hes
    simpa [noUnknownKeys] using hk
  | _ => simp [topLevelEntries, throw, throwThe, MonadExceptOf.throw] at hes

theorem loadNode_congr_of_known (l l' : Loader) (hcat : l.catalog = l'.catalog) {root : Node}
    (hk : noUnknownKeys root = true) : l.loadNode root = l'.loadNode root := by
  unfold loadNode
  cases hes : topLevelEntries root with
  | error e => rfl
  | ok entries =>
    obtain ⟨htop, hrec⟩ := noUnknownKeys_entries hk hes
    have hpass : ∀ l : Loader, l.checkTopLevel entries = .ok () := fun l =>
      (checkTopLevel_eq_ok_iff l entries).2 fun e he => by simp [htop e he]
    -- the records each part reads are records of the document
    have hns : ∀ v ∈ sectionRecords (lookup entries "nameservers"),
        recordKnown NameserverProfile.fields v = true := fun v hv =>
      hrec (NameserverProfile.fields, v) (by simp [documentRecords, hv])
    have hds : ∀ v ∈ sectionRecords (lookup entries "daemons"),
        recordKnown DaemonProfile.fields v = true := fun v hv =>
      hrec (DaemonProfile.fields, v) (by simp [documentRecords, hv])
    have hss : ∀ v ∈ sectionRecords (lookup entries "services"),
        recordKnown ServiceBinding.fields v = true := fun v hv =>
      hrec (ServiceBinding.fields, v) (by simp [documentRecords, hv])
    have has : ∀ v, lookup entries "autolaunch" = some v →
        recordKnown Autolaunch.fields v = true := fun v hv =>
      hrec (Autolaunch.fields, v) (by simp [documentRecords, hv])
    simp only [ok_bind]
    rw [hpass l, hpass l', ok_bind, ok_bind,
      readSection_congr_of_known _ _ _ _ l l' entries _ hns,
      readSection_congr_of_known _ _ _ _ l l' entries _ hds,
      readSection_congr_of_known _ _ _ _ l l' entries _ hss,
      readAutolaunch_congr_of_known l l' entries has, hcat]

theorem loadNode_strict_iff (l : Loader) (root : Node) (c : LabConfig) :
    { l with strict := true }.loadNode root = .ok c ↔
      { l with strict := false }.loadNode root = .ok c ∧ noUnknownKeys root = true := by
  constructor
  · intro h
    have hk : noUnknownKeys root = true := by
      rw [← documentAccepted_strict (l := { l with strict := true }) rfl]
      exact loadNode_accepts _ h
    exact ⟨(loadNode_congr_of_known { l with strict := false } { l with strict := true } rfl
      hk).trans h, hk⟩
  · rintro ⟨h, hk⟩
    exact (loadNode_congr_of_known { l with strict := false } { l with strict := true } rfl
      hk).symm.trans h

/-- A record key that is not a string is no field, yet deleting it can change a lenient load:
the record is refused with it and read without it. -/
theorem nonString_record_key_refused :
    ({} : Loader).loadNode (.mapping [(.string "daemons",
        .mapping [(.string "d", .mapping [(.number (.nat 1), .string "x")])])]) =
      .error (.configuration "daemons.d" "-" "field names must be strings") ∧
    (({} : Loader).loadNode (.mapping [(.string "daemons",
        .mapping [(.string "d", .mapping [])])])).toBool = true := by
  constructor
  · rfl
  · decide +kernel

theorem load_eq_bind (l : Loader) (text : String) :
    l.load text = readDocument text >>= l.loadNode := rfl

/-- Strict and lenient loading of a text. A strict load succeeds exactly when a lenient one does
and the document has no unknown key, and then to the same configuration. A lenient loader gives
the same, configuration or refusal, for two texts whose documents differ by the unknown keys
deleted from one. And a load in either mode lets every key of the document through the loader's
check, so a record key that is not a string is refused in both. -/
theorem strict_and_lenient_loading (l : Loader) (text : String) (c : LabConfig) :
    ({ l with strict := true }.load text = .ok c ↔
      { l with strict := false }.load text = .ok c ∧
        ∀ root, readDocument text = .ok root → noUnknownKeys root = true) ∧
    (∀ text' root, readDocument text = .ok root →
      readDocument text' = .ok (stripDocument root) →
      { l with strict := false }.load text' = { l with strict := false }.load text) ∧
    (∀ root, readDocument text = .ok root → l.load text = .ok c →
      documentAccepted l root = true) := by
  refine ⟨?strict, fun text' root hroot hroot' => ?strip, fun root hroot h => ?accepts⟩
  case strict =>
    rw [load_eq_bind, load_eq_bind]
    cases hroot : readDocument text with
    | error e => simp [bind, Except.bind]
    | ok root =>
      simp only [ok_bind, Except.ok.injEq, forall_eq']
      exact loadNode_strict_iff l root c
  case strip =>
    rw [load_eq_bind, load_eq_bind, hroot, hroot', ok_bind, ok_bind, loadNode_stripDocument _ rfl]
  case accepts =>
    rw [load_eq_bind, hroot, ok_bind] at h
    exact loadNode_accepts l h

end Loader

end LabFleet.Config
