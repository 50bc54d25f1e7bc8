import LabFleet.Proofs.Config.Sections

/-!
Saving a configuration and loading it back.

A configuration is kept as a document: the merged view writes every record, the diff view only
what differs from the defaults, leaving out a built-in `default` profile still at its defaults.
Loading puts the built-in profiles back before it reads the sections (`loadNode_builtins`). So
a configuration that loading made, or that renaming made from one, loads back from either view
as itself, as long as both built-in profiles are still there (`persisted_round_trip`). A rename
that moves a built-in profile away breaks this: its document reads back with the built-in
profile put back, a profile the configuration does not have (`renamed_default_returns`).

What the round trip rests on is what loading establishes and renaming keeps
(`LabConfig.Wellformed`): the configuration is valid, its maps are sorted and its records fit
the widths their fields are read with.
-/

namespace LabFleet.Config

open Yaml NameMap Checks

set_option autoImplicit false

/-- A configuration as loading makes one: valid, with sorted maps of fitting records. -/
structure LabConfig.Wellformed (c : LabConfig) (catalog : Option Catalog) : Prop where
  valid : c.Valid catalog
  nameservers : Sorted c.nameservers ∧ ∀ e ∈ c.nameservers, e.2.Fits
  daemons : Sorted c.daemons ∧ ∀ e ∈ c.daemons, e.2.Fits
  services : Sorted c.services ∧ ∀ e ∈ c.services, e.2.Fits

/-! ## Loading makes well-formed configurations -/

theorem Loader.loadNode_eq_ok {l : Loader} {root : Node} {c : LabConfig}
    (h : l.loadNode root = .ok c) :
    ∃ entries, Loader.topLevelEntries root = .ok entries ∧
      l.readSection NameserverProfile.reader {} NameserverProfile.fields "nameservers" entries
        ({} : LabConfig).nameservers = .ok c.nameservers ∧
      l.readSection DaemonProfile.reader {} DaemonProfile.fields "daemons" entries
        ({} : LabConfig).daemons = .ok c.daemons ∧
      l.readSection ServiceBinding.reader {} ServiceBinding.fields "services" entries
        ({} : LabConfig).services = .ok c.services ∧
      c.Valid l.catalog := by
  unfold Loader.loadNode at h
  obtain ⟨entries, hentries, h⟩ := bind_eq_ok.1 h
  obtain ⟨_, -, h⟩ := bind_eq_ok.1 h
  obtain ⟨version, -, h⟩ := bind_eq_ok.1 h
  dsimp only at h
  obtain ⟨ns, hns, h⟩ := bind_eq_ok.1 h
  obtain ⟨ds, hds, h⟩ := bind_eq_ok.1 h
  obtain ⟨sv, hsv, h⟩ := bind_eq_ok.1 h
  obtain ⟨auto, -, h⟩ := bind_eq_ok.1 h
  obtain ⟨_, hvalid, h⟩ := bind_eq_ok.1 h
  cases h
  exact ⟨entries, hentries, hns, hds, hsv, valid_of_validate hvalid⟩

/-- **Loading puts the built-in profiles back**: whatever the document names, a loaded
configuration has the built-in nameserver and daemon profiles. -/
theorem loadNode_builtins {l : Loader} {root : Node} {c : LabConfig}
    (h : l.loadNode root = .ok c) :
    c.nameservers.contains defaultProfile = true ∧ c.daemons.contains defaultProfile = true := by
  obtain ⟨_, -, hns, hds, -, -⟩ := Loader.loadNode_eq_ok h
  -- each profile section starts from the map holding its built-in profile
  have hbuiltin : ∀ {β : Type} (b : β), defaultProfile ∈ keys [(defaultProfile, b)] :=
    fun _ => List.mem_singleton_self _
  exact ⟨contains_iff_mem_keys.2 (Loader.readSection_keys l hns _ (hbuiltin _)),
    contains_iff_mem_keys.2 (Loader.readSection_keys l hds _ (hbuiltin _))⟩

/-- **Loading gives a well-formed configuration**, from any value of a loaded document. -/
theorem loadNode_wellformed {l : Loader} {root : Node} {c : LabConfig} (hroot : root.Canonical)
    (h : l.loadNode root = .ok c) : c.Wellformed l.catalog := by
  obtain ⟨entries, hentries, hns, hds, hsv, hvalid⟩ := Loader.loadNode_eq_ok h
  -- the top level is null or a mapping of the document
  have hcanon : ∀ e ∈ entries, e.2.Canonical := by
    unfold Loader.topLevelEntries at hentries
    split at hentries
    · cases hentries
      exact fun _ h => nomatch h
    · cases hentries
      cases hroot with
      | mapping _ hv => exact hv
    · cases hentries
  -- each section starts from the built-in records, which fit
  have hbuiltin : ∀ {β : Type} (Fits : β → Prop) (b : β), Fits b →
      Sorted [(defaultProfile, b)] ∧ ∀ e ∈ [(defaultProfile, b)], Fits e.2 :=
    fun _ b hb => ⟨List.pairwise_singleton _ _, fun e he => by
      rw [List.mem_singleton.1 he]
      exact hb⟩
  exact {
    valid := hvalid
    nameservers :=
      have hb := hbuiltin NameserverProfile.Fits {} NameserverProfile.default_fits
      Loader.readSection_inv l NameserverProfile.Fits hb.1 hb.2 NameserverProfile.default_fits
        (fun _ _ hr _ _ _ _ hf hs => NameserverProfile.set_fits hr hf hs) hcanon hns
    daemons :=
      have hb := hbuiltin DaemonProfile.Fits {} DaemonProfile.default_fits
      Loader.readSection_inv l DaemonProfile.Fits hb.1 hb.2 DaemonProfile.default_fits
        (fun _ _ hr _ _ _ _ hf hs => DaemonProfile.set_fits hr hf hs) hcanon hds
    services := Loader.readSection_inv l ServiceBinding.Fits List.Pairwise.nil (by simp)
      ServiceBinding.default_fits
      (fun _ _ hr _ _ _ hx hf hs => ServiceBinding.set_fits hr hx hf hs) hcanon hsv }

theorem Loader.load_eq_ok {l : Loader} {text : String} {c : LabConfig}
    (h : l.load text = .ok c) :
    ∃ root, Node.load text = .ok root ∧ l.loadNode root = .ok c := by
  unfold Loader.load at h
  obtain ⟨root, hroot, h⟩ := bind_eq_ok.1 h
  unfold Loader.readDocument at hroot
  split at hroot
  · next n hn =>
    cases hroot
    exact ⟨root, hn, h⟩
  · cases hroot

/-! ## Renaming keeps a configuration well-formed -/

namespace LabConfig.Wellformed

variable {c c' : LabConfig} {catalog : Option Catalog} {old new : String}

theorem moved {β : Type} {Fits : β → Prop} {m : NameMap β} {p : β}
    (hm : Sorted m ∧ ∀ e ∈ m, Fits e.2) (hp : (old, p) ∈ m) :
    Sorted (NameMap.insert new p (NameMap.erase old m)) ∧
      ∀ e ∈ NameMap.insert new p (NameMap.erase old m), Fits e.2 := by
  refine ⟨(hm.1.erase old).insert new p, fun e he => ?_⟩
  rcases mem_moved he with rfl | he
  · exact hm.2 (old, p) hp
  · exact hm.2 e he

theorem retargeted {β : Type} {Fits : β → Prop} {m : NameMap β} {f : String × β → β}
    (hm : Sorted m ∧ ∀ e ∈ m, Fits e.2) (hf : ∀ e, Fits e.2 → Fits (f e)) :
    Sorted (m.map fun e => (e.1, f e)) ∧ ∀ e ∈ m.map (fun e => (e.1, f e)), Fits e.2 := by
  refine ⟨hm.1.map fun _ => rfl, fun e he => ?_⟩
  obtain ⟨e', he', rfl⟩ := List.mem_map.1 he
  exact hf e' (hm.2 e' he')

theorem rename_nameserver (hw : c.Wellformed catalog)
    (h : c.rename .nameserver old new = .ok c') : c'.Wellformed catalog := by
  have hv := hw.valid.rename_nameserver h
  obtain ⟨-, -, p, hp, rfl⟩ := rename_nameserver_eq_ok h
  exact {
    valid := hv
    nameservers := moved hw.nameservers hp
    daemons := retargeted hw.daemons fun _ hb => hb
    services := retargeted hw.services fun _ hb => hb }

theorem rename_daemon (hw : c.Wellformed catalog) (h : c.rename .daemon old new = .ok c') :
    c'.Wellformed catalog := by
  have hv := hw.valid.rename_daemon h
  obtain ⟨-, -, p, hp, rfl⟩ := rename_daemon_eq_ok h
  refine {
    valid := hv
    nameservers := hw.nameservers
    daemons := moved hw.daemons hp
    services := retargeted hw.services fun b hb => ?_ }
  -- a binding moved to the new daemon keeps its parameters
  dsimp only
  split
  · exact hb
  · exact hb

theorem renameService (hw : c.Wellformed catalog) (h : c.renameService old new = .ok c') :
    c'.Wellformed catalog := by
  have hv := hw.valid.renameService h
  obtain ⟨-, -, b, hb, rfl⟩ := renameService_eq_ok h
  exact { hw with
    valid := hv
    services := moved hw.services hb }

theorem rename {kind : ProfileKind} (hw : c.Wellformed catalog)
    (h : c.rename kind old new = .ok c') : c'.Wellformed catalog := by
  cases kind with
  | nameserver => exact hw.rename_nameserver h
  | daemon => exact hw.rename_daemon h

end LabConfig.Wellformed

/-- The configurations a supervisor keeps: one loaded from the value of a document, then renamed
any number of times, a profile or a binding at a time. The value is any with canonical numbers,
which every value loaded from a text is (`Persisted.ofLoad`). -/
inductive Persisted (l : Loader) : LabConfig → Prop
  | loaded {root : Node} {c : LabConfig} (hroot : root.Canonical) (h : l.loadNode root = .ok c) :
      Persisted l c
  | renamed {c c' : LabConfig} (kind : ProfileKind) (old new : String) (hc : Persisted l c)
      (h : c.rename kind old new = .ok c') : Persisted l c'
  | renamedService {c c' : LabConfig} (old new : String) (hc : Persisted l c)
      (h : c.renameService old new = .ok c') : Persisted l c'

theorem Persisted.ofLoad {l : Loader} {text : String} {c : LabConfig}
    (h : l.load text = .ok c) : Persisted l c := by
  obtain ⟨root, hroot, h⟩ := Loader.load_eq_ok h
  exact .loaded (Node.load_canonical hroot) h

theorem Persisted.wellformed {l : Loader} {c : LabConfig} (hc : Persisted l c) :
    c.Wellformed l.catalog := by
  induction hc with
  | loaded hroot h => exact loadNode_wellformed hroot h
  | renamed _ _ _ _ h ih => exact ih.rename h
  | renamedService _ _ _ h ih => exact ih.renameService h

/-! ## The document of a configuration -/

theorem Autolaunch.eq_default_of_isEmpty {a : Autolaunch} (h : a.isEmpty = true) : a = {} := by
  obtain ⟨ns, ds⟩ := a
  simp only [Autolaunch.isEmpty, Bool.and_eq_true, List.isEmpty_iff] at h
  obtain ⟨rfl, rfl⟩ := h
  rfl

/-- The entries of a configuration's document in a view. -/
def LabConfig.documentEntries (c : LabConfig) (view : RenderView) : List (Node × Node) :=
  match c.toDocument view with
  | .mapping es => es
  | _ => []

theorem LabConfig.toDocument_eq (c : LabConfig) (view : RenderView) :
    c.toDocument view = .mapping (c.documentEntries view) := rfl

theorem document_lookups (v : Nat) (ns ds sv auto : List (Node × Node))
    (hauto : ∀ e ∈ auto, e.1 = .string "autolaunch") (view : RenderView) :
    let es := (Node.string "version", Node.number (.nat v)) ::
      ([("nameservers", ns), ("daemons", ds), ("services", sv)].filterMap fun e =>
        if view == .merged || !e.2.isEmpty then some (Node.string e.1, Node.mapping e.2)
        else none) ++ auto
    Loader.lookup es "version" = some (.number (.nat v)) ∧
      Loader.sectionEntries "nameservers" (Loader.lookup es "nameservers") =
        Loader.sectionEntries "nameservers" (some (.mapping ns)) ∧
      Loader.sectionEntries "daemons" (Loader.lookup es "daemons") =
        Loader.sectionEntries "daemons" (some (.mapping ds)) ∧
      Loader.sectionEntries "services" (Loader.lookup es "services") =
        Loader.sectionEntries "services" (some (.mapping sv)) ∧
      Loader.lookup es "autolaunch" = Loader.lookup auto "autolaunch" := by
  intro es
  have hnone : ∀ key, key ≠ "autolaunch" → Loader.lookup auto key = none := fun key hk =>
    Loader.lookup_eq_none fun e he h => hk (Node.string.inj ((hauto e he).symm.trans h)).symm
  have h1 := hnone "nameservers" (by decide)
  have h2 := hnone "daemons" (by decide)
  have h3 := hnone "services" (by decide)
  -- a section left out of the diff view is empty, and reads as one
  cases view <;> by_cases hns : ns = [] <;> by_cases hds : ds = [] <;> by_cases hsv : sv = [] <;>
    simp [es, hns, hds, hsv, h1, h2, h3, Loader.sectionEntries, pure,
      Except.pure]

theorem document_keys (v : Nat) (ns ds sv auto : List (Node × Node))
    (hauto : ∀ e ∈ auto, e.1 = .string "autolaunch") (view : RenderView) :
    ∀ e ∈ (Node.string "version", Node.number (.nat v)) ::
      ([("nameservers", ns), ("daemons", ds), ("services", sv)].filterMap fun e =>
        if view == .merged || !e.2.isEmpty then some (Node.string e.1, Node.mapping e.2)
        else none) ++ auto, ∃ k ∈ topLevelFields, e.1 = .string k := by
  intro e he
  rcases List.mem_cons.1 he with rfl | he
  · exact ⟨"version", by decide, rfl⟩
  rcases List.mem_append.1 he with he | he
  · obtain ⟨x, hx, hxe⟩ := List.mem_filterMap.1 he
    have hkey : e.1 = .string x.1 := by
      split at hxe
      · cases hxe
        rfl
      · cases hxe
    refine ⟨x.1, ?_, hkey⟩
    simp only [List.mem_cons, List.not_mem_nil, or_false] at hx
    rcases hx with rfl | rfl | rfl <;> simp [topLevelFields]
  · exact ⟨"autolaunch", by decide, hauto e he⟩

/-- The autolaunch entry of a document: in the merged view always, in the diff view unless the
set is empty. -/
def LabConfig.autolaunchEntries (c : LabConfig) : RenderView → List (Node × Node)
  | .merged => [(.string "autolaunch", c.autolaunch.toNode)]
  | .diff =>
    if c.autolaunch.isEmpty then []
    else [(.string "autolaunch", diffEntries c.autolaunch.toNode ({} : Autolaunch).toNode)]

theorem LabConfig.autolaunchEntries_keys (c : LabConfig) (view : RenderView) :
    ∀ e ∈ c.autolaunchEntries view, e.1 = .string "autolaunch" := by
  cases view with
  | merged => simp [LabConfig.autolaunchEntries]
  | diff =>
    unfold LabConfig.autolaunchEntries
    split <;> simp

theorem LabConfig.documentEntries_eq (c : LabConfig) (view : RenderView) :
    c.documentEntries view = (Node.string "version", Node.number (.nat c.version)) ::
      ([("nameservers", renderSection c.nameservers NameserverProfile.toNode
          (fun p => decide (p = {})) {} view (some defaultProfile)),
        ("daemons", renderSection c.daemons DaemonProfile.toNode
          (fun p => decide (p = {})) {} view (some defaultProfile)),
        ("services", renderSection c.services ServiceBinding.toNode (fun _ => false) {} view
          none)].filterMap fun e =>
        if view == .merged || !e.2.isEmpty then some (Node.string e.1, Node.mapping e.2)
        else none) ++ c.autolaunchEntries view := by
  cases view <;> rfl

theorem LabConfig.documentEntries_lookups (c : LabConfig) (view : RenderView) :
    Loader.lookup (c.documentEntries view) "version" = some (.number (.nat c.version)) ∧
      Loader.sectionEntries "nameservers" (Loader.lookup (c.documentEntries view) "nameservers") =
        Loader.sectionEntries "nameservers" (some (.mapping (renderSection c.nameservers
          NameserverProfile.toNode (fun p => decide (p = {})) {} view (some defaultProfile)))) ∧
      Loader.sectionEntries "daemons" (Loader.lookup (c.documentEntries view) "daemons") =
        Loader.sectionEntries "daemons" (some (.mapping (renderSection c.daemons
          DaemonProfile.toNode (fun p => decide (p = {})) {} view (some defaultProfile)))) ∧
      Loader.sectionEntries "services" (Loader.lookup (c.documentEntries view) "services") =
        Loader.sectionEntries "services" (some (.mapping (renderSection c.services
          ServiceBinding.toNode (fun _ => false) {} view none))) ∧
      Loader.lookup (c.documentEntries view) "autolaunch" =
        Loader.lookup (c.autolaunchEntries view) "autolaunch" := by
  rw [LabConfig.documentEntries_eq]
  exact document_lookups _ _ _ _ _ (c.autolaunchEntries_keys view) view

theorem LabConfig.documentEntries_keys (c : LabConfig) (view : RenderView) :
    ∀ e ∈ c.documentEntries view, ∃ k ∈ topLevelFields, e.1 = .string k := by
  rw [LabConfig.documentEntries_eq]
  exact document_keys _ _ _ _ _ (c.autolaunchEntries_keys view) view

namespace Loader

theorem checkTopLevel_eq_ok (l : Loader) {entries : List (Node × Node)}
    (h : ∀ e ∈ entries, ∃ k ∈ topLevelFields, e.1 = .string k) :
    l.checkTopLevel entries = .ok () := by
  unfold checkTopLevel
  rw [forIn_unit_ok fun e he => ?_]
  · rfl
  obtain ⟨k, hk, hkey⟩ := h e he
  have hcontains : topLevelFields.contains k = true := List.contains_iff_mem.2 hk
  obtain ⟨key, v⟩ := e
  dsimp only at hkey
  subst hkey
  simp only [keyText, Read.untag, Option.getD_some, hcontains, Bool.not_true, Bool.false_eq_true,
    if_false]
  rfl

theorem readVersion_eq {entries : List (Node × Node)} {v : Nat}
    (h : lookup entries "version" = some (.number (.nat v))) (hv : v < 2 ^ 32) :
    readVersion entries = .ok v := by
  have hv : v < Nat.pow 2 32 := hv
  simp only [readVersion, h, Read.untag, hv, if_true]

theorem builtin_left {α : Type} [DecidableEq α] {view : RenderView} {k : String} {d : α}
    {e : String × α} (h : shown view (some k) (fun p => decide (p = d)) e = false) :
    find? [(k, d)] e.1 = some e.2 := by
  cases view with
  | merged => cases h
  | diff =>
    simp only [shown, Bool.not_eq_false', Bool.and_eq_true, beq_iff_eq, Option.some.injEq,
      decide_eq_true_eq] at h
    obtain ⟨rfl, rfl⟩ := h
    rw [find?_cons, if_pos rfl]

theorem builtin_keys {α : Type} {k : String} {d : α} {records : NameMap α}
    (h : records.contains k = true) :
    ∀ k' v, find? [(k, d)] k' = some v → k' ∈ keys records := by
  intro k' v hk'
  rw [find?_cons] at hk'
  split at hk'
  · next heq =>
    subst heq
    exact contains_iff_mem_keys.1 h
  · cases hk'

theorem readAutolaunch_written (l : Loader) (c : LabConfig) (view : RenderView)
    {entries : List (Node × Node)}
    (hl : lookup entries "autolaunch" = lookup (c.autolaunchEntries view) "autolaunch") :
    l.readAutolaunch entries = .ok c.autolaunch := by
  unfold readAutolaunch
  rw [hl]
  have hrec : l.record Autolaunch.reader {} Autolaunch.fields "autolaunch" "-"
      (recordNode Autolaunch.toNode {} view c.autolaunch) = .ok c.autolaunch :=
    l.record_recordNode Autolaunch.form trivial Autolaunch.default_atoms view "autolaunch" "-"
  cases view with
  | merged =>
    simp only [LabConfig.autolaunchEntries, lookup_cons_string, if_true]
    exact hrec
  | diff =>
    by_cases hempty : c.autolaunch.isEmpty = true
    · -- an empty set is left out, and is the default one
      simp only [LabConfig.autolaunchEntries, hempty, if_true, lookup_nil]
      rw [Autolaunch.eq_default_of_isEmpty hempty]
    · simp only [LabConfig.autolaunchEntries, hempty, Bool.false_eq_true, if_false,
        lookup_cons_string, if_true]
      exact hrec

end Loader

/-- **A well-formed configuration with both built-in profiles reads back from its document**, in
either view. -/
theorem loadNode_toDocument {l : Loader} {c : LabConfig} (hw : c.Wellformed l.catalog)
    (hns : c.nameservers.contains defaultProfile = true)
    (hds : c.daemons.contains defaultProfile = true) (view : RenderView) :
    l.loadNode (c.toDocument view) = .ok c := by
  obtain ⟨hversion, hlNs, hlDs, hlSv, hlAuto⟩ := c.documentEntries_lookups view
  -- each stage of loading reads back what the document holds
  have hv : c.version < 2 ^ 32 := lt_of_le_of_lt hw.valid.version (by decide)
  have hNs : l.readSection NameserverProfile.reader {} NameserverProfile.fields "nameservers"
      (c.documentEntries view) ({} : LabConfig).nameservers = .ok c.nameservers :=
    Loader.readSection_written l NameserverProfile.form NameserverProfile.default_atoms
      hw.nameservers.1 hw.nameservers.2 hw.valid.nameserverNames (List.pairwise_singleton _ _)
      (fun _ _ h => Loader.builtin_left h) (Loader.builtin_keys hns) hlNs
  have hDs : l.readSection DaemonProfile.reader {} DaemonProfile.fields "daemons"
      (c.documentEntries view) ({} : LabConfig).daemons = .ok c.daemons :=
    Loader.readSection_written l DaemonProfile.form DaemonProfile.default_atoms
      hw.daemons.1 hw.daemons.2 hw.valid.daemonNames (List.pairwise_singleton _ _)
      (fun _ _ h => Loader.builtin_left h) (Loader.builtin_keys hds) hlDs
  have hSv : l.readSection ServiceBinding.reader {} ServiceBinding.fields "services"
      (c.documentEntries view) ({} : LabConfig).services = .ok c.services := by
    -- no binding is built in: every binding is written
    refine Loader.readSection_written l ServiceBinding.form ServiceBinding.default_atoms
      hw.services.1 hw.services.2 hw.valid.serviceNames List.Pairwise.nil
      (fun e _ h => ?_) (fun _ _ h => by cases h) hlSv
    cases view <;> simp [shown] at h
  -- the stages in order
  rw [LabConfig.toDocument_eq]
  unfold Loader.loadNode
  have hc : LabConfig.mk c.version c.nameservers c.daemons c.services c.autolaunch = c := rfl
  simp only [Loader.topLevelEntries, ok_bind,
    Loader.checkTopLevel_eq_ok l (c.documentEntries_keys view),
    Loader.readVersion_eq hversion hv, hNs, hDs, hSv, l.readAutolaunch_written c view hlAuto, hc,
    validate_of_valid hw.valid]
  rfl

/-! ## Saving a kept configuration -/

/-- **A kept configuration with both built-in profiles is saved without loss**: in either view
its document loads back as itself, and so does its text whenever reading the text gives the
document back. -/
theorem persisted_round_trip {l : Loader} {c : LabConfig} (hc : Persisted l c)
    (hns : c.nameservers.contains defaultProfile = true)
    (hds : c.daemons.contains defaultProfile = true) (view : RenderView) :
    l.loadNode (c.toDocument view) = .ok c ∧
      (Node.load (c.render view) = .ok (c.toDocument view) → l.load (c.render view) = .ok c) := by
  have hdoc := loadNode_toDocument hc.wellformed hns hds view
  refine ⟨hdoc, fun htext => ?_⟩
  -- the text is read as the document, and the document as the configuration
  have hread : Loader.readDocument (c.render view) = .ok (c.toDocument view) := by
    unfold Loader.readDocument
    rw [htext]
  unfold Loader.load
  rw [hread, ok_bind, hdoc]

/-- The default configuration, loaded from an empty document, is saved without loss: its
document loads back as itself, and its text, `version: 1`, reads back as its document and so
loads back as the configuration. -/
theorem default_config_text_round_trip :
    ({} : Loader).loadNode (({} : LabConfig).toDocument .diff) = .ok {} ∧
      Node.load (({} : LabConfig).render .diff) = .ok (({} : LabConfig).toDocument .diff) ∧
      ({} : Loader).load (({} : LabConfig).render .diff) = .ok {} := by
  have hround := persisted_round_trip (l := {}) (.loaded .null rfl) (by decide) (by decide) .diff
  have htext : Node.load (({} : LabConfig).render .diff) =
      .ok (({} : LabConfig).toDocument .diff) := by
    have h : (Node.load (({} : LabConfig).render .diff)).toOption =
        some (({} : LabConfig).toDocument .diff) := by decide +kernel
    revert h
    cases Node.load (({} : LabConfig).render .diff) <;> simp [Except.toOption]
  exact ⟨hround.1, htext, hround.2 htext⟩

/-- **Renaming a built-in profile away breaks the round trip.** Once the built-in daemon profile
is renamed, the configuration's document, in either view, loads back with a built-in daemon
profile that the configuration does not have. -/
theorem renamed_default_returns :
    ∃ c : LabConfig, Persisted {} c ∧ c.daemons.contains defaultProfile = false ∧
      ∀ view, ({} : Loader).loadNode (c.toDocument view) ≠ .ok c := by
  refine ⟨{ daemons := [("x", {})] }, .renamed .daemon defaultProfile "x" (.loaded .null rfl) rfl,
    by decide, fun view h => ?_⟩
  -- whatever the document holds, loading puts the built-in daemon profile back
  have hback := (loadNode_builtins h).2
  exact absurd hback (by decide)

end LabFleet.Config
