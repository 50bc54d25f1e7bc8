import LabFleet.Proofs.Config.Valid

/-!
Renaming a profile or a service back.

A rename moves one profile (or binding) to a fresh name and rewrites the references to it. On a
valid configuration nothing refers to the fresh name beforehand, since every reference names a
profile that exists; so renaming back rewrites exactly the references the rename made, and moves
the profile back to where it was. The maps of a configuration are ordered maps (`Ordered`), so
moving an entry out and back in restores the map itself, not only its lookups.

* `rename_eq_ok_iff`, `renameService_eq_ok_iff`: when a rename succeeds;
* `rename_nameserver_back`, `rename_daemon_back`, `renameService_back`: renaming back restores
  the configuration;
* `rename_keeps_validity_and_reverses`: all of it for a valid configuration.
-/

namespace LabFleet.Config

open NameMap Checks

set_option autoImplicit false

/-- A configuration whose maps are ordered maps: keys strictly increasing, as in the maps a
configuration is made of. -/
structure LabConfig.Ordered (c : LabConfig) : Prop where
  nameservers : Sorted c.nameservers
  daemons : Sorted c.daemons
  services : Sorted c.services

/-! ## Moving an entry and a reference back -/

theorem insert_erase_insert_erase {β : Type} {m : NameMap β} (hm : Sorted m) {old new : String}
    {p : β} (hp : find? m old = some p) (hnew : new ∉ keys m) :
    insert old p (erase new (insert new p (erase old m))) = m := by
  have hs : Sorted (insert old p (erase new (insert new p (erase old m)))) :=
    ((((hm.erase old).insert new p).erase new).insert old p)
  refine hs.ext_find? hm fun k => ?_
  have hnone : find? m new = none := by
    cases h : find? m new with
    | none => rfl
    | some v => exact absurd ((isSome_find?_iff new m).1 (by simp [h])) hnew
  rw [find?_insert, find?_erase, find?_insert, find?_erase]
  by_cases hk : old = k
  · subst hk
    simp [hp]
  · by_cases hn : new = k
    · subst hn
      simp [hk, hnone]
    · simp [hk, hn]

theorem replaceName_back {old new : String} {names : List String} (h : new ∉ names) :
    LabConfig.replaceName new old (LabConfig.replaceName old new names) = names := by
  unfold LabConfig.replaceName
  rw [List.map_map]
  conv_rhs => rw [← List.map_id names]
  refine List.map_congr_left fun n hn => ?_
  by_cases ho : n = old
  · simp [ho]
  · have hne : n ≠ new := fun e => h (e ▸ hn)
    simp [ho, hne]

/-! ## When a rename succeeds -/

theorem LabConfig.rename_eq_ok_iff (c : LabConfig) (kind : ProfileKind) (old new : String) :
    (∃ c', c.rename kind old new = .ok c') ↔
      NameOk new ∧ c.contains kind old = true ∧ c.contains kind new = false := by
  unfold LabConfig.rename
  constructor
  · rintro ⟨c', h⟩
    obtain ⟨⟨⟩, hname, h⟩ := bind_eq_ok.1 h
    obtain ⟨hold, h⟩ := ite_throw_eq_ok.1 h
    obtain ⟨hnew, -⟩ := ite_throw_eq_ok.1 h
    exact ⟨checkName_eq_ok.1 hname, by simpa using hold, hnew⟩
  · rintro ⟨hname, hold, hnew⟩
    rw [checkName_eq_ok.2 hname, ok_bind, if_neg (by simp [hold]), if_neg (by simp [hnew])]
    exact ⟨_, rfl⟩

theorem LabConfig.renameService_eq_ok_iff (c : LabConfig) (old new : String) :
    (∃ c', c.renameService old new = .ok c') ↔
      NameOk new ∧ c.services.contains old = true ∧ c.services.contains new = false := by
  unfold LabConfig.renameService
  constructor
  · rintro ⟨c', h⟩
    obtain ⟨⟨⟩, hname, h⟩ := bind_eq_ok.1 h
    obtain ⟨hnew, h⟩ := ite_throw_eq_ok.1 h
    refine ⟨checkName_eq_ok.1 hname, ?_, hnew⟩
    split at h
    · simp [throw, throwThe, MonadExceptOf.throw] at h
    · next b hb => rw [contains_eq_isSome, hb]; rfl
  · rintro ⟨hname, hold, hnew⟩
    obtain ⟨b, hb⟩ := Option.isSome_iff_exists.1 (by rwa [← contains_eq_isSome])
    rw [checkName_eq_ok.2 hname, ok_bind, if_neg (by simp [hnew])]
    simp only [hb]
    exact ⟨_, rfl⟩

/-! ## Renaming back -/

namespace LabConfig

/-- What renaming the profile `a` of a kind to `b` makes of `c`: the profile under the name `b`,
every reference of that kind to `a` reading `b` (the daemons' and the bindings' nameserver lists
for a nameserver, the bindings' daemon for a daemon, and the autolaunch list of the kind), and
nothing else changed. -/
def Renamed (c c' : LabConfig) (kind : ProfileKind) (a b : String) : Prop :=
  match kind with
  | .nameserver => ∃ p, c.nameservers.find? a = some p ∧ c' = { c with
      nameservers := insert b p (erase a c.nameservers)
      daemons := c.daemons.map fun e =>
        (e.1, { e.2 with nameservers := replaceName a b e.2.nameservers })
      services := c.services.map fun e =>
        (e.1, { e.2 with nameservers := replaceName a b e.2.nameservers })
      autolaunch := { c.autolaunch with nameservers := replaceName a b c.autolaunch.nameservers } }
  | .daemon => ∃ p, c.daemons.find? a = some p ∧ c' = { c with
      daemons := insert b p (erase a c.daemons)
      services := c.services.map fun e =>
        (e.1, if e.2.daemon = a then { e.2 with daemon := b } else e.2)
      autolaunch := { c.autolaunch with daemons := replaceName a b c.autolaunch.daemons } }

variable {c c' : LabConfig} {catalog : Option Catalog} {a b : String}

theorem fresh_not_mem {β : Type} {m : NameMap β} (hb : b ∉ keys m) {names : List String}
    (hnames : ∀ n ∈ names, m.contains n = true) : b ∉ names :=
  fun hmem => hb (contains_iff_mem_keys.1 (hnames b hmem))

theorem find?_moved {β : Type} {m : NameMap β} {p p' : β} (hm : Sorted m)
    (hp' : (b, p') ∈ insert b p (erase a m)) : p' = p := by
  have hs : Sorted (insert b p (erase a m)) := (hm.erase a).insert b p
  have h := hs.find?_eq_some_iff.2 hp'
  rw [find?_insert_self] at h
  exact (Option.some.inj h).symm

theorem contains_moved {β : Type} {m : NameMap β} {p q : β} (hq : (a, q) ∈ m) (hb : b ∉ keys m) :
    (insert b p (erase a m)).contains b = true ∧ (insert b p (erase a m)).contains a = false := by
  have hab : a ≠ b := fun e => hb (e ▸ mem_keys_of_mem hq)
  refine ⟨by rw [contains_iff_mem_keys, mem_keys_insert]; exact .inl rfl,
    Bool.eq_false_iff.2 fun hc => ?_⟩
  rw [contains_iff_mem_keys, mem_keys_insert, mem_keys_erase] at hc
  rcases hc with hba | ⟨-, haa⟩
  · exact hab hba
  · exact haa rfl

/-- **Renaming a nameserver back restores the configuration.** -/
theorem rename_nameserver_back (hv : c.Valid catalog) (ho : c.Ordered)
    (h : c.rename .nameserver a b = .ok c') : c'.rename .nameserver b a = .ok c := by
  obtain ⟨-, hb, p, hp, hc'⟩ := rename_nameserver_eq_ok h
  have hpa : c.nameservers.find? a = some p := ho.nameservers.find?_eq_some_iff.2 hp
  have hkeys : c'.nameservers = insert b p (erase a c.nameservers) := by rw [hc']
  -- renaming back passes every check: `a` is a valid name, `b` exists now and `a` no longer does
  have hmoved := contains_moved (p := p) hp hb
  obtain ⟨c'', h''⟩ := (rename_eq_ok_iff c' .nameserver b a).2
    ⟨hv.nameserverNames _ hp, by rw [contains_nameserver, hkeys]; exact hmoved.1,
      by rw [contains_nameserver, hkeys]; exact hmoved.2⟩
  obtain ⟨-, -, p', hp', rfl⟩ := rename_nameserver_eq_ok h''
  rw [hkeys] at hp'
  obtain rfl := find?_moved ho.nameservers hp'
  rw [h'']
  congr 1
  subst hc'
  obtain ⟨version, nameservers, daemons, services, autolaunch⟩ := c
  simp only [mk.injEq, List.map_map]
  refine ⟨trivial, insert_erase_insert_erase ho.nameservers hpa hb, ?_, ?_, ?_⟩
  · -- each daemon's list had no reference to `b`
    conv_rhs => rw [← List.map_id daemons]
    refine List.map_congr_left fun e he => ?_
    simp [replaceName_back (fresh_not_mem hb (hv.daemonRefs e he))]
  · conv_rhs => rw [← List.map_id services]
    refine List.map_congr_left fun e he => ?_
    simp [replaceName_back (fresh_not_mem hb (hv.serviceRefs e he))]
  · have hfree : b ∉ autolaunch.nameservers := fresh_not_mem hb (hv.autolaunch .nameserver)
    simp [replaceName_back hfree]

/-- **Renaming a daemon back restores the configuration.** -/
theorem rename_daemon_back (hv : c.Valid catalog) (ho : c.Ordered)
    (h : c.rename .daemon a b = .ok c') : c'.rename .daemon b a = .ok c := by
  obtain ⟨-, hb, p, hp, hc'⟩ := rename_daemon_eq_ok h
  have hpa : c.daemons.find? a = some p := ho.daemons.find?_eq_some_iff.2 hp
  have hkeys : c'.daemons = insert b p (erase a c.daemons) := by rw [hc']
  have hmoved := contains_moved (p := p) hp hb
  obtain ⟨c'', h''⟩ := (rename_eq_ok_iff c' .daemon b a).2
    ⟨hv.daemonNames _ hp, by rw [contains_daemon, hkeys]; exact hmoved.1,
      by rw [contains_daemon, hkeys]; exact hmoved.2⟩
  obtain ⟨-, -, p', hp', rfl⟩ := rename_daemon_eq_ok h''
  rw [hkeys] at hp'
  obtain rfl := find?_moved ho.daemons hp'
  rw [h'']
  congr 1
  subst hc'
  obtain ⟨version, nameservers, daemons, services, autolaunch⟩ := c
  simp only [mk.injEq, List.map_map]
  refine ⟨trivial, trivial, insert_erase_insert_erase ho.daemons hpa hb, ?_, ?_⟩
  · -- a binding hosted by `a` now names `b` and goes back; no binding was hosted by `b`
    conv_rhs => rw [← List.map_id services]
    refine List.map_congr_left fun e he => ?_
    have hne : e.2.daemon ≠ b := fun hd => hb (contains_iff_mem_keys.1 (hd ▸ hv.hosts e he))
    by_cases hd : e.2.daemon = a
    · obtain ⟨n, ⟨i, ps, ds, m, d, ns⟩⟩ := e
      simp only at hd
      subst hd
      simp
    · simp [hd, hne]
  · have hfree : b ∉ autolaunch.daemons := fresh_not_mem hb (hv.autolaunch .daemon)
    simp [replaceName_back hfree]

theorem renamed_of_rename (ho : c.Ordered) {kind : ProfileKind} (h : c.rename kind a b = .ok c') :
    c.Renamed c' kind a b := by
  cases kind with
  | nameserver =>
    obtain ⟨-, -, p, hp, rfl⟩ := rename_nameserver_eq_ok h
    exact ⟨p, ho.nameservers.find?_eq_some_iff.2 hp, rfl⟩
  | daemon =>
    obtain ⟨-, -, p, hp, rfl⟩ := rename_daemon_eq_ok h
    exact ⟨p, ho.daemons.find?_eq_some_iff.2 hp, by simp⟩

/-- **Renaming a binding back restores the configuration.** -/
theorem renameService_back (hv : c.Valid catalog) (ho : c.Ordered)
    (h : c.renameService a b = .ok c') : c'.renameService b a = .ok c := by
  obtain ⟨-, hb, s, hs, hc'⟩ := renameService_eq_ok h
  have hsa : c.services.find? a = some s := ho.services.find?_eq_some_iff.2 hs
  have hkeys : c'.services = insert b s (erase a c.services) := by rw [hc']
  have hmoved := contains_moved (p := s) hs hb
  obtain ⟨c'', h''⟩ := (renameService_eq_ok_iff c' b a).2
    ⟨hv.serviceNames _ hs, by rw [hkeys]; exact hmoved.1, by rw [hkeys]; exact hmoved.2⟩
  obtain ⟨-, -, s', hs', rfl⟩ := renameService_eq_ok h''
  rw [hkeys] at hs'
  obtain rfl := find?_moved ho.services hs'
  rw [h'', hkeys, insert_erase_insert_erase ho.services hsa hb, hc']

theorem moved_of_renameService (ho : c.Ordered) (h : c.renameService a b = .ok c') :
    ∃ s, c.services.find? a = some s ∧ c' = { c with services := insert b s (erase a c.services) } := by
  obtain ⟨-, -, s, hs, rfl⟩ := renameService_eq_ok h
  exact ⟨s, ho.services.find?_eq_some_iff.2 hs, rfl⟩

end LabConfig

/-- **Renaming is a validity-keeping bijection.** On a valid configuration, renaming a profile
succeeds exactly when the new name is usable and free and the old one exists; a successful rename
keeps the configuration valid under the same catalog, moves the profile to the new name and
rewrites every reference of its kind to the old name and nothing else, and renaming back gives
the configuration again. The same holds for renaming a service binding. -/
theorem rename_keeps_validity_and_reverses (c : LabConfig) (catalog : Option Catalog)
    (hv : c.validate catalog = .ok ()) (ho : c.Ordered) :
    (∀ (kind : ProfileKind) (a b : String),
      (∃ c', c.rename kind a b = .ok c') ↔
        NameOk b ∧ c.contains kind a = true ∧ c.contains kind b = false) ∧
    (∀ (kind : ProfileKind) (a b : String) (c' : LabConfig), c.rename kind a b = .ok c' →
      c'.validate catalog = .ok () ∧ c.Renamed c' kind a b ∧ c'.rename kind b a = .ok c) ∧
    (∀ a b : String, (∃ c', c.renameService a b = .ok c') ↔
        NameOk b ∧ c.services.contains a = true ∧ c.services.contains b = false) ∧
    (∀ (a b : String) (c' : LabConfig), c.renameService a b = .ok c' →
      c'.validate catalog = .ok () ∧
      (∃ s, c.services.find? a = some s ∧
        c' = { c with services := NameMap.insert b s (erase a c.services) }) ∧
      c'.renameService b a = .ok c) := by
  have hvalid := (validate_eq_ok_iff c catalog).1 hv
  refine ⟨c.rename_eq_ok_iff, fun kind a b c' h => ⟨?_, c.renamed_of_rename ho h, ?_⟩,
    c.renameService_eq_ok_iff, fun a b c' h => ⟨?_, LabConfig.moved_of_renameService ho h,
      LabConfig.renameService_back hvalid ho h⟩⟩
  · -- validity is kept, kind by kind
    rw [validate_eq_ok_iff]
    cases kind with
    | nameserver => exact hvalid.rename_nameserver h
    | daemon => exact hvalid.rename_daemon h
  · cases kind with
    | nameserver => exact LabConfig.rename_nameserver_back hvalid ho h
    | daemon => exact LabConfig.rename_daemon_back hvalid ho h
  · exact (validate_eq_ok_iff c' catalog).2 (hvalid.renameService h)

/-- The built-in configuration is valid and ordered, and its daemon renamed to `bench` and back
is the built-in configuration again. -/
theorem builtin_daemon_renamed_back :
    ({} : LabConfig).validate none = .ok () ∧ ({} : LabConfig).Ordered ∧
    (({} : LabConfig).rename .daemon defaultProfile "bench" >>= fun c' =>
      c'.rename .daemon "bench" defaultProfile) = .ok {} := by
  have hv : ({} : LabConfig).validate none = .ok () := by decide
  have ho : ({} : LabConfig).Ordered :=
    ⟨List.pairwise_singleton _ _, List.pairwise_singleton _ _, List.Pairwise.nil⟩
  obtain ⟨c', hc'⟩ := (LabConfig.rename_eq_ok_iff {} .daemon defaultProfile "bench").2
    ⟨⟨by decide, by decide⟩, by decide, by decide⟩
  refine ⟨hv, ho, ?_⟩
  rw [hc']
  exact ((rename_keeps_validity_and_reverses {} none hv ho).2.1 .daemon _ _ c' hc').2.2

end LabFleet.Config
