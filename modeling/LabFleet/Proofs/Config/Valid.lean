import LabFleet.Config.Basic
import LabFleet.Proofs.NameMap
import LabFleet.Proofs.Checks

/-!
What a valid configuration is, and why renaming keeps one valid.

`LabConfig.validate` runs its checks in a fixed order and reports the first that fails.
`LabConfig.Valid` states the same checks as one proposition, so that whether validation succeeds
is seen not to depend on the order (`validate_eq_ok_iff`). Renaming a profile or a service
rewrites every reference to the old name, so a valid configuration stays valid
(`Valid.rename`, `Valid.renameService`).
-/

namespace LabFleet.Config

open NameMap Checks

set_option autoImplicit false

/-- A name a section may use: not blank, and not the reserved `all`. -/
def NameOk (name : String) : Prop := isBlank name = false ∧ name ≠ reservedAll

theorem checkName_eq_ok {sectionName name : String} :
    checkName sectionName name = .ok () ↔ NameOk name := by
  unfold checkName NameOk
  split
  · simp_all
  · split <;> simp_all

/-- What `validate` checks, stated at once. -/
structure LabConfig.Valid (c : LabConfig) (catalog : Option Catalog) : Prop where
  version : c.version ≤ supportedVersion
  nameserverNames : ∀ e ∈ c.nameservers, NameOk e.1
  daemonNames : ∀ e ∈ c.daemons, NameOk e.1
  workers : ∀ e ∈ c.daemons, e.2.maxWorkers ≠ 0
  daemonRefs : ∀ e ∈ c.daemons, ∀ ns ∈ e.2.nameservers, c.nameservers.contains ns = true
  serviceNames : ∀ e ∈ c.services, NameOk e.1
  implementations : ∀ e ∈ c.services, isBlank e.2.implementation = false
  catalogued : ∀ e ∈ c.services, ∀ cat, catalog = some cat →
    cat.contains e.2.implementation = true
  hosts : ∀ e ∈ c.services, c.daemons.contains e.2.daemon = true
  serviceRefs : ∀ e ∈ c.services, ∀ ns ∈ e.2.nameservers, c.nameservers.contains ns = true
  autolaunch : ∀ kind, ∀ name ∈ c.autolaunch.names kind, c.contains kind name = true

theorem validate_of_valid {c : LabConfig} {catalog : Option Catalog} (hv : c.Valid catalog) :
    c.validate catalog = .ok () := by
  unfold LabConfig.validate
  have hver : ¬ c.version > supportedVersion := Nat.not_lt.2 hv.version
  dsimp only
  rw [if_neg hver]
  rw [forIn_unit_ok ?names, ok_bind, forIn_unit_ok ?daemons, ok_bind, forIn_unit_ok ?services,
    ok_bind, forIn_unit_ok ?autolaunch, ok_bind]
  · rfl
  case names =>
    rintro ⟨name, p⟩ he
    simp only [checkName_eq_ok.2 (hv.nameserverNames _ he), ok_bind]
    rfl
  case daemons =>
    rintro ⟨name, d⟩ he
    have hmw : (d.maxWorkers == 0) = false := by simpa using hv.workers _ he
    simp only [checkName_eq_ok.2 (hv.daemonNames _ he), ok_bind, hmw, Bool.false_eq_true,
      if_false]
    rw [forIn_unit_ok fun ns hns => by
      simp only [hv.daemonRefs _ he ns hns, Bool.not_true, Bool.false_eq_true, if_false]; rfl]
    rfl
  case services =>
    rintro ⟨name, b⟩ he
    have hcat : ∀ cat, catalog = some cat → cat.contains b.implementation = true :=
      hv.catalogued _ he
    simp only [checkName_eq_ok.2 (hv.serviceNames _ he), ok_bind, hv.implementations _ he,
      Bool.false_eq_true, if_false, hv.hosts _ he, Bool.not_true]
    have hrefs : forIn b.nameservers PUnit.unit (fun ns (_ : PUnit) =>
        (if (!c.nameservers.contains ns) = true then do
          throw (Error.configuration ("services." ++ name) "nameservers"
            ("references unknown nameserver '" ++ ns ++ "'"))
          pure (ForInStep.yield PUnit.unit)
        else pure (ForInStep.yield PUnit.unit) : Result (ForInStep PUnit))) =
        Except.ok PUnit.unit :=
      forIn_unit_ok fun ns hns => by
        simp only [hv.serviceRefs _ he ns hns, Bool.not_true, Bool.false_eq_true, if_false]; rfl
    cases catalog with
    | none => simp only [hrefs, ok_bind]; rfl
    | some cat =>
      simp only [hcat cat rfl, Bool.not_true, Bool.false_eq_true, if_false, hrefs, ok_bind]
      rfl
  case autolaunch =>
    intro kind _
    rw [forIn_unit_ok fun name hname => by
      simp only [hv.autolaunch kind name hname, Bool.not_true, Bool.false_eq_true, if_false]; rfl]
    rfl

theorem valid_of_validate {c : LabConfig} {catalog : Option Catalog}
    (h : c.validate catalog = .ok ()) : c.Valid catalog := by
  unfold LabConfig.validate at h
  dsimp only at h
  split at h
  · simp [throw, throwThe, MonadExceptOf.throw, bind, Except.bind] at h
  next hver =>
  obtain ⟨_, hnames, h⟩ := bind_eq_ok.1 h
  obtain ⟨_, hdaemons, h⟩ := bind_eq_ok.1 h
  obtain ⟨_, hservices, h⟩ := bind_eq_ok.1 h
  obtain ⟨_, hauto, -⟩ := bind_eq_ok.1 h
  -- each loop's body, on success, yields: so every item of each loop has passed its checks
  have hnames := (forIn_unit_eq_ok ?names).1 hnames
  case names =>
    rintro ⟨name, p⟩ s hs
    obtain ⟨_, -, hs⟩ := bind_eq_ok.1 hs
    exact (Except.ok.inj hs).symm
  have hdaemons := (forIn_unit_eq_ok ?daemons).1 hdaemons
  case daemons =>
    rintro ⟨name, d⟩ s hs
    obtain ⟨_, -, hs⟩ := bind_eq_ok.1 hs
    obtain ⟨-, hs⟩ := ite_throw_eq_ok.1 hs
    obtain ⟨_, -, hs⟩ := bind_eq_ok.1 hs
    exact (Except.ok.inj hs).symm
  have hservices := (forIn_unit_eq_ok ?services).1 hservices
  case services =>
    rintro ⟨name, b⟩ s hs
    obtain ⟨_, -, hs⟩ := bind_eq_ok.1 hs
    obtain ⟨-, hs⟩ := ite_throw_eq_ok.1 hs
    split at hs
    · obtain ⟨-, hs⟩ := ite_throw_eq_ok.1 hs
      obtain ⟨-, hs⟩ := ite_throw_eq_ok.1 hs
      obtain ⟨_, -, hs⟩ := bind_eq_ok.1 hs
      exact (Except.ok.inj hs).symm
    · obtain ⟨-, hs⟩ := ite_throw_eq_ok.1 hs
      obtain ⟨_, -, hs⟩ := bind_eq_ok.1 hs
      exact (Except.ok.inj hs).symm
  have hauto := (forIn_unit_eq_ok ?auto).1 hauto
  case auto =>
    intro kind s hs
    obtain ⟨_, -, hs⟩ := bind_eq_ok.1 hs
    exact (Except.ok.inj hs).symm
  have hdaemon : ∀ e ∈ c.daemons, NameOk e.1 ∧ e.2.maxWorkers ≠ 0 ∧
      ∀ ns ∈ e.2.nameservers, c.nameservers.contains ns = true := by
    rintro ⟨name, d⟩ he
    obtain ⟨⟨⟩, hname, hs⟩ := bind_eq_ok.1 (hdaemons _ he)
    obtain ⟨hmw, hs⟩ := ite_throw_eq_ok.1 hs
    obtain ⟨⟨⟩, hrefs, -⟩ := bind_eq_ok.1 hs
    exact ⟨checkName_eq_ok.1 hname, by simpa using hmw, forIn_refuse_eq_ok.1 hrefs⟩
  have hservice : ∀ e ∈ c.services, NameOk e.1 ∧ isBlank e.2.implementation = false ∧
      (∀ cat, catalog = some cat → cat.contains e.2.implementation = true) ∧
      c.daemons.contains e.2.daemon = true ∧
      ∀ ns ∈ e.2.nameservers, c.nameservers.contains ns = true := by
    rintro ⟨name, b⟩ he
    obtain ⟨⟨⟩, hname, hs⟩ := bind_eq_ok.1 (hservices _ he)
    obtain ⟨himpl, hs⟩ := ite_throw_eq_ok.1 hs
    -- the catalog check happens only when there is a catalog
    cases catalog with
    | none =>
      obtain ⟨hhost, hs⟩ := ite_throw_eq_ok.1 hs
      obtain ⟨⟨⟩, hrefs, -⟩ := bind_eq_ok.1 hs
      exact ⟨checkName_eq_ok.1 hname, himpl, (fun _ h => nomatch h), by simpa using hhost,
        forIn_refuse_eq_ok.1 hrefs⟩
    | some cat =>
      obtain ⟨hcat, hs⟩ := ite_throw_eq_ok.1 hs
      obtain ⟨hhost, hs⟩ := ite_throw_eq_ok.1 hs
      obtain ⟨⟨⟩, hrefs, -⟩ := bind_eq_ok.1 hs
      exact ⟨checkName_eq_ok.1 hname, himpl, fun _ h => by cases h; simpa using hcat,
        by simpa using hhost, forIn_refuse_eq_ok.1 hrefs⟩
  have hlaunch : ∀ kind, ∀ name ∈ c.autolaunch.names kind, c.contains kind name = true := by
    intro kind
    have hk : kind ∈ [ProfileKind.nameserver, .daemon] := by cases kind <;> simp
    obtain ⟨⟨⟩, hrefs, -⟩ := bind_eq_ok.1 (hauto kind hk)
    exact forIn_refuse_eq_ok.1 hrefs
  exact {
    version := Nat.not_lt.1 hver
    nameserverNames := fun e he => by
      obtain ⟨⟨⟩, hname, -⟩ := bind_eq_ok.1 (hnames e he)
      exact checkName_eq_ok.1 hname
    daemonNames := fun e he => (hdaemon e he).1
    workers := fun e he => (hdaemon e he).2.1
    daemonRefs := fun e he => (hdaemon e he).2.2
    serviceNames := fun e he => (hservice e he).1
    implementations := fun e he => (hservice e he).2.1
    catalogued := fun e he => (hservice e he).2.2.1
    hosts := fun e he => (hservice e he).2.2.2.1
    serviceRefs := fun e he => (hservice e he).2.2.2.2
    autolaunch := hlaunch }

/-- **Validation checks exactly `Valid`**, whatever the order of its checks. -/
theorem validate_eq_ok_iff (c : LabConfig) (catalog : Option Catalog) :
    c.validate catalog = .ok () ↔ c.Valid catalog :=
  ⟨valid_of_validate, validate_of_valid⟩

/-! ## Renaming -/

theorem contains_nameserver (c : LabConfig) (name : String) :
    c.contains .nameserver name = c.nameservers.contains name := rfl

theorem contains_daemon (c : LabConfig) (name : String) :
    c.contains .daemon name = c.daemons.contains name := rfl

theorem rename_nameserver_eq_ok {c c' : LabConfig} {old new : String}
    (h : c.rename .nameserver old new = .ok c') :
    NameOk new ∧ new ∉ keys c.nameservers ∧ ∃ p, (old, p) ∈ c.nameservers ∧
      c' = { c with
        nameservers := insert new p (erase old c.nameservers)
        daemons := c.daemons.map fun e =>
          (e.1, { e.2 with nameservers := LabConfig.replaceName old new e.2.nameservers })
        services := c.services.map fun e =>
          (e.1, { e.2 with nameservers := LabConfig.replaceName old new e.2.nameservers })
        autolaunch := { c.autolaunch with
          nameservers := LabConfig.replaceName old new c.autolaunch.nameservers } } := by
  unfold LabConfig.rename at h
  dsimp only at h
  obtain ⟨⟨⟩, hname, h⟩ := bind_eq_ok.1 h
  obtain ⟨hold, h⟩ := ite_throw_eq_ok.1 h
  obtain ⟨hnew, h⟩ := ite_throw_eq_ok.1 h
  have hold : old ∈ keys c.nameservers := by
    simpa [contains_nameserver, contains_iff_mem_keys] using hold
  obtain ⟨p, hp⟩ := Option.isSome_iff_exists.1 ((isSome_find?_iff old _).2 hold)
  rw [hp] at h
  refine ⟨checkName_eq_ok.1 hname, fun hmem => ?_, p, find?_mem hp, (Except.ok.inj h).symm⟩
  rw [contains_nameserver, contains_iff_mem_keys.2 hmem] at hnew
  cases hnew

theorem rename_daemon_eq_ok {c c' : LabConfig} {old new : String}
    (h : c.rename .daemon old new = .ok c') :
    NameOk new ∧ new ∉ keys c.daemons ∧ ∃ p, (old, p) ∈ c.daemons ∧
      c' = { c with
        daemons := insert new p (erase old c.daemons)
        services := c.services.map fun e =>
          (e.1, if (e.2.daemon == old) = true then { e.2 with daemon := new } else e.2)
        autolaunch := { c.autolaunch with
          daemons := LabConfig.replaceName old new c.autolaunch.daemons } } := by
  unfold LabConfig.rename at h
  dsimp only at h
  obtain ⟨⟨⟩, hname, h⟩ := bind_eq_ok.1 h
  obtain ⟨hold, h⟩ := ite_throw_eq_ok.1 h
  obtain ⟨hnew, h⟩ := ite_throw_eq_ok.1 h
  have hold : old ∈ keys c.daemons := by
    simpa [contains_daemon, contains_iff_mem_keys] using hold
  obtain ⟨p, hp⟩ := Option.isSome_iff_exists.1 ((isSome_find?_iff old _).2 hold)
  rw [hp] at h
  refine ⟨checkName_eq_ok.1 hname, fun hmem => ?_, p, find?_mem hp, (Except.ok.inj h).symm⟩
  rw [contains_daemon, contains_iff_mem_keys.2 hmem] at hnew
  cases hnew

theorem renameService_eq_ok {c c' : LabConfig} {old new : String}
    (h : c.renameService old new = .ok c') :
    NameOk new ∧ new ∉ keys c.services ∧ ∃ b, (old, b) ∈ c.services ∧
      c' = { c with services := insert new b (erase old c.services) } := by
  unfold LabConfig.renameService at h
  dsimp only at h
  obtain ⟨⟨⟩, hname, h⟩ := bind_eq_ok.1 h
  obtain ⟨hnew, h⟩ := ite_throw_eq_ok.1 h
  split at h
  · simp [throw, throwThe, MonadExceptOf.throw] at h
  · next b hb =>
    refine ⟨checkName_eq_ok.1 hname, fun hmem => ?_, b, find?_mem hb, (Except.ok.inj h).symm⟩
    rw [contains_iff_mem_keys.2 hmem] at hnew
    cases hnew

theorem mem_replaceName {old new n : String} {names : List String}
    (h : n ∈ LabConfig.replaceName old new names) : n = new ∨ (n ∈ names ∧ n ≠ old) := by
  obtain ⟨m, hm, rfl⟩ := List.mem_map.1 h
  by_cases hmo : m = old
  · simp [hmo]
  · simp [hmo, hm]

theorem contains_moved_of_replaceName {β : Type} {m : NameMap β} {old new : String} {p : β}
    {names : List String} (hnames : ∀ n ∈ names, m.contains n = true) :
    ∀ n ∈ LabConfig.replaceName old new names, (insert new p (erase old m)).contains n = true := by
  intro n hn
  rw [contains_iff_mem_keys, mem_keys_insert, mem_keys_erase]
  rcases mem_replaceName hn with rfl | ⟨hn, hne⟩
  · exact .inl rfl
  · exact .inr ⟨contains_iff_mem_keys.1 (hnames n hn), hne⟩

theorem mem_moved {β : Type} {m : NameMap β} {old new : String} {p : β} {e : String × β}
    (he : e ∈ insert new p (erase old m)) : e = (new, p) ∨ e ∈ m := by
  rcases mem_insert he with rfl | he
  · exact .inl rfl
  · exact .inr (mem_erase.1 he).1

theorem contains_map_keys {β γ : Type} (m : NameMap β) (f : String × β → String × γ)
    (hf : ∀ e, (f e).1 = e.1) (k : String) : NameMap.contains (m.map f) k = m.contains k := by
  rw [Bool.eq_iff_iff, contains_iff_mem_keys, contains_iff_mem_keys, keys_map m hf]

namespace LabConfig.Valid

variable {c c' : LabConfig} {catalog : Option Catalog} {old new : String}

/-- **Renaming a nameserver keeps a configuration valid.** -/
theorem rename_nameserver (hv : c.Valid catalog) (h : c.rename .nameserver old new = .ok c') :
    c'.Valid catalog := by
  obtain ⟨hname, -, p, -, rfl⟩ := rename_nameserver_eq_ok h
  -- every rewritten reference names the moved profile or one that stayed
  have hrefs : ∀ names : List String, (∀ n ∈ names, c.nameservers.contains n = true) →
      ∀ n ∈ LabConfig.replaceName old new names,
        (insert new p (erase old c.nameservers)).contains n = true :=
    fun _ hnames => contains_moved_of_replaceName hnames
  have hdaemons := contains_map_keys c.daemons (fun e =>
    (e.1, { e.2 with nameservers := LabConfig.replaceName old new e.2.nameservers })) fun _ => rfl
  refine {
    version := hv.version
    nameserverNames := fun e he => ?_
    daemonNames := fun e he => ?_
    workers := fun e he => ?_
    daemonRefs := fun e he => ?_
    serviceNames := fun e he => ?_
    implementations := fun e he => ?_
    catalogued := fun e he => ?_
    hosts := fun e he => ?_
    serviceRefs := fun e he => ?_
    autolaunch := fun kind name hn => ?_ }
  · rcases mem_moved he with rfl | he
    · exact hname
    · exact hv.nameserverNames e he
  all_goals first
    | cases kind
    | obtain ⟨e', he', rfl⟩ := List.mem_map.1 he
  · exact hv.daemonNames e' he'
  · exact hv.workers e' he'
  · exact hrefs _ (hv.daemonRefs e' he')
  · exact hv.serviceNames e' he'
  · exact hv.implementations e' he'
  · exact hv.catalogued e' he'
  · exact (hdaemons _).trans (hv.hosts e' he')
  · exact hrefs _ (hv.serviceRefs e' he')
  · exact hrefs _ (hv.autolaunch .nameserver) name hn
  · exact (hdaemons name).trans (hv.autolaunch .daemon name hn)

/-- **Renaming a daemon keeps a configuration valid.** -/
theorem rename_daemon (hv : c.Valid catalog) (h : c.rename .daemon old new = .ok c') :
    c'.Valid catalog := by
  obtain ⟨hname, -, p, hp, rfl⟩ := rename_daemon_eq_ok h
  refine {
    version := hv.version
    nameserverNames := hv.nameserverNames
    daemonNames := fun e he => ?_
    workers := fun e he => ?_
    daemonRefs := fun e he => ?_
    serviceNames := fun e he => ?_
    implementations := fun e he => ?_
    catalogued := fun e he => ?_
    hosts := fun e he => ?_
    serviceRefs := fun e he => ?_
    autolaunch := fun kind name hn => ?_ }
  -- the moved profile is the old one under its new name
  · rcases mem_moved he with rfl | he
    · exact hname
    · exact hv.daemonNames e he
  · rcases mem_moved he with rfl | he
    · exact hv.workers (old, p) hp
    · exact hv.workers e he
  · rcases mem_moved he with rfl | he
    · exact hv.daemonRefs (old, p) hp
    · exact hv.daemonRefs e he
  all_goals try obtain ⟨e', he', rfl⟩ := List.mem_map.1 he
  · exact hv.serviceNames e' he'
  · dsimp only
    split <;> exact hv.implementations e' he'
  · dsimp only
    split <;> exact hv.catalogued e' he'
  · -- a binding of the old daemon now names the new one; any other kept its host
    dsimp only
    split
    · exact contains_iff_mem_keys.2 (mem_keys_insert.2 (.inl rfl))
    · next hne =>
      have hne : e'.2.daemon ≠ old := by simpa using hne
      exact contains_iff_mem_keys.2 (mem_keys_insert.2
        (.inr (mem_keys_erase.2 ⟨contains_iff_mem_keys.1 (hv.hosts e' he'), hne⟩)))
  · dsimp only
    split <;> exact hv.serviceRefs e' he'
  · cases kind
    · exact hv.autolaunch .nameserver name hn
    · exact contains_moved_of_replaceName (hv.autolaunch .daemon) name hn

/-- **Renaming a binding keeps a configuration valid.** -/
theorem renameService (hv : c.Valid catalog) (h : c.renameService old new = .ok c') :
    c'.Valid catalog := by
  obtain ⟨hname, -, b, hb, rfl⟩ := renameService_eq_ok h
  refine { hv with
    serviceNames := fun e he => ?_
    implementations := fun e he => ?_
    catalogued := fun e he => ?_
    hosts := fun e he => ?_
    serviceRefs := fun e he => ?_ }
  -- the moved binding is the old one under its new name
  · rcases mem_moved he with rfl | he
    · exact hname
    · exact hv.serviceNames e he
  · rcases mem_moved he with rfl | he
    · exact hv.implementations (old, b) hb
    · exact hv.implementations e he
  · rcases mem_moved he with rfl | he
    · exact hv.catalogued (old, b) hb
    · exact hv.catalogued e he
  · rcases mem_moved he with rfl | he
    · exact hv.hosts (old, b) hb
    · exact hv.hosts e he
  · rcases mem_moved he with rfl | he
    · exact hv.serviceRefs (old, b) hb
    · exact hv.serviceRefs e he

end LabConfig.Valid

end LabFleet.Config
