import Mathlib.Data.List.Nodup
import LabFleet.Proofs.Supervisor.Operations

/-!
What a reload does to the registry's ownership of processes.

A reload plans its work from the reaped table: a running record renamed to a name the next
configuration has is moved there and respawned, a record whose profile is gone is stopped, and a
running record whose fingerprint changed is respawned in place (`respawnAs`). It then stops the
planned records and spawns the planned processes, each onto the record of its new profile.

That last step spawns onto whatever record the new profile has, even one that still runs: when a
rename targets a profile the reload keeps running, or two respawns target one profile, the
record's live process is replaced by the new one and nobody holds it any more. `ReloadSafe` says
that neither happens, and under it a reload keeps ownership (`reload_keeps`).

A reload takes the pending renames before it commits the next configuration, so a reload whose
commit fails leaves everything as it was but the renames, which are lost
(`failed_reload_drops_renames`).
-/

namespace LabFleet.Supervisor

open Control Config

set_option autoImplicit false

namespace Reload

variable (renames : List Rename) (previous next : LabConfig)

/-- The new name a reload moves a profile's record to: that of the first noted rename of the
profile, when the next configuration has it. -/
def renamedTo (key : ProfileKey) : Option String :=
  ((renames.find? fun n => n.kind == key.kind && n.old == key.name).map (·.new)).filter
    (next.contains key.kind)

/-- The profile under which a reload respawns the process of a running record of `key`: the new
name of a rename, or the profile itself when its fingerprint changed. -/
def respawnAs (key : ProfileKey) : Option ProfileKey :=
  match renamedTo renames next key with
  | some new => some ⟨key.kind, new⟩
  | none =>
    if next.contains key.kind key.name &&
        previous.fingerprint key.kind key.name != next.fingerprint key.kind key.name then some key
    else none

/-- Whether a reload leaves the process of a running record of `key` alone: not renamed, still
configured, with the same fingerprint. -/
def keeps (key : ProfileKey) : Bool :=
  (renamedTo renames next key).isNone && next.contains key.kind key.name &&
    previous.fingerprint key.kind key.name == next.fingerprint key.kind key.name

/-- The respawns a reload plans for a table, in table order: one for each running record that
it moves or whose fingerprint changed. -/
def respawns (rs : List Record) : List (ProfileKey × ProfileKey) :=
  rs.filterMap fun e =>
    if e.state.isRunning then (respawnAs renames previous next e.key).map (e.key, ·) else none

/-- A table on which a reload's respawns are safe: no two running records are respawned under
one profile, and none under a profile whose running record the reload keeps. -/
def Safe (rs : List Record) : Prop :=
  ∀ e ∈ rs, e.state.isRunning = true → ∀ t, respawnAs renames previous next e.key = some t →
    (∀ e' ∈ rs, e'.state.isRunning = true → respawnAs renames previous next e'.key = some t →
      e' = e) ∧
    (∀ x ∈ rs, x.key = t → x.state.isRunning = true → keeps renames previous next x.key = false)

instance (rs : List Record) : Decidable (Safe renames previous next rs) :=
  decidable_of_iff (∀ e ∈ rs, e.state.isRunning = true →
      ∀ t ∈ (respawnAs renames previous next e.key).toList,
        (∀ e' ∈ rs, e'.state.isRunning = true → respawnAs renames previous next e'.key = some t →
          e' = e) ∧
        (∀ x ∈ rs, x.key = t → x.state.isRunning = true →
          keeps renames previous next x.key = false))
    (by simp only [Option.mem_toList]; rfl)

/-- What the planning loop has gathered from the records `pre`: the respawns in table order,
and every running record it does not keep among the records to stop. -/
def Planned (pre : List Record) (toStop : List ProfileKey)
    (toSpawn : List (ProfileKey × ProfileKey)) : Prop :=
  toSpawn = respawns renames previous next pre ∧
    ∀ x ∈ pre, x.state.isRunning = true → keeps renames previous next x.key = false →
      x.key ∈ toStop

variable {renames previous next}

theorem respawns_append (pre : List Record) (a : Record) :
    respawns renames previous next (pre ++ [a]) = respawns renames previous next pre ++
      (if a.state.isRunning then (respawnAs renames previous next a.key).map (a.key, ·)
        else none).toList := by
  simp only [respawns, List.filterMap_append, List.filterMap_cons, List.filterMap_nil]
  split <;> rename_i h <;> rw [h] <;> rfl

theorem Planned.snoc {pre : List Record} {a : Record} {ts ts' : List ProfileKey}
    {sp sp' : List (ProfileKey × ProfileKey)} (h : Planned renames previous next pre ts sp)
    (hsp : sp' = sp ++ (if a.state.isRunning then
      (respawnAs renames previous next a.key).map (a.key, ·) else none).toList)
    (hts : ∀ k ∈ ts, k ∈ ts')
    (hstop : a.state.isRunning = true → keeps renames previous next a.key = false → a.key ∈ ts') :
    Planned renames previous next (pre ++ [a]) ts' sp' := by
  refine ⟨by rw [hsp, h.1, respawns_append], fun x hx hrun hkeep => ?_⟩
  rcases List.mem_append.1 hx with hx | hx
  · exact hts _ (h.2 x hx hrun hkeep)
  · rw [List.mem_singleton.1 hx] at hrun hkeep ⊢
    exact hstop hrun hkeep

theorem mem_respawns {rs : List Record} {p : ProfileKey × ProfileKey}
    (hp : p ∈ respawns renames previous next rs) :
    ∃ e ∈ rs, e.state.isRunning = true ∧ p.1 = e.key ∧
      respawnAs renames previous next e.key = some p.2 := by
  obtain ⟨e, he, hep⟩ := List.mem_filterMap.1 hp
  split at hep
  · next hrun =>
    obtain ⟨t, ht, rfl⟩ := Option.map_eq_some_iff.1 hep
    exact ⟨e, he, hrun, rfl, ht⟩
  · cases hep

theorem Safe.nodup_targets {rs : List Record} (hsafe : Safe renames previous next rs)
    (hs : Sorted rs) : ((respawns renames previous next rs).map Prod.snd).Nodup := by
  have hmap : (respawns renames previous next rs).map Prod.snd = rs.filterMap fun e =>
      if e.state.isRunning then respawnAs renames previous next e.key else none := by
    simp only [respawns, List.map_filterMap]
    congr
    funext e
    split
    · rw [Option.map_map]
      exact Option.map_id'
    · rfl
  rw [hmap]
  -- distinct records of a sorted table, each with its own target
  have hpw : rs.Pairwise fun a b => a ∈ rs ∧ b ∈ rs ∧ a ≠ b := by
    refine List.Pairwise.and_mem.1 (hs.imp fun {a b} hab he => ?_)
    rw [he, ProfileKey.lt_irrefl] at hab
    exact absurd hab (by decide)
  refine hpw.filterMap _ fun e e' ⟨he, he', hne⟩ t ht t' ht' htt => hne ?_
  split at ht
  · split at ht'
    · next hrun hrun' =>
      subst htt
      exact ((hsafe e' he' hrun' t ht').1 e he hrun ht)
    · cases ht'
  · cases ht

theorem Safe.reaped {h : Host} {rs rs' : List Record} (hsafe : Safe renames previous next rs)
    (hrel : List.Forall₂ (Reaped h) rs rs') (hs : Sorted rs') : Safe renames previous next rs' := by
  intro e' he' hrun t ht
  obtain ⟨e, he, hre⟩ := Forall₂.exists_right hrel he'
  rw [hre.key] at ht
  obtain ⟨hone, hkept⟩ := hsafe e he (hre.isRunning hrun) t ht
  constructor
  · intro e'' he'' hrun'' ht''
    obtain ⟨e₂, he₂, hre₂⟩ := Forall₂.exists_right hrel he''
    rw [hre₂.key] at ht''
    have := hone e₂ he₂ (hre₂.isRunning hrun'') ht''
    exact hs.eq_of_key_eq he'' he' (by rw [hre₂.key, hre.key, this])
  · intro x' hx' hxk hrunx
    obtain ⟨x, hx, hrex⟩ := Forall₂.exists_right hrel hx'
    rw [hrex.key] at hxk ⊢
    exact hkept x hx hxk (hrex.isRunning hrunx)

end Reload

open Reload

/-- A reload of the registry `r` to `next` is safe when its respawns are safe on `r`'s table. -/
def ReloadSafe (r : Registry) (next : LabConfig) : Prop :=
  Reload.Safe r.renames r.config next r.records

instance (r : Registry) (next : LabConfig) : Decidable (ReloadSafe r next) :=
  inferInstanceAs (Decidable (Reload.Safe r.renames r.config next r.records))

/-! ## Orders of stopping and spawning -/

theorem mem_stopOrder {ts : List ProfileKey} {k : ProfileKey} (hk : k ∈ ts) :
    k ∈ ts.filter (·.kind == .daemon) ++ ts.filter (·.kind == .nameserver) := by
  rcases hkind : k.kind
  · exact List.mem_append_right _ (List.mem_filter.2 ⟨hk, by simp [hkind]⟩)
  · exact List.mem_append_left _ (List.mem_filter.2 ⟨hk, by simp [hkind]⟩)

theorem spawnOrder_perm (sp : List (ProfileKey × ProfileKey)) :
    (sp.filter (·.2.kind == .nameserver) ++ sp.filter (·.2.kind == .daemon)).Perm sp := by
  have hd : sp.filter (·.2.kind == .daemon) = sp.filter fun x => !(x.2.kind == .nameserver) := by
    refine List.filter_congr fun x _ => ?_
    cases x.2.kind <;> rfl
  rw [hd]
  exact List.filter_append_perm _ sp

/-- **Commit** changes neither the records nor the processes. -/
theorem commit_spec (c : LabConfig) (r : Registry) :
    Triple (· = r) (Registry.commit c) fun _ s => s.records = r.records ∧
      s.host.processes = r.host.processes ∧ s.host.nextPid = r.host.nextPid := by
  unfold Registry.commit
  refine Triple.get_bind_of_eq ?_
  split
  · exact Triple.bind (R := fun _ s => s.records = r.records ∧
        s.host.processes = r.host.processes ∧ s.host.nextPid = r.host.nextPid)
      (fun s hs => by subst hs; exact ⟨rfl, rfl, rfl⟩) fun _ => Triple.pure' fun _ h => h
  · exact Triple.pure' fun s hs => by subst hs; exact ⟨rfl, rfl, rfl⟩

/-- **Commit** writes the configuration when the machine lets it, and changes nothing when it
does not. -/
theorem commit_effect (c : LabConfig) (r : Registry) :
    Triple (· = r) (Registry.commit c) fun res s =>
      (res = .ok () → s = { r with
        config := c
        host := { r.host with runtimeConfig := some (c.render .merged) } }) ∧
      ∀ e, res = .error e → s = r := by
  unfold Registry.commit
  refine Triple.get_bind_of_eq ?_
  split
  · refine Triple.bind (R := fun _ s => s = { r with
        config := c
        host := { r.host with runtimeConfig := some (c.render .merged) } })
      (fun s hs => by subst hs; rfl) fun _ => Triple.pure' fun _ h => ⟨fun _ => h, fun _ he => ?_⟩
    cases he
  · exact Triple.pure' fun _ hs => ⟨(fun he => by cases he), fun _ _ => hs⟩

/-- **Commit** leaves the table, the settings and the clock as they were. -/
theorem commit_frame (c : LabConfig) (r : Registry) :
    Triple (· = r) (Registry.commit c) fun _ s =>
      s.records = r.records ∧ s.settings = r.settings ∧ s.host.clock = r.host.clock := by
  refine Triple.mono (commit_effect c r) (fun _ h => h) fun res s h => ?_
  cases res with
  | ok u => rw [h.1 rfl]; exact ⟨rfl, rfl, rfl⟩
  | error e => rw [h.2 e rfl]; exact ⟨rfl, rfl, rfl⟩

/-! ## The reload -/

variable {O : Nat → Prop} {n : Nat}

/-- The stop loop so far: every record left was on the reaped table, and none has a key
already stopped. -/
def StopInv (O : Nat → Prop) (n : Nat) (rs : List Record) (order rest : List ProfileKey)
    (s : Registry) : Prop :=
  OwnsSince O n s ∧ ∃ pre, pre ++ rest = order ∧ ∀ x ∈ s.records, x ∈ rs ∧ x.key ∉ pre

/-- The spawn loop so far: the profiles still to spawn are distinct, each one's running record
on the reaped table was stopped, and a record of one of them is a record of the reaped table
that was not stopped. -/
def SpawnInv (O : Nat → Prop) (n : Nat) (rs : List Record) (stopped : List ProfileKey)
    (rest : List (ProfileKey × ProfileKey)) (s : Registry) : Prop :=
  OwnsSince O n s ∧ (rest.map Prod.snd).Nodup ∧
    (∀ p ∈ rest, ∀ x ∈ rs, x.key = p.2 → x.state.isRunning = true → x.key ∈ stopped) ∧
    ∀ x ∈ s.records, x.key ∈ rest.map Prod.snd → x ∈ rs ∧ x.key ∉ stopped

theorem SpawnInv.spawned {rs : List Record} {stopped : List ProfileKey} {old new : ProfileKey}
    {rest : List (ProfileKey × ProfileKey)} {s s' : Registry} {e' : Record}
    (hinv : SpawnInv O n rs stopped ((old, new) :: rest) s) (hk : e'.key = new)
    (hsp : Registry.SpawnedBy s e' s') :
    SpawnInv O n rs stopped rest ((Registry.put e').run s').2 := by
  obtain ⟨ho, hnd, hrun, hrec⟩ := hinv
  have hnd' := List.nodup_cons.1 hnd
  refine ⟨Owns.spawned ho.2 ho.1 hsp fun x hx hxk p hxp => ?_, hnd'.2,
    fun q hq => hrun q (List.mem_cons_of_mem _ hq), fun x hx hxk => ?_⟩
  · -- the profile's record, if any, was on the reaped table and not stopped: it is idle
    rw [hk] at hxk
    obtain ⟨hxrs, hxs⟩ := hrec x hx (by simp [hxk])
    have hidle : x.state.isRunning = false := by
      cases h : x.state.isRunning
      · rfl
      · exact absurd (hrun (old, new) List.mem_cons_self x hxrs hxk h) hxs
    exact absurd hxp (Record.not_holds_of_idle (ho.2.handle x hx) hidle p)
  · change x ∈ insertRecord e' s'.records at hx
    rcases mem_insertRecord_or hx with rfl | hx
    · rw [hk] at hxk
      exact absurd hxk hnd'.1
    · rw [hsp.1] at hx
      exact hrec x hx (List.mem_cons_of_mem _ hxk)

/-- **A safe reload keeps ownership.** The records it stops are taken out and their processes
ended; each respawn lands on a record that holds nothing alive, because a running record of its
profile was stopped first; and the final look at the records only ends processes. -/
theorem reload_keeps (next : LabConfig) :
    Triple (fun s => OwnsSince O n s ∧ ReloadSafe s next) (Registry.reload next)
      fun _ => OwnsSince O n := by
  unfold Registry.reload
  refine Triple.get_bind fun r₀ => Triple.get_bind fun r₁ => ?_
  dsimp only
  -- the noted renames are taken and the configuration committed: the table is as it was
  refine Triple.bind (R := fun _ s => OwnsSince O n s ∧ s.records = r₀.records ∧
      Reload.Safe r₁.renames r₀.config next r₀.records)
    (fun s h => by
      obtain ⟨⟨⟨ho, hsafe⟩, hs₀⟩, hs₁⟩ := h
      subst hs₀ hs₁
      exact ⟨ho.congr rfl rfl rfl, rfl, hsafe⟩) fun _ => ?_
  refine Triple.bind (R := fun res s => OwnsSince O n s ∧ s.records = r₀.records ∧
      Reload.Safe r₁.renames r₀.config next r₀.records)
    (fun s h => by
      obtain ⟨ho, hrec, hsafe⟩ := h
      obtain ⟨hrec', hp, hn⟩ := commit_spec next s s rfl
      exact ⟨ho.congr hrec' hp hn, hrec'.trans hrec, hsafe⟩) fun res => ?_
  split
  · exact Triple.pure' fun _ h => h.1
  -- every record is brought up to date; safety carries over to the reaped table
  refine Triple.bind (R := fun _ s => OwnsSince O n s ∧
      Reload.Safe r₁.renames r₀.config next s.records)
    (fun s h => by
      obtain ⟨ho, hrec, hsafe⟩ := h
      obtain ⟨hsh, hrel⟩ := Registry.reap_spec s ho.2.adopted s rfl
      have ho' := ho.of_owns_since (ho.2.reaped hsh hrel) hsh.nextPid
      exact ⟨ho', hsafe.reaped (hrec ▸ hrel) ho'.2.sorted⟩) fun _ => ?_
  refine Triple.get_bind fun r₂ => ?_
  -- the plan: the respawns in table order, and every running record not kept to be stopped
  refine Triple.bind (R := fun acc s => (OwnsSince O n s ∧
      Reload.Safe r₁.renames r₀.config next s.records ∧ s = r₂) ∧
      Planned r₁.renames r₀.config next r₂.records acc.2.1 acc.2.2)
    (Triple.mono (Triple.forIn (fun rest acc s => (OwnsSince O n s ∧
        Reload.Safe r₁.renames r₀.config next s.records ∧ s = r₂) ∧
        ∃ pre, pre ++ rest = r₂.records ∧ Planned r₁.renames r₀.config next pre acc.2.1 acc.2.2)
      fun a rest acc => ?_)
      (fun s h => ⟨⟨h.1.1, h.1.2, h.2⟩, [], rfl, rfl, fun _ hx => by cases hx⟩)
      fun acc s h => by
        obtain ⟨hs, pre, hpre, hplan⟩ := h
        rw [List.append_nil] at hpre
        exact ⟨hs, hpre ▸ hplan⟩)
    fun acc => ?_
  · -- one record of the plan: the code's cases, each adding what `respawnAs` and `keeps` say
    have hstep : ∀ {ts' : List ProfileKey} {sp' : List (ProfileKey × ProfileKey)},
        sp' = acc.2.2 ++ (if a.state.isRunning then
          (respawnAs r₁.renames r₀.config next a.key).map (a.key, ·) else none).toList →
        (∀ k ∈ acc.2.1, k ∈ ts') →
        (a.state.isRunning = true → keeps r₁.renames r₀.config next a.key = false → a.key ∈ ts') →
        ∀ s, ((OwnsSince O n s ∧ Reload.Safe r₁.renames r₀.config next s.records ∧ s = r₂) ∧
          ∃ pre, pre ++ a :: rest = r₂.records ∧
            Planned r₁.renames r₀.config next pre acc.2.1 acc.2.2) →
        (OwnsSince O n s ∧ Reload.Safe r₁.renames r₀.config next s.records ∧ s = r₂) ∧
          ∃ pre, pre ++ rest = r₂.records ∧ Planned r₁.renames r₀.config next pre ts' sp' :=
      fun hsp hts hstop s h => by
        obtain ⟨hs, pre, hpre, hplan⟩ := h
        exact ⟨hs, pre ++ [a], by simp [hpre], hplan.snoc hsp hts hstop⟩
    have hgrow : ∀ k ∈ acc.2.1, k ∈ acc.2.1 ++ [a.key] := fun k hk => List.mem_append_left _ hk
    have hlast : a.key ∈ acc.2.1 ++ [a.key] := List.mem_append_right _ (List.mem_singleton_self _)
    split
    · -- renamed to a name the next configuration has: stopped, and respawned there if running
      next new hren =>
      have hre : respawnAs r₁.renames r₀.config next a.key = some ⟨a.key.kind, new⟩ := by
        simp only [respawnAs, renamedTo]
        rw [hren]
      split
      · next hrun => exact Triple.pure' (hstep (by simp [hre, hrun]) hgrow fun _ _ => hlast)
      · next hrun => exact Triple.pure' (hstep (by simp [hrun]) hgrow fun _ _ => hlast)
    · next hren =>
      split
      · -- the profile is gone: stopped, never respawned
        next hgone =>
        have hc : next.contains a.key.kind a.key.name = false := by simpa using hgone
        have hre : respawnAs r₁.renames r₀.config next a.key = none := by
          simp only [respawnAs, renamedTo]
          rw [hren]
          simp [hc]
        split
        · exact Triple.pure' (hstep (by simp [hre]) hgrow fun _ _ => hlast)
        · exact Triple.pure' (hstep (by simp [hre]) hgrow fun _ _ => hlast)
      · next hthere =>
        have hc : next.contains a.key.kind a.key.name = true := by simpa using hthere
        split
        · -- the fingerprint changed: respawned in place if running
          next hfp =>
          have hfp : r₀.config.fingerprint a.key.kind a.key.name ≠
              next.fingerprint a.key.kind a.key.name := by simpa using hfp
          have hre : respawnAs r₁.renames r₀.config next a.key = some a.key := by
            simp only [respawnAs, renamedTo]
            rw [hren]
            simp [hc, hfp]
          split
          · next hrun => exact Triple.pure' (hstep (by simp [hre, hrun]) hgrow fun _ _ => hlast)
          · next hrun =>
            exact Triple.pure' (hstep (by simp [hrun]) (fun _ h => h) fun h => absurd h hrun)
        · -- kept as it is
          next hfp =>
          have hfp : r₀.config.fingerprint a.key.kind a.key.name =
              next.fingerprint a.key.kind a.key.name := by simpa using hfp
          have hre : respawnAs r₁.renames r₀.config next a.key = none := by
            simp only [respawnAs, renamedTo]
            rw [hren]
            simp [hc, hfp]
          have hkeep : keeps r₁.renames r₀.config next a.key = true := by
            simp only [keeps, renamedTo]
            rw [hren]
            simp [hc, hfp]
          split
          · exact Triple.pure' (hstep (by simp [hre]) (fun _ h => h)
              fun _ h => absurd (hkeep.symm.trans h) (by decide))
          · next hrun =>
            exact Triple.pure' (hstep (by simp [hrun]) (fun _ h => h) fun h => absurd h hrun)
  · refine Triple.of_forall fun s h => ?_
    obtain ⟨⟨ho, hsafe, hs⟩, hplan⟩ := h
    subst hs
    generalize hord : acc.2.1.filter (·.kind == .daemon) ++
      acc.2.1.filter (·.kind == .nameserver) = order
    -- the planned records are stopped; what is left is on the reaped table and not stopped
    refine Triple.bind (R := fun _ s' => StopInv O n s.records order [] s')
      (Triple.mono (Triple.forIn (fun rest _ s' => StopInv O n s.records order rest s')
          fun key rest _ => ?_)
        (fun s' hs' => by
          subst hs'
          exact ⟨ho, [], rfl, fun x hx => ⟨hx, by simp⟩⟩) fun _ _ h => h)
      fun _ => ?_
    · refine Triple.bind (R := fun x s' => ∃ s₀, StopInv O n s.records order (key :: rest) s₀ ∧
          x = s₀.find? key ∧ s' = ((Registry.take key).run s₀).2)
        (fun s' hs' => ⟨s', hs', rfl, rfl⟩) fun x => ?_
      have hleft : ∀ {s₀ : Registry} {s' : Registry},
          StopInv O n s.records order (key :: rest) s₀ →
          s'.records = (s₀.records.filter (·.key != key)) → OwnsSince O n s' →
          StopInv O n s.records order rest s' := fun hinv hrec' ho' => by
        obtain ⟨-, pre, hpre, hrec⟩ := hinv
        refine ⟨ho', pre ++ [key], by simp [hpre], fun y hy => ?_⟩
        rw [hrec'] at hy
        obtain ⟨hy, hyk⟩ := List.mem_filter.1 hy
        obtain ⟨hyrs, hypre⟩ := hrec y hy
        refine ⟨hyrs, fun hmem => ?_⟩
        rcases List.mem_append.1 hmem with hmem | hmem
        · exact hypre hmem
        · simp_all
      split
      · next entry =>
        refine Triple.bind (R := fun _ s' => StopInv O n s.records order rest s')
          (fun s' h => by
            obtain ⟨s₀, hinv, hx, hs'⟩ := h
            subst hs'
            obtain ⟨h, hs'', _, _⟩ := Registry.terminate_host entry ((Registry.take key).run s₀).2
            exact hleft hinv (by rw [hs'']; rfl) (hinv.1.stopped hx.symm))
          fun _ => Triple.bind (R := fun _ s' => StopInv O n s.records order rest s')
            (fun s' h => ⟨h.1.congr rfl rfl rfl, h.2⟩)
            fun _ => Triple.pure' fun _ h => h
      · exact Triple.pure' fun s' h => by
          obtain ⟨s₀, hinv, hx, hs'⟩ := h
          subst hs'
          refine hleft hinv rfl (hinv.1.take key fun y hy hyk => absurd hyk ?_)
          unfold Registry.find? at hx
          exact find?_eq_none_iff.1 hx.symm y hy
    · -- the respawns, nameservers first, each onto a record that holds nothing alive
      generalize hsord : acc.2.2.filter (·.2.kind == .nameserver) ++
        acc.2.2.filter (·.2.kind == .daemon) = sorder
      have hperm : sorder.Perm acc.2.2 := hsord ▸ spawnOrder_perm acc.2.2
      have hnodup : (sorder.map Prod.snd).Nodup := by
        refine (hperm.map Prod.snd).nodup_iff.2 ?_
        rw [hplan.1]
        exact hsafe.nodup_targets ho.2.sorted
      have hstop : ∀ p ∈ sorder, ∀ x ∈ s.records, x.key = p.2 → x.state.isRunning = true →
          x.key ∈ order := by
        intro p hp x hx hxk hrun
        obtain ⟨e, he, hrune, -, hre⟩ := mem_respawns (hplan.1 ▸ hperm.subset hp)
        have hkeep := (hsafe e he hrune p.2 hre).2 x hx hxk hrun
        rw [← hord]
        exact mem_stopOrder (hplan.2 x hx hrun hkeep)
      refine Triple.bind (R := fun _ s' => SpawnInv O n s.records order [] s')
        (Triple.mono (Triple.forIn (fun rest _ s' => SpawnInv O n s.records order rest s')
          fun p rest acc' => ?_)
          (fun s' h => by
            obtain ⟨ho', pre, hpre, hrec⟩ := h
            refine ⟨ho', hnodup, hstop, fun x hx _ => ?_⟩
            obtain ⟨hxs, hxpre⟩ := hrec x hx
            rw [List.append_nil] at hpre
            exact ⟨hxs, hpre ▸ hxpre⟩) fun _ _ h => h)
        fun _ => ?_
      · obtain ⟨old, new⟩ := p
        dsimp only
        -- a rename is logged first, which touches neither the table nor the host
        split
        on_goal 1 =>
          refine Triple.bind (R := fun _ s' => SpawnInv O n s.records order ((old, new) :: rest) s')
            (fun s' h => ⟨h.1.congr rfl rfl rfl, h.2⟩) fun _ => ?_
        all_goals
          refine Triple.get_bind fun s₀ => ?_
          refine Triple.bind (R := fun res s' => SpawnInv O n s.records order ((old, new) :: rest) s₀ ∧
              res.1.key = new ∧ Registry.SpawnedBy s₀ res.1 s')
            (fun s' h => by
              obtain ⟨hinv, hs'⟩ := h
              subst hs'
              obtain ⟨hkey, hsp⟩ := Registry.spawn_spec _ s' s' rfl
              exact ⟨hinv, hkey.trans (lookup_spec hinv.1.2.sorted new).1, hsp⟩) fun res => ?_
          refine Triple.bind (R := fun _ s' => SpawnInv O n s.records order rest s')
            (fun s' h => h.1.spawned h.2.1 h.2.2) fun _ => ?_
          split <;> exact Triple.pure' fun _ h => h
      · -- a pause for the respawns to settle, a last reap, and a read-only pass for warnings
        split
        · refine Triple.bind (R := fun _ => OwnsSince O n)
            (fun s' h => h.1.shrink (Host.shrinks_sleep _ _) rfl) fun _ => ?_
          refine Triple.bind (R := fun _ => OwnsSince O n)
            (fun s' ho' => by
              obtain ⟨hsh, hrel⟩ := Registry.reap_spec s' ho'.2.adopted s' rfl
              exact ho'.of_owns_since (ho'.2.reaped hsh hrel) hsh.nextPid) fun _ => ?_
          refine Triple.bind (R := fun _ => OwnsSince O n)
            (Triple.mono (Triple.forIn (fun _ _ => OwnsSince O n) fun p _ _ => ?_)
              (fun _ h => h) fun _ _ h => h) fun _ => Triple.pure' fun _ h => h
          refine Triple.get_bind fun _ => ?_
          split <;> exact Triple.pure' fun _ h => h.1
        · exact Triple.pure' fun _ h => h.1

/-- **A reload whose commit fails** returns the I/O error and leaves the table, the committed
configuration, the logs and the machine as they were, but not the pending renames: it takes them
before it commits, and they are lost with the failed commit. -/
theorem failed_reload_drops_renames (next : LabConfig) (r : Registry)
    (h : r.host.writable = false) :
    (Registry.reload next).run r =
      (.error (.io "Permission denied (os error 13)"), { r with renames := [] }) := by
  unfold Registry.reload
  simp [Registry.commit, h]
  rfl

end LabFleet.Supervisor
