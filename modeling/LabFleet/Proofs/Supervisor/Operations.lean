import LabFleet.Proofs.Supervisor.Ownership

/-!
What each operation of the registry does to its ownership of processes.

An operation that begins when the machine's next PID is `n` keeps `OwnsSince O n`: the registry
holds every live process of `O` and every live process spawned since. Each operation is walked
statement by statement with the rules of `Triple`; the steps that matter are the primitives of
`Ownership`, and every other step changes neither the records nor the processes.

Main statements, one per operation: `start_keeps`, `stop_keeps`, `status_keeps`,
`noteRename_keeps`, `stopAll_keeps`, `recover_keeps` and `adopt_keeps` (the last under the
condition that the run directory's PID files name no process twice and none that a record of
another profile holds).
-/

namespace LabFleet.Supervisor

open Control

set_option autoImplicit false

/-- Ownership within an operation that began when the machine's next PID was `n`: the registry
holds every live process of `O` and every live process spawned since. -/
def OwnsSince (O : Nat → Prop) (n : Nat) (r : Registry) : Prop :=
  n ≤ r.host.nextPid ∧ Owns (Since O n r) r

namespace OwnsSince

variable {O : Nat → Prop} {n : Nat} {r r' : Registry}

theorem shrink (h : OwnsSince O n r) (hm : r.host.Shrinks r'.host)
    (hrec : r'.records = r.records) : OwnsSince O n r' := by
  have hs : Since O n r' = Since O n r := by
    funext p
    simp [Since, hm.nextPid]
  refine ⟨hm.nextPid ▸ h.1, ?_⟩
  rw [hs]
  exact h.2.shrink hm hrec

theorem congr (h : OwnsSince O n r) (hrec : r'.records = r.records)
    (hp : r'.host.processes = r.host.processes) (hn : r'.host.nextPid = r.host.nextPid) :
    OwnsSince O n r' :=
  h.shrink (Host.Shrinks.of_eq hp hn) hrec

theorem put_reaped (h : OwnsSince O n r) {x e : Record} (hx : x ∈ r.records)
    (hr : Reaped r.host x e) : OwnsSince O n ((Registry.put e).run r).2 :=
  ⟨h.1, h.2.put_reaped hx hr⟩

theorem of_owns_since (h : OwnsSince O n r) (ho : Owns (Since O n r) r')
    (hn : r'.host.nextPid = r.host.nextPid) : OwnsSince O n r' := by
  have hs : Since O n r' = Since O n r := by
    funext p
    simp [Since, hn]
  exact ⟨hn ▸ h.1, hs ▸ ho⟩

theorem take (h : OwnsSince O n r) (k : ProfileKey)
    (hk : ∀ x ∈ r.records, x.key = k → ∀ p, x.holds p → ¬ r.host.alive p) :
    OwnsSince O n ((Registry.take k).run r).2 :=
  h.of_owns_since (h.2.take k fun x hx hxk p hxp _ => hk x hx hxk p hxp) rfl

theorem stopped (h : OwnsSince O n r) {k : ProfileKey} {e : Record} (he : r.find? k = some e) :
    OwnsSince O n ((Registry.terminate e).run ((Registry.take k).run r).2).2 := by
  obtain ⟨_, hs, hsh, _⟩ := Registry.terminate_host e ((Registry.take k).run r).2
  refine h.of_owns_since (h.2.stopped he) ?_
  rw [hs]
  exact hsh.nextPid

theorem of_owns (h : Owns O r) : OwnsSince O r.host.nextPid r := by
  refine ⟨Nat.le_refl _, h.mono fun p hp => ?_⟩
  rcases hp with hp | ⟨hle, hlt⟩
  · exact .inl hp
  · exact absurd hlt (Nat.not_lt.2 hle)

end OwnsSince

theorem lookup_spec {r : Registry} (hs : Sorted r.records) (k : ProfileKey) :
    ((r.find? k).getD (Record.fresh k)).key = k ∧
      (∀ x ∈ r.records, x.key = k → x = (r.find? k).getD (Record.fresh k)) ∧
      ((r.find? k).getD (Record.fresh k) ∈ r.records ∨
        (r.find? k).getD (Record.fresh k) = Record.fresh k) := by
  unfold Registry.find?
  cases hf : r.records.find? (·.key == k) with
  | none =>
    refine ⟨rfl, fun x hx hk => absurd hk (find?_eq_none_iff.1 hf x hx), .inr rfl⟩
  | some y =>
    obtain ⟨hy, hyk⟩ := hs.find?_eq_some.1 hf
    exact ⟨hyk, fun x hx hk => hs.eq_of_key_eq hx hy (hk.trans hyk.symm), .inl hy⟩

variable {O : Nat → Prop} {n : Nat}

/-! ## Start -/

/-- **Starting a profile keeps ownership.** A record still running is stored back as it was;
otherwise its process, if it had one, has ended, and the new spawn is stored and then looked at
once more after the startup window. -/
theorem start_keeps (key : ProfileKey) :
    Triple (OwnsSince O n) (Registry.start key) fun _ => OwnsSince O n := by
  unfold Registry.start
  refine Triple.get_bind fun r₀ => ?_
  split
  · exact Triple.pure' fun s hs => hs.1
  · dsimp only
    -- the record of the profile, looked at: running and in the table, or holding nothing alive
    refine Triple.bind (R := fun entry s => OwnsSince O n s ∧ entry.key = key ∧
        (entry.state.isRunning = true → entry ∈ s.records) ∧
        (entry.state.isRunning = false →
          ∀ x ∈ s.records, x.key = key → ∀ p, x.holds p → ¬ s.host.alive p))
      (fun s ⟨ho, hs⟩ => ?_) fun entry => ?_
    · subst hs
      obtain ⟨hkey, honly, hin⟩ := lookup_spec ho.2.sorted key
      have hadopt : ∀ p, ((s.find? key).getD (Record.fresh key)).handle = some (.adopted p) →
          0 < p ∧ p ≤ Host.maxPid := by
        rcases hin with hin | hin
        · exact ho.2.adopted _ hin
        · rw [hin]
          intro p hp
          cases hp
      obtain ⟨hrec, hsh, hkey', hcase⟩ := Registry.checked_spec _ s hadopt s rfl
      refine ⟨ho.shrink hsh hrec, hkey'.trans hkey, fun hrun => ?_, fun hrun x hx hxk p hxp => ?_⟩
      · -- a running record is the table's own: a fresh record is stopped
        rcases hcase with ⟨he, hs⟩ | ⟨hst, _⟩
        · rw [he] at hrun ⊢
          rw [hs]
          rcases hin with hin | hin
          · exact hin
          · rw [hin] at hrun
            cases hrun
        · rw [hst] at hrun
          cases hrun
      · have hx₀ := honly x (hrec ▸ hx) hxk
        rcases hcase with ⟨he, hs⟩ | ⟨_, hd⟩
        · -- still as it was and not running: it holds nothing
          rw [he] at hrun
          rw [hs] at hx ⊢
          rw [hx₀] at hxp
          exact absurd hxp (Record.not_holds_of_idle (ho.2.handle _ (hx₀ ▸ hx)) hrun p)
        · exact hd p (hx₀ ▸ hxp)
    · split
      · -- already running: stored back unchanged
        exact Triple.bind (R := fun _ s => OwnsSince O n s)
          (fun s ⟨ho, _, hin, _⟩ => ho.put_reaped (hin ‹_›) (Reaped.kept _ entry))
          fun _ => Triple.pure' fun _ h => h
      · next hrun =>
        have hrun : entry.state.isRunning = false := by simpa using hrun
        refine Triple.bind (R := fun res s => ∃ s₀, OwnsSince O n s₀ ∧ res.1.key = key ∧
            (∀ x ∈ s₀.records, x.key = key → ∀ p, x.holds p → ¬ s₀.host.alive p) ∧
            Registry.SpawnedBy s₀ res.1 s)
          (fun s ⟨ho, hk, _, hfree⟩ => by
            obtain ⟨hk', hsp⟩ := Registry.spawn_spec _ s s rfl
            exact ⟨s, ho, hk'.trans hk, hfree hrun, hsp⟩)
          fun res => ?_
        obtain ⟨entry', failure⟩ := res
        -- the spawned record is stored
        refine Triple.bind (R := fun _ s => OwnsSince O n s ∧ entry' ∈ s.records)
          (fun s ⟨s₀, ho, hk, hfree, hsp⟩ => ⟨Owns.spawned ho.2 ho.1 hsp (hk ▸ hfree),
            mem_insertRecord_self entry' _⟩)
          fun _ => ?_
        split
        · exact Triple.pure' fun _ h => h.1
        · -- the startup window passes, and the spawn is looked at once more
          refine Triple.bind (R := fun _ s => OwnsSince O n s ∧ entry' ∈ s.records)
            (fun s ⟨ho, hin⟩ => ⟨ho.shrink (Host.shrinks_sleep _ _) rfl, hin⟩) fun _ => ?_
          refine Triple.bind (R := fun res s => OwnsSince O n s ∧ entry' ∈ s.records ∧
              (res.isSome → ∀ p, entry'.holds p → ¬ s.host.alive p))
            (fun s ⟨ho, hin⟩ => by
              obtain ⟨hrec, hsh, hd, _⟩ :=
                Registry.pollExit_spec entry' s (ho.2.adopted entry' hin) s rfl
              exact ⟨ho.shrink hsh hrec, hrec ▸ hin, hd⟩)
            fun res => ?_
          split
          · next why =>
            exact Triple.bind (R := fun _ s => OwnsSince O n s)
              (fun s ⟨ho, hin, hd⟩ => ho.put_reaped hin (Reaped.crashed why (hd rfl)))
              fun _ => Triple.pure' fun _ h => h
          · dsimp only
            refine Triple.bind (R := fun _ s => OwnsSince O n s) (fun s ⟨ho, hin, _⟩ => ?_)
              fun _ => Triple.pure' fun _ h => h
            split
            · next hst => exact ho.put_reaped hin (Reaped.promoted _ (by simpa using hst))
            · exact ho.put_reaped hin (Reaped.kept _ entry')

/-! ## Stop, status and renames -/

/-- **Stopping a profile keeps ownership**: its record goes, and its process is ended. -/
theorem stop_keeps (key : ProfileKey) :
    Triple (OwnsSince O n) (Registry.stop key) fun _ => OwnsSince O n := by
  unfold Registry.stop
  refine Triple.get_bind fun r₀ => ?_
  dsimp only
  refine Triple.bind (R := fun x s => ∃ s₀, OwnsSince O n s₀ ∧ x = s₀.find? key ∧
      s = ((Registry.take key).run s₀).2)
    (fun s ⟨ho, _⟩ => ⟨s, ho, rfl, rfl⟩) fun x => ?_
  split
  · -- no record: nothing was taken out
    next hx =>
    have hkeep : ∀ s, (∃ s₀, OwnsSince O n s₀ ∧ none = s₀.find? key ∧
        s = ((Registry.take key).run s₀).2) → OwnsSince O n s := fun s ⟨s₀, ho, hx, hs⟩ => by
      subst hs
      refine ho.take key fun y hy hyk => absurd hyk ?_
      exact find?_eq_none_iff.1 hx.symm y hy
    split
    · exact Triple.pure' hkeep
    · exact Triple.pure' hkeep
  · next entry =>
    refine Triple.bind (R := fun _ s => OwnsSince O n s)
      (fun s ⟨s₀, ho, hx, hs⟩ => by
        subst hs
        exact ho.stopped hx.symm)
      fun _ => ?_
    refine Triple.bind (R := fun _ s => OwnsSince O n s) (fun s ho => ho.congr rfl rfl rfl)
      fun _ => ?_
    -- the warnings about dependent daemons only read the table
    split
    · refine Triple.map (Triple.mono (Triple.forIn (fun _ _ s => OwnsSince O n s)
        fun a rest b => ?_) (fun _ h => h) fun _ _ h => h)
      refine Triple.get_bind fun s₀ => ?_
      split
      · exact Triple.pure' fun _ h => h.1
      · exact Triple.pure' fun _ h => h.1
    · exact Triple.pure' fun _ h => h

theorem status_keeps (target : StatusTarget) :
    Triple (OwnsSince O n) (Registry.status target) fun _ => OwnsSince O n := by
  unfold Registry.status
  refine Triple.bind (R := fun _ s => OwnsSince O n s) (fun s ho => ?_) fun _ => ?_
  · obtain ⟨hsh, hrel⟩ := Registry.reap_spec s ho.2.adopted s rfl
    exact ho.of_owns_since (ho.2.reaped hsh hrel) hsh.nextPid
  · refine Triple.get_bind fun s₀ => ?_
    split
    · exact Triple.pure' fun _ h => h.1
    · split
      · exact Triple.pure' fun _ h => h.1
      · exact Triple.pure' fun _ h => h.1

theorem noteRename_keeps (kind : ProfileKind) (old new : String) :
    Triple (OwnsSince O n) (Registry.noteRename kind old new) fun _ => OwnsSince O n :=
  fun s ho => by
    unfold Registry.noteRename
    rw [StateT.run_modify]
    split
    · exact ho.congr rfl rfl rfl
    · exact ho.congr rfl rfl rfl

/-! ## Stop everything -/

/-- **Stopping everything keeps ownership**: the table is emptied at once, and then every
process it held is ended, so that no owned process is left alive. -/
theorem stopAll_keeps : Triple (OwnsSince O n) Registry.stopAll fun _ => OwnsSince O n := by
  unfold Registry.stopAll
  refine Triple.get_bind fun r₀ => ?_
  dsimp only
  -- while the loop runs, every owned live process is held by a record still to be ended
  let I : List Record → PUnit → Registry → Prop := fun rest _ s =>
    OwnsSince O n r₀ ∧ s.records = [] ∧ r₀.host.Shrinks s.host ∧
      (∀ e ∈ rest, ∀ p, e.handle = some (.adopted p) → 0 < p ∧ p ≤ Host.maxPid) ∧
      ∀ p, Since O n r₀ p → s.host.alive p → ∃ e ∈ rest, e.holds p
  refine Triple.bind (R := fun _ s => I (r₀.records.filter (·.key.kind == .daemon) ++
      r₀.records.filter (·.key.kind == .nameserver)) () s)
    (fun s ⟨ho, hs⟩ => ?_) fun _ => ?_
  · -- every profile is a daemon or a nameserver
    have hmem : ∀ e ∈ r₀.records, e ∈ r₀.records.filter (·.key.kind == .daemon) ++
        r₀.records.filter (·.key.kind == .nameserver) := fun e he => by
      rcases hk : e.key.kind
      · exact List.mem_append_right _ (List.mem_filter.2 ⟨he, by simp [hk]⟩)
      · exact List.mem_append_left _ (List.mem_filter.2 ⟨he, by simp [hk]⟩)
    subst hs
    refine ⟨ho, rfl, Host.Shrinks.refl _, fun e he => ?_, fun p hp ha => ?_⟩
    · rcases List.mem_append.1 he with he | he <;> exact ho.2.adopted e (List.mem_filter.1 he).1
    · obtain ⟨e, he, hep⟩ := ho.2.covers p hp ha
      exact ⟨e, hmem e he, hep⟩
  · refine Triple.bind (R := fun _ s => I [] () s)
      (Triple.forIn I fun entry rest _ => ?_) fun _ => Triple.pure' fun s ⟨ho, hrec, hsh, _, hd⟩ => ?_
    · refine Triple.bind (R := fun _ s => I rest () s) (fun s ⟨ho, hrec, hsh, hadopt, hd⟩ => ?_)
        fun _ => Triple.bind (R := fun _ s => I rest () s)
          (fun s ⟨ho, hrec, hsh, hadopt, hd⟩ =>
            ⟨ho, hrec, hsh.trans (Host.Shrinks.of_eq rfl rfl), hadopt, hd⟩)
          fun _ => Triple.pure' fun _ h => h
      obtain ⟨h, hs, hsh', hend⟩ := Registry.terminate_host entry s
      rw [hs]
      refine ⟨ho, hrec, hsh.trans hsh', fun e he => hadopt e (List.mem_cons_of_mem _ he),
        fun p hp ha => ?_⟩
      obtain ⟨e, he, hep⟩ := hd p hp (hsh'.alive p ha)
      rcases List.mem_cons.1 he with rfl | he
      · exact absurd ha (hend (hadopt e List.mem_cons_self) p hep)
      · exact ⟨e, he, hep⟩
    · -- nothing owned is left alive, and the table is empty
      have hn : s.host.nextPid = r₀.host.nextPid := hsh.nextPid
      refine ho.of_owns_since (Owns.empty hrec (fun p hp ha => ?_) (fun q hq => ?_)
        (fun p hp => hn ▸ ho.2.owned_lt p hp) (hn ▸ ho.2.one_lt)) hn
      · obtain ⟨e, he, _⟩ := hd p hp ha
        cases he
      · obtain ⟨q', hq', he⟩ := hsh.processes q hq
        rw [hn, ← he]
        exact ho.2.processes_lt q' hq'

/-! ## Recovery -/

/-- While a recovery pass runs, the crashed profiles still to visit are distinct, and each has
no record or a record that holds nothing. -/
def RecoverInv (O : Nat → Prop) (n : Nat) (rest : List ProfileKey) (s : Registry) : Prop :=
  OwnsSince O n s ∧ rest.Nodup ∧ ∀ k ∈ rest, ∀ x ∈ s.records, x.key = k → x.handle = none

theorem RecoverInv.put {k : ProfileKey} {rest : List ProfileKey} {s : Registry} {e : Record}
    (hnd : (k :: rest).Nodup) (hk : e.key = k)
    (hnone : ∀ k' ∈ k :: rest, ∀ x ∈ s.records, x.key = k' → x.handle = none) :
    ∀ k' ∈ rest, ∀ x ∈ insertRecord e s.records, x.key = k' → x.handle = none := by
  intro k' hk' x hx hxk
  rcases mem_insertRecord_or hx with rfl | hx
  · exact absurd (hk ▸ hxk ▸ hk' : k ∈ rest) (List.nodup_cons.1 hnd).1
  · exact hnone k' (List.mem_cons_of_mem _ hk') x hx hxk

/-- **A recovery pass keeps ownership.** Every record it respawns or gives up on has crashed,
so it holds nothing; a crashed record of a profile no longer configured is dropped. -/
theorem recover_keeps : Triple (OwnsSince O n) Registry.recover fun _ => OwnsSince O n := by
  unfold Registry.recover
  refine Triple.get_bind fun r₀ => ?_
  dsimp only
  refine Triple.bind (R := fun _ s => OwnsSince O n s) (fun s h => ?_) fun _ => ?_
  · obtain ⟨ho, -⟩ := h
    obtain ⟨hsh, hrel⟩ := Registry.reap_spec s ho.2.adopted s rfl
    exact ho.of_owns_since (ho.2.reaped hsh hrel) hsh.nextPid
  refine Triple.get_bind fun r₁ => ?_
  let crashed := (r₁.records.filter (·.state == .crashed)).map (·.key)
  refine Triple.bind (R := fun _ s => RecoverInv O n crashed s) (fun s h => ?_) fun _ => ?_
  · obtain ⟨ho, hs⟩ := h
    subst hs
    refine ⟨ho.shrink (Host.Shrinks.of_eq rfl rfl) rfl, (ho.2.sorted.filter _).nodup_keys,
      fun k hk x hx hxk => ?_⟩
    -- a crashed profile's record is the crashed record itself, which holds nothing
    obtain ⟨y, hy, hyk⟩ := List.mem_map.1 hk
    obtain ⟨hy, hyc⟩ := List.mem_filter.1 hy
    have hxy : x = y := ho.2.sorted.eq_of_key_eq hx hy (hxk.trans hyk.symm)
    have hst : y.state = .crashed := by simpa using hyc
    have := ho.2.handle x hx
    rw [hxy, hst] at this
    rw [hxy]
    simpa [ProcessState.isRunning] using this
  refine Triple.bind (R := fun _ s => RecoverInv O n [] s)
    (Triple.forIn (fun rest _ s => RecoverInv O n rest s) fun key rest acc => ?_)
    fun _ => Triple.pure' fun _ h => h.1
  split
  · -- a profile no longer configured: its crashed record is dropped
    exact Triple.bind (R := fun _ s => RecoverInv O n rest s)
      (fun s hinv => by
        obtain ⟨ho, hnd, hnone⟩ := hinv
        exact ⟨ho.take key fun x hx hxk p hxp => absurd hxp
            (Record.not_holds_of_none (hnone key List.mem_cons_self x hx hxk) p),
          (List.nodup_cons.1 hnd).2, fun k hk x hx hxk =>
            hnone k (List.mem_cons_of_mem _ hk) x (List.mem_filter.1 hx).1 hxk⟩)
      fun _ => Triple.pure' fun _ h => h
  · refine Triple.get_bind fun s₀ => ?_
    split
    · exact Triple.pure' fun _ h => by
        obtain ⟨⟨ho, hnd, hnone⟩, -⟩ := h
        exact ⟨ho, (List.nodup_cons.1 hnd).2, fun k hk => hnone k (List.mem_cons_of_mem _ hk)⟩
    · next entry hentry =>
      refine Triple.get_bind fun s₁ => ?_
      split
      · -- respawned: the crashed record held nothing
        refine Triple.bind (R := fun res s => ∃ s₂, RecoverInv O n (key :: rest) s₂ ∧
            res.1.key = key ∧ Registry.SpawnedBy s₂ res.1 s)
          (fun s h => by
            obtain ⟨⟨hinv, hs₀⟩, hs₁⟩ := h
            subst hs₀ hs₁
            obtain ⟨hk', hsp⟩ := Registry.spawn_spec _ s s rfl
            have hek := (hinv.1.2.sorted.find?_eq_some.1 hentry).2
            exact ⟨s, hinv, hk'.trans hek, hsp⟩)
          fun res => ?_
        refine Triple.bind (R := fun _ s => RecoverInv O n rest s)
          (fun s h => by
            obtain ⟨s₂, ⟨ho, hnd, hnone⟩, hk, hsp⟩ := h
            exact ⟨Owns.spawned ho.2 ho.1 hsp
                (fun x hx hxk p hxp => absurd hxp (Record.not_holds_of_none
                  (hnone key List.mem_cons_self x hx (hxk.trans hk)) p)),
              (List.nodup_cons.1 hnd).2, fun k' hk' x hx => by
                change x ∈ insertRecord res.1 s.records at hx
                rw [hsp.1] at hx
                exact RecoverInv.put hnd hk hnone k' hk' x hx⟩)
          fun _ => ?_
        split
        · exact Triple.pure' fun _ h => h
        · exact Triple.pure' fun _ h => h
      · -- given up: stored as stopped, still holding nothing
        refine Triple.bind (R := fun _ s => RecoverInv O n rest s)
          (fun s h => ?_)
          fun _ => Triple.bind (R := fun _ s => RecoverInv O n rest s)
            (fun s h => ⟨h.1.congr rfl rfl rfl, h.2⟩)
            fun _ => Triple.pure' fun _ h => h
        obtain ⟨⟨⟨ho, hnd, hnone⟩, hs₀⟩, hs₁⟩ := h
        subst hs₀ hs₁
        obtain ⟨hin, hek⟩ := ho.2.sorted.find?_eq_some.1 hentry
        have hnil : entry.handle = none := hnone key List.mem_cons_self entry hin hek
        refine ⟨⟨ho.1, ho.2.put _ (by simp [hnil, ProcessState.isRunning]) (by simp [hnil])
            (fun p hp => absurd hp (Record.not_holds_of_none hnil p))
            (fun _ _ _ p hp => absurd hp (Record.not_holds_of_none hnil p))
            (fun x hx hxk p hxp => absurd hxp (Record.not_holds_of_none
              (hnone key List.mem_cons_self x hx (hxk.trans hek)) p))⟩,
          (List.nodup_cons.1 hnd).2, RecoverInv.put hnd hek hnone⟩

/-! ## Adoption -/

/-- The PID records that the `.pid` files of a run directory hold. -/
def pidRecords (files : NameMap String) : List PidRecord :=
  files.filterMap fun f => if hasExtension f.1 "pid" then PidRecord.ofText? f.2 else none

/-- Adopting is safe when the PID records of the run directory name no process under two
profiles, and none that a record of another profile holds. -/
def AdoptSafe (r : Registry) : Prop :=
  (∀ pr ∈ pidRecords (r.host.runDir.getD []), ∀ pr' ∈ pidRecords (r.host.runDir.getD []),
      pr.pid = pr'.pid → pr.kind = pr'.kind ∧ pr.name = pr'.name) ∧
    ∀ pr ∈ pidRecords (r.host.runDir.getD []), ∀ x ∈ r.records, x.holds pr.pid →
      x.key = ⟨pr.kind, pr.name⟩

/-- While adoption runs, every record was there before or was adopted from a PID record of the
run directory. -/
def AdoptInv (O : Nat → Prop) (n : Nat) (r₀ : Registry) (files : NameMap String)
    (rest : NameMap String) (s : Registry) : Prop :=
  (∃ pre, pre ++ rest = files) ∧ OwnsSince O n s ∧
    ∀ x ∈ s.records, x ∈ r₀.records ∨ ∃ pr ∈ pidRecords files, x = Record.ofPidRecord pr

/-- **Adopting survivors keeps ownership**, when it is safe: an adopted process runs, was there
before the machine's next PID, and no record of another profile holds it. -/
theorem adopt_keeps :
    Triple (fun s => OwnsSince O n s ∧ AdoptSafe s) Registry.adopt fun _ => OwnsSince O n := by
  unfold Registry.adopt
  refine Triple.get_bind fun r₀ => ?_
  split
  · exact Triple.pure' fun _ h => h.1.1
  · next files hfiles =>
    dsimp only
    refine Triple.bind (R := fun _ s => AdoptSafe r₀ ∧ AdoptInv O n r₀ files [] s)
      (Triple.mono (Triple.forIn (fun rest _ s => AdoptSafe r₀ ∧ AdoptInv O n r₀ files rest s)
        fun f rest acc => ?_)
        (fun s ⟨⟨ho, hsafe⟩, hs⟩ => by
          subst hs
          exact ⟨hsafe, ⟨[], rfl⟩, ho, fun x hx => .inl hx⟩) fun _ _ h => h)
      fun _ => Triple.pure' fun _ h => h.2.2.1
    obtain ⟨file, text⟩ := f
    have hnext : ∀ {s s' : Registry}, AdoptInv O n r₀ files ((file, text) :: rest) s →
        OwnsSince O n s' → (∀ x ∈ s'.records, x ∈ r₀.records ∨
          ∃ pr ∈ pidRecords files, x = Record.ofPidRecord pr) →
        AdoptInv O n r₀ files rest s' := fun ⟨⟨pre, hpre⟩, _, _⟩ ho hrec =>
      ⟨⟨pre ++ [(file, text)], by simp [hpre]⟩, ho, hrec⟩
    split
    · exact Triple.pure' fun _ ⟨hsafe, hinv⟩ => ⟨hsafe, hnext hinv hinv.2.1 hinv.2.2⟩
    · next hext =>
      split
      · -- a file that holds no record is removed
        exact Triple.bind (R := fun _ s => AdoptSafe r₀ ∧ AdoptInv O n r₀ files rest s)
          (fun s ⟨hsafe, hinv⟩ => ⟨hsafe, hnext hinv (hinv.2.1.congr rfl rfl rfl) hinv.2.2⟩)
          fun _ => Triple.pure' fun _ h => h
      · next pr hpr =>
        refine Triple.get_bind fun s₀ => ?_
        dsimp only
        split
        · -- gone, not recognized, not configured or already recorded: the file is removed
          exact Triple.bind (R := fun _ s => AdoptSafe r₀ ∧ AdoptInv O n r₀ files rest s)
            (fun s ⟨⟨hsafe, hinv⟩, _⟩ =>
              ⟨hsafe, hnext hinv (hinv.2.1.congr rfl rfl rfl) hinv.2.2⟩)
            fun _ => Triple.pure' fun _ h => h
        · next hok =>
          -- adopted: the PID runs, and the profile has no record
          have hrun : s₀.host.isRunning pr.pid = true := by
            by_contra hc
            exact hok (by simp [hc])
          have hnew : s₀.find? ⟨pr.kind, pr.name⟩ = none := by
            cases h : s₀.find? ⟨pr.kind, pr.name⟩ with
            | none => rfl
            | some _ => exact absurd (by simp [h]) hok
          refine Triple.bind (R := fun _ s => AdoptSafe r₀ ∧ AdoptInv O n r₀ files ((file, text) :: rest) s ∧
              s.records = s₀.records ∧ s.host = s₀.host)
            (fun s ⟨⟨hsafe, hinv⟩, hs⟩ => by
              subst hs
              exact ⟨hsafe, ⟨hinv.1, hinv.2.1.congr rfl rfl rfl, hinv.2.2⟩, rfl, rfl⟩)
            fun _ => Triple.bind (R := fun _ s => AdoptSafe r₀ ∧ AdoptInv O n r₀ files rest s)
              (fun s ⟨hsafe, hinv, hrec, hhost⟩ => ?_) fun _ => Triple.pure' fun _ h => h
          obtain ⟨⟨pre, hpre⟩, ho, hrecs⟩ := hinv
          -- the PID record comes from a `.pid` file of the directory
          have hmem : pr ∈ pidRecords files := by
            refine List.mem_filterMap.2 ⟨(file, text), hpre ▸ List.mem_append_right _
              List.mem_cons_self, ?_⟩
            have hext : hasExtension file "pid" = true := by simpa using hext
            simp only at hpr
            simp [hext, hpr]
          obtain ⟨h0, hmax, hpid⟩ := Host.isRunning_spec (hhost ▸ hrun)
          have hlt : pr.pid < s.host.nextPid := by
            rcases hpid with h1 | ⟨q, hq, hqp⟩
            · rw [h1]
              exact ho.2.one_lt
            · rw [← hqp]
              exact ho.2.processes_lt q hq
          have hput := ho.2.put (Record.ofPidRecord pr) rfl
            (fun p hp => by
              simp only [Record.ofPidRecord, Option.some.injEq, Handle.adopted.injEq] at hp
              exact hp ▸ ⟨h0, hmax⟩)
            (fun p hp => (Record.holds_ofPidRecord pr p).1 hp ▸ hlt)
            (fun x hx hxk p hp hxp => hxk ?_)
            (fun x hx hxk _ _ _ _ => ?_)
          · refine ⟨hsafe, hnext ⟨⟨pre, hpre⟩, ho, hrecs⟩
              (ho.of_owns_since hput rfl) fun x hx => ?_⟩
            rcases mem_insertRecord_or hx with rfl | hx
            · exact .inr ⟨pr, hmem, rfl⟩
            · exact hrecs x hx
          · -- another profile's record holding the process contradicts safety
            have hp := (Record.holds_ofPidRecord pr p).1 hp
            subst hp
            have hfiles' : files = r₀.host.runDir.getD [] := by rw [hfiles]; rfl
            rcases hrecs x hx with hx | ⟨pr', hpr', rfl⟩
            · exact hsafe.2 pr (hfiles' ▸ hmem) x hx hxp
            · have := (Record.holds_ofPidRecord pr' _).1 hxp
              obtain ⟨hk, hn⟩ := hsafe.1 pr' (hfiles' ▸ hpr') pr (hfiles' ▸ hmem) this
              simp [Record.ofPidRecord, hk, hn]
          · -- the profile had no record
            exfalso
            rw [hrec] at hx
            have : s₀.find? ⟨pr.kind, pr.name⟩ ≠ none := by
              unfold Registry.find?
              intro hnone
              exact find?_eq_none_iff.1 hnone x hx hxk
            exact this hnew

end LabFleet.Supervisor
