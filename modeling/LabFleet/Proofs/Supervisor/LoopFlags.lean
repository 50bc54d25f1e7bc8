import LabFleet.Proofs.Supervisor.StartStop

/-!
Crash-loop flags over whole runs.

The start and stop laws keep every record's fields in agreement with its state
(`Registry.Sound`): a record holds a process exactly while it is starting or running, and its
PID is that process's, so a crashed or stopped record holds none. This module adds the
crash-loop flag. Recovery sets it only on a record it leaves stopped, an operator's start
clears it before it spawns, and no other step sets it. No step moves a flagged record out of
`stopped` either: a flagged record is stopped and holds no process, so a look leaves it alone
(`Record.LoopStopped.looked`), and only a spawn could start it.

A reload is the exception. It respawns a renamed process onto the record of its new profile as
it finds it, without clearing the flag as a start does, so a rename onto a crash-looped profile
leaves a flagged record starting, or crashed when the spawn fails
(`reload_onto_looped_profile_keeps_flag`). `Op.SparesLooped` rules that out: no noted rename
names a profile whose record is crash-looped. Under it every operation keeps the flag on
stopped records (`Op.consistent`), and so does every run (`Reach.consistent`).

A reload also changes what the crash window reads: `Registry.Descends` says that it keeps the
settings, moves the clock forward only, takes every flag it leaves from the record before it,
and leaves each crash history empty or as it found it at that key. The crash-window argument
over runs with reloads reads only these facts of a reload.

Main statement: `record_flags_agree_with_state`.
-/

namespace LabFleet.Supervisor

open Control Config

set_option autoImplicit false

/-! ## One record -/

/-- A record whose crash-loop flag is set only while it is stopped. -/
def Record.LoopStopped (e : Record) : Prop := e.crashLooped = true → e.state = .stopped

namespace Record.LoopStopped

variable {e e' : Record}

theorem of_not_looped (h : e.crashLooped = false) : e.LoopStopped :=
  fun hf => absurd (h.symm.trans hf) Bool.false_ne_true

theorem not_looped (he : e.LoopStopped) (hs : e.state ≠ .stopped) : e.crashLooped = false := by
  cases hf : e.crashLooped with
  | false => rfl
  | true => exact absurd (he hf) hs

theorem looked (he : e.LoopStopped) (hs : e.Sound) (hl : Looked e e') : e'.LoopStopped := by
  intro hf
  rw [hl.crashLooped] at hf
  have hst := he hf
  rw [hl.idle (by rw [hst]; decide) (hs.handle_none (by rw [hst]; rfl))]
  exact hst

theorem spawned (hy : Spawned e e') (h : e.crashLooped = false) : e'.LoopStopped :=
  of_not_looped (hy.crashLooped.trans h)

end Record.LoopStopped

namespace Record.Sound

variable {e : Record}

theorem handle_iff (he : e.Sound) : e.handle.isSome = true ↔ e.state = .starting ∨ e.state = .running := by
  rw [he.handle]
  cases e.state <;> decide

theorem handle_none_of_down (he : e.Sound) (hs : e.state = .crashed ∨ e.state = .stopped) :
    e.handle = none :=
  he.handle_none (by rcases hs with hs | hs <;> rw [hs] <;> rfl)

end Record.Sound

/-! ## The table -/

/-- The profile `k` has no crash-looped record. -/
def Registry.Unflagged (r : Registry) (k : ProfileKey) : Prop :=
  ∀ e, r.find? k = some e → e.crashLooped = false

instance (r : Registry) (k : ProfileKey) : Decidable (r.Unflagged k) :=
  decidable_of_iff (∀ e ∈ (r.find? k).toList, e.crashLooped = false)
    (by simp only [Option.mem_toList]; rfl)

/-- A sound table whose crash-loop flags are only on stopped records. -/
structure Registry.Consistent (r : Registry) : Prop where
  sound : r.Sound
  looped : ∀ k e, r.find? k = some e → e.LoopStopped

namespace Registry

variable {r s : Registry}

theorem find?_of_records (hr : s.records = r.records) (k : ProfileKey) : s.find? k = r.find? k := by
  unfold Registry.find?
  rw [hr]

theorem Unflagged.of_records {k : ProfileKey} (h : r.Unflagged k) (hr : s.records = r.records) :
    s.Unflagged k :=
  fun e he => h e (find?_of_records hr k ▸ he)

theorem Unflagged.look {k : ProfileKey} (h : r.Unflagged k) (hl : LookStep r s) : s.Unflagged k := by
  intro e' he'
  obtain ⟨e, he, hle⟩ := Looked.opt_some (he' ▸ hl.find? k)
  rw [hle.crashLooped]
  exact h e he

theorem Consistent.unflagged (hc : r.Consistent) {k : ProfileKey} {e : Record}
    (he : r.find? k = some e) (hs : e.state ≠ .stopped) : r.Unflagged k :=
  fun e' he' => (hc.looped k e' he').not_looped (Option.some.inj (he'.symm.trans he) ▸ hs)

namespace Consistent

theorem of_records (hc : r.Consistent) (hr : s.records = r.records) : s.Consistent :=
  ⟨hc.sound.of_records hr, fun k e he => hc.looped k e (find?_of_records hr k ▸ he)⟩

theorem empty (hr : r.records = []) : r.Consistent :=
  ⟨Sound.empty hr, fun k e he => by unfold Registry.find? at he; rw [hr] at he; cases he⟩

theorem look (hc : r.Consistent) (hl : LookStep r s) : s.Consistent := by
  refine ⟨hc.sound.look hl, fun k e' he' => ?_⟩
  obtain ⟨e, he, hle⟩ := Looked.opt_some (he' ▸ hl.find? k)
  exact (hc.looped k e he).looked (hc.sound.records k e he) hle

theorem touches {P : ProfileKey → Prop} (hc : r.Consistent) (ht : Touches r P s)
    (hP : ∀ k, P k → ∀ e, s.find? k = some e → e.Sound ∧ e.LoopStopped) : s.Consistent := by
  refine ⟨hc.sound.touches ht fun k hk e he => (hP k hk e he).1, fun k e he => ?_⟩
  by_cases hk : P k
  · exact (hP k hk e he).2
  · exact hc.looped k e (ht.others k hk ▸ he)

theorem put (hc : r.Consistent) {e : Record} (he : e.Sound) (hl : e.LoopStopped) :
    ((put e).run r).2.Consistent := by
  refine ⟨hc.sound.put he, fun k x hx => ?_⟩
  rw [find?_put] at hx
  split at hx
  · cases hx
    exact hl
  · exact hc.looped k x hx

theorem take (hc : r.Consistent) (key : ProfileKey) : ((take key).run r).2.Consistent := by
  refine ⟨hc.sound.take key, fun k x hx => ?_⟩
  rw [find?_take] at hx
  split at hx
  · cases hx
  · exact hc.looped k x hx

theorem getD (hc : r.Consistent) (k : ProfileKey) : ((r.find? k).getD (Record.fresh k)).LoopStopped := by
  cases hf : r.find? k with
  | none => exact Record.LoopStopped.of_not_looped rfl
  | some e => exact hc.looped k e hf

end Consistent

/-! ## The operations other than a reload -/

theorem start_consistent (hc : r.Consistent) (key : ProfileKey) : ((start key).run r).2.Consistent := by
  obtain ⟨ht, hunknown, hrunning, hrespawned⟩ := start_effect key r r rfl
  refine hc.touches ht fun k hk e he => ⟨(start_sound hc.sound key).records k e he, ?_⟩
  subst hk
  cases hcf : r.config.contains k.kind k.name with
  | false => exact hc.looped k e (hunknown hcf ▸ he)
  | true =>
    cases hrun : (r.startLook k).1.state.isRunning with
    | true =>
      rw [hrunning hcf hrun] at he
      cases he
      exact (hc.getD k).looked (hc.sound.getD k) (startLook_spec r k).2
    | false =>
      obtain ⟨-, y, hy, hres⟩ := hrespawned hcf hrun
      cases hy.symm.trans he
      exact Record.LoopStopped.of_not_looped hres.crashLooped

theorem recover_consistent (hc : r.Consistent) : (recover.run r).2.Consistent := by
  have hrec : Recovered r (recover.run r).2 := recover_effect r hc.sound.sorted r rfl
  have hl := hc.look r.looked_spec
  refine ⟨recover_sound hc.sound, fun k e he => ?_⟩
  rcases hrec.passed_or_kept k with ⟨e₀, he₀, hcr, ho⟩ | ⟨-, hkept⟩
  · cases hcf : r.config.contains k.kind k.name with
    | false =>
      rw [ho.1 hcf] at he
      cases he
    | true =>
      have hv := ho.2 hcf
      unfold PassVerdict at hv
      split at hv
      · obtain ⟨-, y, hy, hsp, -⟩ := hv
        cases hy.symm.trans he
        exact Record.LoopStopped.spawned hsp ((hl.looped k e₀ he₀).not_looped (by rw [hcr]; decide))
      · rw [hv] at he
        cases he
        exact fun _ => rfl
  · exact hl.looped k e (hkept ▸ he)

theorem adopt_consistent (hc : r.Consistent) : (adopt.run r).2.Consistent := by
  obtain ⟨-, -, -, hk, -⟩ := adopt_effect r r rfl
  refine ⟨adopt_sound r hc.sound, fun k e he => ?_⟩
  rcases hk k with hf | ⟨-, pr, hf, -⟩
  · exact hc.looped k e (hf ▸ he)
  · cases hf.symm.trans he
    exact Record.LoopStopped.of_not_looped rfl

/-! ## A reload -/

theorem Unflagged.getD {k : ProfileKey} (h : r.Unflagged k) :
    ((r.find? k).getD (Record.fresh k)).crashLooped = false := by
  cases hf : r.find? k with
  | none => rfl
  | some e => exact h e hf

theorem renamedTo_unflagged {renames : List Rename} {next : LabConfig} {key : ProfileKey}
    {new : String} (hs : ∀ n ∈ renames, r.Unflagged ⟨n.kind, n.new⟩)
    (h : Reload.renamedTo renames next key = some new) : r.Unflagged ⟨key.kind, new⟩ := by
  obtain ⟨hnew, -⟩ := Option.filter_eq_some_iff.1 h
  obtain ⟨n, hn, rfl⟩ := Option.map_eq_some_iff.1 hnew
  -- the rename found is one of the profile's kind
  have hkind : n.kind = key.kind ∧ n.old = key.name := by simpa using List.find?_some hn
  rw [← hkind.1]
  exact hs n (List.mem_of_find?_eq_some hn)

/-- What the work from `r` to `s` keeps of every profile's record, as the crash policy reads it:
a flagged record of `s` is the profile's record of `r` itself, and a crash list of `s` is empty
or that of the profile's record of `r`; the settings stay and the clock only goes on. -/
structure Descends (r s : Registry) : Prop where
  settings : s.settings = r.settings
  clock : r.host.clock ≤ s.host.clock
  flags : ∀ k e, s.find? k = some e → e.crashLooped = true → r.find? k = some e
  crashes : ∀ k e, s.find? k = some e →
    e.crashes = [] ∨ ∃ e₀, r.find? k = some e₀ ∧ e.crashes = e₀.crashes

namespace Descends

variable {u : Registry}

theorem refl (r : Registry) : Descends r r :=
  ⟨rfl, Nat.le_refl _, fun _ _ he _ => he, fun _ e he => .inr ⟨e, he, rfl⟩⟩

theorem trans (h₁ : Descends r s) (h₂ : Descends s u) : Descends r u where
  settings := h₂.settings.trans h₁.settings
  clock := Nat.le_trans h₁.clock h₂.clock
  flags k e he hf := h₁.flags k e (h₂.flags k e he hf) hf
  crashes k e he := by
    rcases h₂.crashes k e he with h | ⟨e₁, he₁, hc⟩
    · exact .inl h
    · rcases h₁.crashes k e₁ he₁ with h | ⟨e₀, he₀, hc₀⟩
      · exact .inl (hc.trans h)
      · exact .inr ⟨e₀, he₀, hc.trans hc₀⟩

theorem of_find? (hf : ∀ k, u.find? k = s.find? k) (hs : u.settings = s.settings)
    (hc : s.host.clock ≤ u.host.clock) : Descends s u :=
  ⟨hs, hc, fun k _ he _ => hf k ▸ he, fun k e he => .inr ⟨e, hf k ▸ he, rfl⟩⟩

theorem of_records (hr : u.records = s.records) (hs : u.settings = s.settings)
    (hc : s.host.clock ≤ u.host.clock) : Descends s u :=
  of_find? (find?_of_records hr) hs hc

theorem hostStep (h : HostStep s u) : Descends s u :=
  of_records (by rw [h.eq]) (by rw [h.eq]) h.clock

theorem touches (h : Touches s (fun _ => False) u) : Descends s u :=
  of_find? (fun k => h.others k id) h.advances.settings h.advances.clock

theorem look (hc : s.Consistent) (hl : LookStep s u) : Descends s u where
  settings := by rw [hl.eq]
  clock := hl.clock
  flags k e' he' hf := by
    obtain ⟨e, he, hle⟩ := Looked.opt_some (he' ▸ hl.find? k)
    have hst : e.state = .stopped := hc.looped k e he (hle.crashLooped ▸ hf)
    rw [hle.idle (by rw [hst]; decide) ((hc.sound.records k e he).handle_none (by rw [hst]; rfl))]
    exact he
  crashes k e' he' := by
    obtain ⟨e, he, hle⟩ := Looked.opt_some (he' ▸ hl.find? k)
    exact .inr ⟨e, he, hle.crashes⟩

theorem take (key : ProfileKey) : Descends s ((take key).run s).2 := by
  refine ⟨rfl, Nat.le_refl _, fun k _ he _ => ?_, fun k e he => .inr ⟨e, ?_, rfl⟩⟩
  all_goals
    rw [find?_take] at he
    split at he
    · cases he
    · exact he

theorem put {y : Record} (hy : y.crashLooped = false)
    (hc : y.crashes = [] ∨ ∃ e₀, s.find? y.key = some e₀ ∧ y.crashes = e₀.crashes) :
    Descends s ((put y).run s).2 := by
  refine ⟨rfl, Nat.le_refl _, fun k e he hf => ?_, fun k e he => ?_⟩
  all_goals rw [find?_put] at he
  · split at he
    · cases he
      exact absurd (hy.symm.trans hf) Bool.false_ne_true
    · exact he
  · split at he
    · next hk =>
      cases he
      rw [← hk]
      exact hc
    · exact .inr ⟨e, he, rfl⟩

theorem unflagged (h : Descends r s) {k : ProfileKey} (hu : r.Unflagged k) : s.Unflagged k := by
  intro e he
  cases hf : e.crashLooped with
  | false => rfl
  | true => exact hf.symm.trans (hu e (h.flags k e he hf))

theorem consistent_of_records (h : s.Consistent ∧ Descends r s) (hr : u.records = s.records)
    (hs : u.settings = s.settings) (hc : s.host.clock ≤ u.host.clock) :
    u.Consistent ∧ Descends r u :=
  ⟨h.1.of_records hr, h.2.trans (of_records hr hs hc)⟩

theorem consistent_look (h : s.Consistent ∧ Descends r s) (hl : LookStep s u) :
    u.Consistent ∧ Descends r u :=
  ⟨h.1.look hl, h.2.trans (look h.1 hl)⟩

end Descends

/-- **A reload** none of whose noted renames names a profile with a flagged record keeps the
flags on stopped records, and every record it leaves descends from the profile's record before
it. It respawns only under the target of a noted rename or the profile of a running record,
neither of them flagged on the reaped table; its stops only take records out; and each spawn
lands on a record that is not flagged, and keeps that record's crash list. -/
theorem reload_consistent (next : LabConfig) (r : Registry) (hc : r.Consistent)
    (hu : ∀ n ∈ r.renames, r.Unflagged ⟨n.kind, n.new⟩) :
    Triple (· = r) (reload next) fun _ s => s.Consistent ∧ Descends r s := by
  unfold reload
  refine Triple.get_bind_of_eq (Triple.get_bind_of_eq ?_)
  dsimp only
  -- the renames are taken, the configuration committed and the records looked at
  refine Triple.bind (R := fun _ s => s.Consistent ∧ Descends r s)
    (fun s hs => by
      rw [hs]
      exact Descends.consistent_of_records ⟨hc, Descends.refl r⟩ (by rfl) (by rfl) (Nat.le_refl _))
    fun _ => ?_
  refine Triple.bind (R := fun _ s => s.Consistent ∧ Descends r s)
    (fun s h => by
      obtain ⟨hrec, hset, hclk⟩ := commit_frame next s s rfl
      exact Descends.consistent_of_records h hrec hset (Nat.le_of_eq hclk.symm)) fun res => ?_
  split
  · exact Triple.pure' fun _ h => h
  refine Triple.bind (R := fun _ s => s.Consistent ∧ Descends r s)
    (fun s h => Descends.consistent_look h (reap_effect s s rfl)) fun _ => ?_
  refine Triple.get_bind fun r₂ => Triple.of_forall fun s h => ?_
  obtain ⟨⟨hc₂, hd₂⟩, hs⟩ := h
  subst s
  have hu₂ : ∀ n ∈ r.renames, r₂.Unflagged ⟨n.kind, n.new⟩ := fun n hn => hd₂.unflagged (hu n hn)
  -- the plan: every respawn targets a profile with no flagged record
  refine Triple.bind (R := fun (acc : ReloadReport × List ProfileKey × List (ProfileKey × ProfileKey)) s => s = r₂ ∧ ∀ p ∈ acc.2.2, r₂.Unflagged p.2)
    (Triple.mono (Triple.forIn (fun rest acc s => s = r₂ ∧ (∀ x ∈ rest, x ∈ r₂.records) ∧
        ∀ p ∈ acc.2.2, r₂.Unflagged p.2) fun a rest acc => ?_)
      (fun s hs => ⟨hs, fun _ hx => hx, fun _ hp => by cases hp⟩)
      fun _ _ h => ⟨h.1, h.2.2⟩)
    fun acc => ?_
  · have hstep : ∀ {sp' : List (ProfileKey × ProfileKey)},
        (a ∈ r₂.records → ∀ p ∈ sp', p ∈ acc.2.2 ∨ r₂.Unflagged p.2) →
        ∀ s, (s = r₂ ∧ (∀ x ∈ a :: rest, x ∈ r₂.records) ∧ ∀ p ∈ acc.2.2, r₂.Unflagged p.2) →
        s = r₂ ∧ (∀ x ∈ rest, x ∈ r₂.records) ∧ ∀ p ∈ sp', r₂.Unflagged p.2 :=
      fun hsp s ⟨hs, hrest, hacc⟩ => ⟨hs, fun x hx => hrest x (List.mem_cons_of_mem _ hx),
        fun p hp => (hsp (hrest a List.mem_cons_self) p hp).elim (hacc p) id⟩
    have hsame : ∀ p ∈ acc.2.2, p ∈ acc.2.2 ∨ r₂.Unflagged p.2 := fun p hp => .inl hp
    have hpush : ∀ {q : ProfileKey × ProfileKey}, r₂.Unflagged q.2 →
        ∀ p ∈ acc.2.2 ++ [q], p ∈ acc.2.2 ∨ r₂.Unflagged p.2 := fun hq p hp =>
      (List.mem_append.1 hp).imp id fun h => by rw [List.mem_singleton.1 h]; exact hq
    split
    · -- renamed: respawned, if running, under the target of a noted rename
      next new hren =>
      have hren : Reload.renamedTo r.renames next a.key = some new := hren
      split
      · exact Triple.pure' (hstep fun _ => hpush (renamedTo_unflagged hu₂ hren))
      · exact Triple.pure' (hstep fun _ => hsame)
    · split
      · split <;> exact Triple.pure' (hstep fun _ => hsame)
      · split
        · -- the fingerprint changed: a running record is respawned in place, and it is not
          -- flagged, since a flagged record is stopped
          split
          · next hrun =>
            refine Triple.pure' (hstep fun ha => hpush ?_)
            refine hc₂.unflagged ((Sorted.find?_eq_some hc₂.sound.sorted).2 ⟨ha, rfl⟩) fun hst => ?_
            rw [hst] at hrun
            cases hrun
          · exact Triple.pure' (hstep fun _ => hsame)
        · split <;> exact Triple.pure' (hstep fun _ => hsame)
  refine Triple.of_forall fun s h => ?_
  obtain ⟨hs, hplan⟩ := h
  subst s
  -- the stops take records out and act on the machine
  refine Triple.bind (R := fun _ s => s.Consistent ∧ Descends r₂ s)
    (Triple.mono (Triple.forIn (fun _ _ s => s.Consistent ∧ Descends r₂ s) fun key rest _ => ?_)
      (fun s hs => by rw [hs]; exact ⟨hc₂, Descends.refl _⟩) fun _ _ h => h) fun _ => ?_
  · refine Triple.bind (R := fun _ s => s.Consistent ∧ Descends r₂ s)
      (fun s h => ⟨h.1.take key, h.2.trans (Descends.take key)⟩) fun x => ?_
    split
    · next entry =>
      refine Triple.bind (R := fun _ s => s.Consistent ∧ Descends r₂ s) (fun s h => ?_)
        fun _ => Triple.bind (R := fun _ (s : Registry) => s.Consistent ∧ Descends r₂ s)
          (fun s h => Descends.consistent_of_records h (by rfl) (by rfl) (by exact Nat.le_refl _))
          fun _ => Triple.pure' fun _ h => h
      have ht := terminate_effect entry s s (HostStep.refl s)
      exact ⟨h.1.of_records ht.records, h.2.trans (Descends.hostStep ht)⟩
    · exact Triple.pure' fun _ h => h
  -- the respawns, each onto a record that is not flagged
  refine Triple.bind (R := fun _ s => s.Consistent ∧ Descends r₂ s)
    (Triple.mono (Triple.forIn (fun rest _ s => s.Consistent ∧ Descends r₂ s ∧
        ∀ p ∈ rest, r₂.Unflagged p.2) fun p rest _ => ?_)
      (fun s h => ⟨h.1, h.2, fun p hp => hplan p ((spawnOrder_perm acc.2.2).subset hp)⟩)
      fun _ _ h => ⟨h.1, h.2.1⟩) fun _ => ?_
  · obtain ⟨old, new⟩ := p
    dsimp only
    -- a rename is logged first, which leaves the table alone
    split
    on_goal 1 =>
      refine Triple.bind (R := fun _ s => s.Consistent ∧ Descends r₂ s ∧
          ∀ p ∈ (old, new) :: rest, r₂.Unflagged p.2)
        (fun s h => ⟨h.1.of_records (by rfl),
          h.2.1.trans (Descends.of_records (by rfl) (by rfl) (Nat.le_refl _)), h.2.2⟩) fun _ => ?_
    all_goals
      refine Triple.get_bind fun s₁ => ?_
      refine Triple.bind (R := fun res s => (s.Consistent ∧ Descends r₂ s ∧
          ∀ p ∈ rest, r₂.Unflagged p.2) ∧ res.1.Sound ∧ res.1.crashLooped = false ∧
          (res.1.crashes = [] ∨ ∃ e₀, s.find? res.1.key = some e₀ ∧ res.1.crashes = e₀.crashes))
        (fun s h => ?_) fun res => ?_
      · obtain ⟨⟨hc, hf, hu⟩, hs⟩ := h
        subst s₁
        obtain ⟨ht, -, -, hsp, -⟩ := spawn_effect ((s.find? new).getD (Record.fresh new)) s s rfl
        refine ⟨⟨hc.touches ht fun _ hk => hk.elim, hf.trans (Descends.touches ht),
          fun p hp => hu p (List.mem_cons_of_mem _ hp)⟩, Record.Sound.spawned hsp, ?_, ?_⟩
        · rw [hsp.crashLooped]
          exact (hf.unflagged (hu (old, new) List.mem_cons_self)).getD
        · -- the spawn keeps the crash list of the record it lands on; a fresh one has none
          rw [hsp.crashes, hsp.key, key_getD_fresh, ht.others _ id]
          cases s.find? new with
          | none => exact .inl rfl
          | some b => exact .inr ⟨b, rfl, rfl⟩
      · refine Triple.bind (R := fun _ s => s.Consistent ∧ Descends r₂ s ∧
            ∀ p ∈ rest, r₂.Unflagged p.2)
          (fun s h => by
            obtain ⟨⟨hc, hf, hu⟩, hsnd, hfl, hcr⟩ := h
            exact ⟨hc.put hsnd (Record.LoopStopped.of_not_looped hfl),
              hf.trans (Descends.put hfl hcr), hu⟩) fun _ => ?_
        split <;> exact Triple.pure' fun _ h => h
  -- a pause for the respawns to settle, a last look, and a pass that only reads
  split
  · refine Triple.bind (R := fun _ s => s.Consistent ∧ Descends r₂ s)
      (fun s h => Descends.consistent_of_records h (by rfl) (by rfl) (by exact Host.clock_le_sleep _ _)) fun _ => ?_
    refine Triple.bind (R := fun _ s => s.Consistent ∧ Descends r₂ s)
      (fun s h => Descends.consistent_look h (reap_effect s s rfl)) fun _ => ?_
    refine Triple.bind (R := fun _ s => s.Consistent ∧ Descends r₂ s)
      (Triple.mono (Triple.forIn (fun _ _ s => s.Consistent ∧ Descends r₂ s) fun _ _ _ => ?_)
        (fun _ h => h) fun _ _ h => h) fun _ => Triple.pure' fun _ h => ⟨h.1, hd₂.trans h.2⟩
    refine Triple.get_bind fun _ => ?_
    split <;> exact Triple.pure' fun _ h => h.1
  · exact Triple.pure' fun _ h => ⟨h.1, hd₂.trans h.2⟩

end Registry

/-- An operation that respawns no process onto a flagged record: a reload none of whose noted
renames names a profile with a crash-looped record. The other operations always do. -/
def Op.SparesLooped : Op → Registry → Prop
  | .reload _, r => ∀ n ∈ r.renames, r.Unflagged ⟨n.kind, n.new⟩
  | _, _ => True

instance (a : Op) (r : Registry) : Decidable (a.SparesLooped r) := by
  cases a <;> unfold Op.SparesLooped <;> infer_instance

/-- **The step lemma**: an operation that respawns no process onto a flagged record keeps the
flags on stopped records. -/
theorem Op.consistent {r : Registry} (a : Op) (hc : r.Consistent) (ha : a.SparesLooped r) :
    (a.apply r).Consistent := by
  cases a with
  | start key => exact Registry.start_consistent hc key
  | stop key => exact (hc.take key).of_records (Registry.stop_effect key r r rfl).records
  | status target => exact hc.look (Registry.status_effect target r r rfl)
  | reload next => exact (Registry.reload_consistent next r hc ha r rfl).1
  | noteRename kind old new =>
    obtain ⟨renames, h⟩ := Registry.noteRename_effect kind old new r
    have h : (Op.noteRename kind old new).apply r = { r with renames } := h
    exact hc.of_records (by rw [h])
  | recover => exact Registry.recover_consistent hc
  | adopt => exact Registry.adopt_consistent hc
  | stopAll =>
    exact (Registry.Consistent.empty rfl).of_records (Registry.stopAll_effect r r rfl).records

/-- **The run lemma**: along a run whose operations respawn no process onto a flagged record,
every flagged record is stopped. -/
theorem Reach.consistent {ok : Op → Registry → Prop} {r : Registry} {O : Nat → Prop}
    (hok : ∀ a s, ok a s → a.SparesLooped s) (hr : Reach ok r O) : r.Consistent := by
  induction hr with
  | create _ _ _ _ hc => exact Registry.Consistent.empty (Registry.create_spec hc).1
  | op a _ ha ih => exact a.consistent ih (hok a _ ha)
  | outside w _ ih => exact ih.of_records (Outside.records_apply w _)

/-- **Records agree with their states.** On every registry a run reaches, a record holds a
process exactly while it is starting or running, its PID is that process's, and a crashed or
stopped record holds none. Along a run none of whose reloads follows a noted rename onto a
crash-looped profile, a crash-looped record is also stopped. -/
theorem record_flags_agree_with_state {ok : Op → Registry → Prop} {r : Registry} {O : Nat → Prop}
    (hr : Reach ok r O) :
    (∀ e ∈ r.records, (e.handle.isSome = true ↔ e.state = .starting ∨ e.state = .running) ∧
      (∀ h, e.handle = some h → e.pid = some h.pid) ∧
      (e.state = .crashed ∨ e.state = .stopped → e.handle = none)) ∧
    ((∀ a s, ok a s → a.SparesLooped s) →
      ∀ e ∈ r.records, e.crashLooped = true → e.state = .stopped) := by
  have hs := hr.sound
  -- a record of the table is the one its key finds
  have hfind : ∀ e ∈ r.records, r.find? e.key = some e :=
    fun e he => (Sorted.find?_eq_some hs.sorted).2 ⟨he, rfl⟩
  refine ⟨fun e he => ?_, fun hok e he => (hr.consistent hok).looped e.key e (hfind e he)⟩
  have hse := hs.records e.key e (hfind e he)
  exact ⟨hse.handle_iff, hse.pid, hse.handle_none_of_down⟩

/-- Daemon `b` cannot start and the ceiling is no crash at all: after a start and a recovery
pass, its record is crash-looped, and stopped. -/
theorem looped_daemon_left_stopped :
    ∃ r O, Reach Op.SparesLooped r O ∧ (∃ e ∈ r.records, e.crashLooped = true) ∧
      ∀ e ∈ r.records, e.crashLooped = true → e.state = .stopped := by
  have hr : Reach Op.SparesLooped _ _ :=
    Reach.op .recover (Reach.op (.start ⟨.daemon, "b"⟩)
      (Reach.create { daemons := [("a", {}), ("b", {})] } { crashCeiling := 0 }
        ⟨fun _ name => if name = "b" then .unavailable "No such file or directory (os error 2)"
          else .idle [], fun _ _ _ => true⟩ {} rfl (by simp) (by decide))
      trivial) trivial
  exact ⟨_, _, hr, by decide +kernel, (record_flags_agree_with_state hr).2 fun _ _ h => h⟩

/-- Daemon `b` cannot start and is left crash-looped by a recovery pass; then `a` is started
and renamed to `b`. The reload moves `a`'s process onto `b`'s record without clearing its flag,
and the spawn fails: the record is crash-looped and crashed. -/
theorem reload_onto_looped_profile_keeps_flag :
    ∃ r O, Reach (fun _ _ => True) r O ∧
      ∃ e ∈ r.records, e.crashLooped = true ∧ e.state = .crashed := by
  have hr : Reach (fun _ _ => True) _ _ :=
    Reach.op (.reload { daemons := [("b", {})] }) (Reach.op (.noteRename .daemon "a" "b")
      (Reach.op (.start ⟨.daemon, "a"⟩) (Reach.op .recover (Reach.op (.start ⟨.daemon, "b"⟩)
        (Reach.create { daemons := [("a", {}), ("b", {})] } { crashCeiling := 0 }
          ⟨fun _ name => if name = "b" then .unavailable "No such file or directory (os error 2)"
            else .idle [], fun _ _ _ => true⟩ {} rfl (by simp) (by decide))
        trivial) trivial) trivial) trivial) trivial
  exact ⟨_, _, hr, by decide +kernel⟩

end LabFleet.Supervisor
