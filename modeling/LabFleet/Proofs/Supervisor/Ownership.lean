import Mathlib.Data.List.Forall2
import LabFleet.Proofs.Supervisor.Records
import LabFleet.Proofs.Triple

/-!
Ownership of processes by the registry, and what each primitive of the registry does to it.

`Owns O r` says that the registry `r` holds, through the handle of a record, every live process
whose PID is in the set `O`, and that its record table is sound: sorted by key, no process held
twice, a handle exactly while a record is starting or running, adopted PIDs within the PID
range, and every PID it holds or owns handed out before the machine's next PID.

Most primitives keep it as they are (a look at a process, a store of a record whose old record
holds nothing alive). Two break it for a moment and are stated as pairs: a record taken out of
the table is held by nobody until its process is ended, and a fresh process is owned by nobody
until its record is stored. Within an operation the owned set grows by every PID handed out since
the operation began (`Since`).

Main statements: `Owns.stopped` (take a record and end its process), `Owns.spawned` (spawn a
record's process and store it) and `Owns.reaped` (bring every record up to date).
-/

namespace LabFleet.Supervisor

open Control

set_option autoImplicit false

/-! ## The machine between two looks -/

namespace Host

/-- The machine after steps that signal, collect or wait but start nothing: no process came
alive, every process was there before, and the next PID is the same. -/
structure Shrinks (h h' : Host) : Prop where
  alive : ∀ p, h'.alive p → h.alive p
  processes : ∀ q ∈ h'.processes, ∃ q' ∈ h.processes, q'.pid = q.pid
  nextPid : h'.nextPid = h.nextPid

theorem Shrinks.refl (h : Host) : h.Shrinks h :=
  ⟨fun _ hp => hp, fun q hq => ⟨q, hq, rfl⟩, rfl⟩

theorem Shrinks.trans {h₁ h₂ h₃ : Host} (h12 : h₁.Shrinks h₂) (h23 : h₂.Shrinks h₃) :
    h₁.Shrinks h₃ where
  alive p hp := h12.alive p (h23.alive p hp)
  processes q hq := by
    obtain ⟨q', hq', he⟩ := h23.processes q hq
    obtain ⟨q'', hq'', he'⟩ := h12.processes q' hq'
    exact ⟨q'', hq'', he'.trans he⟩
  nextPid := h23.nextPid.trans h12.nextPid

theorem Shrinks.of_eq {h h' : Host} (hp : h'.processes = h.processes)
    (hn : h'.nextPid = h.nextPid) : h.Shrinks h' where
  alive _ hp' := by
    obtain ⟨q, hq, hqp, hl⟩ := hp'
    exact ⟨q, hp ▸ hq, hqp, hl⟩
  processes q hq := ⟨q, hp ▸ hq, rfl⟩
  nextPid := hn

theorem shrinks_signal (h : Host) (pid : Nat) (s : Signal) : h.Shrinks (h.signal pid s).2 where
  alive _ hp := alive_of_alive_signal pid s hp
  processes _ hq := pid_mem_signal pid s hq
  nextPid := nextPid_signal pid s

theorem shrinks_collect (h : Host) (pid : Nat) : h.Shrinks (h.collect pid).2 where
  alive _ hp := alive_of_alive_collect pid hp
  processes q hq := ⟨q, mem_collect pid hq, rfl⟩
  nextPid := nextPid_collect pid

theorem shrinks_note (h : Host) (a : Action) : h.Shrinks (h.note a) := Shrinks.of_eq rfl rfl

theorem shrinks_sleep (h : Host) (nanos : Nat) : h.Shrinks (h.sleep nanos) := by
  unfold sleep
  split
  · exact Shrinks.of_eq rfl rfl
  · exact Shrinks.refl h

theorem shrinks_pass (h : Host) (nanos : Nat) : h.Shrinks (h.pass nanos) := Shrinks.of_eq rfl rfl

theorem shrinks_stopChild (h : Host) (pid grace : Nat) : h.Shrinks (h.stopChild pid grace) := by
  have hterm := h.shrinks_signal pid .terminate
  unfold stopChild
  split
  · next hc =>
    have hcol := shrinks_collect (h.signal pid .terminate).2 pid
    rw [hc] at hcol
    exact hterm.trans hcol
  · next h' hc =>
    have hcol := shrinks_collect (h.signal pid .terminate).2 pid
    rw [hc] at hcol
    exact ((hterm.trans hcol).trans ((shrinks_sleep h' grace).trans (shrinks_signal _ pid .kill))).trans
      (shrinks_collect _ pid)

theorem not_alive_stopChild (h : Host) (pid grace : Nat) : ¬ (h.stopChild pid grace).alive pid := by
  unfold stopChild
  split
  · next x h' hc =>
    have hgone := not_alive_collect_of_some pid (congrArg Prod.fst hc)
    rwa [congrArg Prod.snd hc] at hgone
  · exact fun ha => not_alive_signal_kill pid (alive_of_alive_collect pid ha)

theorem shrinks_stopSurvivor (h : Host) (pid grace : Nat) :
    h.Shrinks (h.stopSurvivor pid grace) := by
  have hterm := h.shrinks_signal pid .terminate
  unfold stopSurvivor
  dsimp only
  split
  · exact hterm.trans ((shrinks_pass _ grace).trans (shrinks_signal _ pid .kill))
  · exact hterm

theorem not_alive_stopSurvivor (h : Host) {pid : Nat} (grace : Nat) (hr : 0 < pid ∧ pid ≤ maxPid) :
    ¬ (h.stopSurvivor pid grace).alive pid := by
  unfold stopSurvivor
  dsimp only
  split
  · exact not_alive_signal_kill pid
  · next hn => exact fun ha => hn (isRunning_of_alive ha hr.1 hr.2)

end Host

/-! ## The invariant -/

/-- The registry `r` holds every live process of `O`, and its table is sound. -/
structure Owns (O : Nat → Prop) (r : Registry) : Prop where
  sorted : Sorted r.records
  single : ∀ e ∈ r.records, ∀ e' ∈ r.records, ∀ p, e.holds p → e'.holds p → e = e'
  handle : ∀ e ∈ r.records, e.handle.isSome = e.state.isRunning
  adopted : ∀ e ∈ r.records, ∀ p, e.handle = some (.adopted p) → 0 < p ∧ p ≤ Host.maxPid
  covers : ∀ p, O p → r.host.alive p → Held r.records p
  processes_lt : ∀ q ∈ r.host.processes, q.pid < r.host.nextPid
  held_lt : ∀ e ∈ r.records, ∀ p, e.holds p → p < r.host.nextPid
  owned_lt : ∀ p, O p → p < r.host.nextPid
  one_lt : 1 < r.host.nextPid

/-- The PIDs of `O` and those the machine handed out since its next PID was `n`. -/
def Since (O : Nat → Prop) (n : Nat) (r : Registry) (p : Nat) : Prop :=
  O p ∨ n ≤ p ∧ p < r.host.nextPid

namespace Owns

variable {O O' : Nat → Prop} {r r' : Registry}

theorem shrink (ho : Owns O r) (hm : r.host.Shrinks r'.host) (hrec : r'.records = r.records) :
    Owns O r' where
  sorted := hrec ▸ ho.sorted
  single := hrec ▸ ho.single
  handle := hrec ▸ ho.handle
  adopted := hrec ▸ ho.adopted
  covers p hp ha := hrec ▸ ho.covers p hp (hm.alive p ha)
  processes_lt q hq := by
    obtain ⟨q', hq', he⟩ := hm.processes q hq
    rw [hm.nextPid, ← he]
    exact ho.processes_lt q' hq'
  held_lt e he p hp := hm.nextPid ▸ ho.held_lt e (hrec ▸ he) p hp
  owned_lt p hp := hm.nextPid ▸ ho.owned_lt p hp
  one_lt := hm.nextPid ▸ ho.one_lt

theorem mono (ho : Owns O r) (h : ∀ p, O' p → O p ∨ Held r.records p) : Owns O' r :=
  { ho with
    covers := fun p hp ha => (h p hp).elim (fun ho' => ho.covers p ho' ha) id
    owned_lt := fun p hp => (h p hp).elim (ho.owned_lt p) fun ⟨e, he, hh⟩ => ho.held_lt e he p hh }

theorem grow (ho : Owns O r) (hrec : r'.records = r.records)
    {b : Bool} (hp : r'.host.processes = r.host.processes ++ [⟨r.host.nextPid, .running, b⟩])
    (hn : r'.host.nextPid = r.host.nextPid + 1) : Owns O r' where
  sorted := hrec ▸ ho.sorted
  single := hrec ▸ ho.single
  handle := hrec ▸ ho.handle
  adopted := hrec ▸ ho.adopted
  covers p hO ha := by
    have hlt := ho.owned_lt p hO
    obtain ⟨q, hq, hqp, hl⟩ := ha
    rw [hp, List.mem_append, List.mem_singleton] at hq
    rcases hq with hq | hq
    · exact hrec ▸ ho.covers p hO ⟨q, hq, hqp, hl⟩
    · -- the new process has the next PID, above every owned one
      rw [hq] at hqp
      exact absurd hqp (Nat.ne_of_gt hlt)
  processes_lt q hq := by
    rw [hp, List.mem_append, List.mem_singleton] at hq
    rw [hn]
    rcases hq with hq | rfl
    · exact Nat.lt_succ_of_lt (ho.processes_lt q hq)
    · exact Nat.lt_succ_self _
  held_lt e he p hh := hn ▸ Nat.lt_succ_of_lt (ho.held_lt e (hrec ▸ he) p hh)
  owned_lt p hO := hn ▸ Nat.lt_succ_of_lt (ho.owned_lt p hO)
  one_lt := hn ▸ Nat.lt_succ_of_lt ho.one_lt

theorem congr (ho : Owns O r) (hrec : r'.records = r.records)
    (hp : r'.host.processes = r.host.processes) (hn : r'.host.nextPid = r.host.nextPid) :
    Owns O r' :=
  ho.shrink (Host.Shrinks.of_eq hp hn) hrec

end Owns

/-! ## Storing a record -/

namespace Registry

@[simp] theorem run_put (e : Record) (r : Registry) :
    (put e).run r = ((), { r with records := insertRecord e r.records }) := rfl

@[simp] theorem run_take (k : ProfileKey) (r : Registry) :
    (take k).run r = (r.find? k, { r with records := r.records.filter (·.key != k) }) := rfl

@[simp] theorem run_onHost {α : Type} (f : Host → α × Host) (r : Registry) :
    (onHost f).run r = ((f r.host).1, { r with host := (f r.host).2 }) := rfl

theorem terminate_host (e : Record) (r : Registry) :
    ∃ h, ((terminate e).run r).2 = { r with host := h } ∧ r.host.Shrinks h ∧
      ((∀ p, e.handle = some (.adopted p) → 0 < p ∧ p ≤ Host.maxPid) →
        ∀ p, e.holds p → ¬ h.alive p) := by
  unfold terminate
  split
  · -- no handle: nothing to end
    next hnone =>
    exact ⟨r.host, rfl, Host.Shrinks.refl _,
      fun _ p hp => absurd hp (Record.not_holds_of_none hnone p)⟩
  · -- a child
    next pid hsp =>
    let h₀ := r.host.note (.terminated e.key.kind e.key.name pid)
    refine ⟨h₀.stopChild pid r.settings.stopGrace, rfl,
      (Host.shrinks_note _ _).trans (Host.shrinks_stopChild _ _ _), fun _ p hp => ?_⟩
    rw [Record.holds_spawned e p pid hsp] at hp
    rw [← hp]
    exact Host.not_alive_stopChild _ _ _
  · -- a survivor
    next pid had =>
    let h₀ := r.host.note (.terminated e.key.kind e.key.name pid)
    refine ⟨h₀.stopSurvivor pid r.settings.stopGrace, rfl,
      (Host.shrinks_note _ _).trans (Host.shrinks_stopSurvivor _ _ _), fun hadopt p hp => ?_⟩
    have hpid : pid = p := by simpa [Record.holds, had, Handle.pid] using hp
    rw [← hpid]
    exact Host.not_alive_stopSurvivor _ _ (hadopt pid had)

theorem pollExit_host (e : Record) (r : Registry)
    (hadopt : ∀ p, e.handle = some (.adopted p) → 0 < p ∧ p ≤ Host.maxPid) :
    ∃ h, ((pollExit e).run r).2 = { r with host := h } ∧ r.host.Shrinks h ∧
      (((pollExit e).run r).1.isSome → ∀ p, e.holds p → ¬ h.alive p) ∧
      (((pollExit e).run r).1 = none → h = r.host) := by
  unfold pollExit
  split
  · next hnone =>
    exact ⟨r.host, rfl, Host.Shrinks.refl _, fun hx => (by cases hx), fun _ => rfl⟩
  · next pid hsp =>
    refine ⟨(r.host.collect pid).2, rfl, Host.shrinks_collect _ _, fun hx p hp => ?_, fun hx => ?_⟩
    · rw [Record.holds_spawned e p pid hsp] at hp
      subst hp
      -- a collected exit means the process is gone
      change ((r.host.collect pid).1.map _).isSome = true at hx
      rw [Option.isSome_map] at hx
      obtain ⟨x, hx⟩ := Option.isSome_iff_exists.1 hx
      exact Host.not_alive_collect_of_some pid hx
    · change (r.host.collect pid).1.map _ = none at hx
      exact Host.collect_of_none pid (Option.map_eq_none_iff.1 hx)
  · next pid had =>
    refine ⟨r.host, rfl, Host.Shrinks.refl _, fun hx p hp ha => ?_, fun _ => rfl⟩
    have hpid : p = pid := by
      simp [Record.holds, had, Handle.pid] at hp
      exact hp.symm
    subst hpid
    obtain ⟨h0, hmax⟩ := hadopt p had
    -- a survivor that still runs is not reported as ended
    have hrun := Host.isRunning_of_alive ha h0 hmax
    change (if r.host.isRunning p = true then none else some _).isSome = true at hx
    rw [if_pos hrun] at hx
    cases hx

/-- What a spawn did to the table and the machine: either the program could not start and the
record crashed, or a fresh process took the next PID and the record holds it, starting. -/
def SpawnedBy (r : Registry) (e' : Record) (s : Registry) : Prop :=
  s.records = r.records ∧
    ((s.host.processes = r.host.processes ∧ s.host.nextPid = r.host.nextPid ∧
        e'.handle = none ∧ e'.state = .crashed) ∨
      ((∃ b, s.host.processes = r.host.processes ++ [⟨r.host.nextPid, .running, b⟩]) ∧
        s.host.nextPid = r.host.nextPid + 1 ∧
        e'.handle = some (.spawned r.host.nextPid) ∧ e'.state = .starting))

theorem spawn_spec (e : Record) (r : Registry) :
    Triple (· = r) (spawn e) fun res s => res.1.key = e.key ∧ SpawnedBy r res.1 s := by
  unfold spawn
  refine Triple.bind (R := fun _ s => s.records = r.records ∧ s.host = r.host ∧
    s.launcher = r.launcher) (fun s hs => by subst hs; exact ⟨rfl, rfl, rfl⟩) fun incarnation => ?_
  refine Triple.get_bind fun s₀ => ?_
  -- the launcher decides: a program that cannot start, or a fresh process
  split
  · exact Triple.pure' fun s ⟨⟨hrec, hhost, _⟩, hs⟩ => by
      subst hs
      exact ⟨rfl, hrec, .inl ⟨congrArg Host.processes hhost, congrArg Host.nextPid hhost, rfl, rfl⟩⟩
  · exact Triple.bind (R := fun _ s => s.records = r.records ∧
        (∃ b, s.host.processes = r.host.processes ++ [⟨r.host.nextPid, .running, b⟩]) ∧
        s.host.nextPid = r.host.nextPid + 1 ∧ s₀.host = r.host)
      (fun s ⟨⟨hrec, hhost, _⟩, hs⟩ => by
        subst hs
        exact ⟨hrec, ⟨_, by simp only [hhost]; rfl⟩, by simp only [hhost]; rfl, hhost⟩)
      fun _ => Triple.pure' fun s ⟨hrec, hp, hnext, hhost⟩ =>
        ⟨rfl, hrec, .inr ⟨hp, hnext, by simp [hhost], rfl⟩⟩

end Registry

namespace Owns

variable {O : Nat → Prop} {r : Registry}

/-- **Storing a record.** The stored record must follow the table's rules, hold only a process
that no record of another key holds, and carry over every live owned process the record it
replaces holds. -/
theorem put (ho : Owns O r) (e : Record) (hlive : e.handle.isSome = e.state.isRunning)
    (hadopt : ∀ p, e.handle = some (.adopted p) → 0 < p ∧ p ≤ Host.maxPid)
    (hlt : ∀ p, e.holds p → p < r.host.nextPid)
    (hother : ∀ x ∈ r.records, x.key ≠ e.key → ∀ p, e.holds p → ¬ x.holds p)
    (hold : ∀ x ∈ r.records, x.key = e.key → ∀ p, x.holds p → O p → r.host.alive p → e.holds p) :
    Owns O ((Registry.put e).run r).2 := by
  have hmem := mem_insertRecord ho.sorted e
  simp only [Registry.run_put]
  refine
    { sorted := sorted_insertRecord ho.sorted e, single := ?single, handle := ?handle, adopted := ?adopted,
      covers := ?covers, processes_lt := ho.processes_lt, held_lt := ?held_lt, owned_lt := ho.owned_lt,
      one_lt := ho.one_lt }
  case single =>
    -- two records holding one process: the stored one and a kept one cannot share it
    intro x hx y hy p hxp hyp
    rcases (hmem x).1 hx with hxe | ⟨hx, hxk⟩ <;> rcases (hmem y).1 hy with hye | ⟨hy, hyk⟩
    · exact hxe.trans hye.symm
    · exact absurd hyp (hother y hy hyk p (hxe ▸ hxp))
    · exact absurd hxp (hother x hx hxk p (hye ▸ hyp))
    · exact ho.single x hx y hy p hxp hyp
  case handle =>
    intro x hx
    rcases (hmem x).1 hx with hxe | ⟨hx, -⟩
    · exact hxe ▸ hlive
    · exact ho.handle x hx
  case adopted =>
    intro x hx
    rcases (hmem x).1 hx with hxe | ⟨hx, -⟩
    · exact hxe ▸ hadopt
    · exact ho.adopted x hx
  case covers =>
    intro p hO ha
    obtain ⟨x, hx, hxp⟩ := ho.covers p hO ha
    by_cases hk : x.key = e.key
    · exact ⟨e, (hmem e).2 (.inl rfl), hold x hx hk p hxp hO ha⟩
    · exact ⟨x, (hmem x).2 (.inr ⟨hx, hk⟩), hxp⟩
  case held_lt =>
    intro x hx p hp
    rcases (hmem x).1 hx with hxe | ⟨hx, -⟩
    · exact hlt p (hxe ▸ hp)
    · exact ho.held_lt x hx p hp

theorem take (ho : Owns O r) (k : ProfileKey)
    (hk : ∀ x ∈ r.records, x.key = k → ∀ p, x.holds p → O p → ¬ r.host.alive p) :
    Owns O ((Registry.take k).run r).2 := by
  simp only [Registry.run_take]
  refine
    { sorted := ho.sorted.filter _, single := ?single, handle := ?handle, adopted := ?adopted, covers := ?covers,
      processes_lt := ho.processes_lt, held_lt := ?held_lt, owned_lt := ho.owned_lt, one_lt := ho.one_lt }
  case single =>
    intro x hx y hy
    exact ho.single x (List.mem_filter.1 hx).1 y (List.mem_filter.1 hy).1
  case handle => exact fun x hx => ho.handle x (List.mem_filter.1 hx).1
  case adopted => exact fun x hx => ho.adopted x (List.mem_filter.1 hx).1
  case covers =>
    intro p hO ha
    obtain ⟨x, hx, hxp⟩ := ho.covers p hO ha
    have hxk : x.key ≠ k := fun he => hk x hx he p hxp hO ha
    exact ⟨x, List.mem_filter.2 ⟨hx, by simpa using hxk⟩, hxp⟩
  case held_lt => exact fun x hx => ho.held_lt x (List.mem_filter.1 hx).1

/-- **Taking a record out and ending its process.** The process the record held is dead
afterwards, so ownership holds again. -/
theorem stopped (ho : Owns O r) {k : ProfileKey} {e : Record} (he : r.find? k = some e) :
    Owns O ((Registry.terminate e).run ((Registry.take k).run r).2).2 := by
  have hek : e ∈ r.records ∧ e.key = k := (ho.sorted.find?_eq_some).1 he
  obtain ⟨h, hs, hsh, hend⟩ := Registry.terminate_host e ((Registry.take k).run r).2
  replace hend := hend (ho.adopted e hek.1)
  -- with `e`'s process left out of the owned set, taking `e` out keeps ownership
  have ht : Owns (fun p => O p ∧ ¬ e.holds p) ((Registry.take k).run r).2 := by
    refine (ho.mono fun p hp => .inl hp.1).take k fun x hx hxk p hxp hO _ => hO.2 ?_
    rwa [ho.sorted.eq_of_key_eq hx hek.1 (hxk.trans hek.2.symm)] at hxp
  have hs' : Owns (fun p => O p ∧ ¬ e.holds p) { ((Registry.take k).run r).2 with host := h } :=
    ht.shrink hsh rfl
  rw [hs]
  -- every owned process still alive was not `e`'s
  refine { hs' with covers := fun p hO ha => hs'.covers p ⟨hO, fun hp => hend p hp ha⟩ ha,
                    owned_lt := fun p hO => ?_ }
  show p < h.nextPid
  rw [hsh.nextPid]
  exact ho.owned_lt p hO

variable {n : Nat}

/-- **Spawning a record's process and storing the record.** If the record it replaces holds no
live process, the registry owns the new process from the moment the record is stored. -/
theorem spawned (ho : Owns (Since O n r) r) (hn : n ≤ r.host.nextPid) {e' : Record}
    {s : Registry} (hspawn : Registry.SpawnedBy r e' s)
    (hfree : ∀ x ∈ r.records, x.key = e'.key → ∀ p, x.holds p → ¬ r.host.alive p) :
    n ≤ ((Registry.put e').run s).2.host.nextPid ∧
      Owns (Since O n ((Registry.put e').run s).2) ((Registry.put e').run s).2 := by
  obtain ⟨hrec, hcase⟩ := hspawn
  rcases hcase with ⟨hp, hnext, hnone, hst⟩ | ⟨⟨b, hp⟩, hnext, hsome, hst⟩
  · -- the program could not start: the record crashed and holds nothing
    have hs : Owns (Since O n r) s := ho.congr hrec hp hnext
    have hput := hs.put e' (by simp [hnone, hst, ProcessState.isRunning]) (by simp [hnone])
      (fun p hp' => absurd hp' (Record.not_holds_of_none hnone p))
      (fun _ _ _ p hp' => absurd hp' (Record.not_holds_of_none hnone p))
      (fun x hx hxk p hxp _ ha => absurd ((Host.Shrinks.of_eq hp hnext).alive p ha)
        (hfree x (hrec ▸ hx) hxk p hxp))
    have hsince : Since O n ((Registry.put e').run s).2 = Since O n r := by
      funext p
      simp [Since, hnext]
    exact ⟨hnext ▸ hn, hsince ▸ hput⟩
  · -- a fresh process with the next PID: no record held it, and the stored record does
    have hs : Owns (Since O n r) s := ho.grow hrec hp hnext
    have hholds : ∀ p, e'.holds p ↔ p = r.host.nextPid := fun p => by
      rw [Record.holds_spawned e' p _ hsome]
      exact eq_comm
    have hput := hs.put e' (by simp [hsome, hst, ProcessState.isRunning]) (by simp [hsome])
      (fun p hp' => by rw [hnext, (hholds p).1 hp']; exact Nat.lt_succ_self _)
      (fun x hx _ p hp' hxp => by
        have := ho.held_lt x (hrec ▸ hx) p hxp
        rw [(hholds p).1 hp'] at this
        exact Nat.lt_irrefl _ this)
      (fun x hx hxk p hxp _ ha => by
        have hlt := ho.held_lt x (hrec ▸ hx) p hxp
        obtain ⟨q, hq, hqp, hl⟩ := ha
        rw [hp, List.mem_append, List.mem_singleton] at hq
        rcases hq with hq | hq
        · exact absurd ⟨q, hq, hqp, hl⟩ (hfree x (hrec ▸ hx) hxk p hxp)
        · rw [hq] at hqp
          exact absurd hqp (Nat.ne_of_gt hlt))
    refine ⟨hnext ▸ Nat.le_succ_of_le hn, hput.mono fun p hp' => ?_⟩
    -- the next PID of before is the one PID added to the owned set, and it is held
    rcases hp' with hO | ⟨hnp, hlt⟩
    · exact .inl (.inl hO)
    · change p < s.host.nextPid at hlt
      rw [hnext] at hlt
      rcases Nat.lt_succ_iff_lt_or_eq.1 hlt with hlt | heq
      · exact .inl (.inr ⟨hnp, hlt⟩)
      · exact .inr ⟨e', (mem_insertRecord hs.sorted e' e').2 (.inl rfl), (hholds p).2 heq⟩

end Owns

/-! ## Bringing records up to date -/

/-- How a look at the processes may change a record, judged on the machine `h` after it: kept,
promoted from starting to running, or crashed; a process it held and holds no more is dead
on `h`. -/
def Reaped (h : Host) (e e' : Record) : Prop :=
  (e' = e ∨ (e.state = .starting ∧ e' = { e with state := .running }) ∨ ∃ why, e' = e.crash why) ∧
    ∀ p, e.holds p → e'.holds p ∨ ¬ h.alive p

namespace Reaped

variable {h h' : Host} {e e' : Record}

theorem kept (h : Host) (e : Record) : Reaped h e e := ⟨.inl rfl, fun _ hp => .inl hp⟩

theorem promoted (h : Host) {e : Record} (hs : e.state = .starting) :
    Reaped h e { e with state := .running } :=
  ⟨.inr (.inl ⟨hs, rfl⟩), fun _ hp => .inl hp⟩

theorem crashed {h : Host} {e : Record} (why : String) (hd : ∀ p, e.holds p → ¬ h.alive p) :
    Reaped h e (e.crash why) :=
  ⟨.inr (.inr ⟨why, rfl⟩), fun p hp => .inr (hd p hp)⟩

theorem key (hr : Reaped h e e') : e'.key = e.key := by
  rcases hr.1 with rfl | ⟨-, rfl⟩ | ⟨why, rfl⟩ <;> rfl

theorem holds (hr : Reaped h e e') {p : Nat} (hp : e'.holds p) : e.holds p := by
  rcases hr.1 with rfl | ⟨-, rfl⟩ | ⟨why, rfl⟩
  · exact hp
  · exact hp
  · exact absurd hp (Record.not_holds_crash e why p)

theorem isRunning (hr : Reaped h e e') (hl : e'.state.isRunning = true) :
    e.state.isRunning = true := by
  rcases hr.1 with rfl | ⟨hs, rfl⟩ | ⟨why, rfl⟩
  · exact hl
  · rw [hs]
    rfl
  · cases hl

theorem handle (hr : Reaped h e e') (he : e.handle.isSome = e.state.isRunning) :
    e'.handle.isSome = e'.state.isRunning := by
  rcases hr.1 with rfl | ⟨hs, rfl⟩ | ⟨why, rfl⟩
  · exact he
  · rw [hs] at he
    exact he
  · rfl

theorem shrink (hr : Reaped h e e') (hm : h.Shrinks h') : Reaped h' e e' :=
  ⟨hr.1, fun p hp => (hr.2 p hp).imp id fun hd ha => hd (hm.alive p ha)⟩

theorem adopted (hr : Reaped h e e') {p : Nat} (hp : e'.handle = some (.adopted p)) :
    e.handle = some (.adopted p) := by
  rcases hr.1 with rfl | ⟨-, rfl⟩ | ⟨why, rfl⟩
  · exact hp
  · exact hp
  · cases hp

end Reaped

theorem Forall₂.exists_left {R : Record → Record → Prop} {rs out : List Record}
    (h : List.Forall₂ R rs out) {e : Record} (he : e ∈ rs) : ∃ e' ∈ out, R e e' := by
  induction h with
  | nil => cases he
  | cons hab _ ih =>
    rcases List.mem_cons.1 he with rfl | he
    · exact ⟨_, List.mem_cons_self, hab⟩
    · obtain ⟨e', he', hr⟩ := ih he
      exact ⟨e', List.mem_cons_of_mem _ he', hr⟩

theorem Forall₂.exists_right {R : Record → Record → Prop} {rs out : List Record}
    (h : List.Forall₂ R rs out) {e' : Record} (he' : e' ∈ out) : ∃ e ∈ rs, R e e' := by
  induction h with
  | nil => cases he'
  | cons hab _ ih =>
    rcases List.mem_cons.1 he' with rfl | he'
    · exact ⟨_, List.mem_cons_self, hab⟩
    · obtain ⟨e, he, hr⟩ := ih he'
      exact ⟨e, List.mem_cons_of_mem _ he, hr⟩

theorem Forall₂.map_key {h : Host} {rs out : List Record} (hf : List.Forall₂ (Reaped h) rs out) :
    out.map Record.key = rs.map Record.key := by
  induction hf with
  | nil => rfl
  | cons hab _ ih => simp [hab.key, ih]

namespace Owns

variable {O : Nat → Prop} {r r' : Registry}

/-- **A reaped table.** Records replaced one for one by reaped ones, on a machine where nothing
came alive, keep ownership: a record that lost its process lost a dead one. -/
theorem reaped (ho : Owns O r) (hm : r.host.Shrinks r'.host)
    (hrs : List.Forall₂ (Reaped r'.host) r.records r'.records) : Owns O r' where
  sorted := ho.sorted.of_keys (Forall₂.map_key hrs)
  single x hx y hy p hxp hyp := by
    obtain ⟨x₀, hx₀, hrx⟩ := Forall₂.exists_right hrs hx
    obtain ⟨y₀, hy₀, hry⟩ := Forall₂.exists_right hrs hy
    -- their old records held the process too, so they were one record, with one key
    have hxy := ho.single x₀ hx₀ y₀ hy₀ p (hrx.holds hxp) (hry.holds hyp)
    have hk : x.key = y.key := by rw [hrx.key, hry.key, hxy]
    exact (ho.sorted.of_keys (Forall₂.map_key hrs)).eq_of_key_eq hx hy hk
  handle x hx := by
    obtain ⟨x₀, hx₀, hrx⟩ := Forall₂.exists_right hrs hx
    exact hrx.handle (ho.handle x₀ hx₀)
  adopted x hx p hp := by
    obtain ⟨x₀, hx₀, hrx⟩ := Forall₂.exists_right hrs hx
    exact ho.adopted x₀ hx₀ p (hrx.adopted hp)
  covers p hO ha := by
    obtain ⟨x₀, hx₀, hxp⟩ := ho.covers p hO (hm.alive p ha)
    obtain ⟨x, hx, hrx⟩ := Forall₂.exists_left hrs hx₀
    rcases hrx.2 p hxp with hxp' | hd
    · exact ⟨x, hx, hxp'⟩
    · exact absurd ha hd
  processes_lt q hq := by
    obtain ⟨q', hq', he⟩ := hm.processes q hq
    rw [hm.nextPid, ← he]
    exact ho.processes_lt q' hq'
  held_lt x hx p hp := by
    obtain ⟨x₀, hx₀, hrx⟩ := Forall₂.exists_right hrs hx
    rw [hm.nextPid]
    exact ho.held_lt x₀ hx₀ p (hrx.holds hp)
  owned_lt p hO := hm.nextPid ▸ ho.owned_lt p hO
  one_lt := hm.nextPid ▸ ho.one_lt

end Owns

namespace Registry

theorem pollExit_spec (e : Record) (r : Registry)
    (hadopt : ∀ p, e.handle = some (.adopted p) → 0 < p ∧ p ≤ Host.maxPid) :
    Triple (· = r) (pollExit e) fun res s => s.records = r.records ∧ r.host.Shrinks s.host ∧
      (res.isSome → ∀ p, e.holds p → ¬ s.host.alive p) ∧ (res = none → s = r) := fun s hs => by
  subst hs
  obtain ⟨h, hs, hsh, hd, hnone⟩ := pollExit_host e s hadopt
  rw [hs]
  refine ⟨rfl, hsh, hd, fun hn => ?_⟩
  rw [hnone hn]

theorem checked_spec (e : Record) (r : Registry)
    (hadopt : ∀ p, e.handle = some (.adopted p) → 0 < p ∧ p ≤ Host.maxPid) :
    Triple (· = r) (checked e) fun e' s => s.records = r.records ∧ r.host.Shrinks s.host ∧
      e'.key = e.key ∧
      ((e' = e ∧ s = r) ∨ (e'.state = .crashed ∧ ∀ p, e.holds p → ¬ s.host.alive p)) := by
  unfold checked
  refine Triple.bind (pollExit_spec e r hadopt) fun res => ?_
  split
  · next why =>
    exact Triple.pure' fun s ⟨hrec, hsh, hd, _⟩ => ⟨hrec, hsh, rfl, .inr ⟨rfl, hd rfl⟩⟩
  · exact Triple.pure' fun s ⟨hrec, hsh, _, hs⟩ => ⟨hrec, hsh, rfl, .inl ⟨rfl, hs rfl⟩⟩

/-- The records a reap has looked at so far, each paired with its reaped form. -/
def ReapSoFar (r : Registry) (rest : List Record) (out : List Record) (s : Registry) : Prop :=
  s.records = r.records ∧ r.host.Shrinks s.host ∧
    ∃ pre, pre ++ rest = r.records ∧ List.Forall₂ (Reaped s.host) pre out

/-- **Reaping** replaces every record by a reaped one, and only ends or collects processes. -/
theorem reap_spec (r : Registry)
    (hadopt : ∀ e ∈ r.records, ∀ p, e.handle = some (.adopted p) → 0 < p ∧ p ≤ Host.maxPid) :
    Triple (· = r) reap fun _ s => r.host.Shrinks s.host ∧
      List.Forall₂ (Reaped s.host) r.records s.records := by
  unfold reap
  dsimp only
  refine Triple.get_bind_of_eq (Triple.bind (R := fun out s => ReapSoFar r [] out s)
    (Triple.mono (Triple.forIn (ReapSoFar r) fun a rest out => ?_)
      (fun s hs => ⟨by rw [hs], by rw [hs]; exact Host.Shrinks.refl _, [], rfl, .nil⟩) fun _ _ h => h)
    fun out s h => ?_)
  · -- one record: look at its process, then keep, promote or crash it
    have hmem : ∀ {pre : List Record}, pre ++ a :: rest = r.records → a ∈ r.records :=
      fun hpre => hpre ▸ List.mem_append_right _ List.mem_cons_self
    -- the look's outcome joins the records looked at so far
    have step : ∀ {s : Registry} {e : Record}, s.records = r.records → r.host.Shrinks s.host →
        (∃ pre, pre ++ a :: rest = r.records ∧ List.Forall₂ (Reaped s.host) pre out) →
        Reaped s.host a e → ReapSoFar r rest (out ++ [e]) s := by
      rintro s e hrec hsh ⟨pre, hpre, hrel⟩ he
      exact ⟨hrec, hsh, pre ++ [a], by simp [hpre], List.rel_append hrel (.cons he .nil)⟩
    refine Triple.bind (R := fun res s => s.records = r.records ∧ r.host.Shrinks s.host ∧
        (∃ pre, pre ++ a :: rest = r.records ∧ List.Forall₂ (Reaped s.host) pre out) ∧
        (res.isSome → ∀ p, a.holds p → ¬ s.host.alive p))
      (fun s h => by
        obtain ⟨hrec, hsh, pre, hpre, hrel⟩ := h
        obtain ⟨hrec', hsh', hd, _⟩ := pollExit_spec a s (hadopt a (hrec ▸ hmem hpre)) s rfl
        exact ⟨hrec'.trans hrec, hsh.trans hsh', ⟨pre, hpre, hrel.imp fun _ _ h => h.shrink hsh'⟩, hd⟩)
      fun res => ?_
    split
    · next why =>
      exact Triple.pure' fun s h => step h.1 h.2.1 h.2.2.1 (Reaped.crashed why (h.2.2.2 rfl))
    · split
      · next hst =>
        have hst : a.state = .starting := by simpa using hst
        split
        · -- a spawn still starting: promoted once the startup window has passed
          refine Triple.bind (R := fun n s => s.records = r.records ∧ r.host.Shrinks s.host ∧
            ∃ pre, pre ++ a :: rest = r.records ∧ List.Forall₂ (Reaped s.host) pre out)
            (fun s h => ⟨h.1, h.2.1.trans (Host.Shrinks.of_eq rfl rfl), h.2.2.1.imp
              fun _ h => ⟨h.1, h.2.imp fun _ _ hr => hr.shrink (Host.Shrinks.of_eq rfl rfl)⟩⟩)
            fun n => Triple.pure' fun s h => step h.1 h.2.1 h.2.2 ?_
          split
          · exact Reaped.promoted _ hst
          · exact Reaped.kept _ a
        · exact Triple.pure' fun s h => step h.1 h.2.1 h.2.2.1 (Reaped.kept _ a)
      · exact Triple.pure' fun s h => step h.1 h.2.1 h.2.2.1 (Reaped.kept _ a)
  · -- the table becomes the reaped records
    obtain ⟨-, hsh, pre, hpre, hrel⟩ := h
    simp only [List.append_nil] at hpre
    subst hpre
    exact ⟨hsh, hrel⟩

end Registry

theorem Owns.reap {O : Nat → Prop} {r : Registry} (ho : Owns O r) :
    Owns O (Registry.reap.run r).2 := by
  obtain ⟨hsh, hrel⟩ := Registry.reap_spec r ho.adopted r rfl
  exact ho.reaped hsh hrel

namespace Owns

variable {O : Nat → Prop} {r : Registry}

theorem put_reaped (ho : Owns O r) {x e : Record} (hx : x ∈ r.records) (hr : Reaped r.host x e) :
    Owns O ((Registry.put e).run r).2 := by
  refine ho.put e (hr.handle (ho.handle x hx)) (fun p hp => ?_)
    (fun p hp => ho.held_lt x hx p (hr.holds hp))
    (fun y hy hyk p hp hyp => hyk (?_ : y.key = e.key))
    (fun y hy hyk p hyp _ ha => ?_)
  · exact ho.adopted x hx p (hr.adopted hp)
  · rw [ho.single y hy x hx p hyp (hr.holds hp), hr.key]
  · -- the record it replaces is `x` itself
    have hyx : y = x := ho.sorted.eq_of_key_eq hy hx (hyk.trans hr.key)
    subst hyx
    exact (hr.2 p hyp).resolve_right (not_not.2 ha)

theorem empty (hrec : r.records = []) (hd : ∀ p, O p → ¬ r.host.alive p)
    (hp : ∀ q ∈ r.host.processes, q.pid < r.host.nextPid) (hlt : ∀ p, O p → p < r.host.nextPid)
    (hone : 1 < r.host.nextPid) : Owns O r where
  sorted := hrec ▸ List.Pairwise.nil
  single x hx := by simp [hrec] at hx
  handle x hx := by simp [hrec] at hx
  adopted x hx := by simp [hrec] at hx
  covers p hO ha := absurd ha (hd p hO)
  processes_lt := hp
  held_lt x hx := by simp [hrec] at hx
  owned_lt := hlt
  one_lt := hone

end Owns

end LabFleet.Supervisor
