import LabFleet.Proofs.Supervisor.Effects

/-!
The reconciliation law of a reload.

A reload plans its work record by record from the reaped table. It stops a record when a
pending rename moves it to a name the next configuration has, when its profile is gone, or when
it runs and its fingerprint changed (`Reload.stops`). It respawns a running record that it moves
or whose fingerprint changed, under the new name or in place (`Reload.respawnAs`,
`Reload.targets`). Then it stops the planned records, daemons first, spawns the respawns,
nameservers first, and, when it spawned anything, looks at the records once more.

`reload_reconciles` gives what a safe reload (`ReloadSafe`) leaves on a registry that owns its
processes, as every run keeps it (`Reach.owns`); the law is `Reconciled`. The processes of the
records it stops are ended. Every other record stays as a look leaves it, with its process,
PID, incarnation and restart count, unless a respawn lands on it, and a respawn lands only on a
record that does not run. The counter of each respawned profile moves on by one and no other
counter moves. Each respawned profile holds a process spawned at its new incarnation, or a
crashed record when its program cannot start. Nothing else is in the table. The report lists
the running records whose profile is gone as stopped, the respawns whose program started as
restarted, in spawn order, and the running records it keeps as unchanged. A reload whose
configuration cannot be written changes nothing but the pending renames, which it drops.

A rename counts as a move whenever it names a profile of the next configuration, its own name
included. With no rename of a profile to its own name pending, every move is to another profile
(`Reload.renamedTo_ne_self`). Noting `a → b` and then `b → a` leaves the pending rename `a → a`,
and a reload with the configuration unchanged stops `a` and spawns it again under its own name
(`undone_rename_restarts_profile`).

The proof walks the reload's `do` block with `Triple`: the plan loop builds `Reload.PlanOf`
(`Reload.plan_loop`), the stop loop keeps `Stopping` one key at a time (`Stopping.stop`), the
spawn loop keeps `Respawning` one respawn at a time (`Respawning.loop`, `Respawning.respawn`),
and `Reconciled.of_parts` puts the pieces together.
-/

namespace LabFleet.Supervisor

open Control Config

set_option autoImplicit false

theorem mem_stopOrder_iff {ts : List ProfileKey} {k : ProfileKey} :
    k ∈ ts.filter (·.kind == .daemon) ++ ts.filter (·.kind == .nameserver) ↔ k ∈ ts := by
  refine ⟨fun hk => ?_, mem_stopOrder⟩
  rcases List.mem_append.1 hk with hk | hk <;> exact (List.mem_filter.1 hk).1

theorem Sorted.key_mem_filter {rs : List Record} (hs : Sorted rs) {x : Record} (hx : x ∈ rs)
    (p : Record → Bool) : x.key ∈ (rs.filter p).map Record.key ↔ p x = true := by
  constructor
  · intro h
    obtain ⟨y, hy, hyk⟩ := List.mem_map.1 h
    obtain ⟨hyrs, hpy⟩ := List.mem_filter.1 hy
    rwa [← hs.eq_of_key_eq hyrs hx hyk]
  · intro hp
    exact List.mem_map_of_mem (List.mem_filter.2 ⟨hx, hp⟩)

namespace Reload

variable (renames : List Rename) (previous next : LabConfig)

/-- A reload's plan as it is accumulated: the report, the keys to stop and the respawns. -/
abbrev Plan := ReloadReport × List ProfileKey × List (ProfileKey × ProfileKey)

/-- Whether a reload takes a record out of the table: a rename moves it, its profile is gone,
or it runs and its fingerprint changed. -/
def stops (x : Record) : Bool :=
  (renamedTo renames next x.key).isSome || !next.contains x.key.kind x.key.name ||
    (x.state.isRunning && previous.fingerprint x.key.kind x.key.name !=
      next.fingerprint x.key.kind x.key.name)

/-- The profile of a record, as a report names it. -/
def ref (x : Record) : ProfileRef := ⟨x.key.kind, x.key.name⟩

/-- Whether a reload reports a record stopped: it runs, no rename moves it, and its profile is
gone. -/
def reportsStopped (x : Record) : Bool :=
  x.state.isRunning && (renamedTo renames next x.key).isNone && !next.contains x.key.kind x.key.name

/-- What a reload reports of a table before it respawns: the running records whose profile is
gone are stopped, and the running records it keeps are unchanged. -/
def plannedReport (rs : List Record) : ReloadReport :=
  { stopped := (rs.filter (reportsStopped renames next)).map ref
    unchanged :=
      (rs.filter fun x => x.state.isRunning && keeps renames previous next x.key).map ref }

/-- A record's part of a reload's plan, one expression for every case the code tells apart: the
report, the keys to stop and the respawns, each extended by what the record adds. -/
def planOne (acc : Plan) (a : Record) : Plan :=
  ({ acc.1 with
      stopped := acc.1.stopped ++ if reportsStopped renames next a then [ref a] else []
      unchanged := acc.1.unchanged ++
        if a.state.isRunning && keeps renames previous next a.key then [ref a] else [] },
    acc.2.1 ++ (if stops renames previous next a then [a.key] else []),
    acc.2.2 ++ (if a.state.isRunning then
      (respawnAs renames previous next a.key).map (a.key, ·) else none).toList)

/-- The plan made of the records `pre`: the report, the keys to stop and the respawns. -/
def PlanOf (pre : List Record) (acc : Plan) : Prop :=
  acc.1 = plannedReport renames previous next pre ∧
    acc.2.1 = (pre.filter (stops renames previous next)).map Record.key ∧
    acc.2.2 = respawns renames previous next pre

/-- The order a reload spawns its respawns in: nameservers first. -/
def spawnOrder (sp : List (ProfileKey × ProfileKey)) : List (ProfileKey × ProfileKey) :=
  sp.filter (·.2.kind == .nameserver) ++ sp.filter (·.2.kind == .daemon)

/-- The profiles a reload respawns: one for each running record it moves or whose fingerprint
changed. -/
def targets (rs : List Record) : List ProfileKey :=
  (respawns renames previous next rs).map Prod.snd

variable {renames previous next}

theorem PlanOf.nil : PlanOf renames previous next [] ({}, [], []) :=
  ⟨rfl, rfl, rfl⟩

theorem PlanOf.snoc {pre : List Record} {acc : Plan} (h : PlanOf renames previous next pre acc)
    (a : Record) :
    PlanOf renames previous next (pre ++ [a]) (planOne renames previous next acc a) := by
  obtain ⟨h1, h2, h3⟩ := h
  refine ⟨?_, ?_, ?_⟩
  · simp only [planOne, h1, plannedReport, List.filter_append, List.map_append, List.filter_cons,
      List.filter_nil]
    split <;> split <;> rfl
  · simp only [planOne, h2, List.filter_append, List.map_append, List.filter_cons, List.filter_nil]
    split <;> rfl
  · simp only [planOne, h3, respawns_append]

theorem PlanOf.key_mem_stopOrder {rs : List Record} {acc : Plan}
    (hplan : PlanOf renames previous next rs acc) (hs : Sorted rs) {x : Record} (hx : x ∈ rs) :
    x.key ∈ acc.2.1.filter (·.kind == .daemon) ++ acc.2.1.filter (·.kind == .nameserver) ↔
      stops renames previous next x = true := by
  rw [hplan.2.1, mem_stopOrder_iff, hs.key_mem_filter hx]

variable (renames previous next) in
/-- **The planning loop.** A loop over a table whose every step leaves the registry alone and
adds the record's part of the plan ends with the plan of the whole table. -/
theorem plan_loop {s₂ : Registry} {rs : List Record}
    {body : Record → Plan → RegistryM (ForInStep Plan)}
    (hbody : ∀ a acc, Triple (· = s₂) (body a acc) fun res s =>
      s = s₂ ∧ res = .yield (planOne renames previous next acc a)) :
    Triple (· = s₂) (forIn rs ({}, [], []) body) fun acc s =>
      s = s₂ ∧ PlanOf renames previous next rs acc := by
  refine Triple.mono (Triple.forIn_prefix (fun pre acc s => s = s₂ ∧ PlanOf renames previous next pre acc)
      fun pre a _ acc _ => Triple.of_forall fun s h => ?_) (fun s hs => ⟨hs, PlanOf.nil⟩)
    fun _ _ h => h
  obtain ⟨rfl, hplan⟩ := h
  exact Triple.mono (hbody a acc) (fun _ h => h) fun res s' h => ⟨_, h.2, h.1, hplan.snoc a⟩

theorem stops_of_not_keeps {x : Record} (hrun : x.state.isRunning = true)
    (hk : keeps renames previous next x.key = false) : stops renames previous next x = true := by
  unfold keeps at hk
  unfold stops
  rw [hrun]
  -- not kept: moved, gone, or changed
  cases hr : renamedTo renames next x.key <;> cases hc : next.contains x.key.kind x.key.name <;>
    simp_all

theorem Safe.idle_of_target {rs : List Record} (hsafe : Safe renames previous next rs)
    {x : Record} (hx : x ∈ rs) (ht : x.key ∈ targets renames previous next rs)
    (hkeep : stops renames previous next x = false) : x.state.isRunning = false := by
  obtain ⟨p, hp, hpx⟩ := List.mem_map.1 ht
  obtain ⟨e, he, hrun, -, hre⟩ := mem_respawns hp
  cases hxrun : x.state.isRunning
  · rfl
  · have hk := (hsafe e he hrun p.2 hre).2 x hx hpx.symm hxrun
    rw [stops_of_not_keeps hxrun hk] at hkeep
    cases hkeep

theorem renamedTo_ne_self (hid : ∀ n ∈ renames, n.old ≠ n.new) {key : ProfileKey}
    {new : String} (h : renamedTo renames next key = some new) : new ≠ key.name := by
  unfold renamedTo at h
  obtain ⟨h, -⟩ := Option.filter_eq_some_iff.1 h
  obtain ⟨n, hn, rfl⟩ := Option.map_eq_some_iff.1 h
  have hmatch := List.find?_some hn
  simp only [Bool.and_eq_true, beq_iff_eq] at hmatch
  rw [← hmatch.2]
  exact (hid n (List.mem_of_find?_eq_some hn)).symm

end Reload

/-- Whether the launcher can start a profile's program. -/
def Launcher.canStart (l : Launcher) (k : ProfileKey) : Bool :=
  match l.program k.kind k.name with
  | .unavailable _ => false
  | _ => true

namespace Registry

/-- **What a spawn answers**: no failure exactly when the profile's program can start, and then
a record starting with the machine's next PID; otherwise a crashed record. -/
theorem spawn_outcome (e : Record) (s : Registry) :
    (((spawn e).run s).1.2 = none ↔ s.launcher.canStart e.key = true) ∧
      (s.launcher.canStart e.key = true → ((spawn e).run s).1.1.state = .starting ∧
        ((spawn e).run s).1.1.handle = some (.spawned s.host.nextPid)) ∧
      (s.launcher.canStart e.key = false → ((spawn e).run s).1.1.state = .crashed) := by
  unfold spawn Launcher.canStart
  rw [StateT.run_bind]
  -- the counter moves first, on the machine as it was
  rcases h : (nextIncarnation e.key).run s with ⟨n, s₁⟩
  have hs₁ : s₁ = { s with incarnations := s₁.incarnations } := by
    rw [show s₁ = ((nextIncarnation e.key).run s).2 by rw [h]]
    rfl
  rw [hs₁]
  change ((StateT.run (get >>= _ : RegistryM (Record × Option Error)) _).1.2 = none ↔ _) ∧
    (_ → (StateT.run (get >>= _ : RegistryM (Record × Option Error)) _).1.1.state = _ ∧
      (StateT.run (get >>= _ : RegistryM (Record × Option Error)) _).1.1.handle = _) ∧
    (_ → (StateT.run (get >>= _ : RegistryM (Record × Option Error)) _).1.1.state = _)
  rw [Triple.run_get_bind]
  dsimp only
  cases hp : s.launcher.program e.key.kind e.key.name with
  | unavailable reason =>
    exact ⟨iff_of_false (fun h => by cases h) (fun h => by cases h), (fun h => by cases h),
      fun _ => rfl⟩
  | idle output => exact ⟨iff_of_true rfl rfl, fun _ => ⟨rfl, rfl⟩, (fun h => by cases h)⟩
  | stubborn output => exact ⟨iff_of_true rfl rfl, fun _ => ⟨rfl, rfl⟩, (fun h => by cases h)⟩

end Registry

/-! ## The machine across spawns -/

namespace Host

/-- The machine after steps that may spawn: every process alive after was alive before or has a
PID from the next one on, and the next PID does not go back. -/
structure Grows (h h' : Host) : Prop where
  alive : ∀ p, h'.alive p → h.alive p ∨ h.nextPid ≤ p
  nextPid : h.nextPid ≤ h'.nextPid

theorem Shrinks.grows {h h' : Host} (hm : h.Shrinks h') : h.Grows h' :=
  ⟨fun p hp => .inl (hm.alive p hp), Nat.le_of_eq hm.nextPid.symm⟩

theorem Grows.trans {h₁ h₂ h₃ : Host} (h12 : h₁.Grows h₂) (h23 : h₂.Grows h₃) : h₁.Grows h₃ where
  alive p hp := by
    rcases h23.alive p hp with hp | hp
    · exact h12.alive p hp
    · exact .inr (Nat.le_trans h12.nextPid hp)
  nextPid := Nat.le_trans h12.nextPid h23.nextPid

theorem Grows.dead {h h' : Host} (hm : h.Grows h') {p : Nat} (hp : p < h.nextPid)
    (hd : ¬ h.alive p) : ¬ h'.alive p := fun ha =>
  (hm.alive p ha).elim hd fun hle => Nat.lt_irrefl _ (Nat.lt_of_lt_of_le hp hle)

end Host

theorem Registry.SpawnedBy.grows {r s : Registry} {e' : Record} (h : Registry.SpawnedBy r e' s) :
    r.host.Grows s.host := by
  obtain ⟨-, hcase⟩ := h
  rcases hcase with ⟨hp, hn, -, -⟩ | ⟨⟨b, hp⟩, hn, -, -⟩
  · exact (Host.Shrinks.of_eq hp hn).grows
  · refine ⟨fun p ha => ?_, by rw [hn]; exact Nat.le_succ _⟩
    obtain ⟨q, hq, hqp, hl⟩ := ha
    rw [hp, List.mem_append, List.mem_singleton] at hq
    rcases hq with hq | hq
    · exact .inl ⟨q, hq, hqp, hl⟩
    · rw [hq] at hqp
      exact .inr (Nat.le_of_eq hqp)

namespace Reaped

variable {h h' : Host} {e e' : Record}

theorem incarnation (hr : Reaped h e e') : e'.incarnation = e.incarnation := by
  rcases hr.1 with rfl | ⟨-, rfl⟩ | ⟨why, rfl⟩ <;> rfl

theorem crashed_of_crashed (hr : Reaped h e e') (hc : e.state = .crashed) :
    e'.state = .crashed := by
  rcases hr.1 with rfl | ⟨hs, rfl⟩ | ⟨why, rfl⟩
  · exact hc
  · rw [hc] at hs
    cases hs
  · rfl

theorem grow (hr : Reaped h e e') (hm : h.Grows h') (hlt : ∀ p, e.holds p → p < h.nextPid) :
    Reaped h' e e' :=
  ⟨hr.1, fun p hp => (hr.2 p hp).imp id (hm.dead (hlt p hp))⟩

end Reaped

/-! ## Stopping the planned records -/

/-- Work that changes the table and the machine and nothing else. -/
def TableStep (r s : Registry) : Prop := s = { r with records := s.records, host := s.host }

namespace TableStep

variable {r s u : Registry}

theorem trans (h₁ : TableStep r s) (h₂ : TableStep s u) : TableStep r u := by
  unfold TableStep at *
  rw [h₂, h₁]

theorem launcher (h : TableStep r s) : s.launcher = r.launcher := by rw [h]

theorem lastIncarnation (h : TableStep r s) (k : ProfileKey) :
    s.lastIncarnation k = r.lastIncarnation k := by rw [h]; rfl

end TableStep

/-- The stop loop so far, from the registry `r₂` the plan was made on: the keys of `pre` are
stopped, so the records left are those of the other keys and the processes of the stopped ones
are dead, on a machine that only shrank; nothing but the table and the machine changed. -/
def Stopping (r₂ : Registry) (order rest : List ProfileKey) (s : Registry) : Prop :=
  ∃ pre, pre ++ rest = order ∧ TableStep r₂ s ∧
    s.records = r₂.records.filter (fun x => x.key ∉ pre) ∧ r₂.host.Shrinks s.host ∧
    ∀ x ∈ r₂.records, x.key ∈ pre → ∀ p, x.holds p → ¬ s.host.alive p

namespace Stopping

variable {r₂ s₀ s : Registry} {order rest : List ProfileKey} {key : ProfileKey}

theorem mem (hinv : Stopping r₂ order rest s) {x : Record} (hx : x ∈ s.records) :
    x ∈ r₂.records := by
  obtain ⟨_, _, _, hrec, _⟩ := hinv
  rw [hrec] at hx
  exact (List.mem_filter.1 hx).1

theorem sorted (hinv : Stopping r₂ order rest s) (hs : Sorted r₂.records) : Sorted s.records := by
  obtain ⟨_, _, _, hrec, _⟩ := hinv
  rw [hrec]
  exact hs.filter _

theorem next (hinv : Stopping r₂ order (key :: rest) s₀) (hts : TableStep s₀ s)
    (hrec : s.records = s₀.records.filter (·.key != key)) (hsh : s₀.host.Shrinks s.host)
    (hdead : ∀ x ∈ s₀.records, x.key = key → ∀ p, x.holds p → ¬ s.host.alive p) :
    Stopping r₂ order rest s := by
  obtain ⟨pre, hpre, hts₀, hrec₀, hsh₀, hdead₀⟩ := hinv
  refine ⟨pre ++ [key], by simp [hpre], hts₀.trans hts, ?_, hsh₀.trans hsh, fun x hx hk p hp => ?_⟩
  · rw [hrec, hrec₀, List.filter_filter]
    refine List.filter_congr fun x _ => ?_
    by_cases hk : x.key = key <;> simp [hk]
  · by_cases hpre' : x.key ∈ pre
    · exact fun ha => hdead₀ x hx hpre' p hp (hsh.alive p ha)
    · have hk : x.key = key := by simpa [hpre'] using hk
      exact hdead x (hrec₀ ▸ List.mem_filter.2 ⟨hx, by simpa using hpre'⟩) hk p hp

end Stopping

/-- **One stop of a reload.** The key's record, if any, is taken out and its process ended, and
its PID file removed: the stop loop goes one key further. -/
theorem Stopping.stop {r₂ : Registry} {order : List ProfileKey} (key : ProfileKey)
    (rest : List ProfileKey) (hs : Sorted r₂.records)
    (hadopt : ∀ x ∈ r₂.records, ∀ p, x.handle = some (.adopted p) → 0 < p ∧ p ≤ Host.maxPid) :
    Triple (Stopping r₂ order (key :: rest))
      (do
        match ← Registry.take key with
        | some entry =>
          Registry.terminate entry
          Registry.removePidFile key
          pure (ForInStep.yield PUnit.unit)
        | none => pure (ForInStep.yield PUnit.unit))
      (Triple.Next (fun rest (_ : PUnit) => Stopping r₂ order rest) rest) := by
  refine Triple.bind (R := fun x s' => ∃ s₀, Stopping r₂ order (key :: rest) s₀ ∧
      x = s₀.find? key ∧ s' = ((Registry.take key).run s₀).2)
    (fun s' hs' => ⟨s', hs', rfl, rfl⟩) fun x => ?_
  split
  · next entry =>
    -- the record found is the key's one record, and its process is ended
    refine Triple.bind (R := fun _ s' => ∃ s₀, Stopping r₂ order (key :: rest) s₀ ∧
        TableStep s₀ s' ∧ s'.records = s₀.records.filter (·.key != key) ∧
        s₀.host.Shrinks s'.host ∧ ∀ x ∈ s₀.records, x.key = key → ∀ p, x.holds p → ¬ s'.host.alive p)
      (fun s' h => by
        obtain ⟨s₀, hinv, hx, hs'⟩ := h
        subst hs'
        obtain ⟨host, hs'', hsh, hend⟩ :=
          Registry.terminate_host entry ((Registry.take key).run s₀).2
        refine ⟨s₀, hinv, by rw [hs'']; exact rfl, by rw [hs'']; rfl, by rw [hs'']; exact hsh,
          fun y hy hyk => ?_⟩
        have hentry : entry = y :=
          Option.some.inj (hx.trans ((hinv.sorted hs).find?_eq_some.2 ⟨hy, hyk⟩))
        rw [hs'', ← hentry]
        exact hend (hentry ▸ hadopt y (hinv.mem hy)))
      fun _ => Triple.bind (R := fun _ => Stopping r₂ order rest)
        (fun s' h => by
          obtain ⟨s₀, hinv, hts, hrec, hsh, hdead⟩ := h
          -- removing the PID file acts on the machine's files alone
          have hpid : s'.host.Shrinks ((Registry.removePidFile key).run s').2.host :=
            Host.Shrinks.of_eq rfl rfl
          exact hinv.next (hts.trans rfl) hrec (hsh.trans hpid)
            fun y hy hyk p hp ha => hdead y hy hyk p hp (hpid.alive p ha))
        fun _ => Triple.pure' fun _ h => h
  · exact Triple.pure' fun s' h => by
      obtain ⟨s₀, hinv, hx, hs'⟩ := h
      subst hs'
      refine hinv.next rfl rfl (Host.Shrinks.refl _) fun y hy hyk => absurd hyk ?_
      unfold Registry.find? at hx
      exact find?_eq_none_iff.1 hx.symm y hy

/-! ## Respawning -/

namespace Registry

theorem spawn_frame (e : Record) (s : Registry) :
    ∃ incarnations host pumps,
      ((spawn e).run s).2 = { s with incarnations, host, pumps } := by
  unfold spawn
  rw [StateT.run_bind]
  rcases h : (nextIncarnation e.key).run s with ⟨n, s₁⟩
  have hs₁ : s₁ = { s with incarnations := s₁.incarnations } := by
    rw [show s₁ = ((nextIncarnation e.key).run s).2 by rw [h]]
    rfl
  rw [hs₁]
  change ∃ incarnations host pumps,
    (StateT.run (get >>= _ : RegistryM (Record × Option Error)) _).2 = _
  rw [Triple.run_get_bind]
  dsimp only
  cases hp : s.launcher.program e.key.kind e.key.name with
  | unavailable reason => exact ⟨_, _, _, rfl⟩
  | idle output => exact ⟨_, _, _, rfl⟩
  | stubborn output => exact ⟨_, _, _, rfl⟩

end Registry

/-- A record of the profile `y.key` that a reload from `r` respawned: at the profile's next
incarnation and holding only a process spawned after `r`, or crashed when the profile's program
cannot start. -/
def Respawn (r : Registry) (y : Record) : Prop :=
  (r.launcher.canStart y.key = true →
    y.incarnation = r.lastIncarnation y.key + 1 ∧ ∀ p, y.holds p → r.host.nextPid ≤ p) ∧
  (r.launcher.canStart y.key = false → y.state = .crashed)

namespace Respawn

variable {r r' : Registry} {y y' : Record}

theorem congr (h : Respawn r y) (hl : r'.launcher = r.launcher)
    (hi : r'.lastIncarnation y.key = r.lastIncarnation y.key)
    (hn : r'.host.nextPid = r.host.nextPid) : Respawn r' y := by
  unfold Respawn
  rw [hl, hi, hn]
  exact h

theorem reaped {h : Host} (hy : Respawn r y) (hr : Reaped h y y') : Respawn r y' := by
  unfold Respawn
  rw [hr.key, hr.incarnation]
  exact ⟨fun hc => ⟨(hy.1 hc).1, fun p hp => (hy.1 hc).2 p (hr.holds hp)⟩,
    fun hc => hr.crashed_of_crashed (hy.2 hc)⟩

end Respawn

/-- The respawn loop so far, from `r₃`, the registry the stop loop left: the respawns `done` are
made. Every other profile's record is as in `r₃` and each respawned profile holds its respawn;
the counters of the respawned profiles moved on by one and no other counter moved; the machine
only grew; and the report is `base` with the respawns whose program started added as
restarted. -/
structure Respawning (r₃ : Registry) (base : ReloadReport) (done : List (ProfileKey × ProfileKey))
    (rep : ReloadReport) (s : Registry) : Prop where
  others : ∀ k, k ∉ done.map Prod.snd → s.find? k = r₃.find? k
  respawned : ∀ t ∈ done.map Prod.snd, ∃ y, s.find? t = some y ∧ Respawn r₃ y
  sorted : Sorted s.records
  adopted : ∀ y ∈ s.records, ∀ p, y.handle = some (.adopted p) → 0 < p ∧ p ≤ Host.maxPid
  spawns : SpawnsOnce r₃ (done.map Prod.snd) s
  grows : r₃.host.Grows s.host
  launcher : s.launcher = r₃.launcher
  report : rep = { base with restarted := base.restarted ++
    ((done.filter fun p => r₃.launcher.canStart p.2).map fun p => ⟨p.2.kind, p.2.name⟩) }

namespace Respawning

variable {r₃ s : Registry} {base rep : ReloadReport} {done : List (ProfileKey × ProfileKey)}

theorem start (hs : Sorted r₃.records)
    (hadopt : ∀ y ∈ r₃.records, ∀ p, y.handle = some (.adopted p) → 0 < p ∧ p ≤ Host.maxPid) :
    Respawning r₃ base [] base r₃ where
  others _ _ := rfl
  respawned _ h := nomatch h
  sorted := hs
  adopted := hadopt
  spawns := SpawnsOnce.refl r₃
  grows := (Host.Shrinks.refl _).grows
  launcher := rfl
  report := by simp only [List.filter_nil, List.map_nil, List.append_nil]

theorem logs (h : Respawning r₃ base done rep s) (l : LogBuffer) :
    Respawning r₃ base done rep { s with logs := l } :=
  ⟨h.others, h.respawned, h.sorted, h.adopted, h.spawns.congr rfl rfl, h.grows, h.launcher,
    h.report⟩

/-- **One respawn of a reload.** The profile `new`, not respawned before, is spawned from its
record, or a fresh one, and the spawn stored; the report takes it in when its program
started. -/
theorem spawn (h : Respawning r₃ base done rep s) (old new : ProfileKey)
    (hnew : new ∉ done.map Prod.snd) {rep' : ReloadReport}
    (hrep : rep' = if ((Registry.spawn ((s.find? new).getD (Record.fresh new))).run s).1.2 = none
      then { rep with restarted := rep.restarted ++ [⟨new.kind, new.name⟩] } else rep) :
    Respawning r₃ base (done ++ [(old, new)]) rep'
      ((Registry.put ((Registry.spawn ((s.find? new).getD (Record.fresh new))).run s).1.1).run
        ((Registry.spawn ((s.find? new).getD (Record.fresh new))).run s).2).2 := by
  generalize he : (s.find? new).getD (Record.fresh new) = e at hrep ⊢
  have hkey : e.key = new := he ▸ Registry.key_getD_fresh s new
  -- what the spawn did, gathered before its run is named
  have hfacts := And.intro (Registry.spawn_spec e s s rfl) <| And.intro
    (Registry.spawn_effect e s s rfl).2.2.2.2.1 <| And.intro (Registry.spawn_outcome e s) <|
    And.intro (Registry.spawn_frame e s) (Registry.spawnsOnce_spawn e s)
  generalize (Registry.spawn e).run s = res at hfacts hrep ⊢
  obtain ⟨⟨y, failure⟩, s'⟩ := res
  obtain ⟨⟨hkey', hby⟩, hinc, ⟨hfail, hstart, hcrash⟩, ⟨inc, host, pumps, hframe⟩, hsp⟩ := hfacts
  dsimp only at hkey' hby hinc hfail hstart hcrash hframe hsp hrep ⊢
  rw [hkey] at hsp hfail hstart hcrash hinc
  have hyk : y.key = new := hkey'.trans hkey
  have hrec : s'.records = s.records := hby.1
  have hfind : ∀ k, k ≠ new → ((Registry.put y).run s').2.find? k = s.find? k := fun k hk => by
    rw [Registry.find?_put, if_neg (by rw [hyk]; exact Ne.symm hk)]
    unfold Registry.find?
    rw [hrec]
  have hmem : ∀ {k}, k ∈ (done ++ [(old, new)]).map Prod.snd ↔ k ∈ done.map Prod.snd ∨ k = new :=
    by simp
  have hl : s.launcher = r₃.launcher := h.launcher
  refine ⟨fun k hk => ?_, fun t ht => ?_, ?_, fun y' hy' p hp => ?_, ?_, ?_, ?_, ?_⟩
  · -- another profile's record is where it was
    have hk' : k ≠ new := fun he => hk (hmem.2 (.inr he))
    rw [hfind k hk']
    exact h.others k fun hd => hk (hmem.2 (.inl hd))
  · rcases hmem.1 ht with ht | rfl
    · -- a profile respawned before keeps its respawn
      rw [hfind t fun he => hnew (he ▸ ht)]
      exact h.respawned t ht
    · -- the profile just respawned holds the spawn
      refine ⟨y, by rw [Registry.find?_put, if_pos hyk], ?_, ?_⟩
      · intro hc
        rw [hyk, ← hl] at hc
        obtain ⟨hst, hh⟩ := hstart hc
        refine ⟨?_, fun p hp => ?_⟩
        · rw [hinc hst, hyk, h.spawns.last_of_not_mem hnew]
        · rw [Record.holds_spawned y p _ hh] at hp
          rw [← hp]
          exact h.grows.nextPid
      · intro hc
        rw [hyk, ← hl] at hc
        exact hcrash hc
  · exact sorted_insertRecord (hrec ▸ h.sorted) y
  · -- the stored spawn holds a child or nothing, never an adopted PID
    rcases mem_insertRecord_or hy' with rfl | hy'
    · rcases hby.2 with ⟨-, -, hnone, -⟩ | ⟨-, -, hsome, -⟩
      · rw [hnone] at hp
        cases hp
      · rw [hsome] at hp
        cases hp
    · exact h.adopted y' (hrec ▸ hy') p hp
  · have hsp' : SpawnsOnce r₃ (done.map Prod.snd ++ [new]) s' :=
      h.spawns.trans hsp fun k hk hkd => hnew ((List.mem_singleton.1 hk) ▸ hkd)
    rw [List.map_append]
    exact hsp'.put y
  · exact h.grows.trans hby.grows
  · rw [← hl, hframe]
    rfl
  · rw [hrep, h.report]
    by_cases hc : r₃.launcher.canStart new = true
    · have hf : failure = none := hfail.2 (hl ▸ hc)
      simp [hf, hc, List.filter_append]
    · have hf : ¬ failure = none := fun hf => hc (hl ▸ hfail.1 hf)
      simp [hf, hc, List.filter_append]

/-- **One step of the respawn loop.** The logs of a renamed profile follow it, and the profile
`new`, not respawned before, is spawned from its record, or a fresh one, and the spawn stored. -/
theorem respawn (acc : ReloadReport × List String) (old new : ProfileKey)
    (hnew : new ∉ done.map Prod.snd) :
    Triple (Respawning r₃ base done acc.1)
      (do
        if old != new then
          modify fun r => { r with logs := r.logs.rename old.kind old.name new.name }
        let existing := (← get).find? new
        let (entry, failure) ← Registry.spawn (existing.getD (Record.fresh new))
        Registry.put entry
        match failure with
        | none => pure (ForInStep.yield
            ({ acc.1 with restarted := acc.1.restarted ++ [⟨new.kind, new.name⟩] }, acc.2))
        | some e => pure (ForInStep.yield (acc.1, acc.2 ++ [e.message])))
      fun res s => ∃ acc', res = .yield acc' ∧
        Respawning r₃ base (done ++ [(old, new)]) acc'.1 s := by
  split
  on_goal 1 =>
    refine Triple.bind (R := fun _ s => Respawning r₃ base done acc.1 s)
      (fun s hs => hs.logs _) fun _ => ?_
  all_goals
    refine Triple.get_bind fun s₁ => ?_
    refine Triple.bind (R := fun res s => Respawning r₃ base done acc.1 s₁ ∧
        res = ((Registry.spawn ((s₁.find? new).getD (Record.fresh new))).run s₁).1 ∧
        s = ((Registry.spawn ((s₁.find? new).getD (Record.fresh new))).run s₁).2)
      (fun s h => by
        obtain ⟨hinv, hs⟩ := h
        rw [hs]
        exact ⟨hs ▸ hinv, rfl, rfl⟩) fun res => ?_
    refine Triple.of_forall fun s' h => ?_
    obtain ⟨hinv₁, hres, hs'⟩ := h
    subst hres hs'
    refine Triple.bind (R := fun _ s => s = ((Registry.put
        ((Registry.spawn ((s₁.find? new).getD (Record.fresh new))).run s₁).1.1).run
        ((Registry.spawn ((s₁.find? new).getD (Record.fresh new))).run s₁).2).2)
      (fun s hs => by rw [hs]) fun _ => ?_
    split
    all_goals
      refine Triple.pure' fun s hs => ⟨_, rfl, hs ▸ hinv₁.spawn old new hnew ?_⟩
      rename_i hfail
      rw [hfail]
      rfl

/-- **The respawn loop.** Over respawns of distinct profiles, a loop whose every step makes one
more respawn makes them all. -/
theorem loop {order : List (ProfileKey × ProfileKey)} {w : List String}
    {body : ProfileKey × ProfileKey → ReloadReport × List String →
      RegistryM (ForInStep (ReloadReport × List String))}
    (hnodup : (order.map Prod.snd).Nodup)
    (hbody : ∀ done x acc, x.2 ∉ done.map Prod.snd →
      Triple (Respawning r₃ base done acc.1) (body x acc) fun res s =>
        ∃ acc', res = .yield acc' ∧ Respawning r₃ base (done ++ [x]) acc'.1 s) :
    Triple (Respawning r₃ base [] base) (forIn order (base, w) body) fun acc =>
      Respawning r₃ base order acc.1 := by
  refine Triple.mono (Triple.forIn_prefix (fun done acc => Respawning r₃ base done acc.1)
    fun done x rest acc hdone => hbody done x acc ?_) (fun _ h => h) fun _ _ h => h
  -- the profile spawned now is not among those spawned before
  rw [← hdone, List.map_append, List.map_cons] at hnodup
  exact fun hm => List.disjoint_of_nodup_append hnodup hm List.mem_cons_self

end Respawning

/-! ## The law -/

open Reload

/-- **The reconciliation law** of a reload from `r` to `next`, planned on the reaped table `rs`,
that answered `out` and left `s`. -/
structure Reconciled (r : Registry) (next : LabConfig) (rs : List Record) (out : ReloadOutcome)
    (s : Registry) : Prop where
  -- the plan is made from the records as a look at their processes leaves them
  reaped : List.Forall₂ (Reaped s.host) r.records rs
  -- the records it stops, moved, gone or running with a changed fingerprint, have their
  -- processes ended
  ended : ∀ x ∈ rs, stops r.renames r.config next x = true → ∀ p, x.holds p → ¬ s.host.alive p
  -- every other record that no respawn lands on stays as a look leaves it: its process, PID,
  -- incarnation and restart count
  kept : ∀ x ∈ rs, stops r.renames r.config next x = false →
    x.key ∉ targets r.renames r.config next rs → ∃ y ∈ s.records, Reaped s.host x y
  -- a respawn lands only on a record that does not run
  idle : ∀ x ∈ rs, stops r.renames r.config next x = false →
    x.key ∈ targets r.renames r.config next rs → x.state.isRunning = false
  -- one spawn for each respawned profile and none for another
  spawns : ∀ k, s.lastIncarnation k =
    if k ∈ targets r.renames r.config next rs then r.lastIncarnation k + 1 else r.lastIncarnation k
  respawned : ∀ t ∈ targets r.renames r.config next rs, ∃ y ∈ s.records, y.key = t ∧ Respawn r y
  -- nothing else is in the table
  only : ∀ y ∈ s.records, y.key ∈ targets r.renames r.config next rs ∨
    ∃ x ∈ rs, stops r.renames r.config next x = false ∧ Reaped s.host x y
  -- the plan's report, with the respawns whose program started as restarted, in spawn order
  report : out.report = { plannedReport r.renames r.config next rs with
    restarted := ((spawnOrder (respawns r.renames r.config next rs)).filter
      fun p => r.launcher.canStart p.2).map fun p => ⟨p.2.kind, p.2.name⟩ }

/-- What a reload from `r` to `next` leaves: the law, or, when the configuration cannot be
written, everything as it was but the pending renames. -/
def Reloaded (r : Registry) (next : LabConfig) : Result ReloadOutcome → Registry → Prop
  | .error _, s => s = { r with renames := [] }
  | .ok out, s => ∃ rs, Reconciled r next rs out s

theorem Registry.find?_eq_some_of_sorted {r : Registry} (hs : Sorted r.records) {k : ProfileKey}
    {x : Record} : r.find? k = some x ↔ x ∈ r.records ∧ x.key = k := by
  unfold Registry.find?
  exact hs.find?_eq_some

theorem Forall₂.reaped_grow {h h' : Host} {rs out : List Record}
    (hrel : List.Forall₂ (Reaped h) rs out) (hm : h.Grows h')
    (hlt : ∀ x ∈ rs, ∀ p, x.holds p → p < h.nextPid) : List.Forall₂ (Reaped h') rs out := by
  induction hrel with
  | nil => exact .nil
  | cons hab _ ih =>
    exact .cons (hab.grow hm (hlt _ List.mem_cons_self))
      (ih fun x hx => hlt x (List.mem_cons_of_mem _ hx))

theorem Reconciled.of_parts {O : Nat → Prop} {r s₂ s₃ s₄ s : Registry} {next : LabConfig}
    {acc : Plan} {order : List ProfileKey} {rep : ReloadReport} (w : List String)
    (ho : Owns O r) (hsafe : Safe r.renames r.config next s₂.records)
    (hrel : List.Forall₂ (Reaped s₂.host) r.records s₂.records) (hsort : Sorted s₂.records)
    (hsh : r.host.Shrinks s₂.host) (hl : s₂.launcher = r.launcher)
    (hi : ∀ k, s₂.lastIncarnation k = r.lastIncarnation k)
    (hplan : PlanOf r.renames r.config next s₂.records acc)
    (hmem : ∀ x ∈ s₂.records, x.key ∈ order ↔ stops r.renames r.config next x = true)
    (hstop : Stopping s₂ order [] s₃) (hresp : Respawning s₃ acc.1 (spawnOrder acc.2.2) rep s₄)
    (hts : TableStep s₄ s) (hsh₅ : s₄.host.Shrinks s.host)
    (hrel₅ : List.Forall₂ (Reaped s.host) s₄.records s.records) :
    Reconciled r next s₂.records { report := rep, warnings := w } s := by
  obtain ⟨pre, hpre, hts₃, hrec₃, hsh₃, hdead₃⟩ := hstop
  rw [List.append_nil] at hpre
  subst hpre
  -- the respawns, in spawn order, are those of the plan
  have htarget : ∀ k, k ∈ (spawnOrder acc.2.2).map Prod.snd ↔
      k ∈ targets r.renames r.config next s₂.records := fun k =>
    ((hplan.2.2 ▸ spawnOrder_perm acc.2.2 :
      (spawnOrder acc.2.2).Perm (respawns r.renames r.config next s₂.records)).map Prod.snd).mem_iff
  -- every process a record of the reaped table holds is older than the spawns
  have hlt : ∀ x ∈ s₂.records, ∀ p, x.holds p → p < s₂.host.nextPid := fun x hx p hp => by
    obtain ⟨x₀, hx₀, hr⟩ := Forall₂.exists_right hrel hx
    rw [hsh.nextPid]
    exact ho.held_lt x₀ hx₀ p (hr.holds hp)
  have hgrow₃ : s₃.host.Grows s.host := hresp.grows.trans hsh₅.grows
  -- the stop loop left the records the plan does not stop
  have hmem₃ : ∀ x, x ∈ s₃.records ↔ x ∈ s₂.records ∧ stops r.renames r.config next x = false := by
    intro x
    rw [hrec₃, List.mem_filter]
    refine and_congr_right fun hx => ?_
    rw [decide_eq_true_iff, hmem x hx, Bool.not_eq_true]
  have hsort₃ : Sorted s₃.records := hrec₃ ▸ hsort.filter _
  -- the counters, the launcher and the next PID the respawn loop started from are `r`'s
  have hl₃ : s₃.launcher = r.launcher := hts₃.launcher.trans hl
  have hi₃ : ∀ k, s₃.lastIncarnation k = r.lastIncarnation k := fun k =>
    (hts₃.lastIncarnation k).trans (hi k)
  have hn₃ : s₃.host.nextPid = r.host.nextPid := hsh₃.nextPid.trans hsh.nextPid
  refine ⟨Forall₂.reaped_grow hrel (hsh₃.grows.trans hgrow₃) fun x hx p hp => ?_,
    fun x hx hx' p hp => ?_, fun x hx hk ht => ?_, fun x hx hk ht => hsafe.idle_of_target hx ht hk,
    fun k => ?_, fun t ht => ?_, fun y hy => ?_, ?_⟩
  · rw [hsh.nextPid]
    exact ho.held_lt x hx p hp
  · -- a stopped record's process ended in the stop loop and stays ended
    exact hgrow₃.dead (hsh₃.nextPid ▸ hlt x hx p hp) (hdead₃ x hx ((hmem x hx).2 hx') p hp)
  · -- a record left alone is where the stop loop left it, and the last look leaves it reaped
    have hf : s₄.find? x.key = some x := by
      rw [hresp.others x.key fun h => ht ((htarget _).1 h)]
      exact (Registry.find?_eq_some_of_sorted hsort₃).2 ⟨(hmem₃ x).2 ⟨hx, hk⟩, rfl⟩
    obtain ⟨y, hy, hxy⟩ := Forall₂.exists_left hrel₅
      ((Registry.find?_eq_some_of_sorted hresp.sorted).1 hf).1
    exact ⟨y, hy, hxy⟩
  · rw [hts.lastIncarnation, hresp.spawns.counter, hi₃]
    by_cases hk : k ∈ targets r.renames r.config next s₂.records
    · rw [if_pos ((htarget k).2 hk), if_pos hk]
    · rw [if_neg fun h => hk ((htarget k).1 h), if_neg hk]
  · -- a respawned profile holds its respawn, looked at once more
    obtain ⟨y₄, hf, hy₄⟩ := hresp.respawned t ((htarget t).2 ht)
    obtain ⟨hy₄m, hy₄k⟩ := (Registry.find?_eq_some_of_sorted hresp.sorted).1 hf
    obtain ⟨y, hy, hr⟩ := Forall₂.exists_left hrel₅ hy₄m
    refine ⟨y, hy, hr.key.trans hy₄k, (hy₄.reaped hr).congr hl₃.symm ?_ hn₃.symm⟩
    rw [hr.key, hi₃]
  · -- a record of the last table is a respawn or a record the plan leaves alone
    obtain ⟨y₄, hy₄, hr⟩ := Forall₂.exists_right hrel₅ hy
    by_cases ht : y₄.key ∈ (spawnOrder acc.2.2).map Prod.snd
    · exact .inl (hr.key ▸ (htarget _).1 ht)
    · have hf : s₃.find? y₄.key = some y₄ := by
        rw [← hresp.others y₄.key ht]
        exact (Registry.find?_eq_some_of_sorted hresp.sorted).2 ⟨hy₄, rfl⟩
      obtain ⟨hy₃, -⟩ := (Registry.find?_eq_some_of_sorted hsort₃).1 hf
      obtain ⟨hy₂, hk⟩ := (hmem₃ y₄).1 hy₃
      exact .inr ⟨y₄, hy₂, hk, hr⟩
  · -- the plan's report has no restarts; the respawn loop added those whose program started
    show rep = _
    rw [hresp.report, hplan.1, hl₃, hplan.2.2]
    rfl

/-- **A safe reload reconciles the table with the next configuration.** From a registry that
owns its processes, a reload whose respawns are safe leaves what `Reloaded` says. -/
theorem reload_reconciles {O : Nat → Prop} (r : Registry) (next : LabConfig) (ho : Owns O r)
    (hsafe : ReloadSafe r next) : Triple (· = r) (Registry.reload next) (Reloaded r next) := by
  unfold Registry.reload
  refine Triple.get_bind fun r₀ => Triple.get_bind fun r₁ => Triple.of_forall fun s h => ?_
  obtain ⟨⟨hs, hs₀⟩, hs₁⟩ := h
  subst r₀ r₁ s
  dsimp only
  -- the pending renames are dropped and the configuration committed
  refine Triple.bind (R := fun _ s => s = { r with renames := [] })
    (fun s hs => by subst hs; rfl) fun _ => ?_
  refine Triple.bind (R := fun res s => (res = .ok () → s = { r with
      renames := []
      config := next
      host := { r.host with runtimeConfig := some (next.render .merged) } }) ∧
      ∀ e, res = .error e → s = { r with renames := [] })
    (fun s hs => by subst hs; exact commit_effect next _ _ rfl) fun res => ?_
  split
  · -- the configuration cannot be written: nothing else happens
    next e => exact Triple.pure' fun _ h => h.2 e rfl
  refine Triple.of_forall fun s₁ h => ?_
  -- what the reload keeps from the committed registry
  have hs₁ := h.1 rfl
  have hrec₁ : s₁.records = r.records := by rw [hs₁]
  have hsh₁ : r.host.Shrinks s₁.host := by
    rw [hs₁]
    exact Host.Shrinks.of_eq rfl rfl
  have hl₁ : s₁.launcher = r.launcher := by rw [hs₁]
  have hi₁ : ∀ k, s₁.lastIncarnation k = r.lastIncarnation k := fun k => by rw [hs₁]; rfl
  clear h hs₁
  -- a look at every record: the reaped table the plan is made from
  refine Triple.bind (R := fun _ s => r.host.Shrinks s.host ∧
      List.Forall₂ (Reaped s.host) r.records s.records ∧ s.launcher = r.launcher ∧
      ∀ k, s.lastIncarnation k = r.lastIncarnation k)
    (fun s hs => by
      obtain ⟨hsh, hrel⟩ := Registry.reap_spec s₁ (hrec₁ ▸ ho.adopted) s hs
      have hts : TableStep s₁ _ := (Registry.reap_effect s₁ s hs).eq
      exact ⟨hsh₁.trans hsh, hrec₁ ▸ hrel, hts.launcher.trans hl₁,
        fun k => (hts.lastIncarnation k).trans (hi₁ k)⟩) fun _ => ?_
  refine Triple.get_bind fun r₂ => Triple.of_forall fun s₂ h => ?_
  obtain ⟨⟨hsh₂, hrel₂, hl₂, hi₂⟩, hs₂⟩ := h
  subst hs₂
  have hsort₂ : Sorted s₂.records := ho.sorted.of_keys (by rw [Forall₂.map_key hrel₂])
  have hadopt₂ : ∀ x ∈ s₂.records, ∀ p, x.handle = some (.adopted p) → 0 < p ∧ p ≤ Host.maxPid :=
    fun x hx p hp => by
      obtain ⟨x₀, hx₀, hrx⟩ := Forall₂.exists_right hrel₂ hx
      exact ho.adopted x₀ hx₀ p (hrx.adopted hp)
  -- the plan, record by record: every case of the code adds what `planOne` says
  refine Triple.bind (plan_loop r.renames r.config next fun a acc => ?_) fun acc => ?_
  · split
    · next new hren =>
      have hren : renamedTo r.renames next a.key = some new := hren
      split <;> rename_i hrun <;> refine Triple.pure' fun _ h => ⟨h, ?_⟩ <;>
        simp [planOne, reportsStopped, stops, keeps, respawnAs, hren, hrun]
    · next hren =>
      have hren : renamedTo r.renames next a.key = none := hren
      split
      · next hgone =>
        have hc : next.contains a.key.kind a.key.name = false := by simpa using hgone
        split <;> rename_i hrun <;> refine Triple.pure' fun _ h => ⟨h, ?_⟩ <;>
          simp [planOne, reportsStopped, stops, keeps, respawnAs, ref, hren, hc, hrun]
      · next hthere =>
        have hc : next.contains a.key.kind a.key.name = true := by simpa using hthere
        split
        · next hfp =>
          have hfp : r.config.fingerprint a.key.kind a.key.name ≠
              next.fingerprint a.key.kind a.key.name := by simpa using hfp
          split <;> rename_i hrun <;> refine Triple.pure' fun _ h => ⟨h, ?_⟩ <;>
            simp [planOne, reportsStopped, stops, keeps, respawnAs, hren, hc, hfp, hrun]
        · next hfp =>
          have hfp : r.config.fingerprint a.key.kind a.key.name =
              next.fingerprint a.key.kind a.key.name := by simpa using hfp
          split <;> rename_i hrun <;> refine Triple.pure' fun _ h => ⟨h, ?_⟩ <;>
            simp [planOne, reportsStopped, stops, keeps, respawnAs, ref, hren, hc, hfp, hrun]
  refine Triple.of_forall fun s h => ?_
  obtain ⟨hs, hplan⟩ := h
  subst s
  have hmem : ∀ x ∈ s₂.records, x.key ∈ acc.2.1.filter (·.kind == .daemon) ++
      acc.2.1.filter (·.kind == .nameserver) ↔ stops r.renames r.config next x = true :=
    fun _ hx => hplan.key_mem_stopOrder hsort₂ hx
  generalize acc.2.1.filter (·.kind == .daemon) ++ acc.2.1.filter (·.kind == .nameserver) = order
    at hmem ⊢
  -- the planned records are taken out and their processes ended
  refine Triple.bind (R := fun _ => Stopping s₂ order [])
    (Triple.mono (Triple.forIn (fun rest _ => Stopping s₂ order rest)
        fun key rest _ => Stopping.stop key rest hsort₂ hadopt₂)
      (fun s hs => by
        subst hs
        exact ⟨[], by simp, rfl, by simp, Host.Shrinks.refl _, fun _ _ hk => by cases hk⟩)
      fun _ _ h => h)
    fun _ => ?_
  refine Triple.of_forall fun s₃ hstop => ?_
  have hsafe₂ : Safe r.renames r.config next s₂.records := hsafe.reaped hrel₂ hsort₂
  have hnodup : ((spawnOrder acc.2.2).map Prod.snd).Nodup :=
    ((spawnOrder_perm acc.2.2).map Prod.snd).nodup_iff.2 (hplan.2.2 ▸ hsafe₂.nodup_targets hsort₂)
  -- the respawns, nameservers first
  refine Triple.bind (Triple.mono
      (Respawning.loop hnodup fun _ x acc' hnew => Respawning.respawn acc' x.1 x.2 hnew)
      (fun s hs => by
        rw [hs]
        exact Respawning.start (hstop.sorted hsort₂) fun y hy => hadopt₂ y (hstop.mem hy))
      fun _ _ h => h) fun acc' => ?_
  refine Triple.of_forall fun s₄ hresp => ?_
  split
  · -- a pause for the respawns to come up, a last look, and a pass that only reads the table
    refine Triple.bind (R := fun _ s => TableStep s₄ s ∧ s₄.host.Shrinks s.host ∧
        s.records = s₄.records)
      (fun s hs => by
        rw [hs]
        exact ⟨rfl, Host.shrinks_sleep _ _, rfl⟩) fun _ => ?_
    refine Triple.of_forall fun s₅ h => ?_
    obtain ⟨hts₅, hsh₅, hrec₅⟩ := h
    refine Triple.bind (R := fun _ s => TableStep s₄ s ∧ s₄.host.Shrinks s.host ∧
        List.Forall₂ (Reaped s.host) s₄.records s.records)
      (fun s hs => by
        obtain ⟨hsh, hrel⟩ := Registry.reap_spec s₅ (hrec₅ ▸ hresp.adopted) s hs
        exact ⟨hts₅.trans (Registry.reap_effect s₅ s hs).eq, hsh₅.trans hsh, hrec₅ ▸ hrel⟩)
      fun _ => ?_
    refine Triple.bind (R := fun _ s => TableStep s₄ s ∧ s₄.host.Shrinks s.host ∧
        List.Forall₂ (Reaped s.host) s₄.records s.records)
      (Triple.mono (Triple.forIn (fun _ _ s => TableStep s₄ s ∧ s₄.host.Shrinks s.host ∧
          List.Forall₂ (Reaped s.host) s₄.records s.records) fun _ _ _ => ?_)
        (fun _ h => h) fun _ _ h => h) fun w => ?_
    · refine Triple.get_bind fun _ => ?_
      split <;> exact Triple.pure' fun _ h => h.1
    · exact Triple.pure' fun _ h => ⟨s₂.records, Reconciled.of_parts w ho hsafe₂ hrel₂ hsort₂ hsh₂
        hl₂ hi₂ hplan hmem hstop hresp h.1 h.2.1 h.2.2⟩
  · -- nothing respawned: no pause and no last look
    refine Triple.pure' fun s hs => ⟨s₂.records, ?_⟩
    rw [hs]
    exact Reconciled.of_parts _ ho hsafe₂ hrel₂ hsort₂ hsh₂ hl₂ hi₂ hplan hmem hstop hresp rfl
      (Host.Shrinks.refl _) (List.forall₂_same.2 fun x _ => Reaped.kept _ x)

/-- Daemon `a` is started, noted as renamed to `b`, and the configuration reloaded with `b` in
its place: the reload is safe, so it reconciles. -/
theorem renamed_daemon_reload_reconciled :
    ∃ r O, Reach Op.Safe r O ∧ ReloadSafe r { daemons := [("b", {})] } ∧
      Triple (· = r) (Registry.reload { daemons := [("b", {})] })
        (Reloaded r { daemons := [("b", {})] }) := by
  have hr : Reach Op.Safe _ _ := Reach.op (.noteRename .daemon "a" "b")
    (Reach.op (.start ⟨.daemon, "a"⟩)
      (Reach.create { daemons := [("a", {})] } {} ⟨fun _ _ => .idle [], fun _ _ _ => true⟩ {} rfl
        (by simp) (by decide)) trivial) trivial
  exact ⟨_, _, hr, by decide +kernel, reload_reconciles _ _ hr.owns (by decide +kernel)⟩

/-- **An undone rename restarts the profile.** Daemon `a` is started, noted as renamed to `b` and
back to `a`, and the configuration is reloaded as it is. The pending rename is `a → a`, so the
reload stops `a` and spawns it again: it reports `a` restarted, not unchanged, and the record is
at its second incarnation. -/
theorem undone_rename_restarts_profile :
    ∃ r O, Reach (fun _ _ => True) r O ∧ r.renames = [⟨.daemon, "a", "a"⟩] ∧
      ((Registry.reload r.config).run r).1.toOption.map (·.report) =
        some { restarted := [⟨.daemon, "a"⟩] } ∧
      (((Registry.reload r.config).run r).2.find? ⟨.daemon, "a"⟩).map (·.incarnation) =
        some 2 := by
  have hr : Reach (fun _ _ => True) _ _ :=
    Reach.op (.noteRename .daemon "b" "a") (Reach.op (.noteRename .daemon "a" "b")
      (Reach.op (.start ⟨.daemon, "a"⟩)
        (Reach.create { daemons := [("a", {})] } {}
          ⟨fun _ _ => .idle [], fun _ _ _ => true⟩ {} rfl (by simp) (by decide))
        trivial) trivial) trivial
  exact ⟨_, _, hr, by decide +kernel, by decide +kernel, by decide +kernel⟩

end LabFleet.Supervisor
