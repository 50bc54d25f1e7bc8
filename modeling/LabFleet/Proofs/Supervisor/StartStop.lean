import LabFleet.Proofs.Supervisor.Effects

/-!
Starting and stopping one profile, from any registry a run reaches.

Every operation keeps the record table sound (`Registry.Sound`): sorted by key, each record
holding a process exactly while it counts as running, its PID that process's, and an adopted PID
within the PID range. This holds on every run whatever its reloads and adoptions
(`Reach.sound`), where ownership of processes needs them safe.

On a sound table a start that succeeds leaves a running record holding the process it answers
with (`start_ok`), and a start that finds a running record whose process still runs changes
nothing (`start_of_running`). A stop leaves no record and ends the process its record held
(`stop_final`); with no record to take it changes nothing (`stop_unrecorded`).

Main statement: `start_idempotent_stop_final`, assembled from these as `StartStopLaws`.
-/

namespace LabFleet.Supervisor

open Control Config

set_option autoImplicit false

/-! ## Sound records -/

/-- A record whose fields agree about its process: it holds one exactly while it counts as
running, its PID is the PID of the process it holds, and an adopted PID is within the PID
range. -/
structure Record.Sound (e : Record) : Prop where
  handle : e.handle.isSome = e.state.isRunning
  pid : ∀ h, e.handle = some h → e.pid = some h.pid
  adopted : ∀ p, e.handle = some (.adopted p) → 0 < p ∧ p ≤ Host.maxPid

namespace Record.Sound

variable {e e' : Record}

theorem of_idle (hh : e.handle = none) (hs : e.state.isRunning = false) : e.Sound :=
  ⟨by rw [hh, hs]; rfl, fun _ h => by simp [hh] at h, fun _ h => by simp [hh] at h⟩

theorem fresh (key : ProfileKey) : (Record.fresh key).Sound := of_idle rfl rfl

theorem crash (e : Record) (why : String) : (e.crash why).Sound := of_idle rfl rfl

theorem looked (he : e.Sound) (hl : Looked e e') : e'.Sound := by
  rcases hl with rfl | ⟨hs, rfl⟩ | ⟨-, why, rfl⟩
  · exact he
  · have hh := he.handle
    rw [hs] at hh
    exact ⟨hh, he.pid, he.adopted⟩
  · exact crash e why

theorem spawned (hy : Spawned e e') : e'.Sound := by
  rcases hy with ⟨why, rfl⟩ | ⟨pid, _, _, _, rfl⟩
  · exact of_idle rfl rfl
  · exact ⟨rfl, fun h hh => by cases hh; rfl, fun p hp => by cases hp⟩

theorem respawned {last : UInt32} (hy : Respawned last e e') : e'.Sound := by
  obtain ⟨y₀, hsp, hl, -⟩ := hy
  exact (spawned hsp).looked hl

theorem ofPidRecord (pr : PidRecord) (hp : 0 < pr.pid ∧ pr.pid ≤ Host.maxPid) :
    (Record.ofPidRecord pr).Sound :=
  ⟨rfl, fun h hh => by cases hh; rfl, fun p hp' => by cases hp'; exact hp⟩

theorem handle_none (he : e.Sound) (hs : e.state.isRunning = false) : e.handle = none := by
  have := he.handle
  rw [hs] at this
  simpa using this

theorem holds_pid (he : e.Sound) (hs : e.state.isRunning = true) :
    ∃ p, e.pid = some p ∧ e.holds p := by
  obtain ⟨h, hh⟩ := Option.isSome_iff_exists.1 (he.handle.trans hs)
  exact ⟨h.pid, he.pid h hh, Record.holds_iff.2 ⟨h, hh, rfl⟩⟩

end Record.Sound

/-! ## Sound tables -/

/-- A registry whose table is sorted by key and holds sound records. -/
structure Registry.Sound (r : Registry) : Prop where
  sorted : Sorted r.records
  records : ∀ k e, r.find? k = some e → e.Sound

namespace Registry.Sound

variable {r s : Registry}

theorem touches {P : ProfileKey → Prop} (hs : r.Sound) (ht : Touches r P s)
    (hP : ∀ k, P k → ∀ e, s.find? k = some e → e.Sound) : s.Sound := by
  refine ⟨ht.sorted hs.sorted, fun k e he => ?_⟩
  by_cases hk : P k
  · exact hP k hk e he
  · exact hs.records k e (ht.others k hk ▸ he)

theorem of_records (hs : r.Sound) (hr : s.records = r.records) : s.Sound :=
  ⟨hr ▸ hs.sorted, fun k e he => hs.records k e (by unfold Registry.find? at he ⊢; rwa [hr] at he)⟩

theorem look (hs : r.Sound) (hl : LookStep r s) : s.Sound := by
  refine ⟨hl.sorted hs.sorted, fun k e' he' => ?_⟩
  obtain ⟨e, he, hle⟩ := Looked.opt_some (he' ▸ hl.find? k)
  exact (hs.records k e he).looked hle

theorem put (hs : r.Sound) {e : Record} (he : e.Sound) : ((Registry.put e).run r).2.Sound := by
  refine ⟨sorted_insertRecord hs.sorted e, fun k x hx => ?_⟩
  rw [find?_put] at hx
  split at hx
  · cases hx
    exact he
  · exact hs.records k x hx

theorem take (hs : r.Sound) (key : ProfileKey) : ((Registry.take key).run r).2.Sound := by
  refine ⟨hs.sorted.filter _, fun k x hx => ?_⟩
  rw [find?_take] at hx
  split at hx
  · cases hx
  · exact hs.records k x hx

theorem empty (hr : r.records = []) : r.Sound :=
  ⟨hr ▸ List.Pairwise.nil, fun k e he => by unfold Registry.find? at he; rw [hr] at he; cases he⟩

end Registry.Sound

/-! ## Every operation keeps the table sound -/

namespace Registry

variable {r : Registry}

theorem Sound.getD (hs : r.Sound) (k : ProfileKey) : ((r.find? k).getD (Record.fresh k)).Sound := by
  cases hf : r.find? k with
  | none => exact Record.Sound.fresh k
  | some e => exact hs.records k e hf

theorem start_sound (hs : r.Sound) (key : ProfileKey) : ((start key).run r).2.Sound := by
  obtain ⟨ht, hunknown, hrunning, hrespawned⟩ := start_effect key r r rfl
  have hlook : (r.startLook key).1.Sound := (hs.getD key).looked (startLook_spec r key).2
  refine hs.touches ht fun k hk e he => ?_
  subst hk
  -- the profile's record: left alone, stored back as looked at, or restarted
  cases hcf : r.config.contains k.kind k.name with
  | false => exact hs.records k e (hunknown hcf ▸ he)
  | true =>
    cases hrun : (r.startLook k).1.state.isRunning with
    | true =>
      rw [hrunning hcf hrun] at he
      cases he
      exact hlook
    | false =>
      obtain ⟨-, y, hy, hres⟩ := hrespawned hcf hrun
      cases hy.symm.trans he
      exact Record.Sound.respawned hres

theorem stop_sound (hs : r.Sound) (key : ProfileKey) : ((stop key).run r).2.Sound :=
  (hs.take key).of_records (stop_effect key r r rfl).records

theorem recover_sound (hs : r.Sound) : (recover.run r).2.Sound := by
  have hrec : Recovered r (recover.run r).2 := recover_effect r hs.sorted r rfl
  have hl := hs.look r.looked_spec
  refine ⟨hrec.sorted, fun k e he => ?_⟩
  -- a crashed record is dropped, restarted or given up on; any other is as the look left it
  rcases hrec.passed_or_kept k with ⟨e₀, he₀, hcr, ho⟩ | ⟨-, hkept⟩
  · cases hcf : r.config.contains k.kind k.name with
    | false =>
      rw [ho.1 hcf] at he
      cases he
    | true =>
      have hv := ho.2 hcf
      unfold PassVerdict at hv
      split at hv
      · obtain ⟨-, y, hy, hsp, -⟩ := hv
        cases hy.symm.trans he
        exact Record.Sound.spawned hsp
      · rw [hv] at he
        cases he
        have hidle := (hl.records k e₀ he₀).handle_none (by rw [hcr]; rfl)
        exact Record.Sound.of_idle hidle rfl
  · exact hl.records k e (hkept ▸ he)

theorem adopt_sound : Triple Registry.Sound adopt fun _ => Registry.Sound := by
  unfold adopt
  refine Triple.get_bind fun r₀ => ?_
  split
  · exact Triple.pure' fun _ h => h.1
  · refine Triple.bind (Triple.mono (Triple.forIn (fun _ _ => Registry.Sound) fun f rest acc => ?_)
      (fun _ h => h.1) fun _ _ h => h) fun _ => Triple.pure' fun _ h => h
    obtain ⟨file, text⟩ := f
    dsimp only
    split
    · exact Triple.pure' fun _ h => h
    · split
      · exact Triple.bind (R := fun _ => Registry.Sound) (fun s h => h.of_records rfl)
          fun _ => Triple.pure' fun _ h => h
      · next pr _ =>
        refine Triple.get_bind fun s₀ => ?_
        split
        · exact Triple.bind (R := fun _ => Registry.Sound) (fun s h => h.1.of_records rfl)
            fun _ => Triple.pure' fun _ h => h
        · next hok =>
          -- the survivor's PID passed the liveness check, so it is within the PID range
          have hrun : s₀.host.isRunning pr.pid = true := by
            cases h : s₀.host.isRunning pr.pid
            · exact absurd (by simp [h]) hok
            · rfl
          obtain ⟨h0, hmax, -⟩ := Host.isRunning_spec hrun
          refine Triple.bind (R := fun _ => Registry.Sound) (fun s h => h.1.of_records rfl) fun _ => ?_
          exact Triple.bind (R := fun _ => Registry.Sound)
            (fun s h => h.put (Record.Sound.ofPidRecord pr ⟨h0, hmax⟩)) fun _ => Triple.pure' fun _ h => h

theorem commit_sound (c : LabConfig) : Triple Registry.Sound (commit c) fun _ => Registry.Sound := by
  unfold commit
  refine Triple.get_bind fun s₀ => ?_
  split
  · exact Triple.bind (R := fun _ => Registry.Sound)
      (fun s ⟨h, hs⟩ => by subst hs; exact h.of_records rfl) fun _ => Triple.pure' fun _ h => h
  · exact Triple.pure' fun _ h => h.1

theorem reap_sound : Triple Registry.Sound reap fun _ => Registry.Sound :=
  fun s h => h.look (reap_effect s s rfl)

theorem terminate_sound (e : Record) : Triple Registry.Sound (terminate e) fun _ => Registry.Sound :=
  fun s h => h.of_records (terminate_effect e s s (HostStep.refl s)).records

theorem spawn_sound (e : Record) :
    Triple Registry.Sound (spawn e) fun res s => Registry.Sound s ∧ res.1.Sound := by
  intro s h
  obtain ⟨ht, -, -, hsp, -⟩ := spawn_effect e s s rfl
  exact ⟨h.touches ht fun _ hf => hf.elim, Record.Sound.spawned hsp⟩

theorem reload_sound (next : LabConfig) :
    Triple Registry.Sound (reload next) fun _ => Registry.Sound := by
  unfold reload
  refine Triple.get_bind fun r₀ => Triple.get_bind fun r₁ => ?_
  dsimp only
  refine Triple.bind (R := fun _ => Registry.Sound)
    (fun s h => by obtain ⟨⟨h, -⟩, hs⟩ := h; subst hs; exact h.of_records rfl) fun _ => ?_
  refine Triple.bind (commit_sound next) fun res => ?_
  split
  · exact Triple.pure' fun _ h => h
  refine Triple.bind reap_sound fun _ => Triple.get_bind fun r₂ => ?_
  -- the plan only reads the table
  refine Triple.bind (R := fun _ => Registry.Sound)
    (Triple.mono (Triple.forIn (fun _ _ => Registry.Sound) fun a rest acc => ?_)
      (fun _ h => h.1) fun _ _ h => h) fun acc => ?_
  · repeat' split
    all_goals exact Triple.pure' fun _ h => h
  -- the stops take records out and act on the machine
  refine Triple.bind (R := fun _ => Registry.Sound)
    (Triple.mono (Triple.forIn (fun _ _ => Registry.Sound) fun key rest _ => ?_)
      (fun _ h => h) fun _ _ h => h) fun _ => ?_
  · refine Triple.bind (R := fun _ => Registry.Sound) (fun s h => h.take key) fun x => ?_
    split
    · exact Triple.bind (terminate_sound _) fun _ => Triple.bind (R := fun _ => Registry.Sound)
        (fun s h => h.of_records rfl) fun _ => Triple.pure' fun _ h => h
    · exact Triple.pure' fun _ h => h
  -- the respawns, each onto the record of its target or a fresh one
  refine Triple.bind (R := fun _ => Registry.Sound)
    (Triple.mono (Triple.forIn (fun _ _ => Registry.Sound) fun x rest _ => ?_)
      (fun _ h => h) fun _ _ h => h) fun _ => ?_
  · -- a rename is logged first, which leaves the table alone
    split
    on_goal 1 =>
      refine Triple.bind (R := fun _ => Registry.Sound) (fun s h => h.of_records rfl) fun _ => ?_
    all_goals
      refine Triple.get_bind fun s₁ => ?_
      refine Triple.bind (Triple.mono (spawn_sound _) (fun _ h => h.1) fun _ _ h => h) fun res => ?_
      refine Triple.bind (R := fun _ => Registry.Sound) (fun s h => h.1.put h.2) fun _ => ?_
      split <;> exact Triple.pure' fun _ h => h
  -- a pause for the respawns to settle, a last look, and a pass that only reads
  split
  · refine Triple.bind (R := fun _ => Registry.Sound) (fun s h => h.of_records rfl) fun _ => ?_
    refine Triple.bind reap_sound fun _ => ?_
    refine Triple.bind (R := fun _ => Registry.Sound)
      (Triple.mono (Triple.forIn (fun _ _ => Registry.Sound) fun _ _ _ => ?_) (fun _ h => h)
        fun _ _ h => h) fun _ => Triple.pure' fun _ h => h
    refine Triple.get_bind fun _ => ?_
    split <;> exact Triple.pure' fun _ h => h.1
  · exact Triple.pure' fun _ h => h

end Registry

/-- **The step lemma**: every operation keeps the table sound. -/
theorem Op.sound {r : Registry} (a : Op) (hs : r.Sound) : (a.apply r).Sound := by
  cases a with
  | start key => exact Registry.start_sound hs key
  | stop key => exact Registry.stop_sound hs key
  | status target => exact hs.look (Registry.status_effect target r r rfl)
  | reload next => exact Registry.reload_sound next r hs
  | noteRename kind old new =>
    obtain ⟨renames, h⟩ := Registry.noteRename_effect kind old new r
    have h : (Op.noteRename kind old new).apply r = { r with renames } := h
    exact hs.of_records (by rw [h])
  | recover => exact Registry.recover_sound hs
  | adopt => exact Registry.adopt_sound r hs
  | stopAll => exact (Registry.Sound.empty rfl).of_records (Registry.stopAll_effect r r rfl).records

theorem Outside.sound {r : Registry} (w : Outside) (hs : r.Sound) : (w.apply r).Sound :=
  hs.of_records (Outside.records_apply w r)

/-- **The run lemma**: every registry a run reaches has a sound table, whatever its
operations. -/
theorem Reach.sound {ok : Op → Registry → Prop} {r : Registry} {O : Nat → Prop}
    (hr : Reach ok r O) : r.Sound := by
  induction hr with
  | create _ _ _ _ hc => exact Registry.Sound.empty (Registry.create_spec hc).1
  | op a _ _ ih => exact a.sound ih
  | outside w _ ih => exact w.sound ih

/-! ## What a start and a stop leave -/

namespace Registry

theorem spawn_started (e : Record) :
    Triple (fun _ => True) (spawn e) fun res _ => res.2 = none → res.1.state = .starting := by
  unfold spawn
  refine Triple.bind (R := fun _ _ => True) (fun _ _ => trivial) fun _ => Triple.get_bind fun _ => ?_
  split
  · exact Triple.pure' fun _ _ h => by cases h
  · exact Triple.bind (R := fun _ _ => True) (fun _ _ => trivial) fun _ =>
      Triple.pure' fun _ _ _ => rfl

theorem start_ok (key : ProfileKey) (r : Registry) :
    Triple (· = r) (start key) fun res s => ∀ t, res = .ok t →
      ∃ e, s.find? key = some e ∧ e.state.isRunning = true ∧ t.pid = e.pid := by
  unfold start
  refine Triple.get_bind_of_eq ?_
  split
  · exact Triple.pure' fun _ _ t ht => by cases ht
  · dsimp only
    refine Triple.bind (R := fun entry _ => entry.key = key)
      (fun s hs => by subst hs; exact startLook_key s key) fun entry => ?_
    split
    · -- running after the look: stored back and answered
      next hrun =>
      refine Triple.bind (R := fun _ s => s.find? key = some entry)
        (fun s hk => by show ((put entry).run s).2.find? key = _; rw [find?_put, if_pos hk])
        fun _ => ?_
      exact Triple.pure' fun s hs t ht => by
        cases ht
        exact ⟨entry, hs, by simpa using hrun, rfl⟩
    · -- spawned: a spawn without failure starts, and survives the window or is answered with
      -- an error
      refine Triple.bind (R := fun res _ => res.1.key = key ∧ (res.2 = none → res.1.state = .starting))
        (fun s hk => ⟨(spawn_effect { entry with crashLooped := false, crashes := [] } s s rfl).2.2.2.1.key.trans hk,
          spawn_started _ s trivial⟩)
        fun res => ?_
      obtain ⟨y₀, failure⟩ := res
      refine Triple.bind (R := fun _ _ => y₀.key = key ∧ (failure = none → y₀.state = .starting))
        (fun s h => h) fun _ => ?_
      split
      · exact Triple.pure' fun _ _ t ht => by cases ht
      · -- the startup window passes, and the spawn is looked at once more
        refine Triple.bind (R := fun _ _ => y₀.key = key ∧ y₀.state = .starting)
          (fun s h => ⟨h.1, h.2 ‹_›⟩) fun _ => ?_
        refine Triple.bind (R := fun _ _ => y₀.key = key ∧ y₀.state = .starting)
          (fun s h => h) fun res => ?_
        split
        · refine Triple.bind (R := fun _ _ => True) (fun _ _ => trivial) fun _ => ?_
          exact Triple.pure' fun _ _ t ht => by cases ht
        · dsimp only
          refine Triple.bind (R := fun _ s => s.find? key = some { y₀ with state := .running })
            (fun s ⟨hk, hst⟩ => ?_) fun _ => ?_
          · show ((put _).run s).2.find? key = _
            rw [find?_put, hst]
            simp [hk]
          · refine Triple.pure' fun s hs t ht => ?_
            cases ht
            refine ⟨_, hs, rfl, ?_⟩
            split <;> rfl

theorem insertRecord_of_mem {e : Record} :
    ∀ {rs : List Record}, Sorted rs → e ∈ rs → insertRecord e rs = rs
  | x :: xs, hs, he => by
    rw [Sorted, List.pairwise_cons] at hs
    unfold insertRecord
    rcases List.mem_cons.1 he with rfl | he'
    · simp
    · -- a record further on has a key after the head's
      have hlt := hs.1 e he'
      have hne : x.key ≠ e.key := fun h => by rw [h, ProfileKey.lt_irrefl] at hlt; cases hlt
      rw [if_neg (by simpa using hne), if_neg (by rw [ProfileKey.lt_asymm hlt]; decide),
        insertRecord_of_mem hs.2 he']

end Registry

/-- The machine's process with PID `p` is there and has not ended. -/
def Host.Runs (h : Host) (p : Nat) : Prop := (h.find? p).map Process.life = some .running

theorem Host.collect_of_runs {h : Host} {p : Nat} (hp : h.Runs p) : h.collect p = (none, h) := by
  obtain ⟨q, hq, hl⟩ : ∃ q, h.find? p = some q ∧ q.life = .running := by
    cases hf : h.find? p with
    | none => simp [Host.Runs, hf] at hp
    | some q => exact ⟨q, rfl, by simpa [Host.Runs, hf] using hp⟩
  obtain ⟨pid, life⟩ := q
  cases hl
  unfold Host.collect
  rw [hq]

theorem Host.isRunning_of_runs {h : Host} {p : Nat} (hp : h.Runs p) (h0 : 0 < p)
    (hmax : p ≤ Host.maxPid) : h.isRunning p = true := by
  have hsome : (h.find? p).isSome := by
    cases hf : h.find? p with
    | none => simp [Host.Runs, hf] at hp
    | some q => rfl
  simp [Host.isRunning, h0, hmax, hsome]

namespace Registry

theorem checked_of_runs {e : Record} {r : Registry} (he : e.Sound)
    (hlive : ∀ p, e.holds p → r.host.Runs p) : (checked e).run r = (e, r) := by
  have hpoll : (pollExit e).run r = (none, r) := by
    unfold pollExit
    split
    · rfl
    · next pid hh =>
      have hrun := hlive pid (by simp [Record.holds, hh, Handle.pid])
      show ((fun exit => exit.map fun e => "exited with " ++ e.text) (r.host.collect pid).1,
        { r with host := (r.host.collect pid).2 }) = (none, r)
      rw [Host.collect_of_runs hrun]
      rfl
    · next pid hh =>
      have hrun := hlive pid (by simp [Record.holds, hh, Handle.pid])
      obtain ⟨h0, hmax⟩ := he.adopted pid hh
      show (if r.host.isRunning pid = true then none else some "adopted process exited", r) = (none, r)
      rw [if_pos (Host.isRunning_of_runs hrun h0 hmax)]
  rw [checked, StateT.run_bind, hpoll]
  rfl

theorem start_unconfigured {r : Registry} {key : ProfileKey}
    (hc : r.config.contains key.kind key.name = false) :
    (start key).run r = (.error (.unknownProfile key.kind key.name), r) := by
  simp [start, hc]
  rfl

/-- **Starting a running profile** whose process still runs changes nothing, and answers with
its PID, unchanged. -/
theorem start_of_running {r : Registry} {key : ProfileKey} {e : Record}
    (hc : r.config.contains key.kind key.name = true) (hs : Sorted r.records)
    (he : r.find? key = some e) (hrun : e.state.isRunning = true) (hsound : e.Sound)
    (hlive : ∀ p, e.holds p → r.host.Runs p) :
    (start key).run r =
      (.ok { pid := e.pid, changed := false, warnings := missingNameservers r key }, r) := by
  have hput : (put e).run r = ((), r) := by
    rw [run_put, insertRecord_of_mem hs (List.mem_of_find?_eq_some he)]
  rw [start, Triple.run_get_bind]
  simp only [hc, Bool.not_true, Bool.false_eq_true, if_false, he, Option.getD_some]
  rw [StateT.run_bind, checked_of_runs hsound hlive]
  show (if e.state.isRunning = true then _ else _ : RegistryM (Result Transition)).run r = _
  rw [if_pos hrun, StateT.run_bind, hput]
  rfl

theorem take_of_none {r : Registry} {key : ProfileKey} (hn : r.find? key = none) :
    (take key).run r = (none, r) := by
  have hrec : r.records.filter (·.key != key) = r.records :=
    List.filter_eq_self.2 fun x hx => by
      simpa using find?_eq_none_iff.1 hn x hx
  rw [run_take, hn, hrec]

/-- **Stopping a profile that has no record** changes nothing: it answers with no change when
the profile is configured, and that it is unknown otherwise. -/
theorem stop_unrecorded {r : Registry} {key : ProfileKey} (hn : r.find? key = none) :
    (stop key).run r = (if r.config.contains key.kind key.name then .ok {}
      else .error (.unknownProfile key.kind key.name), r) := by
  rw [stop, Triple.run_get_bind, StateT.run_bind, take_of_none hn]
  show (if r.config.contains key.kind key.name = true then _ else _ : RegistryM (Result Transition)).run r = _
  split <;> rfl

/-- **Stopping is final**: afterwards the profile has no record, and the process its record
held is dead. -/
theorem stop_final (key : ProfileKey) (r : Registry) (hsound : r.Sound) :
    Triple (· = r) (stop key) fun _ s => s.find? key = none ∧
      ∀ e, r.find? key = some e → ∀ p, e.holds p → ¬ s.host.alive p := by
  unfold stop
  refine Triple.get_bind_of_eq ?_
  dsimp only
  refine Triple.bind (R := fun x s => x = r.find? key ∧ s = ((take key).run r).2)
    (fun s hs => by subst hs; exact ⟨rfl, rfl⟩) fun x => ?_
  split
  · -- no record: there is nothing to end
    next hx =>
    have hfind : ((take key).run r).2.find? key = none := by rw [find?_take, if_pos rfl]
    split <;> exact Triple.pure' fun s ⟨hx', hs⟩ => by
      subst hs
      exact ⟨hfind, fun e he => absurd (hx'.trans he) (by simp)⟩
  · next entry =>
    -- the record is out of the table and its process ended; the rest only reads
    let P : Registry → Prop := fun s => s.find? key = none ∧
      ∀ e, r.find? key = some e → ∀ p, e.holds p → ¬ s.host.alive p
    refine Triple.bind (R := fun _ s => P s) (fun s ⟨hx, hs⟩ => ?_) fun _ => ?_
    · subst hs
      obtain ⟨h, hs', -, hdead⟩ := terminate_host entry ((take key).run r).2
      rw [hs']
      refine ⟨by show ((take key).run r).2.find? key = none; rw [find?_take, if_pos rfl],
        fun e he p hp => ?_⟩
      rw [← hx] at he
      cases he
      -- an adopted process is within the PID range, so the kill after the grace reaches it
      exact hdead (hsound.records key entry hx.symm).adopted p hp
    refine Triple.bind (R := fun _ s => P s) ?_ fun _ => ?_
    · intro s h
      exact h
    split
    · refine Triple.bind (Triple.mono (Triple.forIn (fun _ _ s => P s) fun a rest b => ?_)
        (fun _ h => h) fun _ _ h => h) fun _ => Triple.pure' fun _ h => h
      refine Triple.get_bind fun s₀ => ?_
      split
      · exact Triple.pure' fun _ h => h.1
      · exact Triple.pure' fun _ h => h.1
    · exact Triple.pure' fun _ h => h

end Registry

/-! ## Start twice, stop once -/

/-- The registry after things happen outside it, one after another. -/
def Outside.applyList (ws : List Outside) (r : Registry) : Registry :=
  ws.foldl (fun r w => w.apply r) r

@[simp] theorem Outside.records_applyList (ws : List Outside) (r : Registry) :
    (Outside.applyList ws r).records = r.records := by
  induction ws generalizing r with
  | nil => rfl
  | cons w ws ih => exact (ih (w.apply r)).trans (Outside.records_apply w r)

@[simp] theorem Outside.config_applyList (ws : List Outside) (r : Registry) :
    (Outside.applyList ws r).config = r.config := by
  induction ws generalizing r with
  | nil => rfl
  | cons w ws ih => exact (ih (w.apply r)).trans (Outside.config_apply w r)

theorem Outside.sound_applyList (ws : List Outside) {r : Registry} (hs : r.Sound) :
    (Outside.applyList ws r).Sound :=
  hs.of_records (Outside.records_applyList ws r)

theorem Sorted.filter_key {rs : List Record} (hs : Sorted rs) {k : ProfileKey} {e : Record}
    (he : rs.find? (·.key == k) = some e) : rs.filter (·.key == k) = [e] := by
  induction rs with
  | nil => cases he
  | cons x xs ih =>
    rw [Sorted, List.pairwise_cons] at hs
    by_cases hx : x.key = k
    · simp only [List.find?_cons, hx, beq_self_eq_true, Option.some.injEq] at he
      subst he
      rw [List.filter_cons_of_pos (by simpa using hx), List.filter_eq_nil_iff.2 fun y hy hyk => ?_]
      -- every later record has a later key
      have hlt := hs.1 y hy
      rw [show y.key = x.key by simpa [hx] using hyk, ProfileKey.lt_irrefl] at hlt
      cases hlt
    · have hne : (x.key == k) = false := by simpa using hx
      simp only [List.find?_cons, hne] at he
      rw [List.filter_cons_of_neg (by simp [hne])]
      exact ih hs.2 he

/-- What `start` and `stop` promise of one profile in one registry. -/
structure StartStopLaws (r : Registry) (key : ProfileKey) : Prop where
  /-- A start that succeeds answers with the PID of a process; while that process runs,
  whatever happens outside the registry, starting again answers with the same PID and no
  change, changes nothing, and leaves one record of the profile, running and holding it. -/
  idempotent : ∀ t r₁, (Registry.start key).run r = (.ok t, r₁) → ∃ p, t.pid = some p ∧
    ∀ ws : List Outside, (Outside.applyList ws r₁).host.Runs p →
      (Registry.start key).run (Outside.applyList ws r₁) =
        (.ok { pid := some p, changed := false, warnings :=
          (Outside.applyList ws r₁).missingNameservers key }, Outside.applyList ws r₁) ∧
      ∃ e, (Outside.applyList ws r₁).records.filter (·.key == key) = [e] ∧
        e.state.isRunning = true ∧ e.holds p
  /-- Starting a profile that is not configured answers that it is unknown and changes
  nothing. -/
  unknown : r.config.contains key.kind key.name = false →
    (Registry.start key).run r = (.error (.unknownProfile key.kind key.name), r)
  /-- Stopping a profile with no record changes nothing, and answers with no change if the
  profile is configured and that it is unknown if not. -/
  unrecorded : r.find? key = none →
    (Registry.stop key).run r = (if r.config.contains key.kind key.name then .ok {}
      else .error (.unknownProfile key.kind key.name), r)
  /-- After a stop that succeeds the profile has no record, and the process its record held
  is dead. -/
  final : ∀ t r₁, (Registry.stop key).run r = (.ok t, r₁) → r₁.find? key = none ∧
    ∀ e, r.find? key = some e → ∀ p, e.holds p → ¬ r₁.host.alive p

/-- **Start is idempotent and stop is final**, in every registry a run reaches, whatever its
operations: adopted survivors and crash-looped records included. -/
theorem start_idempotent_stop_final {ok : Op → Registry → Prop} {r : Registry} {O : Nat → Prop}
    (hr : Reach ok r O) (key : ProfileKey) : StartStopLaws r key := by
  have hs := hr.sound
  refine ⟨fun t r₁ hstart => ?_, Registry.start_unconfigured, Registry.stop_unrecorded,
    fun t r₁ hstop => ?_⟩
  · -- the first start leaves a running record, which holds the process it answers with
    have hc : r.config.contains key.kind key.name = true := by
      cases h : r.config.contains key.kind key.name
      · rw [Registry.start_unconfigured h] at hstart
        cases hstart
      · rfl
    have hr₁ : ((Registry.start key).run r).2 = r₁ := congrArg Prod.snd hstart
    obtain ⟨e, he, hrun, hpid⟩ := Registry.start_ok key r r rfl t (congrArg Prod.fst hstart)
    rw [hr₁] at he
    have hs₁ : r₁.Sound := hr₁ ▸ Registry.start_sound hs key
    have hsound := hs₁.records key e he
    obtain ⟨p, hp, hholds⟩ := hsound.holds_pid hrun
    have hcfg : r₁.config = r.config := hr₁ ▸ (Registry.start_effect key r r rfl).touches.config
    refine ⟨p, hpid.trans hp, fun ws hlive => ?_⟩
    -- nothing outside the registry touches its table or its configuration
    have hs₂ := Outside.sound_applyList ws hs₁
    have he₂ : (Outside.applyList ws r₁).find? key = some e := by
      unfold Registry.find?
      rw [Outside.records_applyList]
      exact he
    have hc₂ : (Outside.applyList ws r₁).config.contains key.kind key.name = true := by
      rw [Outside.config_applyList, hcfg, hc]
    have hlive' : ∀ q, e.holds q → (Outside.applyList ws r₁).host.Runs q :=
      fun q hq => Record.holds_unique hholds hq ▸ hlive
    refine ⟨?_, e, hs₂.sorted.filter_key he₂, hrun, hholds⟩
    rw [Registry.start_of_running hc₂ hs₂.sorted he₂ hrun hsound hlive', hp]
  · have hfinal := Registry.stop_final key r hs r rfl
    rw [hstop] at hfinal
    exact hfinal

/-- A daemon started once: from there, starting it again changes nothing, and so on. -/
theorem started_daemon_start_stop_laws :
    ∃ r O, Reach (fun _ _ => True) r O ∧ StartStopLaws r ⟨.daemon, "a"⟩ := by
  have hr : Reach (fun _ _ => True) _ _ :=
    Reach.op (.start ⟨.daemon, "a"⟩)
      (Reach.create { daemons := [("a", {})] } {} ⟨fun _ _ => .idle [], fun _ _ _ => true⟩ {}
        rfl (by simp) (by decide)) trivial
  exact ⟨_, _, hr, start_idempotent_stop_final hr ⟨.daemon, "a"⟩⟩

end LabFleet.Supervisor
