import LabFleet.Proofs.Supervisor.Reload

/-!
Runs of the process registry on a machine that also acts on its own.

A run starts from a registry just created on a machine whose processes have PIDs below the next
one, and goes on by operations of the registry (`Op`) and by what happens outside it
(`Outside`): a process ends by a signal at any time, an ended process is collected, a process is
started by someone else, a file of the run directory is written or removed, the registry is given
another launcher. `Reach ok r O` says that a run whose operations all meet `ok` reaches `r`, and
that `O` holds the PIDs the registry spawned or held along it.

Main statements:
  * `safe_runs_hold_each_process_once`: on a run whose reloads and adoptions are safe
    (`Op.Safe`), the records have distinct profiles, every live process the registry spawned or
    adopted is held by exactly one record, and a record holds only such processes.
  * `rename_onto_running_profile_orphans` (the condition is needed): daemons `a` and `b` run,
    `a` is noted as renamed to `b`, and a reload keeps `b` only. The reload respawns `a` as `b`
    onto `b`'s record while `b` still runs, and `b`'s process lives on, held by no record.
-/

namespace LabFleet.Supervisor

open Control Config

set_option autoImplicit false

/-- An operation of the registry, as an operator or the supervisor's own loop asks for it. -/
inductive Op where
  | start (key : ProfileKey)
  | stop (key : ProfileKey)
  | status (target : StatusTarget)
  | reload (next : LabConfig)
  | noteRename (kind : ProfileKind) (old new : String)
  | recover
  | adopt
  | stopAll

namespace Op

/-- The registry after an operation; its answer is dropped. -/
def apply : Op → Registry → Registry
  | .start key, r => ((Registry.start key).run r).2
  | .stop key, r => ((Registry.stop key).run r).2
  | .status target, r => ((Registry.status target).run r).2
  | .reload next, r => ((Registry.reload next).run r).2
  | .noteRename kind old new, r => ((Registry.noteRename kind old new).run r).2
  | .recover, r => (Registry.recover.run r).2
  | .adopt, r => (Registry.adopt.run r).2
  | .stopAll, r => (Registry.stopAll.run r).2

/-- When an operation keeps ownership: a reload respawns no two running records under one profile
and none under a profile whose running record it keeps, and an adoption reads PID files that name
no process under two profiles and none that a record of another profile holds. The other
operations always do. -/
def Safe : Op → Registry → Prop
  | .reload next, r => ReloadSafe r next
  | .adopt, r => AdoptSafe r
  | _, _ => True

variable {O : Nat → Prop} {n : Nat} {r : Registry}

theorem keeps (a : Op) (ho : OwnsSince O n r) (hs : a.Safe r) : OwnsSince O n (a.apply r) := by
  cases a with
  | start key => exact start_keeps key r ho
  | stop key => exact stop_keeps key r ho
  | status target => exact status_keeps target r ho
  | reload next => exact reload_keeps next r ⟨ho, hs⟩
  | noteRename kind old new => exact noteRename_keeps kind old new r ho
  | recover => exact recover_keeps r ho
  | adopt => exact adopt_keeps r ⟨ho, hs⟩
  | stopAll => exact stopAll_keeps r ho

end Op

/-- What happens to the registry's machine between its operations. -/
inductive Outside where
  /-- A process ends; a process that ends of itself is no different to the registry. -/
  | signal (pid : Nat) (s : Signal)
  /-- An ended process is collected by its parent. -/
  | collect (pid : Nat)
  /-- A process is started by someone else; it may ignore the polite signal. -/
  | spawn (ignoresTerm : Bool)
  | putFile (name text : String)
  | dropFile (name : String)
  | launcher (l : Launcher)
  /-- The `i`-th pump of the registry copies a line, whenever its task gets to run. -/
  | pump (i : Nat)

namespace Outside

/-- The registry after something happened outside it. -/
def apply : Outside → Registry → Registry
  | .signal pid s, r => { r with host := (r.host.signal pid s).2 }
  | .collect pid, r => { r with host := (r.host.collect pid).2 }
  | .spawn b, r => { r with host := (r.host.spawn b).2 }
  | .putFile name text, r => { r with host := r.host.putFile name text }
  | .dropFile name, r => { r with host := r.host.dropFile name }
  | .launcher l, r => { r with launcher := l }
  | .pump i, r => r.pumpLine i

@[simp] theorem records_apply (w : Outside) (r : Registry) : (w.apply r).records = r.records := by
  cases w <;> simp [apply]

end Outside

/-- The registries a run reaches, with the PIDs the registry spawned or held along it. A run
starts from a registry just created on a machine whose processes have PIDs below the next one
(PID 1 always counts as alive, so the next PID is above it). An operation that `ok` allows adds
the PIDs it spawned and those its records hold after it; what happens outside adds none. -/
inductive Reach (ok : Op → Registry → Prop) : Registry → (Nat → Prop) → Prop where
  | create (config : LabConfig) (settings : Settings) (launcher : Launcher) (host : Host)
      {r : Registry} (hc : Registry.create config settings launcher host = .ok r)
      (hp : ∀ q ∈ host.processes, q.pid < host.nextPid) (hone : 1 < host.nextPid) :
      Reach ok r fun _ => False
  | op {r : Registry} {O : Nat → Prop} (a : Op) (hr : Reach ok r O) (ha : ok a r) :
      Reach ok (a.apply r) fun p =>
        O p ∨ (r.host.nextPid ≤ p ∧ p < (a.apply r).host.nextPid) ∨ Held (a.apply r).records p
  | outside {r : Registry} {O : Nat → Prop} (w : Outside) (hr : Reach ok r O) :
      Reach ok (w.apply r) O

theorem Registry.create_spec {config : LabConfig} {settings : Settings} {launcher : Launcher}
    {host : Host} {r : Registry} (hc : Registry.create config settings launcher host = .ok r) :
    r.records = [] ∧ r.host.processes = host.processes ∧ r.host.nextPid = host.nextPid := by
  unfold Registry.create at hc
  dsimp only at hc
  split at hc
  · next r' hrun =>
    cases hc
    have hr : (StateT.run (commit config) _).2 = r := congrArg Prod.snd hrun
    rw [← hr]
    exact commit_spec config _ _ rfl
  · cases hc

namespace Owns

variable {O : Nat → Prop} {r : Registry}

theorem created {config : LabConfig} {settings : Settings} {launcher : Launcher} {host : Host}
    (hc : Registry.create config settings launcher host = .ok r)
    (hp : ∀ q ∈ host.processes, q.pid < host.nextPid) (hone : 1 < host.nextPid) :
    Owns (fun _ => False) r := by
  obtain ⟨hrec, hproc, hn⟩ := Registry.create_spec hc
  refine Owns.empty hrec (fun _ h => h.elim) (fun q hq => ?_) (fun _ h => h.elim) (hn ▸ hone)
  rw [hn]
  exact hp q (hproc ▸ hq)

theorem after (ho : Owns O r) (a : Op) (hs : a.Safe r) :
    Owns (fun p => O p ∨ (r.host.nextPid ≤ p ∧ p < (a.apply r).host.nextPid) ∨
      Held (a.apply r).records p) (a.apply r) := by
  have h := a.keeps (OwnsSince.of_owns ho) hs
  refine h.2.mono fun p hp => ?_
  rcases hp with hp | hp | hp
  · exact .inl (.inl hp)
  · exact .inl (.inr hp)
  · exact .inr hp

theorem outside (ho : Owns O r) : ∀ w : Outside, Owns O (w.apply r)
  | .signal pid s => ho.shrink (Host.shrinks_signal _ pid s) rfl
  | .collect pid => ho.shrink (Host.shrinks_collect _ pid) rfl
  -- a stranger's process takes the next PID, which the registry does not own
  | .spawn _ => ho.grow rfl rfl rfl
  | .putFile _ _ => ho.congr rfl rfl rfl
  | .dropFile _ => ho.congr rfl rfl rfl
  | .launcher _ => ho.congr rfl rfl rfl
  -- a pump only copies a line into the log buffer
  | .pump i => ho.congr (r.records_pumpLine i) (congrArg Host.processes (r.host_pumpLine i))
      (congrArg Host.nextPid (r.host_pumpLine i))

end Owns

namespace Reach

variable {ok : Op → Registry → Prop} {r : Registry} {O : Nat → Prop}

theorem owns (hr : Reach Op.Safe r O) : Owns O r := by
  induction hr with
  | create _ _ _ _ hc hp hone => exact Owns.created hc hp hone
  | op a _ ha ih => exact ih.after a ha
  | outside w _ ih => exact ih.outside w

theorem held_owned (hr : Reach ok r O) : ∀ e ∈ r.records, ∀ p, e.holds p → O p := by
  induction hr with
  | create _ _ _ _ hc =>
    intro e he
    rw [(Registry.create_spec hc).1] at he
    cases he
  | op _ _ _ _ => exact fun e he p hp => .inr (.inr ⟨e, he, hp⟩)
  | outside w _ ih =>
    rw [Outside.records_apply]
    exact ih

end Reach

/-- **No orphaned or doubled process.** On a run whose reloads and adoptions are safe, the
records have distinct profiles, every live process the registry spawned or adopted is held by
exactly one record, and every process a record holds is one the registry spawned or adopted. -/
theorem safe_runs_hold_each_process_once {r : Registry} {O : Nat → Prop}
    (hr : Reach Op.Safe r O) :
    (r.records.map Record.key).Nodup ∧
      (∀ p, O p → r.host.alive p → ∃! e, e ∈ r.records ∧ e.holds p) ∧
      ∀ e ∈ r.records, ∀ p, e.holds p → O p := by
  have ho := hr.owns
  refine ⟨ho.sorted.nodup_keys, fun p hp ha => ?_, hr.held_owned⟩
  obtain ⟨e, he, hep⟩ := ho.covers p hp ha
  exact ⟨e, ⟨he, hep⟩, fun e' ⟨he', hep'⟩ => ho.single e' he' e he p hep' hep⟩

/-- Two daemons started one after the other: the first one's process is alive and held by
exactly one record. -/
theorem started_daemon_held_once :
    ∃ r O, Reach Op.Safe r O ∧ O 4000 ∧ r.host.alive 4000 ∧
      ∃! e, e ∈ r.records ∧ e.holds 4000 := by
  have hr : Reach Op.Safe _ _ := Reach.op (.start ⟨.daemon, "b"⟩) (Reach.op (.start ⟨.daemon, "a"⟩)
    (Reach.create { daemons := [("a", {}), ("b", {})] } {}
      ⟨fun _ _ => .idle [], fun _ _ _ => true⟩ {} rfl (by simp) (by decide)) trivial) trivial
  refine ⟨_, _, hr, ?owned, ?alive, (safe_runs_hold_each_process_once hr).2.1 4000 ?owned ?alive⟩
  case owned => decide +kernel
  case alive => decide +kernel

/-- **A reload can orphan a process.** Daemons `a` and `b` are started, `a` is noted as renamed
to `b`, and the configuration is reloaded with `b` alone. The reload stops `a` and respawns it as
`b` onto `b`'s record, which still holds `b`'s running process: that process, PID 4001, lives on
and no record holds it. -/
theorem rename_onto_running_profile_orphans :
    ∃ r O, Reach (fun _ _ => True) r O ∧ ∃ p, O p ∧ r.host.alive p ∧ ¬ Held r.records p := by
  have hr : Reach (fun _ _ => True) _ _ :=
    Reach.op (.reload { daemons := [("b", {})] }) (Reach.op (.noteRename .daemon "a" "b")
      (Reach.op (.start ⟨.daemon, "b"⟩) (Reach.op (.start ⟨.daemon, "a"⟩)
        (Reach.create { daemons := [("a", {}), ("b", {})] } {}
          ⟨fun _ _ => .idle [], fun _ _ _ => true⟩ {} rfl (by simp) (by decide))
        trivial) trivial) trivial) trivial
  exact ⟨_, _, hr, 4001, by decide +kernel, by decide +kernel, by decide +kernel⟩

end LabFleet.Supervisor
