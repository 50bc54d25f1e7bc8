import LabFleet.Proofs.Supervisor.Effects

/-!
A start with status requests inside its startup window.

`start` does its work in two halves. Holding the table, it checks the profile, looks at its
record and spawns it (`startOpen`). It then lets the table go for the startup window, and
afterwards looks once more at the profile's record as the table holds it then (`startClose`).
Run one right after the other, the two halves are `start` (`start_eq_halves`).

A status request takes the table alone, so it may come while `start` waits, and it looks at every
record. When the spawned process ends inside the window, that look makes the record crashed and
drops its process; the second half of `start` then finds no process to look at and reports the
start as done and changed. Without the status request it reports the exit
(`status_inside_window_hides_startup_exit`).
-/

namespace LabFleet.Supervisor

open Control Config

set_option autoImplicit false

namespace Registry

/-- Where `start` stands when it lets the table go: done, with its result, or a process spawned
and the startup window to wait out, with the warnings it will report. -/
inductive StartHalf where
  | done (res : Result Transition)
  | spawned (warnings : List String)

/-- The first half of `start`, holding the table: check the profile, look at its record, and
spawn it unless it runs. -/
def startOpen (key : ProfileKey) : RegistryM StartHalf := do
  let r ← get
  if !r.config.contains key.kind key.name then
    return .done (.error (.unknownProfile key.kind key.name))
  let warnings := missingNameservers r key
  let entry ← checked ((r.find? key).getD (Record.fresh key))
  if entry.state.isRunning then
    put entry
    return .done (.ok { pid := entry.pid, changed := false, warnings })
  let (entry, failure) ← spawn { entry with crashLooped := false, crashes := [] }
  put entry
  match failure with
  | some e => return .done (.error e)
  | none => return .spawned warnings

/-- The second half of `start`, after the startup window: the profile's record as the table
holds it now, looked at once more. -/
def startClose (key : ProfileKey) (warnings : List String) : RegistryM (Result Transition) := do
  modify fun r => { r with host := r.host.sleep startupWindow }
  match (← get).find? key with
  | none => return .ok { pid := none, changed := true, warnings }
  | some entry =>
    match ← pollExit entry with
    | some reason =>
      put (entry.crash reason)
      let kind := key.kind.name
      return .error (.internal (kind ++ " '" ++ key.name ++ "' " ++ reason ++
        " during startup; see \x60lab logs " ++ kind ++ " " ++ key.name ++ "\x60"))
    | none =>
      let entry := if entry.state == .starting then { entry with state := .running } else entry
      put entry
      return .ok { pid := entry.pid, changed := true, warnings }

/-- `start` with `between` done to the registry while it lets the table go. -/
def startAround (key : ProfileKey) (between : Registry → Registry) :
    RegistryM (Result Transition) := do
  match ← startOpen key with
  | .done res => return res
  | .spawned warnings =>
    modify between
    startClose key warnings

/-- **`start` is its two halves**, one right after the other: the second half finds the spawned
record where the first half stored it. -/
theorem start_eq_halves (key : ProfileKey) : start key = startAround key id := by
  unfold start startAround startOpen startClose
  simp only [bind_assoc]
  refine congrArg (get >>= ·) (funext fun r => ?_)
  by_cases hc : (!r.config.contains key.kind key.name) = true
  · rw [if_pos hc, if_pos hc, pure_bind]
  rw [if_neg hc, if_neg hc]
  simp only [bind_assoc]
  -- the looked-at record and the spawned one keep the profile's key
  refine Triple.bind_congr (Q := fun e => e.key = key)
    (fun s _ => ((checked_effect _ s s rfl).2.key).trans (key_getD_fresh r key))
    fun entry hkey => ?_
  by_cases hrun : entry.state.isRunning = true
  · rw [if_pos hrun, if_pos hrun]
    simp only [bind_assoc, pure_bind]
  rw [if_neg hrun, if_neg hrun]
  simp only [bind_assoc]
  refine Triple.bind_congr (Q := fun x => x.1.key = key)
    (fun s _ => ((spawn_effect _ s s rfl).2.2.2.1.key).trans hkey) fun x hx => ?_
  obtain ⟨y, failure⟩ := x
  have hx : y.key = key := hx
  cases failure with
  | some e => simp only [pure_bind]
  | none =>
    simp only [pure_bind, Triple.modify_id_bind]
    funext s
    refine Triple.run_bind_congr (P := fun _ => True) (R := fun _ s => s.find? key = some y)
      (fun s _ => show ((put y).run s).2.find? key = some y by rw [find?_put, if_pos hx])
      (fun _ s hs => ?_) s trivial
    refine Triple.run_bind_congr (R := fun _ s => s.find? key = some y) (fun _ hs' => hs')
      (fun _ s' hs' => ?_) s hs
    rw [Triple.run_get_bind]
    exact hs' ▸ rfl

end Registry

/-- The process `pid` killed while `start` waits. -/
def killedInWindow (pid : Nat) (r : Registry) : Registry := (Outside.signal pid .kill).apply r

/-- The same, and then a status request of every profile. -/
def statusAfterKill (pid : Nat) (r : Registry) : Registry :=
  ((Registry.status .all).run (killedInWindow pid r)).2

/-- **A status request inside the window hides an exit there.** Daemon `a` is started on a fresh
registry and its process, PID 4000, is killed while `start` waits. Alone, `start` reports the
exit. With a status request after the kill, `start` reports the daemon started and changed,
while its record is crashed. -/
theorem status_inside_window_hides_startup_exit :
    ∃ r O, Reach (fun _ _ => True) r O ∧
      ((Registry.startAround ⟨.daemon, "a"⟩ (killedInWindow 4000)).run r).1 =
        .error (.internal ("daemon 'a' exited with signal: 9 (SIGKILL) during startup; " ++
          "see \x60lab logs daemon a\x60")) ∧
      ((Registry.startAround ⟨.daemon, "a"⟩ (statusAfterKill 4000)).run r).1 =
        .ok { pid := some 4000, changed := true } ∧
      (((Registry.startAround ⟨.daemon, "a"⟩ (statusAfterKill 4000)).run r).2.find?
        ⟨.daemon, "a"⟩).map (·.state) = some .crashed := by
  have hr : Reach (fun _ _ => True) _ _ :=
    Reach.create { daemons := [("a", {})] } {} ⟨fun _ _ => .idle [], fun _ _ _ => true⟩ {} rfl
      (by simp) (by decide)
  exact ⟨_, _, hr, by decide +kernel, by decide +kernel, by decide +kernel⟩

end LabFleet.Supervisor
