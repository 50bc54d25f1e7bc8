import LabFleet.Daemon.Host
import LabFleet.Proofs.NameMap

/-!
Mutual exclusion on a lockable daemon.

A lockable daemon keeps one lock slot per hosted service. This module follows a host through
any run of calls and disconnections, from any connections, and proves what the lock slots
guarantee:

  1. `dispatch_operation` — a call of one of a service's operations reaches the service's
     instance when the service is free or held by the caller, and is refused as busy, naming
     the holder and changing nothing, when another connection holds it.
  2. `dispatch_lock` — `lock` succeeds exactly when the slot is free and the optional user
     argument reads as a text; a held slot refuses it as already locked, also for its holder.
  3. `LockMove` and `lockOn_after_ne` — the only steps that change a slot are a `lock` of a
     free slot, a `release` by the holder, the holder's disconnection, and the daemon
     object's `force_release` of that service.
  4. `disconnected_clears` — after a connection goes away it holds no lock and has no
     session instance.

Every hosted service has a slot from the moment the host is built (`Guarded`), and every step
keeps it so; that is what lets a lookup of a hosted service's slot never fail.
-/

namespace LabFleet.Daemon

open Service

/-! ## The lock table -/

namespace LockTable

/-- The lock on a service: `none` when its slot is free, or when it has none. -/
def lockOn (t : LockTable) (s : String) : Option Lock := (t.slots.find? s).join

variable {t : LockTable} {s s' : String}

theorem slot_eq (t : LockTable) (s : String) :
    t.slot s = match t.slots.find? s with
      | some x => .ok x
      | none => .error (.unknownObject s) := rfl

theorem find?_setSlot (x : Option Lock) :
    (t.setSlot s x).slots.find? s' = if s = s' then some x else t.slots.find? s' :=
  NameMap.find?_insert s s' x t.slots

theorem lockOn_setSlot (x : Option Lock) :
    (t.setSlot s x).lockOn s' = if s = s' then x else t.lockOn s' := by
  by_cases h : s = s' <;> simp [lockOn, find?_setSlot, h]

theorem acquire_eq (c : ConnectionId) (u : Option String) (now : Timestamp) :
    t.acquire s c u now = match t.slots.find? s with
      | some (some cur) => .error (.alreadyLocked s cur.describe)
      | some none => .ok (t.setSlot s (some ⟨c, u, now⟩))
      | none => .error (.unknownObject s) := by
  simp only [acquire, slot_eq]
  rcases t.slots.find? s with _ | _ | cur <;> rfl

theorem release_eq (c : ConnectionId) :
    t.release s c = match t.slots.find? s with
      | some (some cur) =>
        if cur.holder = c then .ok (true, t.setSlot s none)
        else .error (.resourceBusy s cur.describe)
      | some none => .ok (false, t)
      | none => .error (.unknownObject s) := by
  simp only [release, slot_eq]
  rcases t.slots.find? s with _ | _ | cur
  · rfl
  · rfl
  · by_cases hc : cur.holder = c <;> simp [hc, bind, Except.bind, pure, Except.pure, throw,
      throwThe, MonadExceptOf.throw]

theorem enter_eq (c : ConnectionId) :
    t.enter s c = match t.slots.find? s with
      | some (some cur) => if cur.holder = c then .ok () else .error (.resourceBusy s cur.describe)
      | some none => .ok ()
      | none => .error (.unknownObject s) := by
  simp only [enter, slot_eq]
  rcases t.slots.find? s with _ | _ | cur
  · rfl
  · rfl
  · by_cases hc : cur.holder = c <;> simp [hc, bind, Except.bind, pure, Except.pure, throw,
      throwThe, MonadExceptOf.throw]

theorem forceRelease_eq :
    t.forceRelease s = match t.slots.find? s with
      | some x => .ok (x, t.setSlot s none)
      | none => .error (.unknownObject s) := by
  simp only [forceRelease, slot_eq]
  rcases t.slots.find? s with _ | x <;> rfl

theorem isSome_find?_setSlot (x : Option Lock) (h : (t.slots.find? s').isSome) :
    ((t.setSlot s x).slots.find? s').isSome := by
  rw [find?_setSlot]
  split <;> simp_all

theorem find?_releaseAll (c : ConnectionId) :
    (t.releaseAll c).2.slots.find? s =
      (t.slots.find? s).map fun x => x.filter (·.holder != c) := by
  obtain ⟨slots⟩ := t
  simp only [releaseAll]
  induction slots with
  | nil => rfl
  | cons e rest ih =>
    obtain ⟨n, x⟩ := e
    simp only [List.map_cons, NameMap.find?_cons, ih]
    split
    · rcases x with _ | l
      · rfl
      · by_cases hc : l.holder = c <;> simp [Option.filter, hc]
    · rfl

theorem lockOn_releaseAll (c : ConnectionId) :
    (t.releaseAll c).2.lockOn s = (t.lockOn s).filter (·.holder != c) := by
  simp only [lockOn, find?_releaseAll]
  rcases t.slots.find? s with _ | _ | l <;> simp

theorem isSome_find?_releaseAll (c : ConnectionId) :
    ((t.releaseAll c).2.slots.find? s).isSome = (t.slots.find? s).isSome := by
  simp [find?_releaseAll]

end LockTable

/-! ## The host's lock slots -/

namespace Host

/-- The lock on a service of the host: `none` when it is free, or when the host has no lock
table. -/
def lockOn (h : Host) (s : String) : Option Lock := h.locks.bind (·.lockOn s)

variable {h : Host} {c : ConnectionId} {now : Timestamp}

theorem fresh_state {hosted : Hosted} {inst : Service.Instance} {h' : Host}
    (hf : h.fresh hosted = .ok (inst, h')) :
    h' = { h with nextInstance := inst.numberAfter h.nextInstance } := by
  simp only [fresh] at hf
  cases hc : construct hosted.binding.implementation hosted.binding.parameters h.nextInstance with
  | error e => simp [hc, bind, Except.bind] at hf
  | ok i =>
    simp only [hc, bind, Except.bind, pure, Except.pure, Except.ok.injEq, Prod.mk.injEq] at hf
    obtain ⟨rfl, rfl⟩ := hf
    rfl

theorem runOperation_frame {s : String} {hosted : Hosted} (m : String) (args : Args)
    (hs : h.services.find? s = some hosted) :
    ∃ services sessions next, (h.runOperation c s hosted m args).2 =
      { h with services, sessions, nextInstance := next } ∧
      ∀ s', (services.find? s').isSome = (h.services.find? s').isSome := by
  have same : ∀ s', (h.services.find? s').isSome = (h.services.find? s').isSome := fun _ => rfl
  unfold runOperation
  split
  · -- a shared instance is stored back with its new state
    refine ⟨_, h.sessions, h.nextInstance, rfl, fun s' => ?_⟩
    by_cases he : s = s'
    · subst he; simp [hs]
    · simp [NameMap.find?_insert, he]
  · split
    · exact ⟨h.services, h.sessions, h.nextInstance, rfl, same⟩
    · rename_i hf
      rw [fresh_state hf]
      exact ⟨h.services, h.sessions, _, rfl, same⟩
  · -- a session instance, found or made afresh, is stored in the caller's session
    dsimp only
    split
    · exact ⟨h.services, h.sessions, h.nextInstance, rfl, same⟩
    · rename_i inst h' hgot
      split at hgot
      · cases hgot
        exact ⟨h.services, _, h.nextInstance, rfl, same⟩
      · rw [fresh_state hgot]
        exact ⟨h.services, _, _, rfl, same⟩

theorem dispatch_daemon {call : Wire.Call} (hd : call.object = daemonObject) :
    h.dispatch c now call = h.callDaemon now call := by
  simp [dispatch, hd]

theorem dispatch_service {call : Wire.Call} (hd : call.object ≠ daemonObject) :
    h.dispatch c now call = h.callService c now call.object call := by
  simp [dispatch, hd]

theorem callDaemon_frame (h : Host) (now : Timestamp) (call : Wire.Call) :
    ∃ locks, (h.callDaemon now call).2 = { h with locks } := by
  unfold callDaemon
  dsimp only
  split
  · exact ⟨h.locks, rfl⟩
  · exact ⟨h.locks, rfl⟩
  · exact ⟨h.locks, rfl⟩
  · split
    · exact ⟨_, rfl⟩
    · exact ⟨h.locks, rfl⟩
  · exact ⟨h.locks, rfl⟩

theorem dispatch_services (h : Host) (c : ConnectionId) (now : Timestamp) (call : Wire.Call)
    (s' : String) :
    ((h.dispatch c now call).2.services.find? s').isSome = (h.services.find? s').isSome := by
  by_cases hd : call.object = daemonObject
  · obtain ⟨locks, he⟩ := callDaemon_frame h now call
    rw [dispatch_daemon hd, he]
  · rw [dispatch_service hd]
    unfold callService
    dsimp only
    split
    · rfl
    · rename_i hosted hs
      split
      · rfl
      · split <;> rfl
      · split <;> rfl
      · rfl
      · split
        · rfl
        · split
          · rfl
          · obtain ⟨services, sessions, next, he, hsame⟩ :=
              runOperation_frame (c := c) call.method ⟨call.args⟩ hs
            rw [he]
            exact hsame s'

theorem runOperation_locks {s m : String} {hosted : Hosted} {args : Args}
    (hs : h.services.find? s = some hosted) :
    (h.runOperation c s hosted m args).2.locks = h.locks := by
  obtain ⟨services, sessions, next, he, -⟩ := runOperation_frame (c := c) m args hs
  rw [he]

/-- **What a call can do to the lock table.** Nothing; or take the called service's free
slot for the caller; or free the called service's slot that the caller holds; or, on the
daemon object, free the slot of the service its argument names. -/
theorem dispatch_locks (h : Host) (c : ConnectionId) (now : Timestamp) (call : Wire.Call) :
    (h.dispatch c now call).2.locks = h.locks ∨
    (∃ t u, call.object ≠ daemonObject ∧ call.method = "lock" ∧ h.locks = some t ∧
      t.slots.find? call.object = some none ∧
      (h.dispatch c now call).2.locks = some (t.setSlot call.object (some ⟨c, u, now⟩))) ∨
    (∃ t l, call.object ≠ daemonObject ∧ call.method = "release" ∧ h.locks = some t ∧
      t.slots.find? call.object = some (some l) ∧ l.holder = c ∧
      (h.dispatch c now call).2.locks = some (t.setSlot call.object none)) ∨
    (∃ t s, call.object = daemonObject ∧ call.method = "force_release" ∧
      Args.required ⟨call.args⟩ 0 "service" Json.Decoder.string = .ok s ∧ h.locks = some t ∧
      (t.slots.find? s).isSome ∧ (h.dispatch c now call).2.locks = some (t.setSlot s none)) := by
  by_cases hd : call.object = daemonObject
  · rw [dispatch_daemon hd]
    unfold callDaemon
    dsimp only
    split
    · exact .inl rfl
    · exact .inl rfl
    · exact .inl rfl
    · rename_i t hm ht
      split
      · rename_i prev t' hstep
        cases hreq : Args.required ⟨call.args⟩ 0 "service" Json.Decoder.string with
        | error e => simp [hreq, bind, Except.bind] at hstep
        | ok s =>
          simp only [hreq, bind, Except.bind, LockTable.forceRelease_eq] at hstep
          split at hstep
          · rename_i x hx
            cases hstep
            exact .inr (.inr (.inr ⟨t, s, hd, hm, rfl, ht, by simp [hx], rfl⟩))
          · cases hstep
      · exact .inl rfl
    · exact .inl rfl
  · rw [dispatch_service hd]
    unfold callService
    dsimp only
    split
    · exact .inl rfl
    · rename_i hosted hs
      split
      · exact .inl rfl
      · -- lock
        rename_i t hm ht
        split
        · rename_i t' hstep
          cases hu : Args.optional ⟨call.args⟩ 0 "user" Json.Decoder.string with
          | error e => simp [hu, bind, Except.bind] at hstep
          | ok u =>
            simp only [hu, bind, Except.bind, LockTable.acquire_eq] at hstep
            split at hstep
            · cases hstep
            · rename_i hfree
              cases hstep
              exact .inr (.inl ⟨t, u, hd, hm, ht, hfree, rfl⟩)
            · cases hstep
        · exact .inl rfl
      · -- release
        rename_i t hm ht
        split
        · rename_i b t' hstep
          rw [LockTable.release_eq] at hstep
          split at hstep
          · rename_i l hheld
            split at hstep
            · rename_i hc
              cases hstep
              exact .inr (.inr (.inl ⟨t, l, hd, hm, ht, hheld, hc, rfl⟩))
            · cases hstep
          · cases hstep
            exact .inl ht.symm
          · cases hstep
        · exact .inl rfl
      · exact .inl rfl
      · split
        · exact .inl rfl
        · split
          · exact .inl rfl
          · exact .inl (runOperation_locks hs)

theorem build_locks {name : String} {config : Config.LabConfig} {h : Host}
    (hb : build name config now = .ok h) :
    h.locks = match h.profile.variant with
      | .lockable => some (LockTable.new h.services.keys)
      | .plain => none := by
  simp only [build, bind, Except.bind] at hb
  split at hb
  · cases hb
  · split at hb
    · cases hb
    · cases hb
      rfl

theorem lockOn_of_locks {h' : Host} {t : LockTable} (hl : h'.locks = some t) (s : String) :
    h'.lockOn s = t.lockOn s := by
  simp [lockOn, hl]

theorem lockOn_disconnected (s : String) :
    (h.disconnected c).lockOn s = (h.lockOn s).filter (·.holder != c) := by
  cases hl : h.locks with
  | none => simp [lockOn, disconnected, hl]
  | some t => simp [lockOn, disconnected, hl, LockTable.lockOn_releaseAll]

end Host

/-! ## Runs of a lockable daemon -/

/-- A step of a daemon's run: a call from a connection at some time, or a connection going
away. A connection number used again after its disconnection is a new connection. -/
inductive Event where
  | call (conn : ConnectionId) (now : Timestamp) (call : Wire.Call)
  | disconnect (conn : ConnectionId)

/-- The host after an event. -/
def Host.after (h : Host) : Event → Host
  | .call conn now call => (h.dispatch conn now call).2
  | .disconnect conn => h.disconnected conn

/-- The hosts a run reaches from the host built for a lockable daemon profile. -/
inductive Reachable : Host → Prop
  | build {name : String} {config : Config.LabConfig} {now : Timestamp} {h : Host}
      (hb : Host.build name config now = .ok h) (hv : h.profile.variant = .lockable) :
      Reachable h
  | step {h : Host} (e : Event) : Reachable h → Reachable (h.after e)

/-- A lockable host whose lock table has a slot for every hosted service. -/
def Guarded (h : Host) : Prop :=
  ∃ t, h.locks = some t ∧ ∀ s, (h.services.find? s).isSome → (t.slots.find? s).isSome

namespace Guarded

variable {h : Host} {c : ConnectionId} {now : Timestamp}

theorem of_build {name : String} {config : Config.LabConfig}
    (hb : Host.build name config now = .ok h) (hv : h.profile.variant = .lockable) :
    Guarded h := by
  refine ⟨_, by rw [Host.build_locks hb, hv], fun s hs => ?_⟩
  have hk : s ∈ h.services.keys := (NameMap.isSome_find?_iff s h.services).1 hs
  simp [LockTable.new, NameMap.find?_ofList_const, hk]

theorem dispatch (hg : Guarded h) (call : Wire.Call) : Guarded (h.dispatch c now call).2 := by
  obtain ⟨t, ht, hcov⟩ := hg
  have hserv := Host.dispatch_services h c now call
  have covers : ∀ s, ((h.dispatch c now call).2.services.find? s).isSome →
      (t.slots.find? s).isSome := fun s hs => hcov s (by rwa [← hserv])
  rcases Host.dispatch_locks h c now call with
    hl | ⟨t', u, -, -, ht', -, hl⟩ | ⟨t', l, -, -, ht', -, -, hl⟩ | ⟨t', s, -, -, -, ht', -, hl⟩
  · exact ⟨t, hl.trans ht, covers⟩
  all_goals
    rw [ht] at ht'
    cases ht'
    exact ⟨_, hl, fun s hs => LockTable.isSome_find?_setSlot _ (covers s hs)⟩

theorem disconnected (hg : Guarded h) : Guarded (h.disconnected c) := by
  obtain ⟨t, ht, hcov⟩ := hg
  refine ⟨(t.releaseAll c).2, by simp [Host.disconnected, ht], fun s hs => ?_⟩
  rw [LockTable.isSome_find?_releaseAll]
  exact hcov s hs

theorem after (hg : Guarded h) : ∀ e : Event, Guarded (h.after e)
  | .call _ _ call => hg.dispatch call
  | .disconnect _ => hg.disconnected

end Guarded

theorem Reachable.guarded {h : Host} (hr : Reachable h) : Guarded h := by
  induction hr with
  | build hb hv => exact Guarded.of_build hb hv
  | step e _ ih => exact ih.after e

/-! ## Calls into a service -/

namespace Host

variable {h : Host} {c : ConnectionId} {now : Timestamp}

/-- **A service operation reaches its instance only past the lock.** On a guarded host, a call
of one of a service's operations runs on the service's instance when the service is free or
held by the caller; when another connection holds it the call is refused as busy, naming the
holder, and nothing changes. -/
theorem dispatch_operation (hg : Guarded h) {s m : String} {hosted : Hosted} (args : Json)
    (hd : s ≠ daemonObject) (hs : h.services.find? s = some hosted)
    (hm : m ∉ "describe" :: lockOperations) (hop : hosted.operations.any (·.name == m)) :
    h.dispatch c now ⟨s, m, args⟩ =
      match h.lockOn s with
      | some l =>
        if l.holder = c then h.runOperation c s hosted m ⟨args⟩
        else (.error (.resourceBusy s l.describe), h)
      | none => h.runOperation c s hosted m ⟨args⟩ := by
  obtain ⟨t, ht, hcov⟩ := hg
  obtain ⟨x, hx⟩ := Option.isSome_iff_exists.1 (hcov s (by simp [hs]))
  have hlock : h.lockOn s = x := by simp [lockOn_of_locks ht, LockTable.lockOn, hx]
  simp only [lockOperations, List.mem_cons, List.not_mem_nil, or_false, not_or] at hm
  rw [dispatch_service hd]
  unfold callService
  dsimp only
  rw [hs]
  dsimp only
  split
  · exact absurd rfl hm.1
  · exact absurd rfl hm.2.1
  · exact absurd rfl hm.2.2.1
  · exact absurd rfl hm.2.2.2
  · -- the operation case: the lock slot decides
    simp only [hop, Bool.not_true, Bool.false_eq_true, if_false, ht, LockTable.enter_eq, hx,
      ← hlock]
    rcases h.lockOn s with _ | l
    · rfl
    · by_cases hc : l.holder = c <;> simp [hc]

/-- **Taking a lock.** On a guarded host, `lock` on a hosted service reads the optional user
argument first, then takes the slot for the caller if it is free; a held slot refuses it as
already locked, whoever holds it. -/
theorem dispatch_lock (hg : Guarded h) {s : String} (args : Json) (hd : s ≠ daemonObject)
    (hs : (h.services.find? s).isSome) :
    h.dispatch c now ⟨s, "lock", args⟩ =
      match Args.optional ⟨args⟩ 0 "user" Json.Decoder.string, h.lockOn s with
      | .error e, _ => (.error e, h)
      | .ok _, some l => (.error (.alreadyLocked s l.describe), h)
      | .ok u, none =>
        (.ok (.bool true), { h with locks := h.locks.map (·.setSlot s (some ⟨c, u, now⟩)) }) := by
  obtain ⟨t, ht, hcov⟩ := hg
  obtain ⟨x, hx⟩ := Option.isSome_iff_exists.1 (hcov s hs)
  obtain ⟨hosted, hh⟩ := Option.isSome_iff_exists.1 hs
  have hlock : h.lockOn s = x := by simp [lockOn_of_locks ht, LockTable.lockOn, hx]
  rw [dispatch_service hd]
  unfold callService
  dsimp only
  rw [hh, ht]
  simp only [Option.map_some, hlock]
  cases Args.optional ⟨args⟩ 0 "user" Json.Decoder.string with
  | error e => rfl
  | ok u =>
    simp only [bind, Except.bind, LockTable.acquire_eq, hx]
    rcases x with _ | l <;> rfl

theorem lock_succeeds_iff (hg : Guarded h) {s : String} (args : Json) (hd : s ≠ daemonObject)
    (hs : (h.services.find? s).isSome) :
    (∃ v, (h.dispatch c now ⟨s, "lock", args⟩).1 = .ok v) ↔
      h.lockOn s = none ∧ ∃ u, Args.optional ⟨args⟩ 0 "user" Json.Decoder.string = .ok u := by
  rw [dispatch_lock hg args hd hs]
  cases Args.optional ⟨args⟩ 0 "user" Json.Decoder.string with
  | error e => simp
  | ok u => cases h.lockOn s <;> simp

theorem lock_of_held (hg : Guarded h) {s : String} {l : Lock} {u : Option String} (args : Json)
    (hd : s ≠ daemonObject) (hs : (h.services.find? s).isSome) (hl : h.lockOn s = some l)
    (hu : Args.optional ⟨args⟩ 0 "user" Json.Decoder.string = .ok u) :
    (h.dispatch c now ⟨s, "lock", args⟩).1 = .error (.alreadyLocked s l.describe) := by
  rw [dispatch_lock hg args hd hs, hu, hl]

end Host

/-! ## What changes a lock -/

/-- The steps that may change the lock on service `s` of host `h`: a `lock` of `s` while it is
free, a `release` of `s` by its holder, the holder going away, and the daemon object's
`force_release` naming `s`. -/
inductive LockMove (h : Host) (s : String) : Event → Prop
  | acquire (c : ConnectionId) (now : Timestamp) (args : Json) (hd : s ≠ daemonObject)
      (hfree : h.lockOn s = none) : LockMove h s (.call c now ⟨s, "lock", args⟩)
  | release (c : ConnectionId) (now : Timestamp) (args : Json) (hd : s ≠ daemonObject)
      (hheld : ∃ l, h.lockOn s = some l ∧ l.holder = c) :
      LockMove h s (.call c now ⟨s, "release", args⟩)
  | disconnect (l : Lock) (hheld : h.lockOn s = some l) : LockMove h s (.disconnect l.holder)
  | force (c : ConnectionId) (now : Timestamp) (args : Json)
      (harg : Args.required ⟨args⟩ 0 "service" Json.Decoder.string = .ok s) :
      LockMove h s (.call c now ⟨daemonObject, "force_release", args⟩)

/-- **Only lock operations move a lock.** Whatever the host, a step that changes the lock on a
service is one of the `LockMove`s; every other step leaves every lock as it was. -/
theorem lockOn_after_ne {h : Host} {s : String} :
    ∀ e : Event, (h.after e).lockOn s ≠ h.lockOn s → LockMove h s e
  | .disconnect c, hne => by
    simp only [Host.after, Host.lockOn_disconnected] at hne
    rcases hl : h.lockOn s with _ | l
    · simp [hl] at hne
    · by_cases hc : l.holder = c
      · subst hc
        exact .disconnect l hl
      · simp [hl, Option.filter, hc] at hne
  | .call c now ⟨object, method, args⟩, hne => by
    simp only [Host.after] at hne
    rcases Host.dispatch_locks h c now ⟨object, method, args⟩ with
      hl | ⟨t, u, hd, hm, ht, hfree, hl⟩ | ⟨t, l, hd, hm, ht, hheld, hc, hl⟩ |
        ⟨t, s', hd, hm, harg, ht, -, hl⟩
    · exact absurd (by simp [Host.lockOn, hl]) hne
    · -- a lock taken: only the called service's slot moves, and it was free
      simp only at hd hm hfree hl
      rw [Host.lockOn_of_locks hl, LockTable.lockOn_setSlot, Host.lockOn_of_locks ht] at hne
      by_cases hs : object = s
      · subst hs hm
        exact .acquire c now args hd (by simp [Host.lockOn_of_locks ht, LockTable.lockOn, hfree])
      · simp [hs] at hne
    · -- a lock given back by its holder
      simp only at hd hm hheld hl
      rw [Host.lockOn_of_locks hl, LockTable.lockOn_setSlot, Host.lockOn_of_locks ht] at hne
      by_cases hs : object = s
      · subst hs hm
        exact .release c now args hd
          ⟨l, by simp [Host.lockOn_of_locks ht, LockTable.lockOn, hheld], hc⟩
      · simp [hs] at hne
    · -- a lock freed by force
      simp only at hd hm harg hl
      rw [Host.lockOn_of_locks hl, LockTable.lockOn_setSlot, Host.lockOn_of_locks ht] at hne
      by_cases hs : s' = s
      · subst hs hd hm
        exact .force c now args harg
      · simp [hs] at hne

/-! ## Going away -/

/-- **A connection that went away holds nothing.** After its disconnection a connection holds
no lock and owns no session instance. -/
theorem disconnected_clears (h : Host) (c : ConnectionId) :
    (∀ s l, (h.disconnected c).lockOn s = some l → l.holder ≠ c) ∧
    ∀ e ∈ (h.disconnected c).sessions, e.1 ≠ c := by
  constructor
  · intro s l hl
    rw [Host.lockOn_disconnected] at hl
    obtain ⟨-, hc⟩ := Option.filter_eq_some_iff.1 hl
    simpa using hc
  · intro e he
    simp only [Host.disconnected, List.mem_filter, bne_iff_ne, ne_eq] at he
    exact he.2

/-! ## Mutual exclusion over every run -/

/-- **Mutual exclusion on a lockable daemon.** In every host a run reaches from the host built
for a lockable daemon profile, through any calls and disconnections of any connections:

  1. a call of one of a service's operations (other than `describe` and the lock operations)
     runs on the service's instance when the service is free or held by the caller, and is
     otherwise refused as busy, naming the holder, with nothing changed;
  2. `lock` succeeds exactly when the service is free and the user argument reads; a held
     service refuses it as already locked, also for its holder;
  3. a step that changes a lock is a `lock` of a free service, a `release` by the holder, the
     holder's disconnection, or the daemon object's `force_release` of that service;
  4. a connection that went away holds no lock and no session instance.

A service named like the daemon object is shadowed by it: calls naming it go to the daemon. -/
theorem lockable_daemon_exclusion {h : Host} (hr : Reachable h) :
    (∀ c now s m args hosted, s ≠ daemonObject → h.services.find? s = some hosted →
      m ∉ "describe" :: lockOperations → hosted.operations.any (·.name == m) →
      ((∀ l, h.lockOn s = some l → l.holder = c) →
        h.dispatch c now ⟨s, m, args⟩ = h.runOperation c s hosted m ⟨args⟩) ∧
      (∀ l, h.lockOn s = some l → l.holder ≠ c →
        h.dispatch c now ⟨s, m, args⟩ = (.error (.resourceBusy s l.describe), h))) ∧
    (∀ c now s args, s ≠ daemonObject → (h.services.find? s).isSome →
      ((∃ v, (h.dispatch c now ⟨s, "lock", args⟩).1 = .ok v) ↔
        h.lockOn s = none ∧ ∃ u, Args.optional ⟨args⟩ 0 "user" Json.Decoder.string = .ok u) ∧
      (∀ l u, h.lockOn s = some l → Args.optional ⟨args⟩ 0 "user" Json.Decoder.string = .ok u →
        (h.dispatch c now ⟨s, "lock", args⟩).1 = .error (.alreadyLocked s l.describe))) ∧
    (∀ e s, (h.after e).lockOn s ≠ h.lockOn s → LockMove h s e) ∧
    (∀ c, (∀ s l, (h.disconnected c).lockOn s = some l → l.holder ≠ c) ∧
      ∀ e ∈ (h.disconnected c).sessions, e.1 ≠ c) := by
  have hg := hr.guarded
  refine ⟨fun c now s m args hosted hd hs hm hop => ⟨fun hadm => ?_, fun l hl hc => ?_⟩,
    fun c now s args hd hs => ⟨Host.lock_succeeds_iff hg args hd hs,
      fun l u hl hu => Host.lock_of_held hg args hd hs hl hu⟩,
    fun e s => lockOn_after_ne e, disconnected_clears h⟩
  · -- admitted: free, or held by the caller
    rw [Host.dispatch_operation hg args hd hs hm hop]
    rcases hlock : h.lockOn s with _ | l
    · rfl
    · simp [hadm l hlock]
  · -- held by another connection
    rw [Host.dispatch_operation hg args hd hs hm hop, hl]
    simp [hc]

/-- A lockable daemon `bench` hosting the arithmetic service as `probe`. -/
def benchConfig : Config.LabConfig :=
  { daemons := [("bench", { variant := .lockable })],
    services := [("probe", { implementation := sampleReference, daemon := "bench" })] }

/-- The time of every step of the bench runs. -/
def benchTime : Timestamp := ⟨1700000000, 0⟩

/-- Once connection 1 holds `probe`, connection 2's `whoami` is refused as busy. -/
theorem bench_call_refused_while_locked :
    ∃ h₀, Host.build "bench" benchConfig benchTime = .ok h₀ ∧
      Reachable (h₀.after (.call 1 benchTime ⟨"probe", "lock", .null⟩)) ∧
      (h₀.after (.call 1 benchTime ⟨"probe", "lock", .null⟩)).dispatch 2 benchTime
        ⟨"probe", "whoami", .null⟩ =
        (.error (.resourceBusy "probe" "connection 1"),
          h₀.after (.call 1 benchTime ⟨"probe", "lock", .null⟩)) := by
  have hb : Host.build "bench" benchConfig benchTime = .ok _ := rfl
  have hr := Reachable.step (.call 1 benchTime ⟨"probe", "lock", .null⟩) (.build hb rfl)
  refine ⟨_, hb, hr, ?_⟩
  exact ((lockable_daemon_exclusion hr).1 2 benchTime "probe" "whoami" .null _ (by decide) rfl
    (by decide) rfl).2 ⟨1, none, benchTime⟩ rfl (by decide)

/-- **A free service can refuse `lock`.** The user argument is read before the slot, so a
`lock` of the free `probe` with a user that is not a text fails. -/
theorem lock_refused_for_unreadable_user :
    ∃ h, Host.build "bench" benchConfig benchTime = .ok h ∧ Reachable h ∧
      h.lockOn "probe" = none ∧
      (h.dispatch 1 benchTime ⟨"probe", "lock", .array [Json.nat 5]⟩).1 =
        .error (.invalidArgument "argument 'user': invalid type: integer `5`, expected a string") := by
  have hb : Host.build "bench" benchConfig benchTime = .ok _ := rfl
  exact ⟨_, hb, .build hb rfl, rfl, rfl⟩

end LabFleet.Daemon
