import Mathlib.Data.List.Nodup
import LabFleet.Proofs.Supervisor.Runs

/-!
What each operation of the registry other than a reload does, profile by profile.

Apart from its table and its counters, an operation moves the registry forward in one way only
(`Advances`): the monotonic clock only goes up, the settings and the captured lines stay, and new
pumps only join behind those of the processes already running. Every primitive of the registry
advances it so, and `Advances` is transitive, so each operation is walked once. The counters move
by spawns, each profile at most once an operation and by one (`SpawnsOnce`), and by adoption,
which only raises them.

On the table, each operation is summed up by what it leaves of every profile's record:

  * a look at the processes (`reap`, `checked`) keeps each record, promotes a spawn that survived
    the startup window, or crashes a record that held a process (`Looked`);
  * `start` changes only its profile's record: a running one is kept as looked at, and otherwise
    the profile is spawned afresh with its crash history and crash-loop flag cleared;
  * `stop` takes its profile's record out, `stopAll` every record, `adopt` adds records only for
    profiles without one, and a rename note changes nothing;
  * `recover` passes over the records it finds crashed (`passFinds`) at one instant
    (`passInstant`), and leaves every other record as the look left it.
-/

namespace LabFleet.Supervisor

open Control

set_option autoImplicit false

/-! ## Lookups in lists of pairs -/

theorem find?_cons_filter {β : Type} (l : List (ProfileKey × β)) (key k : ProfileKey) (b : β) :
    ((key, b) :: l.filter (·.1 != key)).find? (·.1 == k) =
      if key = k then some (key, b) else l.find? (·.1 == k) := by
  by_cases h : key = k
  · simp [h]
  · rw [if_neg h, List.find?_cons_of_neg (by simpa using h), List.find?_filter]
    congr 1
    funext x
    by_cases hx : x.1 = k
    · simp [hx, Ne.symm h]
    · simp [hx]

theorem suffix_append_right {α : Type} {l₁ l₂ : List α} (h : l₁ <:+ l₂) (t : List α) :
    l₁ ++ t <:+ l₂ ++ t := by
  obtain ⟨u, hu⟩ := h
  exact ⟨u, by rw [← List.append_assoc, hu]⟩

theorem Triple.bind_run {σ α β : Type} {s₀ : σ} {m : StateM σ α} {f : α → StateM σ β}
    {Q : β → σ → Prop} (h : Triple (· = (m.run s₀).2) (f (m.run s₀).1) Q) :
    Triple (· = s₀) (m >>= f) Q :=
  fun s hs => by
    subst hs
    exact h _ rfl

/-! ## Incarnation counters -/

namespace Registry

/-- The last incarnation of a profile: zero until it is first spawned or adopted. -/
def lastIncarnation (r : Registry) (key : ProfileKey) : UInt32 :=
  ((r.incarnations.find? (·.1 == key)).map (·.2)).getD 0

theorem lastIncarnation_cons_filter (r : Registry) (key k : ProfileKey) (n : UInt32) :
    lastIncarnation { r with incarnations := (key, n) :: r.incarnations.filter (·.1 != key) } k =
      if key = k then n else r.lastIncarnation k := by
  unfold lastIncarnation
  rw [find?_cons_filter]
  split <;> rfl

@[simp] theorem run_nextIncarnation (key : ProfileKey) (r : Registry) :
    (nextIncarnation key).run r = (r.lastIncarnation key + 1,
      { r with incarnations := (key, r.lastIncarnation key + 1) ::
        r.incarnations.filter (·.1 != key) }) := rfl

@[simp] theorem run_raiseIncarnation (key : ProfileKey) (n : UInt32) (r : Registry) :
    (raiseIncarnation key n).run r = ((),
      { r with incarnations := (key, max n (r.lastIncarnation key)) ::
        r.incarnations.filter (·.1 != key) }) := rfl

end Registry

theorem incarnation_le_max_left (a b : UInt32) : a ≤ max a b := by
  rw [UInt32.max_def]
  split <;> simp_all [UInt32.le_iff_toNat_le]

theorem incarnation_le_max_right (a b : UInt32) : b ≤ max a b := by
  rw [UInt32.max_def]
  split <;> simp_all [UInt32.le_iff_toNat_le]
  omega

namespace LogBuffer

@[simp] theorem lines_setLines (b : LogBuffer) (key k : ProfileKey) (ls : List String) :
    (b.setLines key ls).lines k = if key = k then ls else b.lines k := by
  unfold lines setLines
  rw [find?_cons_filter]
  split <;> rfl

end LogBuffer

/-! ## Advancing the registry -/

/-- What an operation other than a reload does to the registry outside its table, the committed
configuration, the incarnation counters and the renames it notes: the clock only goes up, the
settings and the captured lines stay, and the pumps of running processes stay, new ones joining
behind them. -/
structure Advances (r s : Registry) : Prop where
  clock : r.host.clock ≤ s.host.clock
  settings : s.settings = r.settings
  logs : s.logs = r.logs
  pumps : r.pumps <+: s.pumps

namespace Advances

variable {r s u : Registry}

theorem refl (r : Registry) : Advances r r :=
  ⟨Nat.le_refl _, rfl, rfl, List.prefix_refl _⟩

theorem trans (h₁ : Advances r s) (h₂ : Advances s u) : Advances r u :=
  ⟨Nat.le_trans h₁.clock h₂.clock, h₂.settings.trans h₁.settings, h₂.logs.trans h₁.logs,
    h₁.pumps.trans h₂.pumps⟩

theorem policy (h : Advances r s) : s.policy = r.policy := by
  unfold Registry.policy
  rw [h.settings]

theorem of_logs (hc : r.host.clock ≤ s.host.clock) (hs : s.settings = r.settings)
    (hl : s.logs = r.logs) (hp : s.pumps = r.pumps) : Advances r s :=
  ⟨hc, hs, hl, hp ▸ List.prefix_refl _⟩

end Advances

/-! ## The machine's clock -/

namespace Host

variable (h : Host)

@[simp] theorem clock_signal (pid : Nat) (s : Signal) : (h.signal pid s).2.clock = h.clock := by
  unfold signal; split <;> rfl

@[simp] theorem clock_collect (pid : Nat) : (h.collect pid).2.clock = h.clock := by
  unfold collect; split <;> rfl

@[simp] theorem clock_spawn (b : Bool) : (h.spawn b).2.clock = h.clock := rfl

@[simp] theorem clock_putFile (name text : String) : (h.putFile name text).clock = h.clock := rfl

@[simp] theorem clock_dropFile (name : String) : (h.dropFile name).clock = h.clock := rfl

@[simp] theorem clock_tick : h.tick.2.clock = h.clock + 1000 := rfl

theorem clock_le_sleep (nanos : Nat) : h.clock ≤ (h.sleep nanos).clock := by
  unfold sleep
  split
  · exact Nat.le_add_right _ _
  · exact Nat.le_refl _

theorem clock_le_stopChild (pid grace : Nat) : h.clock ≤ (h.stopChild pid grace).clock := by
  have hc := (h.signal pid .terminate).2.clock_collect pid
  rw [clock_signal] at hc
  unfold stopChild
  split
  · next h' heq =>
    rw [heq] at hc
    exact Nat.le_of_eq hc.symm
  · next h' heq =>
    rw [heq] at hc
    rw [clock_collect, clock_signal, ← hc]
    exact h'.clock_le_sleep grace

theorem clock_le_stopSurvivor (pid grace : Nat) : h.clock ≤ (h.stopSurvivor pid grace).clock := by
  unfold stopSurvivor
  dsimp only
  split
  · simp [pass]
  · simp

end Host

/-! Nothing outside the registry moves the clock or changes the crash policy. -/

namespace Outside

@[simp] theorem clock_apply (w : Outside) (r : Registry) : (w.apply r).host.clock = r.host.clock := by
  cases w <;> simp [apply]

@[simp] theorem config_apply (w : Outside) (r : Registry) : (w.apply r).config = r.config := by
  cases w
  case pump i => exact (congrArg Registry.config (r.pumpLine_frame i)).trans rfl
  all_goals rfl

@[simp] theorem policy_apply (w : Outside) (r : Registry) : (w.apply r).policy = r.policy := by
  cases w
  case pump i => exact (congrArg Registry.policy (r.pumpLine_frame i)).trans rfl
  all_goals rfl

end Outside

/-! ## The table -/

theorem find?_insertRecord (e : Record) (k : ProfileKey) :
    ∀ rs : List Record, (insertRecord e rs).find? (·.key == k) =
      if e.key = k then some e else rs.find? (·.key == k)
  | [] => by by_cases h : e.key = k <;> simp [insertRecord, h]
  | x :: xs => by
    unfold insertRecord
    by_cases hx : x.key = e.key
    · -- the record of the key is replaced
      rw [if_pos (by simpa using hx)]
      by_cases hk : e.key = k
      · simp [hk]
      · simp [hk, hx]
    · rw [if_neg (by simpa using hx)]
      split
      · by_cases hk : e.key = k <;> simp [hk]
      · rw [List.find?_cons, List.find?_cons, find?_insertRecord e k xs]
        by_cases hk : e.key = k
        · subst hk
          rw [if_pos rfl, if_pos rfl, show (x.key == e.key) = false by simpa using hx]
        · by_cases hxk : x.key = k <;> simp [hk, hxk]

theorem find?_filter_key (rs : List Record) (key k : ProfileKey) :
    (rs.filter (·.key != key)).find? (·.key == k) =
      if key = k then none else rs.find? (·.key == k) := by
  by_cases h : key = k
  · subst h
    rw [if_pos rfl, List.find?_eq_none]
    intro x hx
    simpa using (List.mem_filter.1 hx).2
  · rw [if_neg h, List.find?_filter]
    congr 1
    funext x
    by_cases hx : x.key = k
    · simp [hx, Ne.symm h]
    · simp [hx]

namespace Registry

@[simp] theorem find?_with_records (r : Registry) (rs : List Record) (k : ProfileKey) :
    ({ r with records := rs } : Registry).find? k = rs.find? (·.key == k) := rfl

@[simp] theorem run_removePidFile (key : ProfileKey) (r : Registry) :
    (removePidFile key).run r =
      ((), { r with host := r.host.dropFile (PidRecord.fileName key.kind key.name) }) := rfl

theorem find?_put (e : Record) (r : Registry) (k : ProfileKey) :
    ((put e).run r).2.find? k = if e.key = k then some e else r.find? k := by
  simp [find?_insertRecord, find?]

theorem find?_take (key : ProfileKey) (r : Registry) (k : ProfileKey) :
    ((take key).run r).2.find? k = if key = k then none else r.find? k := by
  rw [run_take]
  exact find?_filter_key r.records key k

end Registry

/-! ## A look at the processes -/

/-- What a look at its process may make of a record: nothing, the promotion of a spawn that
survived the startup window, or a crash of a record that held a process. -/
def Looked (e e' : Record) : Prop :=
  e' = e ∨ (e.state = .starting ∧ e' = { e with state := .running }) ∨
    (e.handle.isSome ∧ ∃ why, e' = e.crash why)

namespace Looked

variable {e e' : Record}

theorem refl (e : Record) : Looked e e := .inl rfl

theorem key (h : Looked e e') : e'.key = e.key := by
  rcases h with rfl | ⟨-, rfl⟩ | ⟨-, _, rfl⟩ <;> rfl

theorem crashes (h : Looked e e') : e'.crashes = e.crashes := by
  rcases h with rfl | ⟨-, rfl⟩ | ⟨-, _, rfl⟩ <;> rfl

theorem crashLooped (h : Looked e e') : e'.crashLooped = e.crashLooped := by
  rcases h with rfl | ⟨-, rfl⟩ | ⟨-, _, rfl⟩ <;> rfl

theorem restarts (h : Looked e e') : e'.restarts = e.restarts := by
  rcases h with rfl | ⟨-, rfl⟩ | ⟨-, _, rfl⟩ <;> rfl

theorem incarnation (h : Looked e e') : e'.incarnation = e.incarnation := by
  rcases h with rfl | ⟨-, rfl⟩ | ⟨-, _, rfl⟩ <;> rfl

theorem handle (h : Looked e e') (he : e.handle.isSome = e.state.isRunning) :
    e'.handle.isSome = e'.state.isRunning := by
  rcases h with rfl | ⟨hs, rfl⟩ | ⟨-, _, rfl⟩
  · exact he
  · rw [hs] at he
    exact he
  · rfl

theorem idle (h : Looked e e') (hs : e.state ≠ .starting) (hh : e.handle = none) : e' = e := by
  rcases h with rfl | ⟨hst, -⟩ | ⟨hsome, -⟩
  · rfl
  · exact absurd hst hs
  · simp [hh] at hsome

end Looked

theorem find?_looked {rs out : List Record} (h : List.Forall₂ Looked rs out) (k : ProfileKey) :
    Option.Rel Looked (rs.find? (·.key == k)) (out.find? (·.key == k)) := by
  induction h with
  | nil => exact .none
  | @cons e e' rs out he _ ih =>
    rw [List.find?_cons, List.find?_cons, he.key]
    split
    · exact .some he
    · exact ih

theorem Looked.opt_refl (o : Option Record) : Option.Rel Looked o o := by
  cases o with
  | none => exact .none
  | some e => exact .some (Looked.refl e)

theorem Looked.opt_some {o : Option Record} {e' : Record} (h : Option.Rel Looked o (some e')) :
    ∃ e, o = some e ∧ Looked e e' := by
  cases h with
  | some h => exact ⟨_, rfl, h⟩

theorem Looked.opt_some' {e : Record} {o : Option Record} (h : Option.Rel Looked (some e) o) :
    ∃ e', o = some e' ∧ Looked e e' := by
  cases h with
  | some h => exact ⟨_, rfl, h⟩

theorem Looked.opt_none {o : Option Record} (h : Option.Rel Looked o none) : o = none := by
  cases h
  rfl

/-- A step on the machine alone, which does not set its clock back. -/
structure HostStep (r s : Registry) : Prop where
  eq : s = { r with host := s.host }
  clock : r.host.clock ≤ s.host.clock

namespace HostStep

variable {r s u : Registry}

theorem refl (r : Registry) : HostStep r r := ⟨rfl, Nat.le_refl _⟩

theorem trans (h₁ : HostStep r s) (h₂ : HostStep s u) : HostStep r u := by
  refine ⟨?_, Nat.le_trans h₁.clock h₂.clock⟩
  rw [h₂.eq, h₁.eq]

theorem of_host (r : Registry) (host : Host) (hc : r.host.clock ≤ host.clock) :
    HostStep r { r with host } := ⟨rfl, hc⟩

theorem advances (h : HostStep r s) : Advances r s := by
  rw [h.eq]
  exact Advances.of_logs h.clock rfl rfl rfl

theorem records (h : HostStep r s) : s.records = r.records := by rw [h.eq]

theorem lastIncarnation (h : HostStep r s) (k : ProfileKey) :
    s.lastIncarnation k = r.lastIncarnation k := by rw [h.eq]; rfl

theorem policy (h : HostStep r s) : s.policy = r.policy := by rw [h.eq]; rfl

end HostStep

theorem Forall₂.looked_keys {rs out : List Record} (h : List.Forall₂ Looked rs out) :
    out.map Record.key = rs.map Record.key := by
  induction h with
  | nil => rfl
  | cons he _ ih => simp [he.key, ih]

/-- A look at every record, on the machine alone. -/
structure LookStep (r s : Registry) : Prop where
  eq : s = { r with records := s.records, host := s.host }
  clock : r.host.clock ≤ s.host.clock
  looked : List.Forall₂ Looked r.records s.records

namespace LookStep

variable {r s : Registry}

theorem advances (h : LookStep r s) : Advances r s := by
  rw [h.eq]
  exact Advances.of_logs h.clock rfl rfl rfl

theorem config (h : LookStep r s) : s.config = r.config := by rw [h.eq]

theorem find? (h : LookStep r s) (k : ProfileKey) : Option.Rel Looked (r.find? k) (s.find? k) :=
  find?_looked h.looked k

theorem sorted (h : LookStep r s) (hs : Sorted r.records) : Sorted s.records :=
  hs.of_keys (Forall₂.looked_keys h.looked)

theorem lastIncarnation (h : LookStep r s) (k : ProfileKey) :
    s.lastIncarnation k = r.lastIncarnation k := by rw [h.eq]; rfl

end LookStep

theorem onHost_hostStep {α : Type} {r : Registry} (f : Host → α × Host)
    (hf : ∀ h, h.clock ≤ (f h).2.clock) :
    Triple (HostStep r) (Registry.onHost f) fun _ s => HostStep r s :=
  fun s hs => hs.trans ⟨rfl, hf s.host⟩

theorem modifyHost_hostStep {r : Registry} (f : Registry → Host)
    (hf : ∀ s, s.host.clock ≤ (f s).clock) :
    Triple (HostStep r) (modify fun s => { s with host := f s } : RegistryM Unit)
      fun _ s => HostStep r s :=
  fun s hs => hs.trans ⟨rfl, hf s⟩

namespace Registry

theorem pollExit_effect (e : Record) (r : Registry) :
    Triple (· = r) (pollExit e) fun res s => HostStep r s ∧ (res.isSome → e.handle.isSome) := by
  unfold pollExit
  split
  · exact Triple.pure' fun s hs => ⟨hs ▸ HostStep.refl _, fun h => by cases h⟩
  · next pid hh =>
    refine Triple.bind (Triple.mono (onHost_hostStep _ fun h => Nat.le_of_eq (h.clock_collect pid).symm)
      (fun s hs => hs ▸ HostStep.refl _) fun _ _ h => h) fun _ =>
      Triple.pure' fun s hs => ⟨hs, fun _ => by simp [hh]⟩
  · next pid hh =>
    exact Triple.get_bind fun s₀ =>
      Triple.pure' fun s ⟨hs, _⟩ => ⟨hs ▸ HostStep.refl _, fun _ => by simp [hh]⟩

theorem checked_effect (e : Record) (r : Registry) :
    Triple (· = r) (checked e) fun e' s => HostStep r s ∧ Looked e e' := by
  unfold checked
  refine Triple.bind (pollExit_effect e r) fun res => ?_
  split
  · next why =>
    exact Triple.pure' fun s ⟨hs, hh⟩ => ⟨hs, .inr (.inr ⟨hh rfl, why, rfl⟩)⟩
  · exact Triple.pure' fun s ⟨hs, _⟩ => ⟨hs, Looked.refl e⟩

/-- **Reaping** looks at every record once, on the machine alone. -/
theorem reap_effect (r : Registry) : Triple (· = r) reap fun _ s => LookStep r s := by
  unfold reap
  dsimp only
  refine Triple.get_bind_of_eq (Triple.bind
    (R := fun out s => HostStep r s ∧ List.Forall₂ Looked r.records out)
    (Triple.mono (Triple.forIn (fun rest out s => HostStep r s ∧
        ∃ pre, pre ++ rest = r.records ∧ List.Forall₂ Looked pre out) fun a rest out => ?_)
      (fun s hs => ⟨hs ▸ HostStep.refl _, [], by simp, .nil⟩)
      fun _ s h => by
        obtain ⟨hs, pre, hpre, hrel⟩ := h
        rw [List.append_nil] at hpre
        exact ⟨hs, hpre ▸ hrel⟩)
    fun out s h => ⟨by rw [h.1.eq]; rfl, h.1.clock, h.2⟩)
  -- one record: the look's outcome is appended to the records looked at so far
  have step : ∀ {out : List Record} {e : Record} {s : Registry},
      (HostStep r s ∧ ∃ pre, pre ++ a :: rest = r.records ∧ List.Forall₂ Looked pre out) →
      Looked a e → HostStep r s ∧ ∃ pre, pre ++ rest = r.records ∧
        List.Forall₂ Looked pre (out ++ [e]) := by
    rintro out e s ⟨hs, pre, hpre, hrel⟩ he
    exact ⟨hs, pre ++ [a], by simp [hpre], List.rel_append hrel (.cons he .nil)⟩
  refine Triple.bind (R := fun res s => (HostStep r s ∧
      ∃ pre, pre ++ a :: rest = r.records ∧ List.Forall₂ Looked pre out) ∧
      (res.isSome → a.handle.isSome))
    (fun s h => by
      obtain ⟨hs', hh⟩ := pollExit_effect a s s rfl
      exact ⟨⟨h.1.trans hs', h.2⟩, hh⟩) fun res => ?_
  split
  · next why => exact Triple.pure' fun s h => step h.1 (.inr (.inr ⟨h.2 rfl, why, rfl⟩))
  · split
    · next hst =>
      have hst : a.state = .starting := by simpa using hst
      split
      · -- a spawn still starting: promoted once the startup window has passed
        refine Triple.bind (R := fun _ s => HostStep r s ∧
            ∃ pre, pre ++ a :: rest = r.records ∧ List.Forall₂ Looked pre out)
          (fun s h => ⟨(onHost_hostStep Host.tick fun h => Nat.le_add_right _ _) s h.1.1,
            h.1.2⟩) fun n => Triple.pure' fun s h => step h ?_
        split
        · exact .inr (.inl ⟨hst, rfl⟩)
        · exact Looked.refl a
      · exact Triple.pure' fun s h => step h.1 (Looked.refl a)
    · exact Triple.pure' fun s h => step h.1 (Looked.refl a)

theorem terminate_effect (e : Record) (r : Registry) :
    Triple (HostStep r) (terminate e) fun _ s => HostStep r s := by
  unfold terminate
  have note : ∀ pid, Triple (HostStep r) (noteTermination e pid) fun _ s => HostStep r s :=
    fun _ => onHost_hostStep _ fun _ => Nat.le_refl _
  split
  · exact Triple.pure' fun _ h => h
  · exact Triple.bind (note _) fun _ => modifyHost_hostStep _ fun s => s.host.clock_le_stopChild _ _
  · exact Triple.bind (note _) fun _ =>
      modifyHost_hostStep _ fun s => s.host.clock_le_stopSurvivor _ _

theorem status_effect (target : StatusTarget) (r : Registry) :
    Triple (· = r) (status target) fun _ s => LookStep r s := by
  unfold status
  refine Triple.bind (reap_effect r) fun _ => Triple.get_bind fun s₀ => ?_
  split
  · exact Triple.pure' fun _ h => h.1
  · split
    · exact Triple.pure' fun _ h => h.1
    · exact Triple.pure' fun _ h => h.1

/-- **Stopping** takes the profile's record out and acts on the machine. -/
theorem stop_effect (key : ProfileKey) (r : Registry) :
    Triple (· = r) (stop key) fun _ s =>
      HostStep { r with records := r.records.filter (·.key != key) } s := by
  unfold stop
  refine Triple.get_bind fun r₀ => ?_
  dsimp only
  let r₁ : Registry := { r with records := r.records.filter (·.key != key) }
  refine Triple.bind (R := fun _ s => HostStep r₁ s)
    (fun s ⟨hs, _⟩ => by subst hs; exact HostStep.refl _) fun x => ?_
  split
  · split <;> exact Triple.pure' fun _ h => h
  · refine Triple.bind (terminate_effect _ r₁) fun _ => Triple.bind (R := fun _ s => HostStep r₁ s)
      (fun s hs => hs.trans (HostStep.of_host s _ (Nat.le_refl _))) fun _ => ?_
    -- the warnings about dependent daemons only read the table
    split
    · refine Triple.map (Triple.mono (Triple.forIn (fun _ _ s => HostStep r₁ s)
        fun a rest b => ?_) (fun _ h => h) fun _ _ h => h)
      refine Triple.get_bind fun s₀ => ?_
      split
      · exact Triple.pure' fun _ h => h.1
      · exact Triple.pure' fun _ h => h.1
    · exact Triple.pure' fun _ h => h

/-- **Stopping everything** empties the table and acts on the machine. -/
theorem stopAll_effect (r : Registry) :
    Triple (· = r) stopAll fun _ s => HostStep { r with records := [] } s := by
  unfold stopAll
  refine Triple.get_bind fun r₀ => ?_
  dsimp only
  refine Triple.bind (R := fun _ s => HostStep { r with records := [] } s)
    (fun s ⟨hs, _⟩ => by subst hs; exact HostStep.refl _) fun _ => ?_
  refine Triple.bind (Triple.forIn (fun _ _ s => HostStep { r with records := [] } s)
    fun entry rest _ => ?_) fun _ => Triple.pure' fun _ h => h
  exact Triple.bind (terminate_effect _ _) fun _ => Triple.bind
    (R := fun _ s => HostStep { r with records := [] } s)
    (fun s hs => hs.trans (HostStep.of_host s _ (Nat.le_refl _))) fun _ => Triple.pure' fun _ h => h

theorem noteRename_effect (kind : ProfileKind) (old new : String) (r : Registry) :
    ∃ renames, ((noteRename kind old new).run r).2 = { r with renames } := by
  unfold noteRename
  rw [StateT.run_modify]
  split
  · exact ⟨_, rfl⟩
  · exact ⟨_, rfl⟩

/-- What adoption has done so far: records added only for profiles without one, each the
record of a PID file at an incarnation its counter has reached, no counter lowered and no pump
started. -/
def Adopted (r s : Registry) : Prop :=
  Advances r s ∧ s.config = r.config ∧ (Sorted r.records → Sorted s.records) ∧
    (∀ k, s.find? k = r.find? k ∨ (r.find? k = none ∧
      ∃ pr : PidRecord, s.find? k = some (Record.ofPidRecord pr) ∧
        pr.incarnation ≤ s.lastIncarnation k)) ∧
    (∀ k, r.lastIncarnation k ≤ s.lastIncarnation k) ∧ s.pumps = r.pumps

theorem Adopted.host {r s : Registry} (h : Adopted r s) (host : Host)
    (hc : s.host.clock ≤ host.clock) : Adopted r { s with host } := by
  obtain ⟨ha, hc', hs, hk, hup, hp⟩ := h
  exact ⟨ha.trans (HostStep.of_host s host hc).advances, hc', hs, hk, hup, hp⟩

theorem Adopted.adopt {r s : Registry} (h : Adopted r s) (pr : PidRecord)
    (hnew : s.find? ⟨pr.kind, pr.name⟩ = none) :
    Adopted r ((put (Record.ofPidRecord pr)).run
      ((raiseIncarnation ⟨pr.kind, pr.name⟩ pr.incarnation).run s).2).2 := by
  obtain ⟨ha, hc, hs, hk, hup₀, hp⟩ := h
  let key : ProfileKey := ⟨pr.kind, pr.name⟩
  have hlast : ∀ k, ((put (Record.ofPidRecord pr)).run
      ((raiseIncarnation key pr.incarnation).run s).2).2.lastIncarnation k =
      if key = k then max pr.incarnation (s.lastIncarnation key) else s.lastIncarnation k :=
    fun k => lastIncarnation_cons_filter s key k _
  -- the adopted profile's counter is raised to the file's incarnation, and no other moves
  have hup : ∀ k, s.lastIncarnation k ≤ ((put (Record.ofPidRecord pr)).run
      ((raiseIncarnation key pr.incarnation).run s).2).2.lastIncarnation k := fun k => by
    rw [hlast k]
    split
    · next h => subst h; exact incarnation_le_max_right _ _
    · exact UInt32.le_refl _
  refine ⟨ha.trans (Advances.of_logs (Nat.le_refl _) rfl rfl rfl), hc,
    fun hr => sorted_insertRecord (hs hr) _, fun k => ?_, fun k => UInt32.le_trans (hup₀ k) (hup k),
    hp⟩
  have hfind : ((raiseIncarnation key pr.incarnation).run s).2.find? k = s.find? k := rfl
  rw [find?_put, show (Record.ofPidRecord pr).key = key from rfl, hfind]
  by_cases hkk : key = k
  · -- the adopted profile: it had no record, and its counter reaches the file's incarnation
    subst hkk
    rw [if_pos rfl]
    have hr : r.find? key = none := by
      rcases hk key with h | ⟨h, -⟩
      · rw [← h, hnew]
      · exact h
    refine .inr ⟨hr, pr, rfl, ?_⟩
    rw [hlast, if_pos rfl]
    exact incarnation_le_max_left _ _
  · rw [if_neg hkk]
    rcases hk k with h | ⟨h, pr', hpr', hle⟩
    · exact .inl h
    · exact .inr ⟨h, pr', hpr', UInt32.le_trans hle (hup k)⟩

/-- **Adopting** adds records only for profiles without one (`Adopted`). -/
theorem adopt_effect (r : Registry) : Triple (· = r) adopt fun _ s => Adopted r s := by
  unfold adopt
  have hrefl : Adopted r r := ⟨Advances.refl r, rfl, id, fun _ => .inl rfl, fun _ => UInt32.le_refl _,
    rfl⟩
  refine Triple.get_bind fun r₀ => ?_
  split
  · exact Triple.pure' fun _ ⟨hs, _⟩ => hs ▸ hrefl
  · dsimp only
    refine Triple.bind (R := fun _ s => Adopted r s)
      (Triple.mono (Triple.forIn (fun _ _ s => Adopted r s) fun f rest acc => ?_)
        (fun s ⟨hs, _⟩ => hs ▸ hrefl) fun _ _ h => h)
      fun _ => Triple.pure' fun _ h => h
    obtain ⟨file, text⟩ := f
    split
    · exact Triple.pure' fun _ h => h
    · split
      · exact Triple.bind (R := fun _ s => Adopted r s)
          (fun s h => h.host _ (Nat.le_refl _)) fun _ => Triple.pure' fun _ h => h
      · next pr _ =>
        refine Triple.get_bind fun s₀ => ?_
        dsimp only
        split
        · exact Triple.bind (R := fun _ s => Adopted r s)
            (fun s ⟨h, _⟩ => h.host _ (Nat.le_refl _)) fun _ => Triple.pure' fun _ h => h
        · next hok =>
          have hnew : s₀.find? ⟨pr.kind, pr.name⟩ = none := by
            cases h : s₀.find? ⟨pr.kind, pr.name⟩ with
            | none => rfl
            | some _ => exact absurd (by simp [h]) hok
          refine Triple.bind (R := fun _ s => s = ((raiseIncarnation ⟨pr.kind, pr.name⟩
              pr.incarnation).run s₀).2 ∧ Adopted r s₀)
            (fun s ⟨h, hs⟩ => by subst hs; exact ⟨rfl, h⟩) fun _ => ?_
          refine Triple.bind (R := fun _ s => Adopted r s)
            (fun s ⟨hs, h⟩ => by subst hs; exact h.adopt pr hnew) fun _ => ?_
          exact Triple.pure' fun _ h => h

end Registry

/-! ## Work on some profiles' records -/

/-- A stretch of work that advances the registry, keeps its configuration and the order of its
table, and changes no record of a profile outside `P`. -/
structure Touches (r : Registry) (P : ProfileKey → Prop) (s : Registry) : Prop where
  advances : Advances r s
  config : s.config = r.config
  sorted : Sorted r.records → Sorted s.records
  others : ∀ k, ¬ P k → s.find? k = r.find? k

namespace Touches

variable {r s u : Registry} {P Q : ProfileKey → Prop}

theorem refl (r : Registry) (P : ProfileKey → Prop) : Touches r P r :=
  ⟨Advances.refl r, rfl, id, fun _ _ => rfl⟩

theorem trans (h₁ : Touches r P s) (h₂ : Touches s P u) : Touches r P u :=
  ⟨h₁.advances.trans h₂.advances, h₂.config.trans h₁.config, fun hs => h₂.sorted (h₁.sorted hs),
    fun k hk => (h₂.others k hk).trans (h₁.others k hk)⟩

theorem mono (h : Touches r P s) (hPQ : ∀ k, P k → Q k) : Touches r Q s :=
  ⟨h.advances, h.config, h.sorted, fun k hk => h.others k fun hp => hk (hPQ k hp)⟩

theorem of_records (ha : Advances r s) (hc : s.config = r.config) (hr : s.records = r.records)
    (P : ProfileKey → Prop) : Touches r P s :=
  ⟨ha, hc, fun hs => hr ▸ hs, fun k _ => by unfold Registry.find?; rw [hr]⟩

theorem of_hostStep (h : HostStep r s) (P : ProfileKey → Prop) : Touches r P s :=
  of_records h.advances (by rw [h.eq]) h.records P

theorem put (h : Touches r P s) (y : Record) (hy : P y.key) :
    Touches r P ((Registry.put y).run s).2 := by
  refine h.trans ⟨?_, rfl, fun hs => sorted_insertRecord hs y, fun k hk => ?_⟩
  · exact Advances.of_logs (Nat.le_refl _) rfl rfl rfl
  · rw [Registry.find?_put, if_neg fun (he : y.key = k) => hk (he ▸ hy)]

theorem put_removePidFile (h : Touches r P s) (y : Record) (hy : P y.key) (key : ProfileKey) :
    Touches r P ((Registry.removePidFile key).run ((Registry.put y).run s).2).2 := by
  refine (h.put y hy).trans (of_hostStep ?_ _)
  exact ⟨rfl, Nat.le_refl _⟩

theorem take (h : Touches r P s) (key : ProfileKey) (hk : P key) :
    Touches r P ((Registry.take key).run s).2 := by
  refine h.trans ⟨Advances.of_logs (Nat.le_refl _) rfl rfl rfl, rfl, fun hs => hs.filter _,
    fun k hk' => ?_⟩
  rw [Registry.find?_take, if_neg fun (he : key = k) => hk' (he ▸ hk)]

end Touches

/-! ## Counters and pumps -/

/-- A stretch of work that spawns each profile of `ks` once and no other: their counters move
on by one and every other counter stays, and the pumps it starts, at most one to a profile of
`ks`, copy processes at the incarnations their spawns took. -/
structure SpawnsOnce (r : Registry) (ks : List ProfileKey) (s : Registry) : Prop where
  nodup : ks.Nodup
  counter : ∀ k, s.lastIncarnation k =
    if k ∈ ks then r.lastIncarnation k + 1 else r.lastIncarnation k
  pumps : ∃ new, s.pumps = r.pumps ++ new ∧ List.Sublist (new.map (·.key)) ks ∧
    ∀ p ∈ new, p.incarnation = r.lastIncarnation p.key + 1

namespace SpawnsOnce

variable {r s u : Registry} {ks ks' : List ProfileKey}

theorem of_eq (hi : s.incarnations = r.incarnations) (hp : s.pumps = r.pumps) :
    SpawnsOnce r [] s :=
  ⟨List.nodup_nil, fun k => by unfold Registry.lastIncarnation; rw [hi]; rfl,
    [], by rw [hp, List.append_nil], List.Sublist.slnil, fun _ h => by cases h⟩

theorem refl (r : Registry) : SpawnsOnce r [] r := of_eq rfl rfl

theorem trans (h₁ : SpawnsOnce r ks s) (h₂ : SpawnsOnce s ks' u) (hd : ∀ k ∈ ks', k ∉ ks) :
    SpawnsOnce r (ks ++ ks') u := by
  obtain ⟨hn₁, hc₁, new₁, hp₁, hs₁, hi₁⟩ := h₁
  obtain ⟨hn₂, hc₂, new₂, hp₂, hs₂, hi₂⟩ := h₂
  refine ⟨List.nodup_append.2 ⟨hn₁, hn₂, fun a ha b hb hab => hd b hb (hab ▸ ha)⟩, fun k => ?_,
    new₁ ++ new₂, by rw [hp₂, hp₁, List.append_assoc], by rw [List.map_append]; exact hs₁.append hs₂,
    fun p hp => ?_⟩
  · rw [hc₂, hc₁]
    by_cases hk' : k ∈ ks'
    · simp [hk', hd k hk']
    · by_cases hk : k ∈ ks <;> simp [hk, hk']
  · rcases List.mem_append.1 hp with hp | hp
    · exact hi₁ p hp
    · rw [hi₂ p hp, hc₁, if_neg (hd _ (hs₂.subset (List.mem_map_of_mem hp)))]

theorem trans_nil (h₁ : SpawnsOnce r [] s) (h₂ : SpawnsOnce s ks u) : SpawnsOnce r ks u :=
  h₁.trans h₂ fun _ _ h => by cases h

theorem congr (h : SpawnsOnce r ks s) (hi : u.incarnations = s.incarnations)
    (hp : u.pumps = s.pumps) : SpawnsOnce r ks u := by
  simpa using h.trans (of_eq hi hp) fun _ h => by cases h

theorem put (h : SpawnsOnce r ks s) (y : Record) : SpawnsOnce r ks ((Registry.put y).run s).2 :=
  h.congr rfl rfl

theorem hostStep (h : SpawnsOnce r ks s) (hs : HostStep s u) : SpawnsOnce r ks u :=
  h.congr (by rw [hs.eq]) (by rw [hs.eq])

theorem lookStep (h : SpawnsOnce r ks s) (hs : LookStep s u) : SpawnsOnce r ks u :=
  h.congr (by rw [hs.eq]) (by rw [hs.eq])

theorem last_of_not_mem (h : SpawnsOnce r ks s) {k : ProfileKey} (hk : k ∉ ks) :
    s.lastIncarnation k = r.lastIncarnation k :=
  (h.counter k).trans (if_neg hk)

theorem last_of_mem (h : SpawnsOnce r ks s) {k : ProfileKey} (hk : k ∈ ks) :
    s.lastIncarnation k = r.lastIncarnation k + 1 :=
  (h.counter k).trans (if_pos hk)

end SpawnsOnce

/-! ## Spawning -/

/-- What a spawn makes of a record: crashed, with no PID, when the program cannot start; or
holding a fresh child, starting, at some incarnation. Either way it keeps the record's key,
crash history, crash-loop flag and restart count. -/
def Spawned (e y : Record) : Prop :=
  (∃ why, y = { e.crash why with pid := none }) ∨
    ∃ pid startedAt started i, y = { e with
      handle := some (.spawned pid), pid := some pid, state := .starting,
      startedAt := some startedAt, started := some started, incarnation := i, lastError := none }

namespace Spawned

variable {e y : Record}

theorem key (h : Spawned e y) : y.key = e.key := by
  rcases h with ⟨_, rfl⟩ | ⟨_, _, _, _, rfl⟩ <;> rfl

theorem crashes (h : Spawned e y) : y.crashes = e.crashes := by
  rcases h with ⟨_, rfl⟩ | ⟨_, _, _, _, rfl⟩ <;> rfl

theorem crashLooped (h : Spawned e y) : y.crashLooped = e.crashLooped := by
  rcases h with ⟨_, rfl⟩ | ⟨_, _, _, _, rfl⟩ <;> rfl

theorem restarts (h : Spawned e y) : y.restarts = e.restarts := by
  rcases h with ⟨_, rfl⟩ | ⟨_, _, _, _, rfl⟩ <;> rfl

theorem handle (h : Spawned e y) : y.handle.isSome = y.state.isRunning := by
  rcases h with ⟨_, rfl⟩ | ⟨_, _, _, _, rfl⟩ <;> rfl

end Spawned

namespace Registry

/-- **A spawn** takes the profile's next incarnation and leaves the table as it is. A child
that starts gets a pump, which copies the lines the program writes under that incarnation. -/
theorem spawn_effect (e : Record) (r : Registry) :
    Triple (· = r) (spawn e) fun res s => Touches r (fun _ => False) s ∧
      s.lastIncarnation e.key = r.lastIncarnation e.key + 1 ∧
      (∀ k, k ≠ e.key → s.lastIncarnation k = r.lastIncarnation k) ∧ Spawned e res.1 ∧
      (res.1.state = .starting → res.1.incarnation = r.lastIncarnation e.key + 1) ∧
      (s.pumps = r.pumps ∨ ∃ p : Pump, s.pumps = r.pumps ++ [p] ∧ p.key = e.key ∧
        p.incarnation = r.lastIncarnation e.key + 1) := by
  unfold spawn
  -- the counter is moved on first
  let r₁ : Registry := { r with
    incarnations := (e.key, r.lastIncarnation e.key + 1) :: r.incarnations.filter (·.1 != e.key) }
  have hlast : ∀ k, r₁.lastIncarnation k =
      if e.key = k then r.lastIncarnation e.key + 1 else r.lastIncarnation k :=
    fun k => lastIncarnation_cons_filter r e.key k _
  refine Triple.bind (R := fun n s => n = r.lastIncarnation e.key + 1 ∧ s = r₁)
    (fun s hs => by subst hs; exact ⟨rfl, rfl⟩) fun n => ?_
  refine Triple.get_bind fun s₀ => ?_
  split
  · -- the program cannot start: the record crashes, and only the counter moved
    exact Triple.pure' fun s ⟨⟨hn, hs⟩, hs₀⟩ => by
      subst hs hs₀
      have hadv : Advances r r₁ := Advances.of_logs (Nat.le_refl _) rfl rfl rfl
      exact ⟨Touches.of_records hadv rfl rfl _, (hlast e.key).trans (if_pos rfl),
        fun k hk => (hlast k).trans (if_neg (Ne.symm hk)), .inl ⟨_, rfl⟩, (fun h => by cases h),
        .inl rfl⟩
  · -- a fresh child, whose output a new pump copies under the new incarnation
    next output ignoresTerm hprog =>
    refine Triple.bind (R := fun _ s => n = r.lastIncarnation e.key + 1 ∧ s₀ = r₁ ∧
        ∃ host : Host, s₀.host.clock ≤ host.clock ∧ s = { s₀ with host, pumps :=
          s₀.pumps ++ [⟨e.key, n, (s₀.host.spawn ignoresTerm).1, output⟩] })
      (fun s ⟨⟨hn, hs⟩, hs₀⟩ => by
        subst hs hs₀
        refine ⟨hn, rfl, _, ?_, rfl⟩
        simp only [Host.note, Host.clock_putFile]
        exact Nat.le_add_right _ _) fun _ => ?_
    refine Triple.pure' fun s ⟨hn, hs₀, host, hclock, hs⟩ => ?_
    subst hn hs₀ hs
    refine ⟨Touches.of_records ?_ (by rfl) (by rfl) _, (hlast e.key).trans (if_pos rfl),
      fun k hk => (hlast k).trans (if_neg (Ne.symm hk)), .inr ⟨_, _, _, _, rfl⟩, fun _ => rfl,
      .inr ⟨_, rfl, rfl, rfl⟩⟩
    exact ⟨hclock, rfl, rfl, List.prefix_append _ _⟩

theorem spawnsOnce_spawn (e : Record) (r : Registry) :
    SpawnsOnce r [e.key] ((spawn e).run r).2 := by
  obtain ⟨-, hlast, hother, -, -, hp⟩ := spawn_effect e r r rfl
  refine ⟨List.nodup_singleton _, fun k => ?_, ?_⟩
  · by_cases hk : k = e.key
    · subst hk
      rw [if_pos (List.mem_singleton_self _), hlast]
    · rw [if_neg (by simpa using hk), hother k hk]
  · rcases hp with hp | ⟨p, hp, hk, hi⟩
    · exact ⟨[], by rw [hp, List.append_nil], List.nil_sublist _, fun _ h => by cases h⟩
    · refine ⟨[p], hp, by simp [hk], fun q hq => ?_⟩
      rw [List.mem_singleton.1 hq, hi, hk]

end Registry

/-! ## Start -/

/-- A restart of the record `e` on a registry whose counter for its profile stood at `last`,
looked at once more: the spawned record, promoted or crashed. -/
def Respawned (last : UInt32) (e y : Record) : Prop :=
  ∃ y₀, Spawned e y₀ ∧ Looked y₀ y ∧ (y₀.state = .starting → y₀.incarnation = last + 1)

namespace Respawned

variable {last : UInt32} {e y : Record}

theorem key (h : Respawned last e y) : y.key = e.key := by
  obtain ⟨y₀, hs, hl, -⟩ := h
  rw [hl.key, hs.key]

theorem crashes (h : Respawned last e y) : y.crashes = e.crashes := by
  obtain ⟨y₀, hs, hl, -⟩ := h
  rw [hl.crashes, hs.crashes]

theorem crashLooped (h : Respawned last e y) : y.crashLooped = e.crashLooped := by
  obtain ⟨y₀, hs, hl, -⟩ := h
  rw [hl.crashLooped, hs.crashLooped]

theorem restarts (h : Respawned last e y) : y.restarts = e.restarts := by
  obtain ⟨y₀, hs, hl, -⟩ := h
  rw [hl.restarts, hs.restarts]

theorem handle (h : Respawned last e y) : y.handle.isSome = y.state.isRunning := by
  obtain ⟨y₀, hs, hl, -⟩ := h
  exact hl.handle hs.handle

theorem incarnation (h : Respawned last e y) :
    y.incarnation = last + 1 ∨ y.incarnation = e.incarnation := by
  obtain ⟨y₀, hs, hl, hi⟩ := h
  rw [hl.incarnation]
  rcases hs with ⟨_, rfl⟩ | ⟨_, _, _, _, rfl⟩
  · exact .inr rfl
  · exact .inl (hi rfl)

end Respawned

namespace Registry

/-- The record `start` goes on with, and the registry after its look: the profile's record, or a
fresh one, after a look at its process. -/
def startLook (r : Registry) (key : ProfileKey) : Record × Registry :=
  (checked ((r.find? key).getD (Record.fresh key))).run r

theorem startLook_spec (r : Registry) (key : ProfileKey) :
    HostStep r (startLook r key).2 ∧
      Looked ((r.find? key).getD (Record.fresh key)) (startLook r key).1 :=
  checked_effect _ r r rfl

theorem key_getD_fresh (r : Registry) (key : ProfileKey) :
    ((r.find? key).getD (Record.fresh key)).key = key := by
  cases h : r.find? key with
  | none => rfl
  | some e => simpa using List.find?_some h

theorem startLook_key (r : Registry) (key : ProfileKey) : (startLook r key).1.key = key :=
  (startLook_spec r key).2.key.trans (key_getD_fresh r key)

/-- What `start key` leaves: only the profile's own record changed. A profile not configured is
left alone; one found running after the look is stored back as looked at; any other is
restarted from the looked-at record with its crash history and crash-loop flag cleared, and
its counter moves on. Nothing else is spawned. -/
structure Started (r : Registry) (key : ProfileKey) (s : Registry) : Prop where
  touches : Touches r (· = key) s
  unknown : r.config.contains key.kind key.name = false → s.find? key = r.find? key
  running : r.config.contains key.kind key.name = true →
    (startLook r key).1.state.isRunning = true → s.find? key = some (startLook r key).1
  respawned : r.config.contains key.kind key.name = true →
    (startLook r key).1.state.isRunning = false →
    s.lastIncarnation key = r.lastIncarnation key + 1 ∧ ∃ y, s.find? key = some y ∧
      Respawned (r.lastIncarnation key)
        { (startLook r key).1 with crashLooped := false, crashes := [] } y
  spawns : SpawnsOnce r [] s ∨ SpawnsOnce r [key] s

/-- **Starting a profile** (`Started`). -/
theorem start_effect (key : ProfileKey) (r : Registry) :
    Triple (· = r) (start key) fun _ s => Started r key s := by
  unfold start
  refine Triple.get_bind_of_eq ?_
  obtain ⟨hstep, hlook⟩ := startLook_spec r key
  split
  · -- not configured: nothing changes
    next hc =>
    have hc : r.config.contains key.kind key.name = false := by simpa using hc
    exact Triple.pure' fun s hs => by
      subst hs
      exact ⟨Touches.refl s _, fun _ => rfl, fun h => absurd h (by simp [hc]),
        fun h => absurd h (by simp [hc]), .inl (SpawnsOnce.refl s)⟩
  · next hc =>
    have hc : r.config.contains key.kind key.name = true := by simpa using hc
    dsimp only
    refine Triple.bind_run ?_
    rw [show (checked ((r.find? key).getD (Record.fresh key))).run r = startLook r key from rfl]
    have htouch : Touches r (· = key) (startLook r key).2 := Touches.of_hostStep hstep _
    split
    · -- running after the look: stored back as it is
      next hrun =>
      refine Triple.bind (R := fun _ s => Started r key s) (fun s hs => ?_)
        fun _ => Triple.pure' fun _ h => h
      subst hs
      have hput := htouch.put _ (startLook_key r key)
      refine ⟨hput, fun h => absurd h (by simp [hc]), fun _ _ => ?_, fun _ h => ?_,
        .inl (((SpawnsOnce.refl r).hostStep hstep).congr rfl rfl)⟩
      · rw [find?_put, if_pos (startLook_key r key)]
      · rw [hrun] at h
        cases h
    · next hrun =>
      have hrun : (startLook r key).1.state.isRunning = false := by simpa using hrun
      let e' : Record := { (startLook r key).1 with crashLooped := false, crashes := [] }
      have hkey : e'.key = key := startLook_key r key
      -- after the spawn: the profile was spawned once, and the spawned record `y₀` is a
      -- restart that the rest of `start` may only look at
      let Tail : Registry → Prop := fun s => Touches r (· = key) s ∧ SpawnsOnce r [key] s
      let Sp : Record → Prop := fun y₀ => Spawned e' y₀ ∧
        (y₀.state = .starting → y₀.incarnation = r.lastIncarnation key + 1)
      have done : ∀ y s, Tail s → Respawned (r.lastIncarnation key) e' y →
          Started r key ((put y).run s).2 := by
        rintro y s ⟨ht, hsp⟩ hy
        refine ⟨ht.put y (hy.key.trans hkey), fun h => absurd h (by simp [hc]),
          fun _ h => absurd h (by simp [hrun]), fun _ _ => ⟨?_, y, ?_, hy⟩,
          .inr (hsp.congr rfl rfl)⟩
        · exact hsp.last_of_mem (List.mem_singleton_self _)
        · rw [find?_put, if_pos (hy.key.trans hkey)]
      have hhost : ∀ {s s' : Registry}, HostStep s s' → Tail s → Tail s' :=
        fun h ht => ⟨ht.1.trans (Touches.of_hostStep h _), ht.2.hostStep h⟩
      refine Triple.bind (R := fun res s => Tail s ∧ Sp res.1)
        (fun s hs => by
          subst hs
          obtain ⟨ht, -, -, hsp, hinc, -⟩ := spawn_effect e' _ _ rfl
          rw [hkey, hstep.lastIncarnation] at hinc
          have honce := ((SpawnsOnce.refl r).hostStep hstep).trans (spawnsOnce_spawn e' _)
            fun _ _ h => by cases h
          rw [hkey] at honce
          exact ⟨⟨htouch.trans (ht.mono fun _ h => h.elim), honce⟩, hsp, hinc⟩)
        fun res => ?_
      obtain ⟨y₀, failure⟩ := res
      -- the spawn is stored
      refine Triple.bind (R := fun _ s => Tail s ∧ Sp y₀ ∧ s.find? key = some y₀)
        (fun s ⟨⟨ht, honce⟩, hsp⟩ => ⟨⟨ht.put y₀ (hsp.1.key.trans hkey), honce.congr rfl rfl⟩,
          hsp, by rw [find?_put, if_pos (hsp.1.key.trans hkey)]⟩) fun _ => ?_
      split
      · exact Triple.pure' fun s ⟨⟨ht, honce⟩, ⟨hsp, hinc⟩, hf⟩ =>
          ⟨ht, fun h => absurd h (by simp [hc]), fun _ h => absurd h (by simp [hrun]),
            fun _ _ => ⟨honce.last_of_mem (List.mem_singleton_self _), y₀, hf, y₀,
              hsp, Looked.refl _, hinc⟩, .inr honce⟩
      · -- the startup window passes, and the spawn is looked at once more
        refine Triple.bind (R := fun _ s => Tail s ∧ Sp y₀)
          (fun s ⟨h, hsp, _⟩ => ⟨hhost (HostStep.of_host s _ (Host.clock_le_sleep _ _)) h, hsp⟩)
          fun _ => ?_
        refine Triple.bind (R := fun res s => (Tail s ∧ Sp y₀) ∧ (res.isSome → y₀.handle.isSome))
          (fun s ⟨h, hsp⟩ => by
            obtain ⟨hs', hh⟩ := pollExit_effect y₀ s s rfl
            exact ⟨⟨hhost hs' h, hsp⟩, hh⟩) fun res => ?_
        split
        · next why =>
          exact Triple.bind (R := fun _ s => Started r key s)
            (fun s ⟨⟨h, hsp, hinc⟩, hh⟩ =>
              done _ s h ⟨y₀, hsp, .inr (.inr ⟨hh rfl, why, rfl⟩), hinc⟩)
            fun _ => Triple.pure' fun _ h => h
        · dsimp only
          refine Triple.bind (R := fun _ s => Started r key s) (fun s ⟨⟨h, hsp, hinc⟩, _⟩ => ?_)
            fun _ => Triple.pure' fun _ h => h
          split
          · next hst => exact done _ s h ⟨y₀, hsp, .inr (.inl ⟨by simpa using hst, rfl⟩), hinc⟩
          · exact done _ s h ⟨y₀, hsp, Looked.refl _, hinc⟩

/-! ## Recovery -/

/-- The registry after the look a recovery pass starts with. -/
def looked (r : Registry) : Registry := (reap.run r).2

theorem looked_spec (r : Registry) : LookStep r r.looked := reap_effect r r rfl

end Registry

/-- What a recovery pass at instant `t` under policy `p` makes of the crashed record `e` of a
configured profile whose counter stood at `last` before the pass and stands at `last'` after
it: a restart, with the history the policy keeps and one restart more, at a new incarnation;
or, past the ceiling, the record stopped with the crash-loop error and the same history. -/
def PassVerdict (p : CrashPolicy) (t : Nat) (last last' : UInt32) (e : Record)
    (o : Option Record) : Prop :=
  match p.record e.crashes t with
  | (.restart, c) => last' = last + 1 ∧ ∃ y, o = some y ∧
      Spawned { e with crashes := c, restarts := e.restarts + 1 } y ∧
      (y.state = .starting → y.incarnation = last + 1)
  | (.giveUp n, c) => o = some { e with
      crashes := c, state := .stopped, crashLooped := true,
      lastError := some (Error.crashLoop e.key.kind e.key.name n p.windowSecs).message }

namespace PassVerdict

variable {p : CrashPolicy} {t : Nat} {last last' : UInt32} {e y : Record} {o : Option Record}

theorem of_restart (hv : (p.record e.crashes t).1 = .restart) (hlt : last' = last + 1)
    (hy : Spawned { e with crashes := (p.record e.crashes t).2, restarts := e.restarts + 1 } y)
    (hi : y.state = .starting → y.incarnation = last + 1) (ho : o = some y) :
    PassVerdict p t last last' e o := by
  unfold PassVerdict
  rcases hx : p.record e.crashes t with ⟨v, c⟩
  rw [hx] at hv hy
  dsimp only at hv
  subst hv
  exact ⟨hlt, y, ho, hy, hi⟩

theorem of_giveUp {n : Nat} (hv : (p.record e.crashes t).1 = .giveUp n)
    (ho : o = some { e with
      crashes := (p.record e.crashes t).2, state := .stopped, crashLooped := true,
      lastError := some (Error.crashLoop e.key.kind e.key.name n p.windowSecs).message }) :
    PassVerdict p t last last' e o := by
  unfold PassVerdict
  rcases hx : p.record e.crashes t with ⟨v, c⟩
  rw [hx] at hv ho
  dsimp only at hv
  subst hv
  exact ho

end PassVerdict

namespace Registry

/-- What a recovery pass of `r` leaves in `s` of the profile `k`, whose record `e` it found
crashed: no record if the profile is no longer configured, and otherwise the policy's verdict
at the instant of the pass. -/
def PassOutcome (r : Registry) (k : ProfileKey) (e : Record) (s : Registry) : Prop :=
  (r.config.contains k.kind k.name = false → s.find? k = none) ∧
  (r.config.contains k.kind k.name = true → PassVerdict r.policy r.looked.host.clock
    (r.lastIncarnation k) (s.lastIncarnation k) e (s.find? k))

theorem mem_crashedKeys {rs : List Record} (hs : Sorted rs) {k : ProfileKey} :
    k ∈ (rs.filter (·.state == .crashed)).map (·.key) ↔
      ∃ e, rs.find? (·.key == k) = some e ∧ e.state = .crashed := by
  constructor
  · intro hk
    obtain ⟨e, he, rfl⟩ := List.mem_map.1 hk
    obtain ⟨he, hc⟩ := List.mem_filter.1 he
    exact ⟨e, hs.find?_eq_some.2 ⟨he, rfl⟩, by simpa using hc⟩
  · rintro ⟨e, hf, hc⟩
    obtain ⟨he, rfl⟩ := hs.find?_eq_some.1 hf
    exact List.mem_map.2 ⟨e, List.mem_filter.2 ⟨he, by simp [hc]⟩, rfl⟩

theorem PassOutcome.congr {r s s' : Registry} {k : ProfileKey} {e : Record}
    (h : PassOutcome r k e s) (hf : s'.find? k = s.find? k)
    (hl : s'.lastIncarnation k = s.lastIncarnation k) : PassOutcome r k e s' := by
  unfold PassOutcome at h ⊢
  rw [hf, hl]
  exact h

/-- What a recovery pass leaves: the registry advanced, the configuration kept, and each
profile's record as the look left it, unless the look found it crashed; then `PassOutcome`. -/
structure Recovered (r s : Registry) : Prop where
  advances : Advances r s
  clock : r.looked.host.clock < s.host.clock
  config : s.config = r.config
  sorted : Sorted s.records
  kept : ∀ k, (∀ e, r.looked.find? k = some e → e.state ≠ .crashed) →
    s.find? k = r.looked.find? k
  passed : ∀ k e, r.looked.find? k = some e → e.state = .crashed → PassOutcome r k e s
  spawns : ∃ ks, SpawnsOnce r ks s ∧
    ∀ k ∈ ks, ∃ e, r.looked.find? k = some e ∧ e.state = .crashed

theorem Recovered.passed_or_kept {r s : Registry} (h : Recovered r s) (k : ProfileKey) :
    (∃ e, r.looked.find? k = some e ∧ e.state = .crashed ∧ PassOutcome r k e s) ∨
      ((∀ e, r.looked.find? k = some e → e.state ≠ .crashed) ∧
        s.find? k = r.looked.find? k) := by
  by_cases hcr : ∃ e, r.looked.find? k = some e ∧ e.state = .crashed
  · obtain ⟨e, he, hc⟩ := hcr
    exact .inl ⟨e, he, hc, h.passed k e he hc⟩
  · have hnot : ∀ e, r.looked.find? k = some e → e.state ≠ .crashed :=
      fun e he hc => hcr ⟨e, he, hc⟩
    exact .inr ⟨hnot, h.kept k hnot⟩

/-- A recovery pass at work on the crashed profiles `crashed`, `rest` still to visit: the
visited ones have their outcome and were spawned at most once each, and every other profile
keeps its looked-at record and its counter. -/
def PassSoFar (r : Registry) (crashed rest : List ProfileKey) (s : Registry) : Prop :=
  Touches (now.run r.looked).2 (fun k => k ∈ crashed ∧ k ∉ rest) s ∧ rest.Nodup ∧
    (∀ k ∈ rest, k ∈ crashed) ∧
    (∃ ks, SpawnsOnce (now.run r.looked).2 ks s ∧ ∀ k ∈ ks, k ∈ crashed ∧ k ∉ rest) ∧
    ∀ k e, k ∈ crashed → k ∉ rest → r.looked.find? k = some e → PassOutcome r k e s

namespace PassSoFar

variable {r s s' : Registry} {C rest : List ProfileKey} {key : ProfileKey}

theorem next (h : PassSoFar r C (key :: rest) s) (ht' : Touches s (· = key) s')
    (hsp : ∃ ks₁, SpawnsOnce s ks₁ s' ∧ ∀ k ∈ ks₁, k = key)
    (hkey : ∀ e, r.looked.find? key = some e → PassOutcome r key e s') :
    PassSoFar r C rest s' := by
  obtain ⟨ht, hnd, hrest, ⟨ks, hks, hksC⟩, hout⟩ := h
  obtain ⟨ks₁, h₁, hk₁⟩ := hsp
  have hkC : key ∈ C := hrest key List.mem_cons_self
  have hnotin : key ∉ rest := (List.nodup_cons.1 hnd).1
  have hkks : key ∉ ks := fun h => (hksC key h).2 List.mem_cons_self
  refine ⟨(ht.mono fun k hk => ⟨hk.1, fun h => hk.2 (List.mem_cons_of_mem _ h)⟩).trans
      (ht'.mono fun k hk => hk ▸ ⟨hkC, hnotin⟩), (List.nodup_cons.1 hnd).2,
    fun k hk => hrest k (List.mem_cons_of_mem _ hk),
    ⟨ks ++ ks₁, hks.trans h₁ fun k hk => hk₁ k hk ▸ hkks, fun k hk => ?_⟩,
    fun k e hk hk' he => ?_⟩
  · rcases List.mem_append.1 hk with hk | hk
    · exact ⟨(hksC k hk).1, fun h => (hksC k hk).2 (List.mem_cons_of_mem _ h)⟩
    · rw [hk₁ k hk]
      exact ⟨hkC, hnotin⟩
  · by_cases hkk : k = key
    · subst hkk
      exact hkey e he
    · have hk'' : k ∉ key :: rest := fun h => (List.mem_cons.1 h).elim hkk hk'
      exact (hout k e hk hk'' he).congr (ht'.others k hkk)
        (h₁.last_of_not_mem fun h => hkk (hk₁ k h))

theorem found (h : PassSoFar r ((r.looked.records.filter (·.state == .crashed)).map (·.key))
      (key :: rest) s) (hs : Sorted r.records) :
    ∃ e, s.find? key = some e ∧ r.looked.find? key = some e ∧ e.state = .crashed ∧
      s.lastIncarnation key = r.lastIncarnation key ∧ s.policy = r.policy := by
  obtain ⟨ht, _, hrest, ⟨ks, hks, hksC⟩, _⟩ := h
  obtain ⟨e, he, hc⟩ := (mem_crashedKeys (r.looked_spec.sorted hs)).1 (hrest key List.mem_cons_self)
  have hl₀ : HostStep r.looked (now.run r.looked).2 := HostStep.of_host _ _ (Nat.le_add_right _ _)
  refine ⟨e, ?_, he, hc, ?_, ht.advances.policy.trans
    (hl₀.advances.policy.trans r.looked_spec.advances.policy)⟩
  · rw [ht.others key fun h => h.2 List.mem_cons_self]
    exact he
  · rw [hks.last_of_not_mem fun h => (hksC key h).2 List.mem_cons_self, hl₀.lastIncarnation,
      r.looked_spec.lastIncarnation]

end PassSoFar

/-- **A recovery pass** (`Recovered`). -/
theorem recover_effect (r : Registry) (hs : Sorted r.records) :
    Triple (· = r) recover fun _ s => Recovered r s := by
  unfold recover
  refine Triple.get_bind_of_eq ?_
  dsimp only
  refine Triple.bind_run ?_
  show Triple (· = r.looked) _ _
  refine Triple.get_bind_of_eq ?_
  refine Triple.bind_run ?_
  -- the pass visits the profiles the look found crashed, at the instant it read
  let C := (r.looked.records.filter (·.state == .crashed)).map (·.key)
  have hsl : Sorted r.looked.records := r.looked_spec.sorted hs
  have hl₀ : HostStep r.looked (now.run r.looked).2 :=
    HostStep.of_host _ _ (Nat.le_add_right _ _)
  refine Triple.bind (R := fun _ s => PassSoFar r C [] s)
    (Triple.mono (Triple.forIn (fun rest _ s => PassSoFar r C rest s) fun key rest acc => ?_)
      (fun s hs' => by
        subst hs'
        exact ⟨Touches.refl _ _, (hsl.filter _).nodup_keys, fun k hk => hk,
          ⟨[], SpawnsOnce.refl _, fun _ h => by cases h⟩, fun k _ hk hk' => absurd hk hk'⟩)
      fun _ _ h => h)
    fun _ => Triple.pure' fun s h => ?_
  · -- one crashed profile
    split
    · -- a profile no longer configured: its record is dropped
      next hc =>
      have hc : r.config.contains key.kind key.name = false := by simpa using hc
      refine Triple.bind (R := fun _ s => PassSoFar r C rest s) (fun s h => ?_)
        fun _ => Triple.pure' fun _ h => h
      refine h.next ((Touches.refl s _).take key rfl) ⟨[], SpawnsOnce.of_eq rfl rfl, fun _ h => by cases h⟩ fun e _ =>
        ⟨fun _ => ?_, fun h => absurd h (by simp [hc])⟩
      rw [find?_take, if_pos rfl]
    · next hc =>
      have hc : r.config.contains key.kind key.name = true := by simpa using hc
      refine Triple.of_forall fun s h => Triple.get_bind_of_eq ?_
      obtain ⟨e, hf, he, -, hl, hpol⟩ := h.found hs
      rw [hf]
      refine Triple.get_bind_of_eq ?_
      rw [hpol]
      split
      · -- restarted: spawned with the kept history and one restart more
        next hv =>
        refine Triple.bind_run (Triple.bind_run ?_)
        obtain ⟨ht, hlast, -, hsp, hinc, -⟩ := spawn_effect { e with
          crashes := (r.policy.record e.crashes r.looked.host.clock).2,
          restarts := e.restarts + 1 } s s rfl
        have hek : e.key = key := (hsl.find?_eq_some.1 he).2
        have hyk : ((spawn { e with
            crashes := (r.policy.record e.crashes r.looked.host.clock).2,
            restarts := e.restarts + 1 }).run s).1.1.key = key := hsp.key.trans hek
        have hdone := h.next ((ht.mono fun _ h => h.elim).put _ hyk)
          ⟨_, (spawnsOnce_spawn _ s).put _, fun k hk => (List.mem_singleton.1 hk).trans hek⟩
          fun e' he' => by
            cases he.symm.trans he'
            refine ⟨fun h => absurd h (by simp [hc]), fun _ => ?_⟩
            refine PassVerdict.of_restart hv ?_ hsp ?_ ?_
            · show ((spawn _).run s).2.lastIncarnation key = r.lastIncarnation key + 1
              rw [← hek, hlast, hek, hl]
            · rw [← hl, ← hek]
              exact hinc
            · rw [find?_put, if_pos hyk]
        split
        · exact Triple.pure' fun _ hs => hs ▸ hdone
        · exact Triple.pure' fun _ hs => hs ▸ hdone
      · -- given up: stopped with the crash-loop error, and its PID file removed
        next n hv =>
        refine Triple.bind_run (Triple.bind_run ?_)
        have hek : e.key = key := (hsl.find?_eq_some.1 he).2
        subst hek
        refine Triple.pure' fun _ hs => hs ▸ h.next
          ((Touches.refl s _).put_removePidFile _ (by rfl) _)
          ⟨[], SpawnsOnce.of_eq rfl rfl, fun _ h => by cases h⟩ fun e' he' => ?_
        cases he.symm.trans he'
        refine ⟨fun h => absurd h (by simp [hc]), fun _ => PassVerdict.of_giveUp hv ?_⟩
        show ((put _).run s).2.find? e.key = _
        rw [find?_put, if_pos rfl]
        rfl
  · -- every crashed profile visited
    obtain ⟨ht, -, -, ⟨ks, hks, hksC⟩, hout⟩ := h
    refine ⟨r.looked_spec.advances.trans (hl₀.advances.trans ht.advances),
      Nat.lt_of_lt_of_le (Nat.lt_add_of_pos_right (by decide)) ht.advances.clock,
      ht.config.trans r.looked_spec.config, ht.sorted hsl,
      fun k hk => ht.others k fun ⟨hkC, _⟩ => ?_, fun k e he hc => ?_,
      ⟨ks, (((SpawnsOnce.refl r).lookStep r.looked_spec).hostStep hl₀).trans_nil hks,
        fun k hk => (mem_crashedKeys hsl).1 (hksC k hk).1⟩⟩
    · obtain ⟨e, he, hc⟩ := (mem_crashedKeys hsl).1 hkC
      exact hk e he hc
    · exact hout k e ((mem_crashedKeys hsl).2 ⟨e, he, hc⟩) List.not_mem_nil he

end Registry

end LabFleet.Supervisor
