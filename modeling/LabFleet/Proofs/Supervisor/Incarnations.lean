import LabFleet.Proofs.Supervisor.Effects

/-!
Incarnations, and the captured lines they tag.

Every spawn of a profile takes the next value of the profile's 32-bit counter, and an adoption
raises the counter to the incarnation of the PID file it reads. A spawned process gets a pump,
which copies each line the process writes into its profile's log as `[incarnation:pid] line`,
whenever its task gets to run. So as long as a profile's log holds only the lines of the
profile's own processes and its counter has room above it, every process with lines in the log
or still in a pump took an incarnation the counter has reached, one process to an incarnation,
and a spawn takes an incarnation above every one spawned or adopted before (`Attributed`).

Two things break this. A reload that moves a renamed profile carries the old profile's lines
over to the new name, but not the old profile's counter, and the new name's counter starts again
from its own value. And a counter at the top of its 32 bits wraps around to zero at the next
spawn.

Main statements:
  * `incarnations_follow_spawn_order`: on a run whose reloads find no rename pending and whose
    spawns find room above their counters (`Op.Attributes`), every record holds an incarnation
    its profile's counter has reached; every process with lines in a profile's log or in a pump
    took such an incarnation, one process to an incarnation; and the next operation lowers no
    counter and starts pumps only above the counter it found.
  * `renamed_log_repeats_incarnation` (the first condition is needed): daemon `a` is started,
    stopped and started again, noted as renamed to `b`, and the configuration reloaded with `b`
    alone. `b`'s log then holds the lines of `a`'s two processes, at incarnations 1 and 2, and
    those of `b`'s first process, at incarnation 1 again.
  * `adopted_top_incarnation_wraps` (the second is needed): a survivor of daemon `d` at
    incarnation `2 ^ 32 - 1` is adopted and stopped, and the next start of `d` takes
    incarnation 0.
-/

namespace LabFleet.Supervisor

open Control Config

set_option autoImplicit false

/-! ## Runs that keep the attribution -/

/-- An operation that writes to a profile's log only the lines of the profile's own processes:
a reload with no rename pending, or any operation other than a reload. -/
def Op.KeepsLines : Op → Registry → Prop
  | .reload _, r => r.renames = []
  | _, _ => True

/-- The profiles an operation may spawn: the started profile, or, for a recovery pass or a
reload, a profile with a record. -/
def Op.MaySpawn : Op → Registry → ProfileKey → Prop
  | .start key, _, k => k = key
  | .recover, r, k => (r.find? k).isSome
  | .reload _, r, k => (r.find? k).isSome
  | _, _, _ => False

/-- The counter of profile `k` has room for one more incarnation in its 32 bits. -/
def Registry.HasRoom (r : Registry) (k : ProfileKey) : Prop :=
  (r.lastIncarnation k).toNat + 1 < UInt32.size

instance (r : Registry) (k : ProfileKey) : Decidable (r.HasRoom k) :=
  inferInstanceAs (Decidable (_ < _))

/-- The operations of a run whose incarnations identify processes: each writes to a profile's
log only the profile's own lines, and finds room above the counter of every profile it may
spawn. -/
def Op.Attributes (a : Op) (r : Registry) : Prop :=
  a.KeepsLines r ∧ ∀ k, a.MaySpawn r k → r.HasRoom k

namespace Registry.HasRoom

variable {r : Registry} {k : ProfileKey}

theorem toNat_succ (h : r.HasRoom k) :
    (r.lastIncarnation k + 1).toNat = (r.lastIncarnation k).toNat + 1 := by
  rw [UInt32.toNat_add, UInt32.toNat_one]
  exact Nat.mod_eq_of_lt h

theorem lt_succ (h : r.HasRoom k) : r.lastIncarnation k < r.lastIncarnation k + 1 := by
  rw [UInt32.lt_iff_toNat_lt, h.toNat_succ]
  exact Nat.lt_succ_self _

end Registry.HasRoom

theorem SpawnsOnce.counter_le {r s : Registry} {ks : List ProfileKey} (h : SpawnsOnce r ks s)
    (hroom : ∀ k ∈ ks, r.HasRoom k) (k : ProfileKey) :
    r.lastIncarnation k ≤ s.lastIncarnation k := by
  rw [h.counter k]
  split
  · next hk => exact UInt32.le_of_lt (hroom k hk).lt_succ
  · exact UInt32.le_refl _

/-! ## Records -/

namespace Registry

/-- Every record holds an incarnation that its profile's counter has reached. -/
def Counted (r : Registry) : Prop :=
  ∀ k e, r.find? k = some e → e.incarnation ≤ r.lastIncarnation k

namespace Counted

variable {r s : Registry}

theorem congr (hc : r.Counted) (hf : ∀ k, s.find? k = r.find? k)
    (hl : ∀ k, r.lastIncarnation k ≤ s.lastIncarnation k) : s.Counted := fun k e he =>
  UInt32.le_trans (hc k e ((hf k).symm.trans he)) (hl k)

theorem look (hc : r.Counted) (h : LookStep r s) : s.Counted := fun k e' he' => by
  obtain ⟨e, he, hl⟩ := Looked.opt_some (he' ▸ h.find? k)
  rw [hl.incarnation, h.lastIncarnation k]
  exact hc k e he

theorem hostStep (hc : r.Counted) (h : HostStep r s) : s.Counted :=
  hc.congr (fun k => by unfold Registry.find?; rw [h.records])
    fun k => UInt32.le_of_eq (h.lastIncarnation k).symm

theorem take (hc : s.Counted) (key : ProfileKey) : ((take key).run s).2.Counted := fun k e he => by
  rw [find?_take] at he
  split at he
  · cases he
  · exact hc k e he

theorem put (hc : s.Counted) (y : Record) (hy : y.incarnation ≤ s.lastIncarnation y.key) :
    ((put y).run s).2.Counted := fun k e he => by
  rw [find?_put] at he
  split at he
  · next h =>
    cases he
    subst h
    exact hy
  · exact hc k e he

theorem touches {P : ProfileKey → Prop} (hc : r.Counted) (h : Touches r P s)
    (hl : ∀ k, r.lastIncarnation k ≤ s.lastIncarnation k)
    (hP : ∀ k, P k → ∀ e, s.find? k = some e → e.incarnation ≤ s.lastIncarnation k) :
    s.Counted := fun k e he => by
  by_cases hk : P k
  · exact hP k hk e he
  · rw [h.others k hk] at he
    exact UInt32.le_trans (hc k e he) (hl k)

theorem getD (hc : s.Counted) (k : ProfileKey) :
    ((s.find? k).getD (Record.fresh k)).incarnation ≤
      s.lastIncarnation ((s.find? k).getD (Record.fresh k)).key := by
  cases hf : s.find? k with
  | none => exact UInt32.zero_le
  | some e =>
    have hk : e.key = k := by simpa using List.find?_some hf
    rw [Option.getD_some, hk]
    exact hc k e hf

theorem startLook (hc : r.Counted) (key : ProfileKey) :
    (r.startLook key).1.incarnation ≤ r.lastIncarnation key := by
  have hkey : ((r.find? key).getD (Record.fresh key)).key = key :=
    (startLook_spec r key).2.key.symm.trans (startLook_key r key)
  rw [(startLook_spec r key).2.incarnation, ← congrArg r.lastIncarnation hkey]
  exact hc.getD key

end Counted

end Registry

theorem Spawned.incarnation_le {e y : Record} {i n : UInt32} (h : Spawned e y)
    (hi : y.state = .starting → y.incarnation = i) (hin : i ≤ n) (hen : e.incarnation ≤ n) :
    y.incarnation ≤ n := by
  rcases h with ⟨_, rfl⟩ | ⟨_, _, _, _, rfl⟩
  · exact hen
  · rw [hi rfl]
    exact hin

theorem PassVerdict.incarnation_le {p : CrashPolicy} {t : Nat} {last last' : UInt32}
    {e : Record} {o : Option Record} (hv : PassVerdict p t last last' e o)
    (he : e.incarnation ≤ last') : ∀ y, o = some y → y.incarnation ≤ last' := by
  unfold PassVerdict at hv
  split at hv
  · obtain ⟨hlast, y, rfl, hsp, hi⟩ := hv
    intro y' hy'
    cases hy'
    exact hsp.incarnation_le hi (UInt32.le_of_eq hlast.symm) he
  · intro y hy
    rw [hv] at hy
    cases hy
    exact he

/-- What a stretch of work keeps of the attribution: it advances the registry from `r`, and
leaves the table sorted with every record counted. -/
structure Counting (r s : Registry) : Prop where
  advances : Advances r s
  sorted : Sorted s.records
  counted : s.Counted

namespace Counting

variable {r s u : Registry}

theorem trans_look (h : Counting r s) (hl : LookStep s u) : Counting r u :=
  ⟨h.advances.trans hl.advances, hl.sorted h.sorted, h.counted.look hl⟩

theorem trans_host (h : Counting r s) (hl : HostStep s u) : Counting r u :=
  ⟨h.advances.trans hl.advances, hl.records ▸ h.sorted, h.counted.hostStep hl⟩

theorem take (h : Counting r s) (key : ProfileKey) : Counting r ((Registry.take key).run s).2 :=
  ⟨h.advances.trans (Advances.of_logs (Nat.le_refl _) rfl rfl rfl), h.sorted.filter _,
    h.counted.take key⟩

theorem put (h : Counting r s) (y : Record) (hy : y.incarnation ≤ s.lastIncarnation y.key) :
    Counting r ((Registry.put y).run s).2 :=
  ⟨h.advances.trans (Advances.of_logs (Nat.le_refl _) rfl rfl rfl),
    sorted_insertRecord h.sorted y, h.counted.put y hy⟩

theorem congr (h : Counting r s) (hc : s.host.clock ≤ u.host.clock) (hs : u.settings = s.settings)
    (hl : u.logs = s.logs) (hp : u.pumps = s.pumps) (hi : u.incarnations = s.incarnations)
    (hr : u.records = s.records) : Counting r u :=
  ⟨h.advances.trans (Advances.of_logs hc hs hl hp), hr ▸ h.sorted,
    h.counted.congr (fun k => by unfold Registry.find?; rw [hr])
      fun k => UInt32.le_of_eq (by unfold Registry.lastIncarnation; rw [hi])⟩

theorem spawn (h : Counting r s) {e : Record} (he : e.incarnation ≤ s.lastIncarnation e.key)
    (hroom : s.HasRoom e.key) :
    Counting r ((Registry.spawn e).run s).2 ∧ ((Registry.spawn e).run s).1.1.incarnation ≤
      ((Registry.spawn e).run s).2.lastIncarnation ((Registry.spawn e).run s).1.1.key := by
  obtain ⟨ht, hlast, -, hsp, hi, -⟩ := Registry.spawn_effect e s s rfl
  have hup := (Registry.spawnsOnce_spawn e s).counter_le fun k hk =>
    (List.mem_singleton.1 hk) ▸ hroom
  refine ⟨⟨h.advances.trans ht.advances, ht.sorted h.sorted,
    h.counted.touches ht hup fun _ hf => hf.elim⟩, ?_⟩
  rw [hsp.key, hlast]
  exact hsp.incarnation_le hi (UInt32.le_refl _)
    (UInt32.le_of_lt (UInt32.lt_of_le_of_lt he hroom.lt_succ))

end Counting

/-- What an operation does to the attribution, from `r` to `s`: it keeps the table sorted and
counted, lowers no counter, and the pumps it starts, at most one to a profile, copy processes at
incarnations above the counter it found and at most the counter it leaves. -/
structure Counts (r s : Registry) : Prop where
  counting : Counting r s
  counter : ∀ k, r.lastIncarnation k ≤ s.lastIncarnation k
  pumps : ∃ new, s.pumps = r.pumps ++ new ∧ (new.map (·.key)).Nodup ∧
    ∀ p ∈ new, r.lastIncarnation p.key < p.incarnation ∧ p.incarnation ≤ s.lastIncarnation p.key

theorem Counts.of_spawnsOnce {r s : Registry} {ks : List ProfileKey} (h : Counting r s)
    (hsp : SpawnsOnce r ks s) (hroom : ∀ k ∈ ks, r.HasRoom k) : Counts r s := by
  obtain ⟨new, hp, hsub, hinc⟩ := hsp.pumps
  refine ⟨h, hsp.counter_le hroom, new, hp, hsub.nodup hsp.nodup, fun p hp' => ?_⟩
  have hk : p.key ∈ ks := hsub.subset (List.mem_map_of_mem hp')
  rw [hinc p hp', hsp.last_of_mem hk]
  exact ⟨(hroom _ hk).lt_succ, UInt32.le_refl _⟩

/-! ## Captured lines -/

/-- A captured line of the process with PID `pid` at incarnation `i`: `[i:pid] line`. -/
def tagLine (i : UInt32) (pid : Nat) (line : String) : String :=
  "[" ++ toString i ++ ":" ++ toString pid ++ "] " ++ line

theorem Pump.tag_eq (p : Pump) (line : String) : p.tag line = tagLine p.incarnation p.pid line :=
  rfl

/-- The text of lines, each given as the incarnation and PID of the process that wrote it and
its text. -/
def tagged (ts : List (UInt32 × Nat × String)) : List String :=
  ts.map fun x => tagLine x.1 x.2.1 x.2.2

@[simp] theorem tagged_append (ts₁ ts₂ : List (UInt32 × Nat × String)) :
    tagged (ts₁ ++ ts₂) = tagged ts₁ ++ tagged ts₂ :=
  List.map_append

theorem suffix_tagged {l : List String} {ts : List (UInt32 × Nat × String)} (h : l <:+ tagged ts) :
    ∃ ts', ts' <:+ ts ∧ l = tagged ts' := by
  refine ⟨ts.drop ((tagged ts).length - l.length), List.drop_suffix _ _, ?_⟩
  calc l = (tagged ts).drop ((tagged ts).length - l.length) := List.suffix_iff_eq_drop.1 h
    _ = tagged (ts.drop ((tagged ts).length - l.length)) := by simp only [tagged, List.map_drop]

namespace LogBuffer

theorem lines_push (b : LogBuffer) (key k : ProfileKey) (line : String) :
    (b.push key line).lines k <:+ b.lines k ++ (if key = k then [line] else []) := by
  unfold push
  rw [lines_setLines]
  split
  · next h => subst h; exact List.drop_suffix _ _
  · simp

end LogBuffer

namespace Registry

/-- A process of profile `k`, as its incarnation and PID, with lines in `k`'s log, read as
`ts`, or in one of the pumps. -/
def Writer (r : Registry) (k : ProfileKey) (ts : List (UInt32 × Nat × String))
    (w : UInt32 × Nat) : Prop :=
  (∃ line, (w.1, w.2, line) ∈ ts) ∨ ∃ p ∈ r.pumps, p.key = k ∧ p.incarnation = w.1 ∧ p.pid = w.2

/-- What a registry shows of profile `k`'s processes: its log is `ts` tagged, and every process
with lines in the log or in a pump took an incarnation the counter has reached, one process to
an incarnation. -/
structure Attribution (r : Registry) (k : ProfileKey) (ts : List (UInt32 × Nat × String)) :
    Prop where
  lines : r.logs.lines k = tagged ts
  reached : ∀ w, r.Writer k ts w → w.1 ≤ r.lastIncarnation k
  one_pid : ∀ w w', r.Writer k ts w → r.Writer k ts w' → w.1 = w'.1 → w = w'

namespace Attribution

variable {r s : Registry} {k : ProfileKey} {ts : List (UInt32 × Nat × String)}

theorem of_writers (h : r.Attribution k ts) {ts' : List (UInt32 × Nat × String)}
    (hl : s.logs.lines k = tagged ts') (hw : ∀ w, s.Writer k ts' w → r.Writer k ts w)
    (hc : r.lastIncarnation k ≤ s.lastIncarnation k) : s.Attribution k ts' :=
  ⟨hl, fun w hw' => UInt32.le_trans (h.reached w (hw w hw')) hc,
    fun w w' h₁ h₂ => h.one_pid w w' (hw w h₁) (hw w' h₂)⟩

theorem congr (h : r.Attribution k ts) (hl : s.logs = r.logs) (hp : s.pumps = r.pumps)
    (hi : s.incarnations = r.incarnations) : s.Attribution k ts :=
  h.of_writers (by rw [hl]; exact h.lines) (fun w hw => by unfold Writer; rw [← hp]; exact hw)
    (UInt32.le_of_eq (by unfold lastIncarnation; rw [hi]))

/-- **The step lemma for operations.** An operation that starts pumps only above the counter it
found, at most one to a profile, keeps the attribution: a new process's incarnation is above
every old one's. -/
theorem counts (h : r.Attribution k ts) (hc : Counts r s) : s.Attribution k ts := by
  obtain ⟨new, hp, hnd, hnew⟩ := hc.pumps
  -- a process of `s` is one of `r`, or one that a new pump copies
  have hsplit : ∀ w, s.Writer k ts w →
      r.Writer k ts w ∨ ∃ p ∈ new, p.key = k ∧ p.incarnation = w.1 ∧ p.pid = w.2 := by
    rintro w (hl | ⟨p, hp', hk, hi, hpid⟩)
    · exact .inl (.inl hl)
    · rw [hp] at hp'
      rcases List.mem_append.1 hp' with hp' | hp'
      · exact .inl (.inr ⟨p, hp', hk, hi, hpid⟩)
      · exact .inr ⟨p, hp', hk, hi, hpid⟩
  -- an old process's incarnation is not a new one's
  have hfresh : ∀ w, r.Writer k ts w → ∀ p ∈ new, p.key = k → p.incarnation ≠ w.1 :=
    fun w hw p hp' hk hi => by
      have hlt := (hnew p hp').1
      rw [hk, hi] at hlt
      exact UInt32.not_le.2 hlt (h.reached w hw)
  refine ⟨by rw [hc.counting.advances.logs]; exact h.lines, fun w hw => ?_,
    fun w w' hw hw' hww => ?_⟩
  · rcases hsplit w hw with hw | ⟨p, hp', hk, hi, -⟩
    · exact UInt32.le_trans (h.reached w hw) (hc.counter k)
    · rw [← hi, ← hk]
      exact (hnew p hp').2
  · rcases hsplit w hw with hw | ⟨p, hp', hk, hi, hpid⟩ <;>
      rcases hsplit w' hw' with hw' | ⟨p', hp'', hk', hi', hpid'⟩
    · exact h.one_pid w w' hw hw' hww
    · exact absurd (hi'.trans hww.symm) (hfresh w hw p' hp'' hk')
    · exact absurd (hi.trans hww) (hfresh w' hw' p hp' hk)
    · -- two new pumps of one profile are one pump
      have hpp : p = p' := List.inj_on_of_nodup_map hnd hp' hp'' (hk.trans hk'.symm)
      subst hpp
      exact Prod.ext hww (hpid.symm.trans hpid')

/-- **The step lemma for pumps.** A pump that copies a line moves it from its pending lines to
its profile's log, the oldest lines dropping out at the capacity; no process is added. -/
theorem pumpLine (h : r.Attribution k ts) (i : Nat) : ∃ ts', (r.pumpLine i).Attribution k ts' := by
  unfold Registry.pumpLine
  split
  · exact ⟨ts, h⟩
  · next p hp =>
    have hmem : p ∈ r.pumps := List.mem_of_getElem? hp
    split
    · -- a pump with nothing left ends
      refine ⟨ts, h.of_writers h.lines (fun w hw => ?_) (UInt32.le_refl _)⟩
      rcases hw with hw | ⟨q, hq, hk, hi, hpid⟩
      · exact .inl hw
      · exact .inr ⟨q, (List.eraseIdx_sublist _ _).subset hq, hk, hi, hpid⟩
    · next line rest _ =>
      -- the log of `k` gains the line only if the pump is one of `k`'s
      have hsuf : (r.logs.push p.key (p.tag line)).lines k <:+
          tagged (ts ++ if p.key = k then [(p.incarnation, p.pid, line)] else []) := by
        have hpush := LogBuffer.lines_push r.logs p.key k (p.tag line)
        rw [h.lines] at hpush
        rw [tagged_append]
        split
        · exact hpush.trans (by rw [if_pos ‹_›]; exact List.suffix_refl _)
        · exact hpush.trans (by rw [if_neg ‹_›]; exact List.suffix_refl _)
      obtain ⟨ts', hts', hlines⟩ := suffix_tagged hsuf
      refine ⟨ts', h.of_writers hlines (fun w hw => ?_) (UInt32.le_refl _)⟩
      rcases hw with ⟨l, hl⟩ | ⟨q, hq, hk, hi, hpid⟩
      · rcases List.mem_append.1 (hts'.subset hl) with hl | hl
        · exact .inl ⟨l, hl⟩
        · split at hl
          · next hk =>
            have hw := List.mem_singleton.1 hl
            simp only [Prod.mk.injEq] at hw
            exact .inr ⟨p, hmem, hk, hw.1.symm, hw.2.1.symm⟩
          · cases hl
      · rcases List.mem_or_eq_of_mem_set hq with hq | hq
        · exact .inr ⟨q, hq, hk, hi, hpid⟩
        · subst hq
          exact .inr ⟨p, hmem, hk, hi, hpid⟩

end Attribution

end Registry

/-! ## Operations -/

/-- What a run keeps of the incarnations: a sorted table whose records hold incarnations their
counters have reached, and every profile's processes attributed. -/
structure Attributed (r : Registry) : Prop where
  sorted : Sorted r.records
  counted : r.Counted
  tagged : ∀ k, ∃ ts, r.Attribution k ts

namespace Registry

variable {r : Registry}

theorem commit_keeps {P : Registry → Prop} (c : LabConfig)
    (hP : ∀ s : Registry, P s → ∀ host : Host, host.clock = s.host.clock →
      P { s with config := c, host }) :
    Triple P (commit c) fun _ => P := by
  unfold commit
  refine Triple.get_bind fun s₀ => ?_
  split
  · exact Triple.bind (R := fun _ => P)
      (fun s h => by
        obtain ⟨h, hs⟩ := h
        subst hs
        exact hP _ h _ rfl)
      fun _ => Triple.pure' fun _ h => h
  · exact Triple.pure' fun _ h => h.1

/-- Before the respawns of a reload: the attribution kept, nothing spawned, and only profiles
with a record in `r` have one. -/
def ReloadPre (r s : Registry) : Prop :=
  Counting r s ∧ SpawnsOnce r [] s ∧ ∀ k, (s.find? k).isSome → (r.find? k).isSome

/-- A reload's plan so far: the records `rest` still to look at, from the reaped table `r₂`, with
distinct profiles; and respawns, each under the profile it comes from, a profile with a record
in `r` and not among `rest`, one to a profile. -/
def ReloadPlan (r r₂ : Registry) (rest : List Record) (sp : List (ProfileKey × ProfileKey)) :
    Prop :=
  (∀ x ∈ rest, x ∈ r₂.records) ∧ (rest.map (·.key)).Nodup ∧ (sp.map (·.2)).Nodup ∧
    ∀ p ∈ sp, p.1 = p.2 ∧ (r.find? p.2).isSome ∧ p.2 ∉ rest.map (·.key)

namespace ReloadPlan

variable {r₂ : Registry} {a : Record} {rest : List Record} {sp : List (ProfileKey × ProfileKey)}

theorem keep (h : ReloadPlan r r₂ (a :: rest) sp) : ReloadPlan r r₂ rest sp := by
  obtain ⟨hin, hnd, hsp, hp⟩ := h
  refine ⟨fun x hx => hin x (List.mem_cons_of_mem _ hx), (List.nodup_cons.1 hnd).2, hsp,
    fun p hp' => ?_⟩
  obtain ⟨h₁, h₂, h₃⟩ := hp p hp'
  exact ⟨h₁, h₂, fun h => h₃ (List.mem_cons_of_mem _ h)⟩

theorem push (h : ReloadPlan r r₂ (a :: rest) sp) (ha : (r.find? a.key).isSome) :
    ReloadPlan r r₂ rest (sp ++ [(a.key, a.key)]) := by
  obtain ⟨hin, hnd, hsp, hp⟩ := h
  have hnd' := hnd
  rw [List.map_cons, List.nodup_cons] at hnd'
  refine ⟨(keep ⟨hin, hnd, hsp, hp⟩).1, hnd'.2, ?_, fun p hp' => ?_⟩
  · rw [List.map_append, List.nodup_append]
    refine ⟨hsp, List.nodup_singleton _, fun x hx y hy hxy => ?_⟩
    obtain ⟨q, hq, rfl⟩ := List.mem_map.1 hx
    have hy' : y = a.key := by simpa using hy
    exact (hp q hq).2.2 (by simp [hxy, hy'])
  · rcases List.mem_append.1 hp' with hp' | hp'
    · exact (keep ⟨hin, hnd, hsp, hp⟩).2.2.2 p hp'
    · rw [List.mem_singleton.1 hp']
      exact ⟨rfl, ha, hnd'.1⟩

end ReloadPlan

namespace ReloadPre

variable {r s u : Registry}

theorem hostStep (h : ReloadPre r s) (hs : HostStep s u) : ReloadPre r u :=
  ⟨h.1.trans_host hs, h.2.1.hostStep hs, fun k hk => h.2.2 k (by
    unfold find? at hk ⊢
    rw [hs.records] at hk
    exact hk)⟩

theorem look (h : ReloadPre r s) (hs : LookStep s u) : ReloadPre r u := by
  refine ⟨h.1.trans_look hs, h.2.1.lookStep hs, fun k hk => h.2.2 k ?_⟩
  obtain ⟨e', he'⟩ := Option.isSome_iff_exists.1 hk
  obtain ⟨e, he, -⟩ := Looked.opt_some (he' ▸ hs.find? k)
  rw [he]
  rfl

theorem take (h : ReloadPre r s) (key : ProfileKey) : ReloadPre r ((take key).run s).2 := by
  refine ⟨h.1.take key, h.2.1.congr rfl rfl, fun k hk => h.2.2 k ?_⟩
  rw [find?_take] at hk
  split at hk
  · cases hk
  · exact hk

theorem counts (h : ReloadPre r s) : Counts r s :=
  Counts.of_spawnsOnce h.1 h.2.1 fun _ h => by cases h

end ReloadPre

/-- A reload's respawns so far: the attribution kept, the profiles `ks` spawned, each once and
each with a record in `r`; and the respawns `rest` still to do, each under the profile it comes
from, one to a profile, none of them spawned yet. -/
def ReloadSpawns (r : Registry) (rest : List (ProfileKey × ProfileKey)) (s : Registry) : Prop :=
  Counting r s ∧ (rest.map (·.2)).Nodup ∧ (∀ p ∈ rest, p.1 = p.2 ∧ (r.find? p.2).isSome) ∧
    ∃ ks, SpawnsOnce r ks s ∧ ∀ k ∈ ks, (r.find? k).isSome ∧ ∀ p ∈ rest, p.2 ≠ k

namespace ReloadSpawns

variable {r s u : Registry} {rest : List (ProfileKey × ProfileKey)}

theorem hostStep (h : ReloadSpawns r rest s) (hs : HostStep s u) : ReloadSpawns r rest u := by
  obtain ⟨hc, hnd, hd, ks, hks, hksr⟩ := h
  exact ⟨hc.trans_host hs, hnd, hd, ks, hks.hostStep hs, hksr⟩

theorem look (h : ReloadSpawns r rest s) (hs : LookStep s u) : ReloadSpawns r rest u := by
  obtain ⟨hc, hnd, hd, ks, hks, hksr⟩ := h
  exact ⟨hc.trans_look hs, hnd, hd, ks, hks.lookStep hs, hksr⟩

theorem counts (h : ReloadSpawns r [] s) (hroom : ∀ k, (r.find? k).isSome → r.HasRoom k) :
    Counts r s := by
  obtain ⟨hc, -, -, ks, hks, hksr⟩ := h
  exact Counts.of_spawnsOnce hc hks fun k hk => hroom k (hksr k hk).1

end ReloadSpawns

/-- **A reload with no rename pending keeps the attribution.** With no rename to follow, every
respawn is under the profile it comes from, one to a profile, so no log moves and each respawn
takes the next incarnation of a profile the reload has not spawned yet; the records it stops are
taken out, and the looks only promote or crash records. -/
theorem reload_counts (next : LabConfig) (hn : r.renames = []) (hs : Sorted r.records)
    (hc : r.Counted) (hroom : ∀ k, (r.find? k).isSome → r.HasRoom k) :
    Triple (· = r) (reload next) fun _ s => Counts r s := by
  unfold reload
  refine Triple.get_bind_of_eq (Triple.get_bind_of_eq ?_)
  dsimp only
  rw [hn]
  simp only [List.find?_nil, Option.map_none, Option.filter_none]
  -- the renames taken, the configuration committed and the records looked at
  have hpre : ∀ {s u : Registry}, ReloadPre r s → u.records = s.records →
      u.incarnations = s.incarnations → u.pumps = s.pumps → u.logs = s.logs →
      u.settings = s.settings → s.host.clock ≤ u.host.clock → ReloadPre r u :=
    fun {s u} h hr hi hp hl hs hc => ⟨h.1.congr hc hs hl hp hi hr, h.2.1.congr hi hp,
      fun k hk => h.2.2 k (by unfold find? at hk ⊢; rw [hr] at hk; exact hk)⟩
  refine Triple.bind (R := fun _ => ReloadPre r)
    (fun s hs' => by
      subst s
      exact hpre ⟨⟨Advances.refl r, hs, hc⟩, SpawnsOnce.refl r, fun _ h => h⟩ rfl rfl rfl rfl rfl
        (Nat.le_refl _)) fun _ => ?_
  refine Triple.bind (commit_keeps next fun s h host hclock =>
    hpre h rfl rfl rfl rfl rfl (Nat.le_of_eq hclock.symm)) fun res => ?_
  split
  · exact Triple.pure' fun _ h => h.counts
  refine Triple.bind (R := fun _ => ReloadPre r) (fun s h => h.look (reap_effect s s rfl))
    fun _ => ?_
  refine Triple.get_bind fun r₂ => Triple.of_forall fun s h => ?_
  obtain ⟨h₂, hs₂⟩ := h
  subst s
  -- the plan: every respawn is under the profile it comes from, one to a profile
  have hrec₂ : ∀ a ∈ r₂.records, (r.find? a.key).isSome := fun a ha =>
    h₂.2.2 a.key (by
      unfold find?
      rw [(Sorted.find?_eq_some h₂.1.sorted).2 ⟨ha, rfl⟩]
      rfl)
  refine Triple.bind
    (R := fun (acc : ReloadReport × List ProfileKey × List (ProfileKey × ProfileKey)) s =>
      s = r₂ ∧ ReloadPlan r r₂ [] acc.2.2)
    (Triple.mono (Triple.forIn (fun rest (acc : ReloadReport × List ProfileKey ×
        List (ProfileKey × ProfileKey)) s => s = r₂ ∧ ReloadPlan r r₂ rest acc.2.2)
        fun a rest acc => ?_)
      (fun s hs' => ⟨hs', fun _ hx => hx, h₂.1.sorted.nodup_keys, List.nodup_nil,
        fun _ hp => by cases hp⟩)
      fun _ _ h => h) fun acc => ?_
  · repeat' split
    all_goals first
      | exact Triple.pure' fun _ h => ⟨h.1, h.2.keep⟩
      | exact Triple.pure' fun _ h => ⟨h.1, h.2.push (hrec₂ a (h.2.1 a List.mem_cons_self))⟩
  refine Triple.of_forall fun s h => ?_
  obtain ⟨hs, hplan⟩ := h
  subst s
  -- the stops take records out and act on the machine
  refine Triple.bind (R := fun _ => ReloadPre r)
    (Triple.mono (Triple.forIn (fun _ _ => ReloadPre r) fun key rest _ => ?_)
      (fun s hs => by subst hs; exact h₂) fun _ _ h => h) fun _ => ?_
  · refine Triple.bind (R := fun _ => ReloadPre r) (fun s h => h.take key) fun x => ?_
    split
    · exact Triple.bind (R := fun _ => ReloadPre r)
        (fun s h => h.hostStep (terminate_effect _ s s (HostStep.refl s)))
        fun _ => Triple.bind (R := fun _ => ReloadPre r)
          (fun s h => h.hostStep (HostStep.of_host s _ (Nat.le_refl _)))
          fun _ => Triple.pure' fun _ h => h
    · exact Triple.pure' fun _ h => h
  -- the respawns, each onto the record of its own profile, one to a profile
  have hperm := spawnOrder_perm acc.2.2
  refine Triple.bind (R := fun _ => ReloadSpawns r [])
    (Triple.mono (Triple.forIn (fun rest _ s => ReloadSpawns r rest s) fun x rest _ => ?_)
      (fun s h => ⟨h.1, (hperm.map Prod.snd).nodup_iff.2 hplan.2.2.1,
        fun p hp => ⟨(hplan.2.2.2 p (hperm.subset hp)).1, (hplan.2.2.2 p (hperm.subset hp)).2.1⟩,
        [], h.2.1, fun _ h => by cases h⟩)
      fun _ _ h => h) fun _ => ?_
  · refine Triple.of_forall fun s₁ h => ?_
    obtain ⟨hcount, hnd, hdiag, ks, hks, hksr⟩ := h
    have hx := hdiag x List.mem_cons_self
    rw [if_neg (by simp [hx.1])]
    refine Triple.get_bind_of_eq ?_
    -- the profile is not spawned yet: its counter is the one the reload found
    have hxks : x.2 ∉ ks := fun h => (hksr x.2 h).2 x List.mem_cons_self rfl
    have hkey := key_getD_fresh s₁ x.2
    have hroom₁ : s₁.HasRoom ((s₁.find? x.2).getD (Record.fresh x.2)).key := by
      unfold HasRoom
      rw [hkey, hks.last_of_not_mem hxks]
      exact hroom _ hx.2
    refine Triple.bind (R := fun res s => Counting r s ∧
        res.1.incarnation ≤ s.lastIncarnation res.1.key ∧ SpawnsOnce r (ks ++ [x.2]) s)
      (fun s hs => by
        subst s
        obtain ⟨hc', hle⟩ := hcount.spawn (hcount.counted.getD _) hroom₁
        refine ⟨hc', hle, hks.trans ?_ fun k hk => (List.mem_singleton.1 hk) ▸ hxks⟩
        have hsp := spawnsOnce_spawn ((s₁.find? x.2).getD (Record.fresh x.2)) s₁
        rw [hkey] at hsp
        exact hsp) fun res => ?_
    refine Triple.bind (R := fun _ s => Counting r s ∧ SpawnsOnce r (ks ++ [x.2]) s)
      (fun s h => ⟨h.1.put _ h.2.1, h.2.2.put _⟩) fun _ => ?_
    have hnd' := hnd
    rw [List.map_cons, List.nodup_cons] at hnd'
    have hdone : ∀ s, Counting r s ∧ SpawnsOnce r (ks ++ [x.2]) s → ReloadSpawns r rest s := by
      intro s h
      refine ⟨h.1, hnd'.2,
        fun p hp => hdiag p (List.mem_cons_of_mem _ hp), ks ++ [x.2], h.2, fun k hk => ?_⟩
      rcases List.mem_append.1 hk with hk | hk
      · exact ⟨(hksr k hk).1, fun p hp => (hksr k hk).2 p (List.mem_cons_of_mem _ hp)⟩
      · rw [List.mem_singleton.1 hk]
        refine ⟨hx.2, fun p hp hpx => ?_⟩
        exact hnd'.1 (hpx ▸ List.mem_map_of_mem hp)
    split <;> exact Triple.pure' fun s h => hdone s h
  -- a pause for the respawns to settle, a last look, and a pass that only reads
  split
  · refine Triple.bind (R := fun _ => ReloadSpawns r [])
      (fun s h => h.hostStep (HostStep.of_host s _ (Host.clock_le_sleep _ _))) fun _ => ?_
    refine Triple.bind (R := fun _ => ReloadSpawns r []) (fun s h => h.look (reap_effect s s rfl))
      fun _ => ?_
    refine Triple.bind (R := fun _ => ReloadSpawns r [])
      (Triple.mono (Triple.forIn (fun _ _ => ReloadSpawns r []) fun _ _ _ => ?_) (fun _ h => h)
        fun _ _ h => h) fun _ => Triple.pure' fun _ h => h.counts hroom
    refine Triple.get_bind fun _ => ?_
    split <;> exact Triple.pure' fun _ h => h.1
  · exact Triple.pure' fun _ h => h.counts hroom

end Registry

namespace Attributed

variable {r s : Registry}

theorem of_counts (hi : Attributed r) (h : Counts r s) : Attributed s :=
  ⟨h.counting.sorted, h.counting.counted, fun k => (hi.tagged k).imp fun _ ht => ht.counts h⟩

theorem counting_refl (hi : Attributed r) : Counting r r :=
  ⟨Advances.refl r, hi.sorted, hi.counted⟩

theorem start_counts (hi : Attributed r) (key : ProfileKey) (hroom : r.HasRoom key) :
    Counts r ((Op.start key).apply r) := by
  obtain ⟨ht, hunknown, hrunning, hrespawned, hsp⟩ : Registry.Started r key ((Op.start key).apply r) :=
    Registry.start_effect key r r rfl
  -- the start spawns its own profile at most
  obtain ⟨ks, hks, hksk⟩ : ∃ ks, SpawnsOnce r ks ((Op.start key).apply r) ∧ ∀ k ∈ ks, k = key := by
    rcases hsp with h | h
    · exact ⟨[], h, fun _ h => by cases h⟩
    · exact ⟨[key], h, fun _ h => List.mem_singleton.1 h⟩
  have hroom' : ∀ k ∈ ks, r.HasRoom k := fun k hk => hksk k hk ▸ hroom
  have hup := hks.counter_le hroom'
  refine Counts.of_spawnsOnce ⟨ht.advances, ht.sorted hi.sorted,
    hi.counted.touches ht hup fun k hk e he => ?_⟩ hks hroom'
  subst hk
  -- the profile's record: left alone, stored back as looked at, or restarted
  cases hcf : r.config.contains k.kind k.name with
  | false =>
    rw [hunknown hcf] at he
    exact UInt32.le_trans (hi.counted k e he) (hup k)
  | true =>
    cases hrun : (r.startLook k).1.state.isRunning with
    | true =>
      rw [hrunning hcf hrun] at he
      cases he
      exact UInt32.le_trans (hi.counted.startLook k) (hup k)
    | false =>
      obtain ⟨hlast, y, hy, hres⟩ := hrespawned hcf hrun
      cases hy.symm.trans he
      rcases hres.incarnation with h | h
      · rw [h, hlast]
        exact UInt32.le_refl _
      · rw [h]
        exact UInt32.le_trans (hi.counted.startLook k) (hup k)

theorem recover_counts (hi : Attributed r) (hroom : ∀ k, (r.find? k).isSome → r.HasRoom k) :
    Counts r (Op.recover.apply r) := by
  have hs : Registry.Recovered r (Op.recover.apply r) := Registry.recover_effect r hi.sorted r rfl
  have hl := r.looked_spec
  have hlc := hi.counted.look hl
  obtain ⟨ks, hks, hksC⟩ := hs.spawns
  -- a profile the pass spawns had a crashed record after the look, so a record before it
  have hroom' : ∀ k ∈ ks, r.HasRoom k := fun k hk => by
    obtain ⟨e, he, -⟩ := hksC k hk
    obtain ⟨e₀, he₀, -⟩ := Looked.opt_some (he ▸ hl.find? k)
    exact hroom k (by rw [he₀]; rfl)
  have hup : ∀ k, r.looked.lastIncarnation k ≤ (Op.recover.apply r).lastIncarnation k :=
    fun k => (hl.lastIncarnation k).symm ▸ hks.counter_le hroom' k
  refine Counts.of_spawnsOnce ⟨hs.advances, hs.sorted, fun k e he => ?_⟩ hks hroom'
  -- a record the look found crashed is dropped, restarted or given up on; any other is kept
  rcases hs.passed_or_kept k with ⟨e₀, he₀, -, ho⟩ | ⟨-, hkept⟩
  · cases hcf : r.config.contains k.kind k.name with
    | false =>
      rw [ho.1 hcf] at he
      cases he
    | true => exact (ho.2 hcf).incarnation_le (UInt32.le_trans (hlc k e₀ he₀) (hup k)) e he
  · rw [hkept] at he
    exact UInt32.le_trans (hlc k e he) (hup k)

theorem adopt_counts (hi : Attributed r) : Counts r (Op.adopt.apply r) := by
  obtain ⟨ha, -, hsort, hk, hup, hp⟩ : Registry.Adopted r (Op.adopt.apply r) :=
    Registry.adopt_effect r r rfl
  refine ⟨⟨ha, hsort hi.sorted, fun k e he => ?_⟩, hup, [], by rw [hp, List.append_nil],
    List.nodup_nil, fun _ h => by cases h⟩
  rcases hk k with hf | ⟨-, pr, hf, hle⟩
  · rw [hf] at he
    exact UInt32.le_trans (hi.counted k e he) (hup k)
  · rw [hf] at he
    cases he
    exact hle

/-- **The step lemma for operations**: every operation that keeps each log to its own profile's
processes and finds room above the counters it may move counts. -/
theorem counts (hi : Attributed r) (a : Op) (ha : a.Attributes r) : Counts r (a.apply r) := by
  have h₀ := hi.counting_refl
  obtain ⟨hkeep, hroom⟩ := ha
  cases a with
  | start key => exact hi.start_counts key (hroom key rfl)
  | stop key =>
    have hs : HostStep ((Registry.take key).run r).2 ((Op.stop key).apply r) :=
      Registry.stop_effect key r r rfl
    have hsp : SpawnsOnce r [] ((Registry.take key).run r).2 := SpawnsOnce.of_eq rfl rfl
    exact Counts.of_spawnsOnce ((h₀.take key).trans_host hs) (hsp.hostStep hs) fun _ h => by cases h
  | status target =>
    have hs := Registry.status_effect target r r rfl
    exact Counts.of_spawnsOnce (h₀.trans_look hs) ((SpawnsOnce.refl r).lookStep hs)
      fun _ h => by cases h
  | reload next =>
    exact Registry.reload_counts next hkeep hi.sorted hi.counted hroom r rfl
  | noteRename kind old new =>
    obtain ⟨renames, hs⟩ := Registry.noteRename_effect kind old new r
    have hs : (Op.noteRename kind old new).apply r = { r with renames } := hs
    rw [hs]
    exact Counts.of_spawnsOnce (h₀.congr (Nat.le_refl _) rfl rfl rfl rfl rfl)
      (SpawnsOnce.of_eq rfl rfl) fun _ h => by cases h
  | recover => exact hi.recover_counts hroom
  | adopt => exact hi.adopt_counts
  | stopAll =>
    have hs : HostStep { r with records := [] } (Op.stopAll.apply r) :=
      Registry.stopAll_effect r r rfl
    have hempty : Counting r { r with records := [] } :=
      ⟨Advances.of_logs (Nat.le_refl _) rfl rfl rfl, List.Pairwise.nil, fun k e he => by cases he⟩
    have hsp : SpawnsOnce r [] { r with records := [] } := SpawnsOnce.of_eq rfl rfl
    exact Counts.of_spawnsOnce (hempty.trans_host hs) (hsp.hostStep hs) fun _ h => by cases h

theorem step (hi : Attributed r) (a : Op) (ha : a.Attributes r) : Attributed (a.apply r) :=
  hi.of_counts (hi.counts a ha)

/-- **The step lemma for what happens outside**: a pump moves a line from its pending lines to
its profile's log, and nothing else touches the table, the counters, the logs or the pumps. -/
theorem outside (hi : Attributed r) (w : Outside) : Attributed (w.apply r) := by
  refine ⟨by rw [Outside.records_apply]; exact hi.sorted,
    hi.counted.congr (fun k => by unfold Registry.find?; rw [Outside.records_apply]) fun k => ?_,
    fun k => ?_⟩
  · cases w
    case pump i => exact UInt32.le_of_eq (congrArg (·.lastIncarnation k) (r.pumpLine_frame i)).symm
    all_goals exact UInt32.le_refl _
  · obtain ⟨ts, ht⟩ := hi.tagged k
    cases w
    case pump i => exact ht.pumpLine i
    all_goals exact ⟨ts, ht.congr rfl rfl rfl⟩

end Attributed

/-- **The run lemma**: every registry reached by a run whose reloads find no rename pending and
whose spawns find room keeps the attribution. -/
theorem Reach.attributed {r : Registry} {O : Nat → Prop} (hr : Reach Op.Attributes r O) :
    Attributed r := by
  induction hr with
  | create config settings launcher host hc =>
    unfold Registry.create at hc
    dsimp only at hc
    split at hc
    · next r' hrun =>
      have hr : (StateT.run (Registry.commit config) _).2 = r' := congrArg Prod.snd hrun
      cases hc
      rw [← hr]
      -- a registry with no records, empty logs and no pumps, then the commit of its
      -- configuration
      have hempty : Attributed
          { config := {}, settings, launcher, logs := LogBuffer.new settings.logLines, host } :=
        ⟨List.Pairwise.nil, fun k e he => (by cases he), fun k =>
          ⟨[], rfl, fun w hw => (by rcases hw with ⟨_, h⟩ | ⟨_, h, _⟩ <;> cases h),
            fun w _ hw => (by rcases hw with ⟨_, h⟩ | ⟨_, h, _⟩ <;> cases h)⟩⟩
      refine hempty.of_counts (Registry.ReloadPre.counts (Registry.commit_keeps config
        (fun s h host hclock => ⟨h.1.congr (Nat.le_of_eq hclock.symm) rfl rfl rfl rfl rfl,
          h.2.1.congr rfl rfl, fun k hk => h.2.2 k hk⟩) _ ?_))
      exact ⟨hempty.counting_refl, SpawnsOnce.refl _, fun _ h => h⟩
    · cases hc
  | op a _ ha ih => exact ih.step a ha
  | outside w _ ih => exact ih.outside w

/-! ## Incarnations over a run -/

/-- **Incarnations follow the order of spawns.** On a run whose reloads find no rename pending
and whose spawns find room above their counters, at every profile: every record holds an
incarnation the profile's counter has reached; every process with lines in the profile's log or
in a pump took such an incarnation, one process to an incarnation; and the next operation lowers
no counter and starts the profile's pumps only above the counter it found. So every spawn's
lines carry an incarnation above every incarnation spawned or adopted for the profile before. -/
theorem incarnations_follow_spawn_order {r : Registry} {O : Nat → Prop}
    (hr : Reach Op.Attributes r O) (k : ProfileKey) :
    (∀ e, r.find? k = some e → e.incarnation ≤ r.lastIncarnation k) ∧
    (∃ ts, r.Attribution k ts) ∧
    ∀ a : Op, a.Attributes r → r.lastIncarnation k ≤ (a.apply r).lastIncarnation k ∧
      ∃ new, (a.apply r).pumps = r.pumps ++ new ∧
        ∀ p ∈ new, p.key = k → r.lastIncarnation k < p.incarnation := by
  have hi := hr.attributed
  refine ⟨hi.counted k, hi.tagged k, fun a ha => ?_⟩
  have hc := hi.counts a ha
  obtain ⟨new, hp, -, hnew⟩ := hc.pumps
  refine ⟨hc.counter k, new, hp, fun p hp' hk => ?_⟩
  rw [← hk]
  exact (hnew p hp').1

/-- A daemon that writes one line is started and its line copied, then stopped, started again
and the new line copied: its log holds the line of each of its two processes, at incarnations
1 and 2. -/
theorem restarted_daemon_log_in_spawn_order :
    ∃ r O, Reach Op.Attributes r O ∧
      r.logs.lines ⟨.daemon, "a"⟩ = [tagLine 1 4000 "up", tagLine 2 4001 "up"] ∧
      ∃ ts, r.Attribution ⟨.daemon, "a"⟩ ts := by
  have hr : Reach Op.Attributes _ _ :=
    Reach.outside (.pump 1) (Reach.op (.start ⟨.daemon, "a"⟩)
      (Reach.op (.stop ⟨.daemon, "a"⟩) (Reach.outside (.pump 0) (Reach.op (.start ⟨.daemon, "a"⟩)
        (Reach.create { daemons := [("a", {})] } {} ⟨fun _ _ => .idle ["up"], fun _ _ _ => true⟩ {}
          rfl (by simp) (by decide))
        ⟨trivial, fun k hk => by subst hk; decide +kernel⟩))
        ⟨trivial, fun _ h => h.elim⟩)
      ⟨trivial, fun k hk => by subst hk; decide +kernel⟩)
  exact ⟨_, _, hr, by decide +kernel, (incarnations_follow_spawn_order hr ⟨.daemon, "a"⟩).2.1⟩

/-- **A rename carries lines but not the counter.** Daemon `a`, which writes one line, is
started, stopped and started again, noted as renamed to `b`, and the configuration is reloaded
with `b` alone. The reload moves `a`'s log to `b` and spawns `b` at `b`'s own first incarnation:
`b`'s log holds the lines of two processes at incarnation 1, PIDs 4000 and 4002. -/
theorem renamed_log_repeats_incarnation :
    ∃ r O, Reach (fun _ _ => True) r O ∧
      r.logs.lines ⟨.daemon, "b"⟩ =
        [tagLine 1 4000 "up", tagLine 2 4001 "up", tagLine 1 4002 "up"] := by
  have hr : Reach (fun _ _ => True) _ _ :=
    Reach.outside (.pump 2) (Reach.op (.reload { daemons := [("b", {})] })
      (Reach.op (.noteRename .daemon "a" "b") (Reach.outside (.pump 1)
        (Reach.op (.start ⟨.daemon, "a"⟩) (Reach.op (.stop ⟨.daemon, "a"⟩)
          (Reach.outside (.pump 0) (Reach.op (.start ⟨.daemon, "a"⟩)
            (Reach.create { daemons := [("a", {})] } {}
              ⟨fun _ _ => .idle ["up"], fun _ _ _ => true⟩ {} rfl (by simp) (by decide))
            trivial)) trivial) trivial)) trivial) trivial)
  exact ⟨_, _, hr, by decide +kernel⟩

/-- **A counter at the top wraps.** A survivor of daemon `d` left a PID file at incarnation
`2 ^ 32 - 1`; it is adopted, which raises `d`'s counter to the top, and stopped. The next start
of `d` takes incarnation 0, below the one adopted before. -/
theorem adopted_top_incarnation_wraps :
    ∃ r O, Reach (fun _ _ => True) r O ∧ r.lastIncarnation ⟨.daemon, "d"⟩ = 4294967295 ∧
      (((Op.start ⟨.daemon, "d"⟩).apply r).find? ⟨.daemon, "d"⟩).map (·.incarnation) =
        some 0 := by
  have hr : Reach (fun _ _ => True) _ _ :=
    Reach.op (.stop ⟨.daemon, "d"⟩) (Reach.op .adopt
      (Reach.outside (.putFile (PidRecord.fileName .daemon "d")
          ({ kind := .daemon, name := "d", pid := 4000, incarnation := 4294967295,
             startedAt := default } : PidRecord).toJson.write)
        (Reach.outside (.spawn false)
          (Reach.create { daemons := [("d", {})] } {} ⟨fun _ _ => .idle [], fun _ _ _ => true⟩
            { runDir := some [] } rfl (by simp) (by decide)))) trivial) trivial
  exact ⟨_, _, hr, by decide +kernel, by decide +kernel⟩

end LabFleet.Supervisor
