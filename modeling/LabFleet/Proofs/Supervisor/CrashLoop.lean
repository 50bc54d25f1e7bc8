import LabFleet.Proofs.Supervisor.CrashWindow
import LabFleet.Proofs.Supervisor.LoopFlags

/-!
The crash policy over whole runs.

A recovery pass counts a crash of every configured profile whose record its look finds crashed,
at the instant it reads, and then restarts the profile or gives up on it. The crash history of a
profile is the list of instants of the passes that counted a crash of it since its record was
created or an operator's `start` last restarted it (`PolicyRun` carries it along a run as ghost
state). A pass at instant `t` that counts a crash of a profile counts `n` crashes: its own and
those of the history at most a window before `t`.

Main statement, on every run none of whose reloads follows a noted rename onto a crash-looped
profile (`crash_window_decides_recovery`):
  * with `n` at most the ceiling, the pass restarts the profile, with one restart more and a
    crash list of exactly those `n` instants; past the ceiling it leaves the record stopped,
    flagged as crash-looped, with the crash-loop error naming `n`;
  * a crashed record of a profile no longer configured is dropped;
  * a crash-looped record is stopped and holds no process, and a pass leaves it as it is, until
    an operator's start restarts it with the flag and the crash list cleared.

The policy keeps its window by dropping from the front of a record's crash list only; the crash
lists are in time order because the monotonic clock only goes forward, so this is a filter by
the window (`CrashPolicy.forget_eq_filter`). A reload keeps a record's crash list or leaves a
record with none (`Registry.Descends`), so a profile's history is kept or cleared with it. A
reload that moves a running record onto a crash-looped profile is the exception: it spawns onto
that profile's record, flag and crash list included, without a start
(`reload_restarts_looped_profile`).
-/

namespace LabFleet.Supervisor

open Control Config

set_option autoImplicit false

/-! ## Crash histories along a run -/

/-- For every profile, the instants of the recovery passes that counted a crash of it. -/
abbrev History := ProfileKey → List Nat

namespace Registry

/-- Whether a recovery pass of `r` counts a crash of the profile `k`: its look finds the
record of a configured profile crashed. -/
def passCounts (r : Registry) (k : ProfileKey) : Bool :=
  r.config.contains k.kind k.name && (r.looked.find? k).any (·.state == .crashed)

/-- The crashes the next recovery pass of `r` counts for the profile `k`, given its crash history:
the pass's own crash, and those of the history at most a window before the pass. -/
def passCrashes (r : Registry) (H : History) (k : ProfileKey) : List Nat :=
  r.policy.windowCrashes (H k) r.looked.host.clock

/-- Whether `start key` restarts the profile: it is configured, and its record is not running
after the look. -/
def startRespawns (r : Registry) (key : ProfileKey) : Bool :=
  r.config.contains key.kind key.name && !(r.startLook key).1.state.isRunning

end Registry

namespace Op

/-- How an operation extends the crash histories: a recovery pass adds its instant to every
profile it counts a crash of, and a start that restarts a profile clears its history. A reload
keeps the history of a profile whose record keeps its crash list and clears any other: a record
it creates afresh has no crashes. -/
def counted : Op → Registry → History → History
  | .start key, r, H => fun k => if k = key ∧ r.startRespawns key = true then [] else H k
  | .recover, r, H => fun k => if r.passCounts k = true then H k ++ [r.looked.host.clock] else H k
  | .reload next, r, H => fun k =>
    if (((Op.reload next).apply r).find? k).map (·.crashes) = (r.find? k).map (·.crashes) then H k
    else []
  | _, _, H => H

/-- The crash histories after an operation: a profile left without a record has none. -/
def history (a : Op) (r : Registry) (H : History) : History :=
  fun k => if (a.apply r).find? k = none then [] else a.counted r H k

end Op

/-- The registries a run reaches, with their crash histories, when none of its reloads follows
a noted rename onto a crash-looped profile (`Op.SparesLooped`). -/
inductive PolicyRun : Registry → History → Prop where
  | create (config : LabConfig) (settings : Settings) (launcher : Launcher) (host : Host)
      {r : Registry} (hc : Registry.create config settings launcher host = .ok r) :
      PolicyRun r fun _ => []
  | op {r : Registry} {H : History} (a : Op) (hr : PolicyRun r H) (ha : a.SparesLooped r) :
      PolicyRun (a.apply r) (a.history r H)
  | outside {r : Registry} {H : History} (w : Outside) (hr : PolicyRun r H) :
      PolicyRun (w.apply r) H

theorem PolicyRun.consistent {r : Registry} {H : History} (hr : PolicyRun r H) : r.Consistent := by
  induction hr with
  | create _ _ _ _ hc => exact Registry.Consistent.empty (Registry.create_spec hc).1
  | op a _ ha ih => exact a.consistent ih ha
  | outside w _ ih => exact ih.of_records (Outside.records_apply w _)

/-! ## The invariant -/

/-- What such a run keeps at one profile: without a record it has no history; its
history is in time order and before the clock; its record's crash list ends its history, every
earlier pass being out of the window by now; the record holds a process exactly while it counts
as running; and a crash-looped record is stopped. -/
structure KeyInv (r : Registry) (H : History) (k : ProfileKey) : Prop where
  absent : r.find? k = none → H k = []
  sorted : (H k).Pairwise (· < ·)
  past : ∀ x ∈ H k, x < r.host.clock
  crashes : ∀ e, r.find? k = some e → ∃ old, H k = old ++ e.crashes ∧
    ∀ x ∈ old, r.policy.window < r.host.clock - x
  handle : ∀ e, r.find? k = some e → e.handle.isSome = e.state.isRunning
  looped : ∀ e, r.find? k = some e → e.crashLooped = true → e.state = .stopped

/-- The invariant of such a run: a sorted table, and `KeyInv` at every profile. -/
structure PolicyInv (r : Registry) (H : History) : Prop where
  sorted : Sorted r.records
  key : ∀ k, KeyInv r H k

theorem Record.handle_eq_none {e : Record} (h : e.handle.isSome = e.state.isRunning)
    (hs : e.state.isRunning = false) : e.handle = none := by
  rw [hs] at h
  simpa using h

namespace KeyInv

variable {r s : Registry} {H H' : History} {k : ProfileKey}

theorem idle (hi : KeyInv r H k) {e : Record} (he : r.find? k = some e)
    (hs : e.state.isRunning = false) : e.handle = none :=
  Record.handle_eq_none (hi.handle e he) hs

theorem looked_looped (hi : KeyInv r H k) {e e' : Record} (he : r.find? k = some e)
    (hl : Looked e e') (hf : e.crashLooped = true) : e' = e := by
  have hs := hi.looped e he hf
  exact hl.idle (by rw [hs]; decide) (hi.idle he (by rw [hs]; rfl))

theorem look (hi : KeyInv r H k) (hl : Option.Rel Looked (r.find? k) (s.find? k))
    (hc : r.host.clock ≤ s.host.clock) (hp : s.policy = r.policy) : KeyInv s H k := by
  refine ⟨fun hn => hi.absent (Looked.opt_none (hn ▸ hl)), hi.sorted,
    fun x hx => Nat.lt_of_lt_of_le (hi.past x hx) hc, fun e' he' => ?_, fun e' he' => ?_,
    fun e' he' hf => ?_⟩
  all_goals obtain ⟨e, he, hl⟩ := Looked.opt_some (he' ▸ hl)
  · obtain ⟨old, hold, hout⟩ := hi.crashes e he
    refine ⟨old, by rw [hl.crashes]; exact hold, fun x hx => ?_⟩
    have := hout x hx
    rw [hp]
    omega
  · exact hl.handle (hi.handle e he)
  · rw [hl.crashLooped] at hf
    rw [hi.looked_looped he hl hf]
    exact hi.looped e he hf

theorem congr (hi : KeyInv r H k) (hH : H' k = H k) : KeyInv r H' k := by
  obtain ⟨ha, hs, hp, hc, hh, hl⟩ := hi
  exact ⟨fun h => hH.trans (ha h), hH ▸ hs, hH ▸ hp, fun e he => hH ▸ hc e he, hh, hl⟩

theorem fresh (hs : ∀ e, s.find? k = some e → e.crashes = [] ∧ e.crashLooped = false ∧
      e.handle.isSome = e.state.isRunning) (hH : H' k = []) : KeyInv s H' k := by
  refine ⟨fun _ => hH, by rw [hH]; exact List.Pairwise.nil, fun x hx => by simp [hH] at hx,
    fun e he => ⟨[], by rw [hH, (hs e he).1]; rfl, fun _ h => absurd h List.not_mem_nil⟩,
    fun e he => (hs e he).2.2, fun e he hf => ?_⟩
  rw [(hs e he).2.1] at hf
  cases hf

theorem pass_crashes (hi : KeyInv r H k) {e₀ e : Record} (he : r.find? k = some e₀)
    (hl : Looked e₀ e) {t : Nat} (ht : r.host.clock ≤ t) (hts : t ≤ s.host.clock)
    (hp : s.policy = r.policy) :
    ∃ old, H k ++ [t] = old ++ (r.policy.record e.crashes t).2 ∧
      ∀ x ∈ old, s.policy.window < s.host.clock - x := by
  obtain ⟨old, hold, hout⟩ := hi.crashes e₀ he
  obtain ⟨d, hd, hdout⟩ := r.policy.forget_split t e.crashes
  refine ⟨old ++ d, ?_, fun x hx => ?_⟩
  · -- the policy keeps what it does not drop, and adds `t`
    show H k ++ [t] = old ++ d ++ (r.policy.forget t e.crashes ++ [t])
    rw [hold, ← hl.crashes]
    nth_rewrite 1 [hd]
    simp only [List.append_assoc]
  · rw [hp]
    rcases List.mem_append.1 hx with hx | hx
    · have := hout x hx
      omega
    · have := hdout x hx
      omega

theorem record_eq (hi : KeyInv r H k) {e₀ e : Record} (he : r.find? k = some e₀)
    (hl : Looked e₀ e) {t : Nat} (ht : r.host.clock ≤ t) :
    r.policy.record e.crashes t =
      (if (r.policy.windowCrashes (H k) t).length > r.policy.ceiling then
        .giveUp (r.policy.windowCrashes (H k) t).length else .restart,
        r.policy.windowCrashes (H k) t) := by
  obtain ⟨old, hold, hout⟩ := hi.crashes e₀ he
  -- the record's crashes are in time order, being the end of the history
  have hsorted : e₀.crashes.Pairwise (· ≤ ·) := by
    have hs := hi.sorted
    rw [hold] at hs
    exact (List.pairwise_append.1 hs).2.1.imp Nat.le_of_lt
  have hold' : old.filter (fun x => t - x ≤ r.policy.window) = [] :=
    List.filter_eq_nil_iff.2 fun x hx => by
      have := hout x hx
      simp only [decide_eq_true_eq]
      omega
  have hkept : r.policy.forget t e.crashes ++ [t] = r.policy.windowCrashes (H k) t := by
    rw [CrashPolicy.windowCrashes, hold, List.append_assoc, List.filter_append,
      List.filter_append, hold', List.nil_append, hl.crashes,
      r.policy.forget_eq_filter t _ hsorted]
    simp
  unfold CrashPolicy.record
  rw [hkept]

/-- **A pass that counts a crash.** The record becomes the policy's verdict on the looked-at
record, and the history gains the pass's instant. -/
theorem pass (hi : KeyInv r H k) {e₀ e : Record} (he : r.find? k = some e₀) (hl : Looked e₀ e)
    (hc : e.state = .crashed) {t : Nat} (ht : r.host.clock ≤ t) (hts : t < s.host.clock)
    (hp : s.policy = r.policy) {last last' : UInt32}
    (hv : PassVerdict r.policy t last last' e (s.find? k)) (hH : H' k = H k ++ [t]) :
    KeyInv s H' k := by
  -- the crashed record holds nothing and is not crash-looped
  have hidle : e.handle = none :=
    Record.handle_eq_none (hl.handle (hi.handle e₀ he)) (by rw [hc]; rfl)
  have hfree : e.crashLooped = false := by
    cases hf : e.crashLooped with
    | false => rfl
    | true =>
      rw [hl.crashLooped] at hf
      have := hi.looped e₀ he hf
      rw [hi.looked_looped he hl hf, this] at hc
      cases hc
  obtain ⟨old, hold, hout⟩ := hi.pass_crashes he hl ht (Nat.le_of_lt hts) hp
  have hsorted : (H' k).Pairwise (· < ·) := by
    rw [hH, List.pairwise_append]
    exact ⟨hi.sorted, List.pairwise_singleton _ _, fun x hx y hy => by
      rw [List.mem_singleton.1 hy]
      exact Nat.lt_of_lt_of_le (hi.past x hx) ht⟩
  have hpast : ∀ x ∈ H' k, x < s.host.clock := fun x hx => by
    rw [hH] at hx
    rcases List.mem_append.1 hx with hx | hx
    · exact Nat.lt_of_lt_of_le (hi.past x hx) (Nat.le_trans ht (Nat.le_of_lt hts))
    · rw [List.mem_singleton.1 hx]
      exact hts
  unfold PassVerdict at hv
  rcases hx : r.policy.record e.crashes t with ⟨v, c⟩
  rw [hx] at hv hold
  cases v with
  | restart =>
    -- restarted: the spawned record has the kept crash list and is not crash-looped
    obtain ⟨-, y, hy, hsp, -⟩ := hv
    refine ⟨fun hn => absurd (hn.symm.trans hy) (by simp), hsorted, hpast, fun e' he' => ?_,
      fun e' he' => ?_, fun e' he' hf => ?_⟩
    all_goals cases hy.symm.trans he'
    · exact ⟨old, by rw [hH, hold, hsp.crashes], hout⟩
    · exact hsp.handle
    · rw [hsp.crashLooped, hfree] at hf
      cases hf
  | giveUp n =>
    -- given up: stopped, holding nothing, with the kept crash list
    refine ⟨fun hn => absurd (hn.symm.trans hv) (by simp), hsorted, hpast, fun e' he' => ?_,
      fun e' he' => ?_, fun e' he' _ => ?_⟩
    all_goals cases hv.symm.trans he'
    · exact ⟨old, by rw [hH, hold], hout⟩
    · show e.handle.isSome = ProcessState.stopped.isRunning
      rw [hidle]
      rfl
    · rfl

/-- **A reload at one profile.** A record that keeps its crash list keeps the history; any other
record descends from no crash list of the profile, so it has none and no flag, and its history is
cleared. -/
theorem reload (hi : KeyInv r H k) (hc : s.Consistent) (hd : Registry.Descends r s)
    (hp : s.policy = r.policy)
    (hH : H' k = if (s.find? k).map (·.crashes) = (r.find? k).map (·.crashes) then H k else []) :
    KeyInv s H' k := by
  by_cases hkeep : (s.find? k).map (·.crashes) = (r.find? k).map (·.crashes)
  · rw [if_pos hkeep] at hH
    refine ⟨fun hn => ?_, by rw [hH]; exact hi.sorted, fun x hx => ?_, fun e' he' => ?_,
      fun e' he' => (hc.sound.records k e' he').handle, fun e' he' => hc.looped k e' he'⟩
    · -- no record now, so none before
      rw [hn, Option.map_none] at hkeep
      rw [hH]
      exact hi.absent (Option.map_eq_none_iff.1 hkeep.symm)
    · rw [hH] at hx
      exact Nat.lt_of_lt_of_le (hi.past x hx) hd.clock
    · -- the crash list is the old record's, which ends the history
      rw [he', Option.map_some] at hkeep
      obtain ⟨e, he, hce⟩ := Option.map_eq_some_iff.1 hkeep.symm
      obtain ⟨old, hold, hout⟩ := hi.crashes e he
      refine ⟨old, by rw [hH, hold, hce], fun x hx => ?_⟩
      have hx' := hout x hx
      have hclk := hd.clock
      rw [hp]
      omega
  · rw [if_neg hkeep] at hH
    refine KeyInv.fresh (fun e' he' => ⟨?_, ?_, (hc.sound.records k e' he').handle⟩) hH
    · rcases hd.crashes k e' he' with h | ⟨e, he, hce⟩
      · exact h
      · exact absurd (by rw [he', he, Option.map_some, Option.map_some, hce]) hkeep
    · cases hf : e'.crashLooped with
      | false => rfl
      | true => exact absurd (by rw [he', hd.flags k e' he' hf]) hkeep

end KeyInv

/-! ## One step -/

namespace PolicyInv

variable {r : Registry} {H : History}

theorem of_present {a : Op} (hs : Sorted (a.apply r).records)
    (h : ∀ k, (a.apply r).find? k ≠ none → KeyInv (a.apply r) (a.counted r H) k) :
    PolicyInv (a.apply r) (a.history r H) := by
  refine ⟨hs, fun k => ?_⟩
  by_cases hk : (a.apply r).find? k = none
  · exact KeyInv.fresh (fun e he => absurd (hk.symm.trans he) (by simp)) (if_pos hk)
  · exact (h k hk).congr (if_neg hk)

theorem after_start (hi : PolicyInv r H) (key : ProfileKey) :
    PolicyInv ((Op.start key).apply r) ((Op.start key).history r H) := by
  obtain ⟨ht, hunknown, hrunning, hrespawned⟩ := Registry.start_effect key r r rfl
  refine of_present (ht.sorted hi.sorted) fun k _ => ?_
  by_cases hk : k = key
  · subst hk
    by_cases hc : r.config.contains k.kind k.name = true
    · by_cases hrun : (r.startLook k).1.state.isRunning = true
      · -- running after the look: stored back as looked at, its history kept
        have hH : (Op.start k).counted r H k = H k := if_neg fun h => by
          simp [Registry.startRespawns, hrun] at h
        refine ((hi.key k).look ?_ ht.advances.clock ht.advances.policy).congr hH
        rw [hrunning hc hrun]
        have hl := (Registry.startLook_spec r k).2
        cases hf : r.find? k with
        | none =>
          -- a fresh record is stopped, so it is not what the look found running
          rw [hf] at hl
          have := hl.idle (by simp [Record.fresh]) rfl
          rw [this] at hrun
          simp [Record.fresh, ProcessState.isRunning] at hrun
        | some e₀ =>
          rw [hf] at hl
          exact .some hl
      · -- restarted: no crashes, not crash-looped, and the history cleared
        have hrun : (r.startLook k).1.state.isRunning = false := by simpa using hrun
        obtain ⟨-, y, hy, hres⟩ := hrespawned hc hrun
        refine KeyInv.fresh (fun e he => ?_) (if_pos ⟨rfl, by simp [Registry.startRespawns, hc, hrun]⟩)
        cases hy.symm.trans he
        exact ⟨hres.crashes, hres.crashLooped, hres.handle⟩
    · have hc : r.config.contains k.kind k.name = false := by simpa using hc
      have hH : (Op.start k).counted r H k = H k := if_neg fun h => by
        simp [Registry.startRespawns, hc] at h
      exact ((hi.key k).look (hunknown hc ▸ Looked.opt_refl _) ht.advances.clock
        ht.advances.policy).congr hH
  · have hH : (Op.start key).counted r H k = H k := if_neg fun h => hk h.1
    exact ((hi.key k).look (ht.others k hk ▸ Looked.opt_refl _) ht.advances.clock
      ht.advances.policy).congr hH

theorem after_recover (hi : PolicyInv r H) :
    PolicyInv (Op.recover.apply r) (Op.recover.history r H) := by
  have hs : Registry.Recovered r (Op.recover.apply r) := Registry.recover_effect r hi.sorted r rfl
  refine of_present hs.sorted fun k hk => ?_
  have hl := r.looked_spec
  -- the records the look found crashed are those the pass counts or drops
  rcases hs.passed_or_kept k with ⟨e, he, hc, ho⟩ | ⟨hnot, hkept⟩
  · cases hcf : r.config.contains k.kind k.name with
    | false => exact absurd (ho.1 hcf) hk
    | true =>
      obtain ⟨e₀, he₀, hle⟩ := Looked.opt_some (he ▸ hl.find? k)
      exact (hi.key k).pass he₀ hle hc hl.clock hs.clock hs.advances.policy (ho.2 hcf)
        (if_pos (by simp [Registry.passCounts, he, hc, hcf]))
  · -- not counted: the record is as the look left it, with its history
    have hH : Op.recover.counted r H k = H k := if_neg fun h => by
      simp only [Registry.passCounts, Bool.and_eq_true] at h
      obtain ⟨-, h⟩ := h
      cases hf : r.looked.find? k with
      | none => simp [hf] at h
      | some e => exact hnot e hf (by simpa [hf] using h)
    exact ((hi.key k).look (hkept ▸ hl.find? k) (Nat.le_trans hl.clock
      (Nat.le_of_lt hs.clock)) hs.advances.policy).congr hH

/-- **The step lemma**: every operation that spares the crash-looped profiles keeps the
invariant. -/
theorem step (hi : PolicyInv r H) (hc : r.Consistent) (a : Op) (ha : a.SparesLooped r) :
    PolicyInv (a.apply r) (a.history r H) := by
  cases a with
  | start key => exact hi.after_start key
  | stop key =>
    have hs := Registry.stop_effect key r r rfl
    have hrec : ((Op.stop key).apply r).records = r.records.filter (·.key != key) := hs.records
    refine of_present (hrec ▸ hi.sorted.filter _) fun k hk => ?_
    -- only the stopped profile lost its record
    have hf : ((Op.stop key).apply r).find? k = if key = k then none else r.find? k := by
      unfold Registry.find?
      rw [hrec, find?_filter_key]
    have hne : key ≠ k := fun he => hk (hf.trans (if_pos he))
    rw [if_neg hne] at hf
    exact (hi.key k).look (hf ▸ Looked.opt_refl _) hs.clock hs.advances.policy
  | status target =>
    have hs := Registry.status_effect target r r rfl
    exact of_present (hs.sorted hi.sorted) fun k _ =>
      (hi.key k).look (hs.find? k) hs.clock hs.advances.policy
  | reload next =>
    obtain ⟨hc', hd⟩ := Registry.reload_consistent next r hc ha r rfl
    exact of_present hc'.sound.sorted fun k _ =>
      (hi.key k).reload hc' hd (congrArg CrashPolicy.ofSettings hd.settings) rfl
  | noteRename kind old new =>
    obtain ⟨renames, hs⟩ := Registry.noteRename_effect kind old new r
    have hs : (Op.noteRename kind old new).apply r = { r with renames } := hs
    refine of_present (by rw [hs]; exact hi.sorted) fun k _ => ?_
    exact (hi.key k).look (by rw [hs]; exact Looked.opt_refl _)
      (Nat.le_of_eq (congrArg (fun s : Registry => s.host.clock) hs).symm)
      ((congrArg Registry.policy hs).trans rfl)
  | recover => exact hi.after_recover
  | adopt =>
    obtain ⟨ha, -, hsort, hk, -⟩ := Registry.adopt_effect r r rfl
    refine of_present (hsort hi.sorted) fun k _ => ?_
    rcases hk k with hf | ⟨hn, pr, hf, -⟩
    · exact (hi.key k).look (hf ▸ Looked.opt_refl _) ha.clock ha.policy
    · -- an adopted record: the profile had no record, so no history
      exact KeyInv.fresh (fun e he => by
        cases hf.symm.trans he
        exact ⟨rfl, rfl, rfl⟩) ((hi.key k).absent hn)
  | stopAll =>
    have hs := Registry.stopAll_effect r r rfl
    have hrec : (Op.stopAll.apply r).records = [] := hs.records
    refine of_present (hrec ▸ List.Pairwise.nil) fun k hk => absurd ?_ hk
    unfold Registry.find?
    rw [hrec]
    rfl

theorem outside (hi : PolicyInv r H) (w : Outside) : PolicyInv (w.apply r) H :=
  ⟨by rw [Outside.records_apply]; exact hi.sorted, fun k => (hi.key k).look
    (by unfold Registry.find?; rw [Outside.records_apply]; exact Looked.opt_refl _)
    (Nat.le_of_eq (Outside.clock_apply w r).symm) (Outside.policy_apply w r)⟩

end PolicyInv

/-- **The run lemma**: every registry such a run reaches keeps the invariant. -/
theorem PolicyRun.inv {r : Registry} {H : History} (hr : PolicyRun r H) : PolicyInv r H := by
  induction hr with
  | create config settings launcher host hc =>
    have hrec := (Registry.create_spec hc).1
    refine ⟨hrec ▸ List.Pairwise.nil, fun k => KeyInv.fresh (fun e he => ?_) rfl⟩
    unfold Registry.find? at he
    rw [hrec] at he
    cases he
  | op a hr ha ih => exact ih.step hr.consistent a ha
  | outside w _ ih => exact ih.outside w

/-! ## The policy over a run -/

namespace PolicyInv

variable {r : Registry} {H : History} {k : ProfileKey} {e : Record}

theorem crashed_verdict (hi : PolicyInv r H) (he : r.looked.find? k = some e)
    (hc : e.state = .crashed) (hcf : r.config.contains k.kind k.name = true) :
    ((r.passCrashes H k).length ≤ r.policy.ceiling →
      ∃ y, (Op.recover.apply r).find? k = some y ∧
        Spawned { e with crashes := r.passCrashes H k, restarts := e.restarts + 1 } y) ∧
    (r.policy.ceiling < (r.passCrashes H k).length →
      (Op.recover.apply r).find? k = some { e with
        crashes := r.passCrashes H k, state := .stopped, crashLooped := true,
        lastError := some (Error.crashLoop k.kind k.name (r.passCrashes H k).length
          r.policy.windowSecs).message }) := by
  have hl := r.looked_spec
  have hs : Registry.Recovered r (Op.recover.apply r) := Registry.recover_effect r hi.sorted r rfl
  have hv := (hs.passed k e he hc).2 hcf
  obtain ⟨e₀, he₀, hle⟩ := Looked.opt_some (he ▸ hl.find? k)
  have hek : e.key = k := ((hl.sorted hi.sorted).find?_eq_some.1 he).2
  unfold PassVerdict at hv
  -- the pass's window of the looked-at record is the history's window
  have hw : r.policy.windowCrashes (H k) r.looked.host.clock = r.passCrashes H k := rfl
  rw [(hi.key k).record_eq he₀ hle hl.clock, hw] at hv
  constructor
  · intro hle'
    rw [if_neg (show ¬(r.passCrashes H k).length > r.policy.ceiling from Nat.not_lt.2 hle')]
      at hv
    obtain ⟨-, y, hy, hsp, -⟩ := hv
    exact ⟨y, hy, hsp⟩
  · intro hlt
    rw [if_pos (show (r.passCrashes H k).length > r.policy.ceiling from hlt)] at hv
    rw [hv, hek]

theorem looped_kept (hi : PolicyInv r H) (he : r.find? k = some e) (hf : e.crashLooped = true) :
    e.state = .stopped ∧ e.handle = none ∧ (Op.recover.apply r).find? k = some e ∧
      (r.config.contains k.kind k.name = true →
        ∃ y, ((Op.start k).apply r).find? k = some y ∧ y.crashLooped = false ∧ y.crashes = []) := by
  have hl := r.looked_spec
  have hs : Registry.Recovered r (Op.recover.apply r) := Registry.recover_effect r hi.sorted r rfl
  have hst := (hi.key k).looped e he hf
  have hidle : e.handle = none := (hi.key k).idle he (by rw [hst]; rfl)
  obtain ⟨e', he', hle⟩ := Looked.opt_some' (he ▸ hl.find? k)
  have he'e : e' = e := (hi.key k).looked_looped he hle hf
  rw [he'e] at he'
  refine ⟨hst, hidle, ?_, fun hcf => ?_⟩
  · have hnot : ∀ e'', r.looked.find? k = some e'' → e''.state ≠ .crashed := by
      intro e'' he'' hc
      rw [he'] at he''
      cases he''
      rw [hst] at hc
      cases hc
    rw [hs.kept k hnot]
    exact he'
  · -- a start finds it stopped after its look, and restarts it
    obtain ⟨-, -, -, hrespawned⟩ : Registry.Started r k ((Op.start k).apply r) :=
      Registry.start_effect k r r rfl
    have hlook : (r.startLook k).1 = e := by
      have h := (Registry.startLook_spec r k).2
      rw [he] at h
      exact (hi.key k).looked_looped he h hf
    have hrun : (r.startLook k).1.state.isRunning = false := by
      rw [hlook, hst]
      rfl
    obtain ⟨-, y, hy, hres⟩ := hrespawned hcf hrun
    exact ⟨y, hy, hres.crashLooped, hres.crashes⟩

end PolicyInv

/-- **The crash policy over a run that spares crash-looped profiles.** Take the next recovery
pass, and the crashes it counts for a profile (`passCrashes`: its own and those of the passes
since the record was created or restarted by a start, at most a window before it).
  * If its look finds the record of a configured profile crashed, then with at most the ceiling
    of crashes the pass restarts the profile, with one restart more and a crash list of exactly
    those crashes; past the ceiling it leaves the record stopped and crash-looped, with the
    crash-loop error naming that many crashes.
  * If the profile is no longer configured, the crashed record is dropped.
  * A crash-looped record is stopped and holds no process; the pass leaves it as it is, and an
    operator's start restarts it with the flag and the crash list cleared. -/
theorem crash_window_decides_recovery {r : Registry} {H : History} (hrun : PolicyRun r H)
    (k : ProfileKey) :
    (∀ e, r.looked.find? k = some e → e.state = .crashed →
      r.config.contains k.kind k.name = true →
      ((r.passCrashes H k).length ≤ r.policy.ceiling →
        ∃ y, (Op.recover.apply r).find? k = some y ∧
          Spawned { e with crashes := r.passCrashes H k, restarts := e.restarts + 1 } y) ∧
      (r.policy.ceiling < (r.passCrashes H k).length →
        (Op.recover.apply r).find? k = some { e with
          crashes := r.passCrashes H k, state := .stopped, crashLooped := true,
          lastError := some (Error.crashLoop k.kind k.name (r.passCrashes H k).length
            r.policy.windowSecs).message })) ∧
    (∀ e, r.looked.find? k = some e → e.state = .crashed →
      r.config.contains k.kind k.name = false → (Op.recover.apply r).find? k = none) ∧
    (∀ e, r.find? k = some e → e.crashLooped = true →
      e.state = .stopped ∧ e.handle = none ∧ (Op.recover.apply r).find? k = some e ∧
      (r.config.contains k.kind k.name = true →
        ∃ y, ((Op.start k).apply r).find? k = some y ∧ y.crashLooped = false ∧ y.crashes = [])) := by
  have hi := hrun.inv
  have hs : Registry.Recovered r (Op.recover.apply r) := Registry.recover_effect r hi.sorted r rfl
  exact ⟨fun e he hc hcf => hi.crashed_verdict he hc hcf,
    fun e he hc hcf => (hs.passed k e he hc).1 hcf, fun e he hf => hi.looped_kept he hf⟩

/-- **A crash history survives a reload.** Daemon `d` is started and killed, and the recovery
pass restarts it; the configuration is reloaded as it is, which keeps `d`'s record and its crash
list; `d` is killed again. Under a ceiling of one the next pass counts both crashes and leaves
`d` stopped, with the crash-loop error. -/
theorem crash_history_survives_reload :
    ∃ r H, PolicyRun r H ∧ r.policy.ceiling = 1 ∧
      (r.passCrashes H ⟨.daemon, "d"⟩).length = 2 ∧
      ((Op.recover.apply r).find? ⟨.daemon, "d"⟩).map (fun e => (e.state, e.lastError)) =
        some (.stopped, some "daemon 'd' crashed 2 times within 60s and was left stopped") := by
  have h₁ := PolicyRun.op (.start ⟨.daemon, "d"⟩)
    (PolicyRun.create { daemons := [("d", {})] } { crashCeiling := 1 }
      ⟨fun _ _ => .idle [], fun _ _ _ => true⟩ {} rfl) trivial
  have h₂ := PolicyRun.op .recover (PolicyRun.outside (.signal 4000 .kill) h₁) trivial
  have h₃ := PolicyRun.op (.reload { daemons := [("d", {})] }) h₂ (by decide +kernel)
  have hr := PolicyRun.outside (.signal 4001 .kill) h₃
  refine ⟨_, _, hr, by decide +kernel, by decide +kernel, ?_⟩
  -- the look finds `d` crashed, and the pass gives up on it
  rw [((crash_window_decides_recovery hr ⟨.daemon, "d"⟩).1 _ (Option.some_get ?found).symm
    ?crashed ?configured).2 ?exceeded]
  case found => decide +kernel
  case crashed => decide +kernel
  case configured => decide +kernel
  case exceeded => decide +kernel
  decide +kernel

/-- **A reload restarts a crash-looped profile without a start.** Daemon `b` is started, killed,
and given up on by a recovery pass under a ceiling of no crash: its record is stopped and
crash-looped. Then `a` is started and noted as renamed to `b`, and the configuration reloaded
with `b` alone. With no start of `b` in between, the reload spawns `a`'s process onto `b`'s
record, which is starting and still crash-looped. -/
theorem reload_restarts_looped_profile :
    ∃ r O, Reach (fun _ _ => True) r O ∧
      (r.find? ⟨.daemon, "b"⟩).map (fun e => (e.state, e.crashLooped)) = some (.stopped, true) ∧
      (((Op.reload { daemons := [("b", {})] }).apply ((Op.noteRename .daemon "a" "b").apply
        ((Op.start ⟨.daemon, "a"⟩).apply r))).find? ⟨.daemon, "b"⟩).map
          (fun e => (e.state, e.crashLooped)) = some (.starting, true) := by
  have hr : Reach (fun _ _ => True) _ _ :=
    Reach.op .recover (Reach.outside (.signal 4000 .kill) (Reach.op (.start ⟨.daemon, "b"⟩)
      (Reach.create { daemons := [("a", {}), ("b", {})] } { crashCeiling := 0 }
        ⟨fun _ _ => .idle [], fun _ _ _ => true⟩ {} rfl (by simp) (by decide)) trivial)) trivial
  exact ⟨_, _, hr, by decide +kernel, by decide +kernel⟩

end LabFleet.Supervisor
