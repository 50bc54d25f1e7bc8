import Mathlib.Data.List.Nodup
import Mathlib.Logic.Function.Basic
import LabFleet.Proofs.NameMap
import LabFleet.Supervisor.Lockfile

/-!
Contenders for the lockfile, taking the lock side by side.

`Lockfile.acquire` is a sequence of steps on the directory: write the staging file, link it into
place, judge a lockfile found in the way and remove it when it is stale (at most twice), and
remove the staging file. `Contender.step` takes one of these steps, and a contender with the
directory to itself runs `acquire` (`runAlone_acquire`). Contenders interleave their steps in
the order of a schedule (`Race.run`).

From a directory without a lockfile, at most one contender ever holds the lock, for any number
of them and any schedule (`holders_unique`): the first link wins, and every later one finds a
lockfile naming a live process, which it may not remove. From a lockfile left by a dead
supervisor this fails (`stale_lockfile_admits_two_holders`). Two contenders both judge it stale;
the first removes it and links its own, and the second then removes the first one's lockfile
and links its own, so both hold the lock. Nothing compares what is removed with what was
judged.

A judgement here reads the lockfile and its age in one step. The program makes separate system
calls for them, which only adds interleavings, so the race found here is one of the program's.
-/

namespace LabFleet.Supervisor.Lockfile

set_option autoImplicit false

theorem stagingName_ne (pid : Nat) : stagingName pid ≠ fileName := by
  intro h
  have hlen := congrArg String.length h
  have htmp : (toString ".tmp").length = 4 := by decide
  have hfile : (toString "supervisor.lock").length = "supervisor.lock".length := rfl
  simp only [stagingName, fileName, String.length_append] at hlen
  omega

/-- What a contender decides about a lockfile in its way: the refusal, or `none` to clear it. -/
def verdict (dir : LockDir) (self : Nat) (force : Bool) (running : Nat → Bool) : Option Error :=
  match read dir with
  | some h =>
    if h.pid != self && running h.pid && !force then some (.alreadyRunning (some h.pid)) else none
  | none =>
    if !force && ((dir.find? fileName).map (·.fresh)).getD false then some (.alreadyRunning none)
    else none

theorem clearExisting_eq_verdict (dir : LockDir) (self : Nat) (force : Bool)
    (running : Nat → Bool) :
    clearExisting dir self force running =
      match verdict dir self force running with
      | some e => .error e
      | none => .ok (dir.erase fileName) := by
  unfold clearExisting verdict
  cases read dir <;> dsimp only <;> split <;> rfl

theorem linkIntoPlace_absent {dir : LockDir} (staged : StoredFile) (self : Nat) (force : Bool)
    (running : Nat → Bool) (n : Nat) (h : dir.contains fileName = false) :
    linkIntoPlace dir staged self force running (n + 1) = .ok (dir.insert fileName staged) := by
  simp [linkIntoPlace, h]

theorem linkIntoPlace_present {dir : LockDir} (staged : StoredFile) (self : Nat) (force : Bool)
    (running : Nat → Bool) (n : Nat) (h : dir.contains fileName = true) :
    linkIntoPlace dir staged self force running (n + 1) =
      match verdict dir self force running with
      | some e => .error e
      | none => linkIntoPlace (dir.erase fileName) staged self force running n := by
  simp only [linkIntoPlace, h, if_true, clearExisting_eq_verdict]
  cases verdict dir self force running <;> rfl

theorem verdict_live {dir : LockDir} {h : LockInfo} (hread : read dir = some h) {self : Nat}
    (hne : h.pid ≠ self) {running : Nat → Bool} (hrun : running h.pid = true) :
    verdict dir self false running = some (.alreadyRunning (some h.pid)) := by
  simp [verdict, hread, hne, hrun]

theorem contains_of_read {dir : LockDir} {h : LockInfo} (hread : read dir = some h) :
    dir.contains fileName = true := by
  rw [NameMap.contains_eq_isSome]
  cases hf : dir.find? fileName with
  | none => simp [read, hf] at hread
  | some _ => rfl

theorem find?_insert_staging (dir : LockDir) (pid : Nat) (f : StoredFile) :
    (dir.insert (stagingName pid) f).find? fileName = dir.find? fileName :=
  NameMap.find?_insert_of_ne f dir (stagingName_ne pid)

theorem find?_erase_staging (dir : LockDir) (pid : Nat) :
    (dir.erase (stagingName pid)).find? fileName = dir.find? fileName := by
  simp [NameMap.find?_erase, stagingName_ne pid]

/-- A process taking the lock: the record it writes and whether it forces. -/
structure Contender where
  info : LockInfo
  force : Bool

/-- Where a contender is in `acquire`, between two of its steps on the directory. -/
inductive Phase where
  /-- Nothing done yet. -/
  | start
  /-- About to link its staged body into place, with `passes` attempts left. -/
  | link (passes : Nat)
  /-- A link found a lockfile in the way, which it is about to judge. -/
  | judge (passes : Nat)
  /-- The lockfile in the way was judged stale: about to remove it. -/
  | clear (passes : Nat)
  /-- Finished taking the lock: about to remove its staging file. -/
  | unstage (result : Result Unit)
  /-- Returned. -/
  | done (result : Result Unit)
  deriving DecidableEq

/-- Whether a contender holds the lock: its link succeeded. -/
def Phase.holds : Phase → Bool
  | .unstage (.ok _) | .done (.ok _) => true
  | _ => false

/-- The phases of a contender that neither holds the lock nor has judged a lockfile stale: it
has not staged, or is about to link for the first time, or is about to judge after its first
link failed, or was refused. -/
inductive Phase.Waiting : Phase → Prop
  | start : Waiting .start
  | link : Waiting (.link 2)
  | judge : Waiting (.judge 1)
  | refused (e : Error) : Waiting (.unstage (.error e))
  | returned (e : Error) : Waiting (.done (.error e))

theorem Phase.Waiting.not_holds {p : Phase} (hp : p.Waiting) : p.holds = false := by
  cases hp <;> rfl

namespace Contender

variable (c : Contender) (running : Nat → Bool)

/-- The staging file, the whole body of the record. -/
def staged : StoredFile := { bytes := c.info.toJson.writePretty.toUTF8.toList }

/-- One step of a contender on the directory: one write, link, judgement or removal. -/
def step : Phase → LockDir → Phase × LockDir
  | .start, dir => (.link 2, dir.insert (stagingName c.info.pid) c.staged)
  -- out of passes: the error `linkIntoPlace` gives
  | .link 0, dir =>
    (.unstage ((linkIntoPlace dir c.staged c.info.pid c.force running 0).map fun _ => ()), dir)
  | .link (n + 1), dir =>
    if dir.contains fileName then (.judge n, dir)
    else (.unstage (.ok ()), dir.insert fileName c.staged)
  | .judge n, dir =>
    match verdict dir c.info.pid c.force running with
    | some e => (.unstage (.error e), dir)
    | none => (.clear n, dir)
  | .clear n, dir => (.link n, dir.erase fileName)
  | .unstage r, dir => (.done r, dir.erase (stagingName c.info.pid))
  | .done r, dir => (.done r, dir)

/-- `k` steps of a contender with the directory to itself. -/
def runAlone : Nat → Phase → LockDir → Phase × LockDir
  | 0, p, dir => (p, dir)
  | k + 1, p, dir => runAlone k (c.step running p dir).1 (c.step running p dir).2

@[simp] theorem step_start (dir : LockDir) :
    c.step running .start dir = (.link 2, dir.insert (stagingName c.info.pid) c.staged) := rfl

theorem step_link_absent {dir : LockDir} (n : Nat) (h : dir.contains fileName = false) :
    c.step running (.link (n + 1)) dir = (.unstage (.ok ()), dir.insert fileName c.staged) := by
  simp [step, h]

theorem step_link_present {dir : LockDir} (n : Nat) (h : dir.contains fileName = true) :
    c.step running (.link (n + 1)) dir = (.judge n, dir) := by
  simp [step, h]

theorem step_judge_refused {dir : LockDir} (n : Nat) {e : Error}
    (h : verdict dir c.info.pid c.force running = some e) :
    c.step running (.judge n) dir = (.unstage (.error e), dir) := by
  simp [step, h]

theorem step_judge_cleared {dir : LockDir} (n : Nat)
    (h : verdict dir c.info.pid c.force running = none) :
    c.step running (.judge n) dir = (.clear n, dir) := by
  simp [step, h]

@[simp] theorem step_clear (n : Nat) (dir : LockDir) :
    c.step running (.clear n) dir = (.link n, dir.erase fileName) := rfl

@[simp] theorem step_unstage (r : Result Unit) (dir : LockDir) :
    c.step running (.unstage r) dir = (.done r, dir.erase (stagingName c.info.pid)) := rfl

@[simp] theorem step_done (r : Result Unit) (dir : LockDir) :
    c.step running (.done r) dir = (.done r, dir) := rfl

theorem runAlone_succ (k : Nat) (p : Phase) (dir : LockDir) :
    c.runAlone running (k + 1) p dir =
      c.runAlone running k (c.step running p dir).1 (c.step running p dir).2 := rfl

theorem runAlone_done (r : Result Unit) :
    ∀ k dir, c.runAlone running k (.done r) dir = (.done r, dir)
  | 0, _ => rfl
  | k + 1, dir => runAlone_done r k dir

theorem acquire_contender (dir : LockDir) :
    acquire dir c.info.pid c.info.startedAt c.info.socket c.force running =
      match linkIntoPlace (dir.insert (stagingName c.info.pid) c.staged) c.staged c.info.pid
        c.force running 2 with
      | .ok linked => (.ok c.info, linked.erase (stagingName c.info.pid))
      | .error e => (.error e, (dir.insert (stagingName c.info.pid) c.staged).erase
          (stagingName c.info.pid)) := rfl

/-- **A contender alone runs `acquire`.** Six steps take it from the start to its return, on any
directory, with the answer and the directory that `acquire` gives. -/
theorem runAlone_acquire (dir : LockDir) :
    ∃ r, c.runAlone running 6 .start dir =
        (.done r, (acquire dir c.info.pid c.info.startedAt c.info.socket c.force running).2) ∧
      (acquire dir c.info.pid c.info.startedAt c.info.socket c.force running).1 =
        r.map fun _ => c.info := by
  -- the staging file is written first; what follows depends on what is in the way
  rw [acquire_contender, runAlone_succ, step_start]
  generalize dir.insert (stagingName c.info.pid) c.staged = dir₁
  cases hc : dir₁.contains fileName
  · -- nothing in the way: the first link succeeds
    rw [runAlone_succ, step_link_absent c running 1 hc, runAlone_succ, step_unstage, runAlone_done,
      linkIntoPlace_absent _ _ _ _ 1 hc]
    exact ⟨.ok (), rfl, rfl⟩
  · rw [runAlone_succ, step_link_present c running 1 hc, linkIntoPlace_present _ _ _ _ 1 hc]
    cases hv : verdict dir₁ c.info.pid c.force running with
    | some e =>
      -- refused: the directory keeps what was in the way
      rw [runAlone_succ, step_judge_refused c running 1 hv, runAlone_succ, step_unstage,
        runAlone_done]
      exact ⟨.error e, rfl, rfl⟩
    | none =>
      -- cleared: alone, nothing takes its place, and the second link succeeds
      have hgone : (dir₁.erase fileName).contains fileName = false := by
        simp [NameMap.contains_eq_isSome, NameMap.find?_erase]
      rw [runAlone_succ, step_judge_cleared c running 1 hv, runAlone_succ, step_clear,
        runAlone_succ, step_link_absent c running 0 hgone, runAlone_succ, step_unstage,
        runAlone_done, linkIntoPlace_absent _ _ _ _ 0 hgone]
      exact ⟨.ok (), rfl, rfl⟩

theorem step_holding {p : Phase} (hp : p.holds = true) (dir : LockDir) :
    (c.step running p dir).1.holds = true ∧
      (c.step running p dir).2.find? fileName = dir.find? fileName := by
  cases p with
  | unstage r =>
    cases r with
    | ok _ => exact ⟨rfl, find?_erase_staging dir c.info.pid⟩
    | error _ => simp [Phase.holds] at hp
  | done r =>
    cases r with
    | ok _ => exact ⟨rfl, rfl⟩
    | error _ => simp [Phase.holds] at hp
  | _ => simp [Phase.holds] at hp

theorem step_waiting {p : Phase} (hp : p.Waiting) {dir : LockDir} {h : LockInfo}
    (hread : read dir = some h) (hne : h.pid ≠ c.info.pid) (hrun : running h.pid = true)
    (hforce : c.force = false) :
    (c.step running p dir).1.Waiting ∧
      (c.step running p dir).2.find? fileName = dir.find? fileName := by
  cases hp with
  | start => exact ⟨.link, find?_insert_staging dir c.info.pid c.staged⟩
  | link =>
    rw [step_link_present c running 1 (contains_of_read hread)]
    exact ⟨.judge, rfl⟩
  | judge =>
    rw [step_judge_refused c running 1 (hforce ▸ verdict_live hread hne hrun)]
    exact ⟨.refused _, rfl⟩
  | refused e => exact ⟨.returned e, find?_erase_staging dir c.info.pid⟩
  | returned e => exact ⟨.returned e, rfl⟩

end Contender

/-- Contenders taking the lock side by side: the directory, and where each contender is. -/
structure Race where
  dir : LockDir
  phase : Nat → Phase

namespace Race

variable (cs : List Contender) (running : Nat → Bool)

/-- Every contender at the start, on the directory `dir`. -/
def start (dir : LockDir) : Race := { dir, phase := fun _ => .start }

/-- Contender `i` takes one step; an index with no contender changes nothing. -/
def stepAt (r : Race) (i : Nat) : Race :=
  match cs[i]? with
  | some c =>
    { dir := (c.step running (r.phase i) r.dir).2
      phase := Function.update r.phase i (c.step running (r.phase i) r.dir).1 }
  | none => r

/-- The contenders' steps, in the order a schedule names them. -/
def run (sched : List Nat) (r : Race) : Race := sched.foldl (stepAt cs running) r

end Race

/-- Contenders as they run here: distinct PIDs, none forcing, all alive, and each one's staged
body read back as its record. -/
structure Fair (cs : List Contender) (running : Nat → Bool) : Prop where
  nodup : (cs.map (·.info.pid)).Nodup
  unforced : ∀ c ∈ cs, c.force = false
  alive : ∀ c ∈ cs, running c.info.pid = true
  readable : ∀ c ∈ cs, LockInfo.ofBytes? c.staged.bytes = some c.info

theorem Fair.pid_ne {cs : List Contender} {running : Nat → Bool} (hf : Fair cs running)
    {i j : Nat} {c d : Contender} (hc : cs[i]? = some c) (hd : cs[j]? = some d) (hij : i ≠ j) :
    c.info.pid ≠ d.info.pid := by
  intro heq
  obtain ⟨hi, rfl⟩ := List.getElem?_eq_some_iff.1 hc
  obtain ⟨hj, rfl⟩ := List.getElem?_eq_some_iff.1 hd
  have hi' : i < (cs.map (·.info.pid)).length := by simpa using hi
  have hj' : j < (cs.map (·.info.pid)).length := by simpa using hj
  have heq' : (cs.map (·.info.pid))[i] = (cs.map (·.info.pid))[j] := by simpa using heq
  exact hij ((List.Nodup.getElem_inj_iff hf.nodup).1 heq')

namespace Race

variable {cs : List Contender} {running : Nat → Bool}

/-- The lock is free and no contender has gone past its first link; or contender `w` holds it,
the lockfile is its staged body, and every other contender waits. -/
def Exclusive (cs : List Contender) (r : Race) : Prop :=
  (r.dir.find? fileName = none ∧ ∀ i, r.phase i = .start ∨ r.phase i = .link 2) ∨
  ∃ w c, cs[w]? = some c ∧ r.dir.find? fileName = some c.staged ∧ (r.phase w).holds = true ∧
    ∀ i, i ≠ w → (r.phase i).Waiting

theorem exclusive_start {dir : LockDir} (h : dir.find? fileName = none) :
    Exclusive cs (start dir) :=
  .inl ⟨h, fun _ => .inl rfl⟩

theorem stepAt_dir {r : Race} {i : Nat} {c : Contender} (hc : cs[i]? = some c) :
    (r.stepAt cs running i).dir = (c.step running (r.phase i) r.dir).2 := by
  simp [stepAt, hc]

theorem stepAt_phase {r : Race} {i : Nat} {c : Contender} (hc : cs[i]? = some c) :
    (r.stepAt cs running i).phase =
      Function.update r.phase i (c.step running (r.phase i) r.dir).1 := by
  simp [stepAt, hc]

theorem Exclusive.step_free {r : Race} (hfree : r.dir.find? fileName = none)
    (hph : ∀ i, r.phase i = .start ∨ r.phase i = .link 2) {i : Nat} {c : Contender}
    (hc : cs[i]? = some c) : Exclusive cs (r.stepAt cs running i) := by
  unfold Exclusive
  rw [stepAt_dir hc, stepAt_phase hc]
  rcases hph i with h | h
  · -- staging leaves the lock free
    rw [h, Contender.step_start]
    refine .inl ⟨by rw [find?_insert_staging, hfree], fun j => ?_⟩
    by_cases hj : j = i
    · subst hj
      exact .inr (Function.update_self ..)
    · rw [Function.update_of_ne hj]
      exact hph j
  · -- the first link takes the lock
    have habsent : r.dir.contains fileName = false := by
      simp [NameMap.contains_eq_isSome, hfree]
    rw [h, Contender.step_link_absent c running 1 habsent]
    refine .inr ⟨i, c, hc, NameMap.find?_insert_self .., by simp [Phase.holds], fun j hj => ?_⟩
    rw [Function.update_of_ne hj]
    rcases hph j with h' | h' <;> rw [h']
    · exact .start
    · exact .link

theorem Exclusive.step_held (hf : Fair cs running) {r : Race} {w : Nat} {c : Contender}
    (hw : cs[w]? = some c) (hfile : r.dir.find? fileName = some c.staged)
    (hhold : (r.phase w).holds = true) (hwait : ∀ i, i ≠ w → (r.phase i).Waiting) {i : Nat}
    {d : Contender} (hd : cs[i]? = some d) : Exclusive cs (r.stepAt cs running i) := by
  unfold Exclusive
  rw [stepAt_dir hd, stepAt_phase hd]
  by_cases hiw : i = w
  · -- the holder's own step
    subst hiw
    obtain ⟨hhold', hfile'⟩ := d.step_holding running hhold r.dir
    refine .inr ⟨i, c, hw, by rw [hfile', hfile], ?_, fun j hj => ?_⟩
    · rw [Function.update_self]
      exact hhold'
    · rw [Function.update_of_ne hj]
      exact hwait j hj
  · -- any other contender reads the holder's record, alive and not its own
    have hcs : c ∈ cs := List.mem_of_getElem? hw
    have hread : read r.dir = some c.info := by
      simp only [read, hfile, Option.bind_some]
      exact hf.readable c hcs
    obtain ⟨hwait', hfile'⟩ := d.step_waiting running (hwait i hiw) hread
      (hf.pid_ne hw hd (Ne.symm hiw)) (hf.alive c hcs) (hf.unforced d (List.mem_of_getElem? hd))
    refine .inr ⟨w, c, hw, by rw [hfile', hfile], ?_, fun j hj => ?_⟩
    · rw [Function.update_of_ne (Ne.symm hiw)]
      exact hhold
    · by_cases hji : j = i
      · subst hji
        rw [Function.update_self]
        exact hwait'
      · rw [Function.update_of_ne hji]
        exact hwait j hj

theorem Exclusive.stepAt (hf : Fair cs running) {r : Race} (hex : Exclusive cs r) (i : Nat) :
    Exclusive cs (r.stepAt cs running i) := by
  cases hi : cs[i]? with
  | none =>
    simp only [Race.stepAt, hi]
    exact hex
  | some d =>
    rcases hex with ⟨hfree, hph⟩ | ⟨w, c, hw, hfile, hhold, hwait⟩
    · exact Exclusive.step_free hfree hph hi
    · exact Exclusive.step_held hf hw hfile hhold hwait hi

theorem Exclusive.run (hf : Fair cs running) :
    ∀ (sched : List Nat) {r : Race}, Exclusive cs r → Exclusive cs (r.run cs running sched)
  | [], _, hex => hex
  | i :: sched, _, hex => Exclusive.run hf sched (hex.stepAt hf i)

theorem Exclusive.holder_unique {r : Race} (hex : Exclusive cs r) {i j : Nat}
    (hi : (r.phase i).holds = true) (hj : (r.phase j).holds = true) : i = j := by
  rcases hex with ⟨_, hph⟩ | ⟨w, _, _, _, _, hwait⟩
  · rcases hph i with h | h <;> simp [h, Phase.holds] at hi
  · have hiw : i = w := by
      by_contra hne
      simp [(hwait i hne).not_holds] at hi
    have hjw : j = w := by
      by_contra hne
      simp [(hwait j hne).not_holds] at hj
    rw [hiw, hjw]

end Race

/-- **One holder from a free lock.** From a directory without a lockfile, contenders with
distinct PIDs, none forcing, all alive, whose records read back, never hold the lock two at a
time, whatever the order of their steps. -/
theorem holders_unique {cs : List Contender} {running : Nat → Bool} (hf : Fair cs running)
    {dir : LockDir} (hdir : dir.find? fileName = none) (sched : List Nat) {i j : Nat}
    (hi : (((Race.start dir).run cs running sched).phase i).holds = true)
    (hj : (((Race.start dir).run cs running sched).phase j).holds = true) : i = j :=
  (Race.Exclusive.run hf sched (Race.exclusive_start hdir)).holder_unique hi hj

theorem free_lock_first_link_holds :
    ∃ (cs : List Contender) (running : Nat → Bool) (sched : List Nat),
      Fair cs running ∧ (((Race.start []).run cs running sched).phase 0).holds = true ∧
      ∀ j, (((Race.start []).run cs running sched).phase j).holds = true → j = 0 := by
  refine ⟨[⟨{ pid := 100, startedAt := ⟨1700000000, 0⟩, socket := "a.sock" }, false⟩,
      ⟨{ pid := 200, startedAt := ⟨1700000000, 0⟩, socket := "b.sock" }, false⟩],
    fun p => p == 100 || p == 200, [0, 1, 0, 1, 1, 1, 0], ?fair, ?holds,
    fun j hj => holders_unique ?fair rfl _ hj ?holds⟩
  case fair => exact ⟨by decide, by decide, by decide, by decide +kernel⟩
  case holds => decide +kernel

/-- **Two contenders can both take the lock.** The lockfile was left by a dead supervisor. Both
contenders fail their first link and judge it stale; the first removes it and links its own;
the second then removes the first one's lockfile and links its own. Both return with the lock,
alive and without a release. -/
theorem stale_lockfile_admits_two_holders :
    ∃ (cs : List Contender) (running : Nat → Bool) (dir : LockDir) (sched : List Nat),
      (cs.map (·.info.pid)).Nodup ∧ (∀ c ∈ cs, c.force = false ∧ running c.info.pid = true) ∧
      (∃ stale, read dir = some stale ∧ running stale.pid = false) ∧
      (((Race.start dir).run cs running sched).phase 0).holds ∧
      (((Race.start dir).run cs running sched).phase 1).holds := by
  let dead : LockInfo := { pid := 7, startedAt := ⟨1600000000, 0⟩, socket := "old.sock" }
  refine ⟨[⟨{ pid := 100, startedAt := ⟨1700000000, 0⟩, socket := "a.sock" }, false⟩,
      ⟨{ pid := 200, startedAt := ⟨1700000000, 0⟩, socket := "b.sock" }, false⟩],
    fun p => p == 100 || p == 200,
    [(fileName, { bytes := dead.toJson.writePretty.toUTF8.toList, fresh := false })],
    [0, 1, 0, 1, 0, 1, 0, 0, 1, 1, 0, 1], by decide, by decide, ⟨dead, by decide +kernel, rfl⟩,
    by decide +kernel, by decide +kernel⟩

end LabFleet.Supervisor.Lockfile
