import Mathlib.Data.List.Induction
import LabFleet.Supervisor.CrashPolicy

/-!
The rolling window of the crash policy.

A crash history lists the instants of the crashes the policy still remembers, oldest first.
Recording a crash drops crashes from the front while they lie out of the window as seen from
the new one, stops at the first one inside it, and appends the new crash. The loop looks only
at the front, so on its own it is no filter; on a history in time order it is one
(`forget_eq_filter`), since every crash after one inside the window is later, and inside too.

Main statements:
  * `record_eq_window` — on a history in time order and not after the new crash, recording
    keeps exactly the crashes at most a window before the new one, then the new one, still in
    time order; the verdict gives up exactly when they are more than the ceiling.
  * `crash_history_keeps_window` — recording crashes one after another from a fresh history, at
    instants in time order, each call's verdict and the history it leaves are read off the
    crashes recorded so far that lie inside the window of the last one.
-/

namespace LabFleet.Supervisor

set_option autoImplicit false

namespace CrashPolicy

variable (p : CrashPolicy) (now : Nat)

theorem forget_eq_filter :
    ∀ l : List Nat, l.Pairwise (· ≤ ·) → p.forget now l = l.filter (fun x => now - x ≤ p.window)
  | [], _ => rfl
  | t :: rest, hl => by
    obtain ⟨hmin, hrest⟩ := List.pairwise_cons.1 hl
    unfold forget
    by_cases ht : now - t > p.window
    · rw [if_pos ht, List.filter_cons_of_neg (by simp only [decide_eq_true_eq]; omega)]
      exact forget_eq_filter rest hrest
    · -- every later crash is inside the window too
      rw [if_neg ht, List.filter_cons_of_pos (by simp only [decide_eq_true_eq]; omega)]
      congr 1
      refine (List.filter_eq_self.2 fun x hx => ?_).symm
      have := hmin x hx
      simp only [decide_eq_true_eq]
      omega

theorem forget_split :
    ∀ l : List Nat, ∃ d, l = d ++ p.forget now l ∧ ∀ x ∈ d, p.window < now - x
  | [] => ⟨[], rfl, fun _ h => absurd h List.not_mem_nil⟩
  | t :: rest => by
    unfold forget
    by_cases ht : now - t > p.window
    · obtain ⟨d, hd, hout⟩ := forget_split rest
      rw [if_pos ht]
      refine ⟨t :: d, by rw [List.cons_append, ← hd], fun x hx => ?_⟩
      rcases List.mem_cons.1 hx with rfl | hx
      · exact ht
      · exact hout x hx
    · rw [if_neg ht]
      exact ⟨[], rfl, fun _ h => absurd h List.not_mem_nil⟩

/-- The crashes a recovery pass at instant `t` counts, given the instants of the earlier passes
that counted one: its own, and the earlier ones at most a window before it. -/
def windowCrashes (history : List Nat) (t : Nat) : List Nat :=
  (history ++ [t]).filter fun x => t - x ≤ p.window

/-- The verdict on a crash that leaves `n` crashes inside the window. -/
def verdictOn (n : Nat) : CrashVerdict := if n > p.ceiling then .giveUp n else .restart

/-- Records crashes at the given instants one after another, starting from a fresh history:
the verdict on each, and the history after the last. -/
def recordAll (instants : List Nat) : List CrashVerdict × List Nat :=
  instants.foldl (fun acc t => (acc.1 ++ [(p.record acc.2 t).1], (p.record acc.2 t).2)) ([], [])

theorem windowCrashes_eq (history : List Nat) :
    p.windowCrashes history now = history.filter (fun t => now - t ≤ p.window) ++ [now] := by
  simp [windowCrashes, List.filter_append]

theorem filter_window_of_le {t : Nat} (ht : t ≤ now) (l : List Nat) :
    (l.filter fun x => t - x ≤ p.window).filter (fun x => now - x ≤ p.window) =
      l.filter fun x => now - x ≤ p.window := by
  rw [List.filter_filter]
  refine List.filter_congr fun x _ => ?_
  by_cases hx : now - x ≤ p.window
  · have : t - x ≤ p.window := by omega
    simp [hx, this]
  · simp [hx]

theorem recordAll_append_singleton (instants : List Nat) (t : Nat) :
    p.recordAll (instants ++ [t]) =
      ((p.recordAll instants).1 ++ [(p.record (p.recordAll instants).2 t).1],
        (p.record (p.recordAll instants).2 t).2) := by
  simp only [recordAll, List.foldl_append, List.foldl_cons, List.foldl_nil]

/-- **One crash recorded.** On a history in time order whose crashes are not after the new one,
recording keeps the crashes at most a window before it, then the new one, in time order, and
gives up exactly when they number more than the ceiling. -/
theorem record_eq_window (history : List Nat) (hsorted : history.Pairwise (· ≤ ·))
    (hpast : ∀ t ∈ history, t ≤ now) :
    p.record history now =
        (p.verdictOn (p.windowCrashes history now).length, p.windowCrashes history now) ∧
      (p.windowCrashes history now).Pairwise (· ≤ ·) := by
  have hkept : p.forget now history ++ [now] = p.windowCrashes history now := by
    rw [p.forget_eq_filter now history hsorted, windowCrashes_eq]
  refine ⟨by rw [← hkept]; rfl, ?_⟩
  -- the kept crashes stay in time order, and none is after the new one
  rw [windowCrashes_eq, List.pairwise_append]
  refine ⟨hsorted.filter _, List.pairwise_singleton _ _, fun x hx y hy => ?_⟩
  rw [List.mem_singleton.1 hy]
  exact hpast x (List.mem_filter.1 hx).1

theorem record_verdict (history : List Nat) (t : Nat) :
    (p.record history t).1 = p.verdictOn (p.record history t).2.length := rfl

/-- **The run lemma.** Recording crashes at instants in time order from a fresh history leaves
the crashes recorded so far that lie inside the window of the last one. -/
theorem recordAll_history :
    ∀ (instants : List Nat) (now : Nat), (instants ++ [now]).Pairwise (· ≤ ·) →
      (p.recordAll (instants ++ [now])).2 = p.windowCrashes instants now := by
  intro instants
  induction instants using List.reverseRecOn with
  | nil => intro now _; simp [recordAll, record, forget, windowCrashes]
  | append_singleton earlier last ih =>
    intro now hsorted
    have hprefix : (earlier ++ [last]).Pairwise (· ≤ ·) :=
      hsorted.sublist (List.sublist_append_left _ _)
    have hlast : last ≤ now :=
      (List.pairwise_append.1 hsorted).2.2 last (by simp) now (List.mem_singleton_self _)
    have hupto : ∀ t ∈ earlier ++ [last], t ≤ last := fun t ht => by
      rcases List.mem_append.1 ht with ht | ht
      · exact (List.pairwise_append.1 hprefix).2.2 t ht last (List.mem_singleton_self _)
      · exact Nat.le_of_eq (List.mem_singleton.1 ht)
    -- the history the new crash is recorded on is the window of the crash before it
    have hsorted' : (p.windowCrashes earlier last).Pairwise (· ≤ ·) := hprefix.filter _
    have hpast : ∀ t ∈ p.windowCrashes earlier last, t ≤ now :=
      fun t ht => Nat.le_trans (hupto t (List.mem_filter.1 ht).1) hlast
    rw [recordAll_append_singleton, ih last hprefix]
    calc (p.record (p.windowCrashes earlier last) now).2
        = p.windowCrashes (p.windowCrashes earlier last) now := by
          rw [(p.record_eq_window now _ hsorted' hpast).1]
      _ = (p.windowCrashes earlier last).filter (fun x => now - x ≤ p.window) ++ [now] :=
          windowCrashes_eq p now _
      _ = (earlier ++ [last]).filter (fun x => now - x ≤ p.window) ++ [now] := by
          rw [windowCrashes, p.filter_window_of_le now hlast]
      _ = p.windowCrashes (earlier ++ [last]) now := (windowCrashes_eq p now _).symm

end CrashPolicy

/-- **The rolling window.** Recording a crash on a history in time order, none of it after the
new crash, keeps the crashes at most a window before the new one and then the new one, in time
order, and gives up, counting them, exactly when they are more than the ceiling. Along any
sequence of crashes in time order recorded from a fresh history, each call's verdict and the
history it leaves are the verdict on, and the list of, the crashes recorded so far that lie
inside the window of the last one. -/
theorem crash_history_keeps_window (p : CrashPolicy) :
    (∀ (history : List Nat) (now : Nat), history.Pairwise (· ≤ ·) → (∀ t ∈ history, t ≤ now) →
      p.record history now =
          (p.verdictOn (p.windowCrashes history now).length, p.windowCrashes history now) ∧
        (p.windowCrashes history now).Pairwise (· ≤ ·)) ∧
    ∀ (instants : List Nat) (now : Nat), (instants ++ [now]).Pairwise (· ≤ ·) →
      p.recordAll (instants ++ [now]) =
        ((p.recordAll instants).1 ++ [p.verdictOn (p.windowCrashes instants now).length],
          p.windowCrashes instants now) := by
  refine ⟨fun history now => p.record_eq_window now history, fun instants now hsorted => ?_⟩
  have hkept := p.recordAll_history instants now hsorted
  rw [CrashPolicy.recordAll_append_singleton] at hkept ⊢
  rw [CrashPolicy.record_verdict, hkept]

/-- Four crashes a second apart under a ceiling of three: the first three are restarted, the
fourth gives up counting four. -/
theorem fourth_crash_in_window_gives_up :
    ([0, 1, 2].map (· * nanosPerSecond) ++ [3 * nanosPerSecond]).Pairwise (· ≤ ·) ∧
      (CrashPolicy.mk 60 3).recordAll ([0, 1, 2].map (· * nanosPerSecond) ++ [3 * nanosPerSecond]) =
        ([.restart, .restart, .restart, .giveUp 4], [0, 1, 2, 3].map (· * nanosPerSecond)) := by
  refine ⟨by decide, ?_⟩
  rw [(crash_history_keeps_window _).2 _ _ (by decide)]
  decide

end LabFleet.Supervisor
