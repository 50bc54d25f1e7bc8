import Mathlib.Data.List.DropRight
import LabFleet.Proofs.Supervisor.Effects

/-!
The in-memory tail of captured output against the log it abbreviates.

`Pushed` is that log with nothing dropped: for every profile, the lines pushed under it since it
was last cleared, a rename handing them over to the new name. A buffer of any capacity, driven
by any calls, holds for every profile exactly the newest `capacity` lines of its log
(`Tracks`, kept by every call and so by every run), hence

* `newest_lines_kept`: every profile holds at most `max m₀ 1` lines, and a tail of `n` lines
  is, oldest first, the newest `n` of the newest `max m₀ 1` lines pushed under the profile
  since its last clear.

A rename moves lines only when the old name has some. From a name without lines it leaves the
new name's lines where they were (`rename_from_empty_keeps_target`), and onto itself it keeps
them. The invariant also says that no profile's entry is ever empty, which is what lets a
rename tell from the entry alone whether the old name has lines.
-/

namespace LabFleet.Supervisor.LogBuffer

set_option autoImplicit false

/-! ## Calls and the log they build -/

/-- A call on a log buffer. -/
inductive Call where
  | push (key : ProfileKey) (line : String)
  | tail (key : ProfileKey) (n : Nat)
  | rename (kind : ProfileKind) (old new : String)
  | clear (key : ProfileKey)

/-- The buffer after a call; a tail only reads. -/
def perform (b : LogBuffer) : Call → LogBuffer
  | .push key line => b.push key line
  | .tail _ _ => b
  | .rename kind old new => b.rename kind old new
  | .clear key => b.clear key

/-- The buffer made with `m₀` lines per profile, after a run of calls. -/
def run (m₀ : Nat) (calls : List Call) : LogBuffer := calls.foldl perform (new m₀)

/-- For every profile, the lines pushed under it since it was last cleared, none dropped. -/
abbrev Pushed := ProfileKey → List String

namespace Pushed

/-- The log after a call. A rename from a name with lines empties that name and then gives its
lines to the new one; a rename from a name without lines changes nothing. -/
def perform (p : Pushed) : Call → Pushed
  | .push key line => Function.update p key (p key ++ [line])
  | .tail _ _ => p
  | .rename kind old new =>
    if p ⟨kind, old⟩ = [] then p
    else Function.update (Function.update p ⟨kind, old⟩ []) ⟨kind, new⟩ (p ⟨kind, old⟩)
  | .clear key => Function.update p key []

/-- The log after a run of calls, from no lines at all. -/
def run (calls : List Call) : Pushed := calls.foldl perform fun _ => []

end Pushed

/-! ## The newest lines of a list -/

theorem rtake_rtake {α : Type} (l : List α) (n m : Nat) :
    (l.rtake m).rtake n = l.rtake (min n m) := by
  simp only [List.rtake_eq_reverse_take_reverse, List.reverse_reverse, List.take_take]

theorem rtake_eq_nil_iff {α : Type} {l : List α} {n : Nat} (hn : 0 < n) :
    l.rtake n = [] ↔ l = [] := by
  simp only [List.rtake_eq_reverse_take_reverse, List.reverse_eq_nil_iff, List.take_eq_nil_iff,
    Nat.pos_iff_ne_zero.1 hn, false_or]

theorem rtake_concat_rtake {α : Type} (l : List α) (x : α) (n : Nat) :
    (l.rtake n ++ [x]).rtake n = (l ++ [x]).rtake n := by
  cases n with
  | zero => simp [List.rtake_zero]
  | succ c =>
    rw [List.rtake_concat_succ, List.rtake_concat_succ, rtake_rtake,
      Nat.min_eq_left (Nat.le_succ c)]

/-! ## What each operation does to the lines -/

@[simp] theorem capacity_setLines (b : LogBuffer) (key : ProfileKey) (ls : List String) :
    (b.setLines key ls).capacity = b.capacity := rfl

@[simp] theorem capacity_clear (b : LogBuffer) (key : ProfileKey) :
    (b.clear key).capacity = b.capacity := rfl

theorem push_eq (b : LogBuffer) (key : ProfileKey) (line : String) :
    b.push key line = b.setLines key ((b.lines key ++ [line]).rtake b.capacity) := rfl

theorem tail_eq (b : LogBuffer) (key : ProfileKey) (n : Nat) :
    b.tail key n = (b.lines key).rtake n := rfl

theorem lines_clear (b : LogBuffer) (key k : ProfileKey) :
    (b.clear key).lines k = if key = k then [] else b.lines k := by
  unfold lines clear
  rw [List.find?_filter]
  by_cases h : key = k
  · subst h
    rw [if_pos rfl, List.find?_eq_none.2 (by simp)]
    rfl
  · rw [if_neg h]
    congr 3
    funext x
    by_cases hx : x.1 = k
    · simp [hx, Ne.symm h]
    · simp [hx]

theorem lines_of_find? {b : LogBuffer} {key : ProfileKey} {e : ProfileKey × List String}
    (h : b.tails.find? (·.1 == key) = some e) : b.lines key = e.2 := by
  simp [lines, h]

theorem lines_of_find?_none {b : LogBuffer} {key : ProfileKey}
    (h : b.tails.find? (·.1 == key) = none) : b.lines key = [] := by
  simp [lines, h]

theorem rename_of_find? {b : LogBuffer} {kind : ProfileKind} {old new : String}
    {e : ProfileKey × List String} (h : b.tails.find? (·.1 == ⟨kind, old⟩) = some e) :
    b.rename kind old new = (b.clear ⟨kind, old⟩).setLines ⟨kind, new⟩ e.2 := by
  obtain ⟨k, ls⟩ := e
  simp [rename, h]

theorem rename_of_find?_none {b : LogBuffer} {kind : ProfileKind} {old new : String}
    (h : b.tails.find? (·.1 == ⟨kind, old⟩) = none) : b.rename kind old new = b := by
  simp [rename, h]

/-! ## The invariant -/

/-- What a buffer keeps of the log `p`: every profile holds the newest `capacity` lines of its
log, the capacity is at least one, and no entry is empty. -/
structure Tracks (b : LogBuffer) (p : Pushed) : Prop where
  capacity_pos : 0 < b.capacity
  lines_eq : ∀ k, b.lines k = (p k).rtake b.capacity
  entries_ne_nil : ∀ e ∈ b.tails, e.2 ≠ []

theorem tracks_new (m₀ : Nat) : Tracks (new m₀) fun _ => [] where
  capacity_pos := Nat.lt_of_lt_of_le Nat.one_pos (Nat.le_max_right m₀ 1)
  lines_eq _ := by simp [new, lines]
  entries_ne_nil _ h := by simp [new] at h

namespace Tracks

variable {b : LogBuffer} {p : Pushed}

theorem setLines (ht : Tracks b p) (key : ProfileKey) {ls : List String} (hne : ls ≠ [])
    {q : Pushed} (hq : ∀ k, k ≠ key → q k = p k) (hkey : ls = (q key).rtake b.capacity) :
    Tracks (b.setLines key ls) q where
  capacity_pos := ht.capacity_pos
  lines_eq k := by
    rw [lines_setLines, capacity_setLines]
    by_cases h : key = k
    · subst h
      rw [if_pos rfl, hkey]
    · rw [if_neg h, hq k (Ne.symm h), ht.lines_eq k]
  entries_ne_nil e he := by
    rcases List.mem_cons.1 he with rfl | he
    · exact hne
    · exact ht.entries_ne_nil e (List.mem_of_mem_filter he)

theorem clear (ht : Tracks b p) (key : ProfileKey) :
    Tracks (b.clear key) (Function.update p key []) where
  capacity_pos := ht.capacity_pos
  lines_eq k := by
    rw [lines_clear, capacity_clear, Function.update_apply]
    by_cases h : key = k
    · subst h
      simp
    · rw [if_neg h, if_neg (Ne.symm h), ht.lines_eq k]
  entries_ne_nil e he := ht.entries_ne_nil e (List.mem_of_mem_filter he)

theorem push (ht : Tracks b p) (key : ProfileKey) (line : String) :
    Tracks (b.push key line) (Function.update p key (p key ++ [line])) := by
  rw [push_eq]
  refine ht.setLines key ?_ (fun k hk => Function.update_of_ne hk _ _) ?_
  · rw [Ne, rtake_eq_nil_iff ht.capacity_pos]
    exact List.concat_ne_nil _ _
  · rw [Function.update_self, ht.lines_eq key, rtake_concat_rtake]

theorem rename (ht : Tracks b p) (kind : ProfileKind) (old new : String) :
    Tracks (b.rename kind old new) (Pushed.perform p (.rename kind old new)) := by
  have hold := ht.lines_eq ⟨kind, old⟩
  rcases hfind : b.tails.find? (·.1 == ⟨kind, old⟩) with _ | e
  · -- no entry: the old name's log is empty too, and nothing changes
    rw [rename_of_find?_none hfind]
    have hnil : p ⟨kind, old⟩ = [] := by
      rwa [lines_of_find?_none hfind, eq_comm, rtake_eq_nil_iff ht.capacity_pos] at hold
    simpa [Pushed.perform, hnil] using ht
  · -- an entry, never empty: its lines are the newest of a log that has lines
    rw [rename_of_find? hfind]
    have hne : e.2 ≠ [] := ht.entries_ne_nil e (List.mem_of_find?_eq_some hfind)
    have hlog : p ⟨kind, old⟩ ≠ [] := by
      intro h
      rw [lines_of_find? hfind, h, List.rtake_nil] at hold
      exact hne hold
    simp only [Pushed.perform, if_neg hlog]
    refine (ht.clear ⟨kind, old⟩).setLines ⟨kind, new⟩ hne
      (fun k hk => Function.update_of_ne hk _ _) ?_
    rw [Function.update_self, capacity_clear, ← hold, lines_of_find? hfind]

/-- **Step.** Every call keeps a buffer tracking its log. -/
theorem perform (ht : Tracks b p) : ∀ c : Call, Tracks (b.perform c) (Pushed.perform p c)
  | .push key line => ht.push key line
  | .tail _ _ => ht
  | .rename kind old new => ht.rename kind old new
  | .clear key => ht.clear key

/-- **Run.** So does every run of calls. -/
theorem foldl (ht : Tracks b p) (calls : List Call) :
    Tracks (calls.foldl LogBuffer.perform b) (calls.foldl Pushed.perform p) := by
  induction calls generalizing b p with
  | nil => exact ht
  | cons c rest ih => exact ih (ht.perform c)

end Tracks

theorem capacity_perform (b : LogBuffer) : ∀ c : Call, (b.perform c).capacity = b.capacity
  | .push _ _ => rfl
  | .tail _ _ => rfl
  | .rename kind old _ => by
    rcases hfind : b.tails.find? (·.1 == ⟨kind, old⟩) with _ | e
    · simp only [perform, rename_of_find?_none hfind]
    · simp only [perform, rename_of_find? hfind, capacity_setLines, capacity_clear]
  | .clear _ => rfl

theorem capacity_run (m₀ : Nat) (calls : List Call) : (run m₀ calls).capacity = max m₀ 1 := by
  unfold run
  induction calls using List.reverseRecOn with
  | nil => rfl
  | append_singleton rest c ih => rw [List.foldl_append, List.foldl_cons, List.foldl_nil,
      capacity_perform, ih]

/-- **The buffer is a bounded tail of the log.** For any capacity `m₀` and any calls, every
profile holds at most `max m₀ 1` lines, and its tail of `n` lines is, oldest first, the newest
`n` of the newest `max m₀ 1` lines pushed under it since its last clear, a rename from a name
with lines replacing the new name's lines by them. -/
theorem newest_lines_kept (m₀ : Nat) (calls : List Call) (key : ProfileKey) :
    ((run m₀ calls).lines key).length ≤ max m₀ 1 ∧
      ∀ n, (run m₀ calls).tail key n = ((Pushed.run calls key).rtake (max m₀ 1)).rtake n := by
  have ht : Tracks (run m₀ calls) (Pushed.run calls) := (tracks_new m₀).foldl calls
  have hlines : (run m₀ calls).lines key = (Pushed.run calls key).rtake (max m₀ 1) := by
    rw [ht.lines_eq key, capacity_run]
  refine ⟨?_, fun n => by rw [tail_eq, hlines]⟩
  rw [hlines, List.rtake_eq_reverse_take_reverse, List.length_reverse]
  exact List.length_take_le _ _

/-- A rename from a name without lines leaves the new name's lines in place: after `x` is
pushed under `b`, renaming the empty `a` to `b` still leaves `x` as `b`'s tail. -/
theorem rename_from_empty_keeps_target :
    ((new 10).push ⟨.daemon, "b"⟩ "x").lines ⟨.daemon, "a"⟩ = [] ∧
      (((new 10).push ⟨.daemon, "b"⟩ "x").rename .daemon "a" "b").tail ⟨.daemon, "b"⟩ 10 =
        ["x"] := by
  decide

end LabFleet.Supervisor.LogBuffer
