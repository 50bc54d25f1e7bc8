import LabFleet.Supervisor.Settings

/-!
The crash-loop policy: a rolling window and a ceiling. A profile may crash `ceiling` times
inside the window and still be restarted; the crash that takes the count past the ceiling
leaves it stopped until an operator starts it again.

A crash history is the list of instants of the crashes still remembered, oldest first.
Recording a crash first forgets, from the front, every crash older than the window as seen
from the new one (an instant later than the new one counts as no time ago), then appends the
new one. Instants are nanoseconds of a monotonic clock.
-/

namespace LabFleet.Supervisor

/-- Nanoseconds in a second. -/
def nanosPerSecond : Nat := 1000000000

/-- A rolling window and a ceiling on the crashes inside it. -/
structure CrashPolicy where
  /-- The window, in seconds. -/
  windowSecs : Nat
  ceiling : Nat
  deriving DecidableEq, Repr, Inhabited

/-- What to do about a crash. -/
inductive CrashVerdict where
  | restart
  /-- Leave the profile stopped; `crashes` were counted inside the window. -/
  | giveUp (crashes : Nat)
  deriving DecidableEq, Repr, Inhabited

namespace CrashPolicy

/-- The policy of a set of settings. -/
def ofSettings (s : Settings) : CrashPolicy := ⟨s.crashWindowSecs, s.crashCeiling⟩

/-- The window in nanoseconds. -/
def window (p : CrashPolicy) : Nat := p.windowSecs * nanosPerSecond

/-- Drops from the front of a history the crashes more than a window before `now`, stopping
at the first one inside it. -/
def forget (p : CrashPolicy) (now : Nat) : List Nat → List Nat
  | [] => []
  | t :: rest => if now - t > p.window then forget p now rest else t :: rest

/-- Records a crash at `now`: the verdict, and the history after it. -/
def record (p : CrashPolicy) (history : List Nat) (now : Nat) : CrashVerdict × List Nat :=
  let kept := p.forget now history ++ [now]
  (if kept.length > p.ceiling then .giveUp kept.length else .restart, kept)

end CrashPolicy

end LabFleet.Supervisor
