import LabFleet.Console.Basic
import LabFleet.Supervisor.CrashPolicy
import LabFleet.Supervisor.Settings

/-!
The console's view of the supervisor's settings: a settings document read with the values
derived from it, and the crash-loop policy the settings give, applied to a run of crashes.
-/

namespace LabFleet.Console

/-- Crashes at given milliseconds under one policy: the verdict on each, and the history
left. -/
def crashPolicy (input : Json) : Json := unwrap do
  let windowSecs ← needNat input "window_secs"
  let ceiling ← needNat input "ceiling"
  if ceiling ≥ Nat.pow 2 32 then throw (badInput "ceiling out of range")
  let crashes : List Nat ← match get? input "crashes_ms" with
    | some (.array items) => items.mapM fun
      | .number (.nat n) => pure n
      | _ => throw (missingField "crashes_ms")
    | _ => throw (missingField "crashes_ms")
  let policy : Supervisor.CrashPolicy := ⟨windowSecs, ceiling⟩
  let step (acc : List Json × List Nat) (ms : Nat) : List Json × List Nat :=
    let (verdict, history) := policy.record acc.2 (ms * 1000000)
    let v := match verdict with
      | .restart => obj [("restart", Json.nat history.length)]
      | .giveUp n => obj [("give_up", Json.nat n)]
    (acc.1 ++ [v], history)
  let (verdicts, history) := crashes.foldl step ([], [])
  return obj [("verdicts", .array verdicts),
    ("history", .array (history.map fun t => Json.nat (t / 1000000)))]

/-- The JSON form of a setting. -/
def settingJson : Supervisor.SettingValue → Json
  | .nat n => Json.nat n
  | .bool b => .bool b

/-- Settings from a TOML document, or the defaults, with the values derived from them. -/
def settings (input : Json) : Json :=
  let parsed := match str? input "toml" with
    | some text => Supervisor.Settings.ofToml text
    | none => .ok ({} : Supervisor.Settings)
  match parsed with
  | .error m => obj [("error", .string "settings"), ("message", .string m)]
  | .ok s =>
    let policy := Supervisor.CrashPolicy.ofSettings s
    Json.sortedObject [("settings", Json.sortedObject (s.entries.map fun (k, v) => (k, settingJson v))),
      ("is_default", .bool (s == ({} : Supervisor.Settings))), ("health_interval_ms", Json.nat s.healthInterval),
      ("stop_grace_secs", Json.nat s.stopGraceSecs), ("request_timeout_secs", Json.nat s.requestTimeout),
      ("crash_window_secs", Json.nat s.crashWindowSecs),
      ("registration_backoff_ms", Json.nat s.registrationBackoffMs),
      ("policy", obj [("window_secs", Json.nat policy.windowSecs), ("ceiling", Json.nat policy.ceiling)])]

end LabFleet.Console
