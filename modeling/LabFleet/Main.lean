import LabFleet.Console.Answer

/-!
The command line: the console on standard input and output. Every line of input holds one
request object and gets one line of answer, written as soon as it is known; blank lines are
passed over, and a line that is not JSON is answered `bad_input`.

Run this way, every profile a supervisor starts runs a program that stays up silently, the
clock stands at the host model's epoch, and sockets are named under `run/`.
-/

namespace LabFleet.CommandLine

/-- Every launcher starts a program that stays up silently, and owns every live PID. -/
def launcherOf (_ : Json) : Except Json Supervisor.Launcher :=
  .ok { program := fun _ _ => .idle [], recognizes := fun _ _ _ => true }

/-- Where the console runs from the command line. -/
def surroundings : Console.Surroundings :=
  { launcherOf, now := ({} : Supervisor.Host).epoch, pid := 1000,
    supervisorSocket := "run/supervisor.sock", serverSocket := "run/objects.sock",
    lockSocket := "run/supervisor.sock" }

/-- The answer to one line of input. -/
def answerLine (text : String) : Json :=
  match Json.ofString text with
  | .ok input => Console.answer surroundings input
  | .error e => Console.badInput ("input is not JSON: " ++ e.render)

/-- Answers lines until the input ends. -/
partial def serve (stdin stdout : IO.FS.Stream) : IO Unit := do
  let line ← stdin.getLine
  if line.isEmpty then return
  let text := line.trimAsciiEnd.toString
  if !text.isEmpty then
    stdout.putStrLn (answerLine text).write
    stdout.flush
  serve stdin stdout

end LabFleet.CommandLine

/-- The console on standard input and output. -/
def main : IO Unit := do
  LabFleet.CommandLine.serve (← IO.getStdin) (← IO.getStdout)
