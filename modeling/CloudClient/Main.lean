import CloudClient.Call.Offline
import CloudClient.CommandLine
import Std.Time.DateTime.Timestamp

/-!
# Main — the program

Reads arguments, environment and files, and prints what the command line leaves behind.
The program has no sockets of its own: it runs over the network without connections.
-/

namespace CloudClient.Main

/-- What is at a path; what cannot be read as text counts as a directory. -/
def contentAt (path : String) : IO Settings.FileContent := do
  match ← (IO.FS.readFile path).toBaseIO with
  | .ok text => return .text text
  | .error (.noFileOrDirectory ..) => return .missing
  | .error _ => return .directory

/-- The variables of the environment that settings come from, in upper case before lower
case. -/
def environment : IO (List (String × String)) := do
  let names := Settings.variableNames.map (·.1)
  let spelled := names.map (fun name => name.map Char.toUpper) ++ names
  spelled.filterMapM fun name => do
    return (← IO.getEnv name).map fun value => (name, value)

def present : IO Moment := do
  return .ofSeconds (← Std.Time.Timestamp.now).toSecondsSinceUnixEpoch.val

end CloudClient.Main

open CloudClient in
def main (args : List String) : IO UInt32 := do
  let home := (← IO.getEnv "HOME").getD ""
  let desk : Desk IO :=
    { read := CloudClient.Main.contentAt
      settingsFile := if home.isEmpty then "" else home ++ "/" ++ Settings.standardFile
      environment := ← CloudClient.Main.environment
      network := Network.offline
      clock := CloudClient.Main.present }
  let outcome ← CommandLine.run desk args
  IO.print outcome.out
  IO.eprint outcome.err
  return outcome.exit.toUInt32
