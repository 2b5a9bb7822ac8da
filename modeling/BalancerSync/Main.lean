import BalancerSync.Startup

/-!
# The program

Reads the command line and the environment, and tells how starting the controller ends.
-/

namespace BalancerSync.Startup

/-- The values of the variables that are looked at. -/
def environment : IO Config.Environment := do
  let values ← variableNames.mapM fun name => do return (name, ← IO.getEnv name)
  return fun name => (values.lookup name).join

/-- What is told about a command line that cannot be carried out. -/
def usage : String := "Usage: " ++ Version.name ++ " <run|version>"

end BalancerSync.Startup

open BalancerSync in
/-- Ends with an exit code that tells whether what was asked for was done. -/
def main (arguments : List String) : IO UInt32 := do
  let (outcome, _) := Startup.start (← Startup.environment) [] arguments
  match outcome with
  | .printed line => IO.println line
  | .stopped .version => IO.println (Version.name ++ " " ++ Version.number)
  | .stopped .help => IO.println Startup.usage
  | .stopped _ => IO.eprintln Startup.usage
  | .failed e => IO.eprintln ("Error: " ++ Startup.Outcome.label e)
  return outcome.exitCode.toUInt32
