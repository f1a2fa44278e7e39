import CallGuard.CommandLine.ListGroups
import CallGuard.CommandLine.Starter

/-!
# Running a command line

Main definitions:

- {lit}`Surroundings.perform`: the outcome of a request.
- {lit}`Surroundings.run`: the outcome of a list of arguments.
-/

namespace CallGuard.CommandLine

/-- What is printed when the version is asked for. -/
def versionLine : String := "fn-restrict 0.1.0\n"

namespace Surroundings

/-- The outcome of a request, under a limit for regular expressions. -/
def perform (s : Surroundings) (limit : String → Bool) (r : Request) : Outcome :=
  match r.command with
  | .check options => check limit s r.config options
  | .listGroups presets => listGroups s r.config presets
  | .init force => writeConfig s force

/-- The outcome of a list of arguments, under a limit for regular expressions. -/
def run (s : Surroundings) (limit : String → Bool) (arguments : List String) : Outcome :=
  match Request.read s.value? arguments with
  | .error .help => .printed ""
  | .error .version => .printed versionLine
  | .error .misuse => .misuse
  | .ok r => s.perform limit r

end Surroundings

end CallGuard.CommandLine
