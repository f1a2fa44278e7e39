import CallGuard.GroupSet.Toml
import CallGuard.Preset

/-!
# Outcomes

A command ends with an exit code, the text that it prints, perhaps a failure, and perhaps a file
that it writes.

Main definitions:

- {lit}`Failure`: why a command fails.
- {lit}`Failure.message`, {lit}`Failure.cause?`: what is said about it.
- {lit}`Outcome`: how a command ends.
-/

namespace CallGuard.CommandLine

/-- Why a command fails. -/
inductive Failure where
  /-- The configuration file at a path cannot be read as text. -/
  | unreadableConfig (path : String)
  /-- The configuration file at a path holds no valid settings, or groups with an error. -/
  | invalidConfig (path : String) (groups : Option LoadError)
  /-- A name of a preset is unknown, where the known names are told or not. -/
  | unknownPreset (name : String) (withNames : Bool)
  /-- The analyzer cannot be built. -/
  | build
  /-- The run of the analyzer fails. -/
  | analysis
  /-- The configuration file is already there. -/
  | configExists (path : String)
  /-- The configuration file cannot be written. -/
  | unwritable
deriving Repr, DecidableEq

namespace Failure

/-- The text of a failure. -/
def message : Failure → String
  | unreadableConfig path => "Failed to read config: " ++ path
  | invalidConfig path _ => "Failed to load config: " ++ path
  | unknownPreset name false => "Unknown preset '" ++ name ++ "'"
  | unknownPreset name true =>
    "Unknown preset '" ++ name ++ "' (expected one of: " ++
      String.intercalate ", " (Preset.all.map (·.name)) ++ ")"
  | build => "Failed to build analyzer"
  | analysis => "Analysis failed"
  | configExists path =>
    "Configuration file already exists at " ++ path ++ ". Use --force to overwrite."
  | unwritable => "Is a directory (os error 21)"

/-- The cause of a failure that lies in the list of groups. -/
def cause? : Failure → Option String
  | invalidConfig _ (some (.invalid index fault)) => some (LoadError.invalid index fault).message
  | invalidConfig _ (some (.duplicate index name)) => some (LoadError.duplicate index name).message
  | _ => none

end Failure

/-- How a command ends: the exit code, the printed text, a failure, and a file that is written, with
its path and its text. -/
structure Outcome where
  exit : Nat
  output : String
  failure : Option Failure
  written : Option (String × String)
deriving Repr, DecidableEq

namespace Outcome

/-- A command that prints a text and succeeds. -/
def printed (output : String) : Outcome :=
  ⟨0, output, none, none⟩

/-- A command that fails after it has printed a text. -/
def failed (output : String) (failure : Failure) : Outcome :=
  ⟨1, output, some failure, none⟩

/-- A command line that asks for nothing that can be done. -/
def misuse : Outcome :=
  ⟨2, "", none, none⟩

end Outcome

end CallGuard.CommandLine
