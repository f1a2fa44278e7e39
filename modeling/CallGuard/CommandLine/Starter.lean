import CallGuard.CommandLine.Configuration

/-!
# Writing a configuration file

A new project starts with a configuration file that shows all settings.

Main definitions:

- {lit}`starterConfig`: the text of the file.
- {lit}`writeConfig`: the outcome of writing it.
-/

namespace CallGuard.CommandLine

/-- The lines of the configuration file of a new project. -/
def starterLines : List String :=
  ["# fn-restrict configuration",
    "",
    "[analyzer]",
    "# Root directory to analyze (default: current directory)",
    "# root = \"./src\"",
    "",
    "# Glob patterns to exclude from analysis",
    "exclude = [",
    "    \"**/vendor/**\",",
    "    \"**/node_modules/**\",",
    "]",
    "",
    "# Extensions to scan (default: .php, .inc)",
    "# extensions = [\".php\"]",
    "",
    "# Respect .gitignore files",
    "respect_gitignore = true",
    "",
    "[sniffs.function-restrictions]",
    "enabled = true",
    "# severity = \"warning\"  # Override the severity of every group",
    "",
    "[restrictions]",
    "# Built-in presets: recommended, lambda, discouraged, restricted",
    "presets = [\"recommended\"]",
    "",
    "# Comma-separated group ids to skip",
    "exclude = \"\"",
    "",
    "# Project groups. A group with a built-in id replaces that group.",
    "# `%s` in the message is replaced with the called function's name.",
    "#",
    "# [[groups]]",
    "# name = \"legacy_mysql\"",
    "# type = \"error\"",
    "# message = \"%s() was removed in PHP 7; use mysqli or PDO.\"",
    "# functions = [\"mysql_*\"]",
    "# allow = []"]

/-- The text of the configuration file of a new project. -/
def starterConfig : String :=
  String.join (starterLines.map (· ++ "\n"))

/-- What is said after the file is written. -/
def nextSteps : String :=
  "Created " ++ configName ++ "\n\nNext steps:\n  1. Edit " ++ configName ++
    " to choose presets and groups\n  2. Run: fn-restrict check\n"

/-- The outcome of writing the configuration file.  One that is there is kept, unless the command is
forced to write over it. -/
def writeConfig (s : Surroundings) (force : Bool) : Outcome :=
  if (s.isFile configName || s.isFolder configName) && !force then
    .failed "" (.configExists configName)
  else if s.isFolder configName then .failed "" .unwritable
  else ⟨0, nextSteps, none, some (configName, starterConfig)⟩

end CallGuard.CommandLine
