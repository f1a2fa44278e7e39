import CallGuard.CommandLine.Check

/-!
# Listing groups

The list shows the built-in groups, or those of some presets, then the configured groups, and then
the names of the presets.

Main definitions:

- {lit}`groupLines`: what is shown of a group.
- {lit}`listGroups`: the outcome of listing groups.
-/

namespace CallGuard.CommandLine

/-- What is shown of a group, with a mark behind its severity. -/
def groupLines (mark : String) (g : Group) : String :=
  "  " ++ g.id ++ " [" ++ g.severity.name ++ "]" ++ mark ++ "\n" ++
    "    " ++ String.intercalate ", " (g.patterns.map (·.text)) ++ "\n" ++
    (if g.allowSorted.isEmpty then ""
      else "    allows: " ++ String.intercalate ", " g.allowSorted ++ "\n") ++ "\n"

/-- The mark of a configured group. -/
def configuredMark (builtin : GroupSet) (g : Group) : String :=
  if builtin.contains g.id then " (config, overrides built-in)" else " (config)"

/-- What is shown of the built-in groups. -/
def builtinPart (builtin : GroupSet) : String :=
  "Built-in groups:\n\n" ++ String.join (builtin.groups.map (groupLines ""))

/-- What is shown of the configured groups. -/
def configuredPart (builtin configured : GroupSet) : String :=
  if configured.isEmpty then ""
  else
    "Configured groups:\n\n" ++
      String.join (configured.groups.map fun g => groupLines (configuredMark builtin g) g)

/-- What is shown of the presets. -/
def presetPart : String :=
  "Presets:\n" ++ String.join (Preset.all.map fun p => "  " ++ p.name ++ "\n")

/-- The outcome of listing groups.  The built-in groups are shown even if the configuration
fails. -/
def listGroups (s : Surroundings) (config : Option String) (presets : List String) : Outcome :=
  match if presets.isEmpty then .ok Builtin.all else addPresets false ∅ presets with
  | .error e => .failed "" e
  | .ok builtin =>
    match s.configuration "." config with
    | .error e => .failed (builtinPart builtin) e
    | .ok c => .printed (builtinPart builtin ++ configuredPart builtin c.groups ++ presetPart)

end CallGuard.CommandLine
