import CallGuard.Analyzer.Run
import CallGuard.CommandLine.Configuration
import CallGuard.CommandLine.Request
import CallGuard.Finding.Json
import CallGuard.Guard
import CallGuard.Json.Printer
import CallGuard.Php.Tokenizer

/-!
# Checking files

A check selects the groups of presets, adds the configured groups, leaves out what is excluded, and
reports the calls that the guard finds in the files of a project.

Main definitions:

- {lit}`selectGroups`: the groups of a list of presets.
- {lit}`checkGuard`: the guard of a check.
- {lit}`Format.render`: a report in a format.
- {lit}`check`: the outcome of a check.
-/

namespace CallGuard.CommandLine

/-! ## Groups -/

/-- The groups of a list of presets, given by their names, added to a set. -/
def addPresets (withNames : Bool) (groups : GroupSet) : List String → Except Failure GroupSet
  | [] => .ok groups
  | name :: rest =>
    match Preset.ofName? name with
    | none => .error (.unknownPreset name withNames)
    | some preset => addPresets withNames (groups.merge preset.groups) rest

/-- The groups of a list of presets.  Without a name these are the recommended groups, unless there
are configured groups. -/
def selectGroups (presets : List String) (hasGroups : Bool) : Except Failure GroupSet :=
  if presets.isEmpty then .ok (if hasGroups then ∅ else Preset.recommended.groups)
  else addPresets true ∅ presets

/-- The guard of a check, under a limit for regular expressions. -/
def checkGuard (limit : String → Bool) (c : Configuration) (o : CheckOptions) :
    Except Failure Guard :=
  let restrictions := c.settings.restrictions
  let presets := if o.presets.isEmpty then restrictions.presets else o.presets
  (selectGroups presets (!c.groups.isEmpty)).map fun primary =>
    Guard.buildWithin limit [.groups primary, .supplementary c.groups,
      .exclude (Exclusion.join restrictions.exclude o.excludeGroups)]

/-! ## Reports -/

/-- The code that sets the color of the text that follows. -/
def color (code : String) : String :=
  String.singleton (Char.ofNat 27) ++ "[" ++ code ++ "m"

/-- The last line of a report: red with errors, yellow with warnings only, and green without
findings. -/
def summaryLine (r : Report) : String :=
  let errors := r.count .error
  let warnings := r.count .warning
  color (if errors > 0 then "31" else if warnings > 0 then "33" else "32") ++
    "Found " ++ toString errors ++ " error(s), " ++ toString warnings ++ " warning(s) in " ++
    toString r.filesChecked ++ " file(s)" ++ color "0" ++ "\n"

/-- A report in a format.  The rich format shows the findings elsewhere. -/
def Format.render (r : Report) : Format → String
  | text => String.join (r.findings.map fun f => f.details ++ "\n") ++ summaryLine r
  | json => r.toJson.pretty ++ "\n"
  | compact => String.join (r.findings.map fun f => f.summary ++ "\n")
  | rich => summaryLine r

/-! ## The command -/

/-- The outcome of a check, under a limit for regular expressions. -/
def check (limit : String → Bool) (s : Surroundings) (config : Option String) (o : CheckOptions) :
    Outcome :=
  match s.configuration o.path config with
  | .error e => .failed "" e
  | .ok c =>
    match checkGuard limit c o with
    | .error e => .failed "" e
    | .ok guard =>
      match Analyzer.build s.folder
          ⟨some o.path, [guard.rule], some Php.tokenizer, o.exclude, some c.settings, o.strict⟩ with
      | .error _ => .failed "" .build
      | .ok analyzer =>
        match analyzer.analyze s.tree with
        | .error _ => .failed "" .analysis
        | .ok report => ⟨if report.hasErrors then 1 else 0, o.format.render report, none, none⟩

end CallGuard.CommandLine
