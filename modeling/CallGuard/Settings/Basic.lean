import CallGuard.Severity

/-!
# Settings

The settings of a run: which files are scanned, how each rule is treated, and which restrictions
apply.

Main definitions:

- {lit}`ScanSettings`, {lit}`RuleSettings`, {lit}`RestrictionSettings`: the three parts.
- {lit}`Settings`: all settings of a run.
- {lit}`Settings.isEnabled`, {lit}`Settings.severity?`: what they say about a rule.
-/

namespace CallGuard

/-- Which files are scanned: the root, the patterns of excluded paths, the extensions of the files,
where none means those of the tokenizer, and whether ignore files count. -/
structure ScanSettings where
  root : String
  exclude : List String
  extensions : List String
  respectIgnore : Bool
deriving Repr, DecidableEq

/-- The settings for scanning when there are none. -/
def ScanSettings.default : ScanSettings :=
  ⟨".", ["**/vendor/**", "**/node_modules/**"], [], true⟩

/-- How a rule is treated: whether it is enabled, and a severity for all of its findings. -/
structure RuleSettings where
  enabled : Option Bool
  severity : Option Severity
deriving Repr, DecidableEq

/-- Which restrictions apply: the names of presets, and the groups that are left out, separated by
commas. -/
structure RestrictionSettings where
  presets : List String
  exclude : String
deriving Repr, DecidableEq

/-- The settings of a run. -/
structure Settings where
  scan : ScanSettings
  rules : List (String × RuleSettings)
  restrictions : RestrictionSettings
deriving Repr, DecidableEq

namespace Settings

/-- The settings when nothing is set. -/
def default : Settings :=
  ⟨.default, [], ⟨[], ""⟩⟩

/-- The settings of a rule. -/
def rule? (s : Settings) (name : String) : Option RuleSettings :=
  (s.rules.find? (·.1 = name)).map (·.2)

/-- A rule is enabled unless its settings say otherwise. -/
def isEnabled (s : Settings) (name : String) : Bool :=
  ((s.rule? name).bind (·.enabled)).getD true

/-- The severity that is set for all findings of a rule. -/
def severity? (s : Settings) (name : String) : Option Severity :=
  (s.rule? name).bind (·.severity)

end Settings

end CallGuard
