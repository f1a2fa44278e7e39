import CallGuard.Analyzer.Listeners
import CallGuard.Path
import CallGuard.Settings.Basic
import CallGuard.Tokenizer

/-!
# Analyzers

An analyzer holds everything that a run needs: the working folder, the root of the files, the
enabled rules with their listeners, the tokenizer, the patterns of excluded paths, the extensions of
the files, and the settings.  It is built from a plan.

Main definitions:

- {lit}`Analyzer`: an analyzer.
- {lit}`Analyzer.Plan`: what an analyzer is built from.
- {lit}`Analyzer.build`: the analyzer of a plan.
-/

namespace CallGuard

/-- An analyzer. -/
structure Analyzer where
  folder : String
  root : String
  rules : List Rule
  listeners : Listeners
  tokenizer : Tokenizer
  excludes : List String
  extensions : List String
  settings : Settings
  strict : Bool

namespace Analyzer

/-- What an analyzer is built from: a root in place of that of the settings, rules, a tokenizer,
patterns of excluded paths, settings in place of the default ones, and whether a file that cannot
be read or split into tokens ends the run. -/
structure Plan where
  root : Option String
  rules : List Rule
  tokenizer : Option Tokenizer
  excludes : List String
  settings : Option Settings
  strict : Bool

/-- Why an analyzer cannot be built. -/
inductive BuildError where
  /-- The plan has no tokenizer. -/
  | missingTokenizer
deriving Repr, DecidableEq

/-- The text of an error. -/
def BuildError.message : BuildError → String
  | missingTokenizer => "No tokenizer configured"

/-- The analyzer of a plan, in a folder that relative roots start from. -/
def build (folder : String) (p : Plan) : Except BuildError Analyzer :=
  match p.tokenizer with
  | none => .error .missingTokenizer
  | some tokenizer =>
    let settings := p.settings.getD .default
    let rules := p.rules.filter fun r => settings.isEnabled r.name
    .ok {
      folder := folder
      root := Path.join folder (p.root.getD settings.scan.root)
      rules := rules
      listeners := .ofRules rules
      tokenizer := tokenizer
      excludes := p.excludes ++ settings.scan.exclude
      extensions :=
        if settings.scan.extensions.isEmpty then tokenizer.extensions
        else settings.scan.extensions
      settings := settings
      strict := p.strict }

/-- Whether some rule listens for some kind of token. -/
def hasListeners (a : Analyzer) : Bool :=
  !a.listeners.isEmpty

end Analyzer

end CallGuard
