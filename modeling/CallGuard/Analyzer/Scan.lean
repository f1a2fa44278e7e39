import CallGuard.Analyzer.Basic
import CallGuard.Finding.Order

/-!
# Scanning a source

The tokens of a source are visited in order, and each is shown to the rules that listen for its
kind.  Afterwards the settings may replace the severity of findings.

Main definitions:

- {lit}`Analyzer.scan`: the findings in a list of tokens.
- {lit}`Analyzer.analyzeSource`: the sorted findings in the text of a file.
-/

namespace CallGuard

namespace Analyzer

/-- Why a run fails. -/
inductive RunError where
  /-- The file at a path could not be read, for a reason that the system gives. -/
  | read (path reason : String)
  /-- The file at a path could not be split into tokens. -/
  | tokenize (path : String) (error : TokenizeError)
  /-- The root is not there. -/
  | missingRoot (root : String)
deriving Repr, DecidableEq

/-- The text of an error. -/
def RunError.message : RunError → String
  | read path reason => "Failed to read " ++ path ++ ": " ++ reason
  | tokenize path error => "Tokenize error in " ++ path ++ ": " ++ error.message
  | missingRoot root => "File discovery error: " ++ root

/-- The findings of the listeners at a token. -/
def inspectAt (a : Analyzer) (file : String) (tokens : Tokens) (index : Nat) : List Finding :=
  match tokens[index]? with
  | none => []
  | some token =>
    (a.listeners.indicesOf token.kind).flatMap fun i =>
      match a.rules[i]? with
      | some r => r.inspect file tokens index
      | none => []

/-- A finding with the severity that is set for its rule. -/
def adjust (a : Analyzer) (f : Finding) : Finding :=
  match a.settings.severity? f.rule with
  | some severity => { f with severity := severity }
  | none => f

/-- The findings in the tokens of a file, which are reported under a given path.  Nothing is visited
if nobody listens. -/
def scan (a : Analyzer) (file : String) (tokens : Tokens) : List Finding :=
  if a.listeners.isEmpty then []
  else ((List.range tokens.size).flatMap (a.inspectAt file tokens)).map a.adjust

/-- The sorted findings in the text of the file at a path, which is reported relative to a base. -/
def analyzeSource (a : Analyzer) (base : List Path.Component) (path text : String) :
    Except RunError (List Finding) :=
  match a.tokenizer.tokenize text with
  | .error e => .error (.tokenize path e)
  | .ok tokens => .ok (Finding.sort (a.scan (Path.relativeTo base path) tokens))

end Analyzer

end CallGuard
