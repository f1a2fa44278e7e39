import CallGuard.Rule
import CallGuard.Text.Basic
import CallGuard.Tokenizer

/-!
# Plain text

Plain text is the smallest language that an analyzer can work on: its words are identifiers.  It
comes with a rule that finds one bad word and a rule that listens to nothing, and it serves to try
out analyzers without a programming language.

Main definitions:

- {lit}`PlainText.tokenizer`: the tokenizer for plain text.
- {lit}`PlainText.badWord`: the rule that finds a bad word.
- {lit}`PlainText.silent`: the rule that listens to nothing.
-/

namespace CallGuard.PlainText

/-! ## Words -/

/-- The words of a line between single spaces, where {lit}`column` is the column of the first. -/
def wordsFrom (line column : Nat) : List (List Char) → List Token
  | [] => []
  | word :: rest =>
    let more := wordsFrom line (column + Text.byteLength word + 1) rest
    if word.isEmpty then more
    else ⟨.identifier, String.ofList word, line, column, 0⟩ :: more

/-- The words of lines, where {lit}`line` is the number of the first. -/
def wordsOfLines (line : Nat) : List (List Char) → List Token
  | [] => []
  | text :: rest => wordsFrom line 1 (Text.cut ' ' text) ++ wordsOfLines (line + 1) rest

/-- The tokens of a text.  Two words make a text unreadable. -/
def tokenize (source : String) : Except TokenizeError Tokens :=
  if Text.occursIn "broken".toList source.toList then .error (.source "words")
  else if Text.occursIn "nolang".toList source.toList then .error (.grammar "words" "no grammar")
  else .ok (wordsOfLines 1 (Text.lines source.toList)).toArray

/-- The tokenizer for plain text. -/
def tokenizer : Tokenizer where
  language := "words"
  extensions := [".txt"]
  tokenize := tokenize

/-! ## Rules -/

/-- The rule that finds a bad word.  It names the kind of words twice, which makes no difference. -/
def badWord : Rule where
  name := "bad-word"
  description := ""
  kinds := [.identifier, .identifier]
  inspect file tokens index :=
    match tokens[index]? with
    | some token =>
      if token.content = "bad" then
        [⟨"bad-word", "words", .error, .ofToken file token index, "bad word", "bad", none⟩]
      else
        []
    | none => []

/-- The rule that listens to nothing. -/
def silent : Rule where
  name := "silent"
  description := ""
  kinds := []
  inspect _ _ _ := []

end CallGuard.PlainText
