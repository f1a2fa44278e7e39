/-!
# Arguments

The arguments of a command line are options and words.  A long option starts with two dashes and a
short one with a single dash.  The value of an option follows as the next argument, behind an equals
sign, or, for a short option, directly.  Short options may share one dash.  Behind two dashes
alone there are only words.

Each command has a table of its options.  The table for the program itself stands in front of the
name of a command, which is the first word.

Main definitions:

- {lit}`OptionRule`: an option of a table.
- {lit}`ArgumentTable`: the options and words that may stand at a place.
- {lit}`Given`: the options and words that were given.
- {lit}`ArgumentTable.read`: reading arguments.
-/

namespace CallGuard.CommandLine

/-! ## Tables -/

/-- An option: its long name, its short name, whether it takes a value, whether it may be given more
than once, and the values that it takes. -/
structure OptionRule where
  long : String
  short : Option Char
  takesValue : Bool
  repeatable : Bool
  accepts : String → Bool

/-- An option without a value. -/
def OptionRule.flag (long : String) (short : Option Char) : OptionRule :=
  ⟨long, short, false, false, fun _ => true⟩

/-- An option with a value that may be given once. -/
def OptionRule.single (long : String) (short : Option Char) (accepts : String → Bool) :
    OptionRule :=
  ⟨long, short, true, false, accepts⟩

/-- An option with a value that may be given more than once. -/
def OptionRule.many (long : String) (short : Option Char) : OptionRule :=
  ⟨long, short, true, true, fun _ => true⟩

/-- What may stand at a place: options, at most so many words that are accepted, whether the first
word names a command, and whether the version can be asked for. -/
structure ArgumentTable where
  options : List OptionRule
  words : Nat
  acceptsWord : String → Bool
  isProgram : Bool

/-- Why the reading of arguments ends early. -/
inductive Halt where
  /-- Help was asked for. -/
  | help
  /-- The version was asked for. -/
  | version
  /-- The arguments do not fit the table. -/
  | misuse
deriving Repr, DecidableEq

/-- Options with their values, and words, in the order in which they were given. -/
structure Given where
  options : List (String × String)
  words : List String
deriving Repr, DecidableEq

namespace Given

/-- Nothing is given. -/
def empty : Given := ⟨[], []⟩

/-- Whether an option is given. -/
def has (g : Given) (long : String) : Bool :=
  g.options.any (·.1 == long)

/-- The values of an option. -/
def values (g : Given) (long : String) : List String :=
  (g.options.filter (·.1 == long)).map (·.2)

/-- The value of an option. -/
def value? (g : Given) (long : String) : Option String :=
  (g.values long).head?

/-- Adds an option; only some may be given more than once, and the value has to fit. -/
def addOption (g : Given) (o : OptionRule) (value : String) : Except Halt Given :=
  if g.has o.long && !o.repeatable then .error .misuse
  else if o.accepts value then .ok { g with options := g.options ++ [(o.long, value)] }
  else .error .misuse

/-- Adds a word, if the table has room for it. -/
def addWord (g : Given) (table : ArgumentTable) (word : String) : Except Halt Given :=
  if g.words.length < table.words && table.acceptsWord word then
    .ok { g with words := g.words ++ [word] }
  else
    .error .misuse

end Given

/-! ## Forms of arguments -/

/-- The forms of an argument. -/
inductive Form where
  /-- Two dashes alone. -/
  | separator
  /-- A long option, perhaps with a value. -/
  | long (name : String) (value : Option String)
  /-- Short options. -/
  | short (chars : List Char)
  /-- A word. -/
  | word
deriving Repr, DecidableEq

/-- The form of an argument.  A dash alone is a word. -/
def formOf (argument : String) : Form :=
  match argument.toList with
  | ['-', '-'] => .separator
  | '-' :: '-' :: rest =>
    let name := String.ofList (rest.takeWhile (· != '='))
    match rest.dropWhile (· != '=') with
    | [] => .long name none
    | _ :: value => .long name (some (String.ofList value))
  | '-' :: c :: rest => .short (c :: rest)
  | _ => .word

/-! ## Reading -/

/-- What was given, and an option that still waits for its value. -/
abbrev Pending := Given × Option OptionRule

/-- Reads short options behind one dash. -/
def ArgumentTable.readShort (table : ArgumentTable) (g : Given) :
    List Char → Except Halt Pending
  | [] => .ok (g, none)
  | c :: rest =>
    match table.options.find? (·.short = some c) with
    | none =>
      if c = 'h' then .error .help
      else if c = 'V' && table.isProgram then .error .version
      else .error .misuse
    | some o =>
      if o.takesValue then
        match rest with
        | [] => .ok (g, some o)
        | '=' :: value => (g.addOption o (String.ofList value)).map (·, none)
        | value => (g.addOption o (String.ofList value)).map (·, none)
      else
        match g.addOption o "" with
        | .ok g => table.readShort g rest
        | .error e => .error e

/-- Reads a long option. -/
def ArgumentTable.readLong (table : ArgumentTable) (g : Given) (name : String)
    (value : Option String) : Except Halt Pending :=
  match table.options.find? (·.long = name), value with
  | none, none =>
    if name = "help" then .error .help
    else if name = "version" && table.isProgram then .error .version
    else .error .misuse
  | none, some _ => .error .misuse
  | some o, none => if o.takesValue then .ok (g, some o) else (g.addOption o "").map (·, none)
  | some o, some value =>
    if o.takesValue then (g.addOption o value).map (·, none) else .error .misuse

/-- Adds words. -/
def ArgumentTable.readWords (table : ArgumentTable) (g : Given) : List String → Except Halt Given
  | [] => .ok g
  | word :: rest =>
    match g.addWord table word with
    | .ok g => table.readWords g rest
    | .error e => .error e

/-- Reads arguments, and gives what was given with the arguments from the name of a command on. -/
def ArgumentTable.read (table : ArgumentTable) (g : Given) (arguments : List String) :
    Except Halt (Given × List String) :=
  match arguments with
  | [] => .ok (g, [])
  | argument :: rest =>
    let pending? : Except Halt Pending :=
      match formOf argument with
      | .separator | .word => .ok (g, none)
      | .long name value => table.readLong g name value
      | .short chars => table.readShort g chars
    match formOf argument, pending? with
    | _, .error e => .error e
    | .separator, _ =>
      if table.isProgram then .error .misuse else (table.readWords g rest).map (·, [])
    | .word, _ =>
      if table.isProgram then .ok (g, argument :: rest)
      else
        match g.addWord table argument with
        | .ok g => table.read g rest
        | .error e => .error e
    | _, .ok (g, none) => table.read g rest
    | _, .ok (g, some o) =>
      match rest with
      | [] => .error .misuse
      | value :: rest =>
        if formOf value = .word then
          match g.addOption o value with
          | .ok g => table.read g rest
          | .error e => .error e
        else
          .error .misuse
termination_by arguments.length
decreasing_by all_goals simp only [List.length_cons]; omega

end CallGuard.CommandLine
