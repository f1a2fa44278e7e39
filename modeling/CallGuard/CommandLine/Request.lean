import CallGuard.CommandLine.Arguments

/-!
# Requests

A command line asks for one of the commands of the program, for help, or for the version.

Main definitions:

- {lit}`Format`: the formats of a report.
- {lit}`Command`: the commands of the program.
- {lit}`Request`: a command with the path of a configuration file.
- {lit}`Request.read`: the request of a list of arguments.
-/

namespace CallGuard.CommandLine

/-- The formats of a report. -/
inductive Format where
  | text
  | json
  | compact
  | rich
deriving Repr, DecidableEq

/-- The format with a name. -/
def Format.ofName? : String → Option Format
  | "text" => some text
  | "json" => some json
  | "compact" => some compact
  | "rich" => some rich
  | _ => none

/-- The options of a check: the path, the format of the report, patterns of excluded paths, groups
to leave out, names of presets, and whether a file that cannot be read as source ends the run. -/
structure CheckOptions where
  path : String
  format : Format
  exclude : List String
  excludeGroups : Option String
  presets : List String
  strict : Bool
deriving Repr, DecidableEq

/-- The commands of the program. -/
inductive Command where
  /-- Checks the files at or below a path. -/
  | check (options : CheckOptions)
  /-- Lists the groups of presets and the configured groups. -/
  | listGroups (presets : List String)
  /-- Writes a configuration file, perhaps over one that is there. -/
  | init (force : Bool)
deriving Repr, DecidableEq

/-- A command with the path of a configuration file. -/
structure Request where
  config : Option String
  command : Command
deriving Repr, DecidableEq

/-! ## Tables -/

/-- A path is not empty. -/
def isPath (value : String) : Bool :=
  value != ""

/-- The options that may be given to the program and to each command. -/
def commonOptions : List OptionRule :=
  [.flag "verbose" (some 'v'), .single "config" (some 'c') isPath]

/-- The table of the program. -/
def programTable : ArgumentTable where
  options := commonOptions
  words := 0
  acceptsWord _ := false
  isProgram := true

/-- The table of a command with some options and words. -/
def commandTable (options : List OptionRule) (words : Nat) : ArgumentTable where
  options := options ++ commonOptions
  words := words
  acceptsWord := isPath
  isProgram := false

/-- The table for checking. -/
def checkTable : ArgumentTable :=
  commandTable
    [.single "format" (some 'f') fun value => (Format.ofName? value).isSome,
      .many "exclude" (some 'e'), .single "exclude-groups" none fun _ => true,
      .many "preset" (some 'p'), .flag "strict" none] 1

/-- The table for listing groups. -/
def listGroupsTable : ArgumentTable :=
  commandTable [.many "preset" (some 'p')] 0

/-- The table for writing a configuration file. -/
def initTable : ArgumentTable :=
  commandTable [.flag "force" none] 0

/-! ## Reading -/

/-- The variable with groups to leave out. -/
def excludeGroupsVariable : String := "FN_RESTRICT_EXCLUDE_GROUPS"

/-- The command that was given for checking. -/
def checkCommand (lookup : String → Option String) (g : Given) : Command :=
  .check {
    path := g.words.head?.getD "."
    format := ((g.value? "format").bind Format.ofName?).getD .text
    exclude := g.values "exclude"
    excludeGroups := (g.value? "exclude-groups").or (lookup excludeGroupsVariable)
    presets := g.values "preset"
    strict := g.has "strict" }

/-- Reads the arguments of a command; the configuration file that is named nearest to the end is
taken. -/
def readCommand (table : ArgumentTable) (outer : Given) (command : Given → Command)
    (arguments : List String) : Except Halt Request :=
  (table.read .empty arguments).map fun (g, _) =>
    ⟨(g.value? "config").or (outer.value? "config"), command g⟩

/-- The names of the commands. -/
def commandNames : List String :=
  ["check", "list-groups", "init", "help"]

/-- The request of a list of arguments, where some options also take their values from variables. -/
def Request.read (lookup : String → Option String) (arguments : List String) :
    Except Halt Request :=
  match programTable.read .empty arguments with
  | .error e => .error e
  | .ok (_, []) => .error .misuse
  | .ok (outer, name :: rest) =>
    match name with
    | "check" => readCommand checkTable outer (checkCommand lookup) rest
    | "list-groups" =>
      readCommand listGroupsTable outer (fun g => .listGroups (g.values "preset")) rest
    | "init" => readCommand initTable outer (fun g => .init (g.has "force")) rest
    | "help" =>
      match rest with
      | [] => .error .help
      | [topic] => .error (if commandNames.contains topic then .help else .misuse)
      | _ => .error .misuse
    | _ => .error .misuse

end CallGuard.CommandLine
