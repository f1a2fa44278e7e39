import CallGuard.CommandLine.Outcome
import CallGuard.FileTree
import CallGuard.Settings.Toml

/-!
# Configuration files

The configuration of a run is the file that the command line names; else a file with one of two
names in the folder of the project; else a file in a folder for all projects.  Without any of
these the defaults apply.  One file holds both the settings and the configured groups.

Main definitions:

- {lit}`Surroundings`: the files, the current folder and the environment of a run.
- {lit}`Surroundings.configPath?`: the path of the configuration file.
- {lit}`Configuration`: settings and groups.
- {lit}`Surroundings.configuration`: the configuration of a run.
-/

namespace CallGuard.CommandLine

/-- The files that a run can see, the folder that relative paths start from, and the
values of its environment variables. -/
structure Surroundings where
  tree : FileTree
  folder : String
  environment : List (String × String)

namespace Surroundings

/-- The value of a variable. -/
def value? (s : Surroundings) (name : String) : Option String :=
  (s.environment.find? (·.1 == name)).map (·.2)

/-- Whether a path leads to a file. -/
def isFile (s : Surroundings) (path : String) : Bool :=
  s.tree.isFileAt (Path.join s.folder path)

/-- Whether a path leads to a folder. -/
def isFolder (s : Surroundings) (path : String) : Bool :=
  s.tree.isFolderAt (Path.join s.folder path)

/-- The text of the file that a path leads to. -/
def text? (s : Surroundings) (path : String) : Option String :=
  s.tree.textAt? (Path.join s.folder path)

end Surroundings

/-! ## Finding the file -/

/-- The name of the configuration file of a project. -/
def configName : String := "fn-restrict.toml"

/-- The names that the configuration file of a project may have, in the order in which they are
looked for. -/
def configNames : List String := [configName, "." ++ configName]

/-- The name of the configuration file for all projects. -/
def sharedConfigName : String := "config.toml"

/-- The variable with the folder of the configuration file for all projects. -/
def configFolderVariable : String := "FN_RESTRICT_CONFIG_DIR"

namespace Surroundings

/-- The folder of a project, which may be given by one of its files. -/
def projectFolder (s : Surroundings) (project : String) : String :=
  if s.isFile project then Path.parent project else project

/-- The folder of the configuration file for all projects. -/
def sharedFolder? (s : Surroundings) : Option String :=
  (s.value? configFolderVariable).or
    ((s.value? "HOME").map (Path.join · ".fn-restrict"))

/-- The paths at which the configuration file of a project is looked for. -/
def configCandidates (s : Surroundings) (project : String) : List String :=
  configNames.map (Path.join (s.projectFolder project)) ++
    (s.sharedFolder?.map (Path.join · sharedConfigName)).toList

/-- The path of the configuration file of a project: the given one, or the first candidate that is
a file. -/
def configPath? (s : Surroundings) (project : String) (given : Option String) : Option String :=
  given.or ((s.configCandidates project).find? s.isFile)

end Surroundings

/-! ## Reading the file -/

/-- The settings and the groups of a configuration file. -/
structure Configuration where
  settings : Settings
  groups : GroupSet

/-- The configuration without a file. -/
def Configuration.default : Configuration :=
  ⟨.default, ∅⟩

/-- Reads the text of the configuration file at a path. -/
def Configuration.parse (path source : String) : Except Failure Configuration :=
  match Settings.parse source with
  | .error _ => .error (.invalidConfig path none)
  | .ok settings =>
    match GroupSet.parse source with
    | .error e => .error (.invalidConfig path (some e))
    | .ok groups => .ok ⟨settings, groups⟩

/-- The configuration for a project. -/
def Surroundings.configuration (s : Surroundings) (project : String) (given : Option String) :
    Except Failure Configuration :=
  match s.configPath? project given with
  | none => .ok .default
  | some path =>
    match s.text? path with
    | none => .error (.unreadableConfig path)
    | some source => Configuration.parse path source

end CallGuard.CommandLine
