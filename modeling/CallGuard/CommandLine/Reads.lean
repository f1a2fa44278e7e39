import CallGuard.CommandLine.Run

/-!
# What a command reads

Before a command runs, the files that it may look at are gathered: everything at or below the path
of a check, and single places for configuration files and ignore files.

Main definitions:

- {lit}`variableNames`: the variables that a command may look at.
- {lit}`ancestors`: the folders above a path.
- {lit}`Reads`: what a command may look at.
- {lit}`Surroundings.reads`: what a request may look at.
- {lit}`linkedPlaces`: what it may look at besides, as far as the gathered files tell.
-/

namespace CallGuard.CommandLine

/-- The variables that a command may look at. -/
def variableNames : List String :=
  [excludeGroupsVariable, configFolderVariable, "HOME"]

/-- The folders above a path, nearest first, as far as a number of steps. -/
def ancestorsWithin (path : String) : Nat → List String
  | 0 => []
  | steps + 1 => Path.parent path :: ancestorsWithin (Path.parent path) steps

/-- The folders above an absolute path, nearest first. -/
def ancestors (path : String) : List String :=
  ancestorsWithin path ((Path.components path).length - 1)

/-- The place of an absolute path in a file tree. -/
def placeOf (path : String) : List String :=
  (Path.components path).foldl
    (fun place component =>
      match component with
      | .name text => place ++ [text]
      | .up => place.dropLast
      | .root | .here => place)
    []

/-- What a command may look at: a path with everything below it, and single places. -/
structure Reads where
  below : Option String
  places : List String
deriving Repr, DecidableEq

/-- The ignore files in the folders above a path. -/
def ignorePlaces (path : String) : List String :=
  (ancestors path).flatMap fun folder =>
    Ignore.places.map fun place => Path.join folder (String.intercalate "/" place)

/-- The files of linked repositories to which the files of a tree lead. -/
def linkedPlaces (folder : String) (t : FileTree) : List String :=
  t.files.flatMap fun (names, contents) =>
    match names.getLast?, Ignore.link? contents with
    | some ".git", some link =>
      FileTree.sharedNamePath folder link ::
        (t.sharedPath? folder link "info/exclude").toList
    | _, _ => []

/-- The places of configuration files for a project, which may turn out to be a file or a folder. -/
def Surroundings.configPlaces (s : Surroundings) (project : String) (given : Option String) :
    List String :=
  let candidates := match given with
    | some path => [path]
    | none => s.configCandidates project ++ s.configCandidates (Path.parent project)
  candidates.map (Path.join s.folder)

/-- What a request may look at. -/
def Surroundings.reads (s : Surroundings) (r : Request) : Reads :=
  match r.command with
  | .check options =>
    let root := Path.join s.folder options.path
    ⟨some root, s.configPlaces options.path r.config ++ ignorePlaces root⟩
  | .listGroups _ => ⟨none, s.configPlaces "." r.config⟩
  | .init _ => ⟨none, [Path.join s.folder configName]⟩

end CallGuard.CommandLine
