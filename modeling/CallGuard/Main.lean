import CallGuard.CommandLine.Reads

/-!
# The program

The program gathers the files that its command line may look at, runs the command line on them,
prints the outcome and writes the file that the command asks for.
-/

namespace CallGuard.CommandLine

/-- Reads what stands at an absolute path into a tree, with everything below it if asked for. -/
partial def gather (deep : Bool) (tree : FileTree) (path : String) : IO FileTree := do
  match ← (IO.FS.realPath path).toBaseIO with
  | .error _ => return tree
  | .ok here =>
    if ← here.isDir then
      let mut tree := tree.addFolder (placeOf path)
      if deep then
        for entry in ← here.readDir do
          tree ← gather deep tree (Path.join path entry.fileName)
      return tree
    else
      match ← (IO.FS.readBinFile path).toBaseIO with
      | .ok bytes => return tree.write (placeOf path) (.bytes bytes)
      | .error refusal => return tree.write (placeOf path) (.unreadable (toString refusal))

/-- Reads single places and the folders above them into a tree. -/
def gatherPlaces (tree : FileTree) (paths : List String) : IO FileTree :=
  (paths.flatMap fun path => path :: ancestors path).foldlM (gather false) tree

/-- The surroundings of the program for its arguments. -/
def surroundings (arguments : List String) : IO Surroundings := do
  let folder := (← IO.currentDir).toString
  let environment ← variableNames.filterMapM fun name =>
    return (← IO.getEnv name).map fun value => (name, value)
  let bare : Surroundings := ⟨.empty, folder, environment⟩
  match Request.read bare.value? arguments with
  | .error _ => return bare
  | .ok request =>
    let reads := bare.reads request
    let tree ← gatherPlaces .empty (folder :: reads.below.toList ++ reads.places)
    let tree ← reads.below.toList.foldlM (gather true) tree
    let tree ← gatherPlaces tree (linkedPlaces folder tree)
    let tree ← gatherPlaces tree (linkedPlaces folder tree)
    return { bare with tree := tree }

/-- The limit for regular expressions that the program works with.  It has no engine that measures
them, so it counts characters. -/
def programLimit : String → Bool :=
  Group.withinLimit 40000

/-- Prints an outcome, writes its file, and gives its exit code. -/
def settle (outcome : Outcome) : IO UInt32 := do
  IO.print outcome.output
  if let some (path, content) := outcome.written then
    IO.FS.writeFile path content
  if let some failure := outcome.failure then
    IO.eprintln ("Error: " ++ failure.message)
    if let some cause := failure.cause? then
      IO.eprintln ("\nCaused by:\n    " ++ cause)
  return UInt32.ofNat outcome.exit

end CallGuard.CommandLine

/-- Runs the command line of the program. -/
def main (arguments : List String) : IO UInt32 := do
  let s ← CallGuard.CommandLine.surroundings arguments
  CallGuard.CommandLine.settle (s.run CallGuard.CommandLine.programLimit arguments)
