import CallGuard.FileTree
import CallGuard.Ignore.Line

/-!
# Ignored files of a tree

Every folder may hold ignore files of several kinds.  About a file or folder, each kind is asked in
the folders above it, the nearest first, until one of them says something; a kind that comes
earlier in the list of kinds wins over a later one.  The kinds that belong to a repository are not
asked above the folder of the nearest repository.  Below an ignored folder everything is hidden.
An ignore file that cannot be read says nothing.

Main definitions:

- {lit}`Ignore.Kind`: the kinds of ignore files.
- {lit}`FileTree.excludeFile?`: the list of excluded files of the repository in a folder.
- {lit}`FileTree.isIgnored`: whether the ignore files of a tree ignore a file or folder.
- {lit}`FileTree.isHidden`: whether a file is hidden from a walk that starts at some folder.
-/

namespace CallGuard

namespace Ignore

/-- The kinds of ignore files. -/
inductive Kind where
  /-- For every tool, in any folder. -/
  | general
  /-- For version control, in any folder. -/
  | versioned
  /-- For version control, among the files of a repository itself. -/
  | excluded
deriving Repr, DecidableEq

/-- The kinds of ignore files, those that win first. -/
def kinds : List Kind :=
  [.general, .versioned, .excluded]

/-- The places in a folder that tell which files are ignored below it. -/
def places : List (List String) :=
  [[".ignore"], [".gitignore"], [".jj"], [".git"], [".git", "info", "exclude"]]

/-- The first line of a file, if there is one and it is in UTF-8. -/
def firstLine? (bytes : ByteArray) : Option (List Char) :=
  (Text.linesBy (some '\n') (some '\r') (Text.Utf8.decode bytes.toList)).head?.bind fun line =>
    if line.all (·.isSome) then some (line.filterMap id) else none

/-- The start of the line that names the folder of a repository that lies elsewhere. -/
def linkStart : List Char :=
  "gitdir: ".toList

/-- The path of the folder of a repository that a file names in its first line. -/
def link? (contents : FileContents) : Option String :=
  (contents.bytes?.bind firstLine?).bind fun line =>
    if linkStart.isPrefixOf line then some (String.ofList (line.drop linkStart.length)) else none

/-- A list up to its first member that satisfies a condition, with that member. -/
def through {α : Type} (p : α → Bool) : List α → List α
  | [] => []
  | a :: rest => if p a then [a] else a :: through p rest

end Ignore

namespace FileTree

/-! ## Repositories -/

/-- Whether something stands at a place. -/
def isThere (t : FileTree) (names : List String) : Bool :=
  t.isFile names || t.isFolder names

/-- Whether a folder is the folder of a repository. -/
def isRepository (t : FileTree) (names : List String) : Bool :=
  t.isThere (names ++ [".git"]) || t.isThere (names ++ [".jj"])

/-- The path of the file in the folder of a linked repository that names the folder which it shares
with others. -/
def sharedNamePath (working link : String) : String :=
  Path.join working (Path.join link "commondir")

/-- The path of a file in the folder that a linked repository shares with others.  The name of that
folder is relative to that of the repository if it starts with a dot.  Other relative paths start
from the working folder. -/
def sharedPath? (t : FileTree) (working link file : String) : Option String :=
  (t.bytesAt? (sharedNamePath working link)).bind fun bytes =>
    (Ignore.firstLine? bytes).map fun line =>
      let name := String.ofList line
      let shared := if line.head? = some '.' then Path.join link name else name
      Path.join working (Path.join shared file)

/-- The bytes of the list of excluded files of the repository in a folder.  The repository lies
below that folder, or a file in its place says where it lies. -/
def excludeFile? (t : FileTree) (working : String) (names : List String) : Option ByteArray :=
  match t.file? (names ++ [".git"]) with
  | none => t.bytes? (names ++ [".git", "info", "exclude"])
  | some contents =>
    (Ignore.link? contents).bind fun link =>
      (t.sharedPath? working link "info/exclude").bind t.bytesAt?

/-! ## Ignored files -/

/-- The bytes of the ignore file of a kind in a folder. -/
def ignoreFile? (t : FileTree) (working : String) (names : List String) :
    Ignore.Kind → Option ByteArray
  | .general => t.bytes? (names ++ [".ignore"])
  | .versioned => t.bytes? (names ++ [".gitignore"])
  | .excluded => t.excludeFile? working names

/-- The depths of the folders that are asked about a file or folder, the nearest first. -/
def askedDepths (t : FileTree) (names : List String) (kind : Ignore.Kind) : List Nat :=
  let depths := (List.range names.length).reverse
  match kind with
  | .general => depths
  | .versioned | .excluded => Ignore.through (fun depth => t.isRepository (names.take depth)) depths

/-- What the ignore files of a kind say about a file or folder. -/
def verdict? (t : FileTree) (working : String) (kind : Ignore.Kind) (names : List String)
    (isFolder : Bool) : Option Ignore.Verdict :=
  (t.askedDepths names kind).findSome? fun depth =>
    (t.ignoreFile? working (names.take depth) kind).bind fun bytes =>
      Ignore.verdict? (Ignore.fileLines bytes) (names.drop depth) isFolder

/-- Whether the ignore files of a tree ignore a file or folder, where relative paths in them start
from a working folder. -/
def isIgnored (t : FileTree) (working : String) (names : List String) (isFolder : Bool) : Bool :=
  (Ignore.kinds.findSome? fun kind => t.verdict? working kind names isFolder) = some .ignore

/-- Whether a file is hidden from a walk that starts at a root above it: the file or a folder on
the way is ignored.  The root itself is never ignored. -/
def isHidden (t : FileTree) (working : String) (root way : List String) : Bool :=
  (List.range way.length).any fun depth =>
    t.isIgnored working (root ++ way.take (depth + 1)) (depth + 1 < way.length)

end FileTree

end CallGuard
