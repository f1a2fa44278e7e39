import CallGuard.Path
import CallGuard.Text.Utf8

/-!
# File trees

A file tree holds files and folders.  Each of them is known by the names on the way from the
root of the tree.  The folders on the way to a file or folder are there without being listed.  All
folders can be entered, but not every file can be read.

Main definitions:

- {lit}`FileContents`: what a file gives when it is read.
- {lit}`FileTree`: a file tree.
- {lit}`FileTree.file?`, {lit}`FileTree.isFolder`: what stands at a place.
- {lit}`FileTree.locate?`: the place that a path leads to.
- {lit}`FileTree.below`: the files below a place.
- {lit}`FileTree.write`: writing a file.
-/

namespace CallGuard

/-- Whether a text can be the name of a file. -/
def Path.isName (name : String) : Bool :=
  name != "" && name != "." && name != ".." && !name.toList.contains '/'

/-- What a file gives when it is read: its bytes, or the words in which the system refuses to read
it. -/
inductive FileContents where
  | bytes (bytes : ByteArray)
  | unreadable (reason : String)

/-- Bytes are compared one by one. -/
instance : DecidableEq FileContents
  | .bytes given, .bytes other =>
    decidable_of_iff (given.data = other.data)
      (by rw [FileContents.bytes.injEq, ByteArray.ext_iff])
  | .unreadable reason, .unreadable other =>
    decidable_of_iff (reason = other) (by rw [FileContents.unreadable.injEq])
  | .bytes _, .unreadable _ => isFalse FileContents.noConfusion
  | .unreadable _, .bytes _ => isFalse FileContents.noConfusion

/-- The bytes of a file that can be read. -/
def FileContents.bytes? : FileContents → Option ByteArray
  | .bytes given => some given
  | .unreadable _ => none

/-- A file tree: the files with what they give, and folders.  No file is listed twice, and every
file has proper names on its way. -/
structure FileTree where
  files : List (List String × FileContents)
  folders : List (List String)
  nodup : (files.map (·.1)).Nodup
  named : ∀ f ∈ files, f.1.all Path.isName

namespace FileTree

/-- The tree without files and folders. -/
def empty : FileTree where
  files := []
  folders := []
  nodup := List.nodup_nil
  named := by simp

/-! ## Looking up -/

/-- The file at a place. -/
def file? (t : FileTree) (names : List String) : Option FileContents :=
  (t.files.find? (·.1 == names)).map (·.2)

/-- The bytes of the file at a place, if it can be read. -/
def bytes? (t : FileTree) (names : List String) : Option ByteArray :=
  (t.file? names).bind (·.bytes?)

/-- Whether there is a file at a place. -/
def isFile (t : FileTree) (names : List String) : Bool :=
  (t.file? names).isSome

/-- Whether there is a folder at a place. -/
def isFolder (t : FileTree) (names : List String) : Bool :=
  names.isEmpty || t.folders.any (names.isPrefixOf ·) ||
    t.files.any fun f => names.isPrefixOf f.1 && names.length < f.1.length

/-- The files at or below a place, each with the names on the way from there. -/
def below (t : FileTree) (names : List String) : List (List String × FileContents) :=
  t.files.filterMap fun f =>
    if names.isPrefixOf f.1 then some (f.1.drop names.length, f.2) else none

/-! ## Paths -/

/-- The place that the parts of a path lead to from a folder.  Every part leads on from a
folder. -/
def follow? (t : FileTree) (place : List String) : List (List Char) → Option (List String)
  | [] => some place
  | part :: rest =>
    if !t.isFolder place then none
    else if part = [] ∨ part = ['.'] then t.follow? place rest
    else if part = ['.', '.'] then t.follow? place.dropLast rest
    else t.follow? (place ++ [String.ofList part]) rest

/-- The place that an absolute path leads to, whether or not something stands there. -/
def locate? (t : FileTree) (path : String) : Option (List String) :=
  if path = "" then none else t.follow? [] (Text.cut '/' path.toList)

/-- The file that an absolute path leads to. -/
def fileAt? (t : FileTree) (path : String) : Option FileContents :=
  (t.locate? path).bind t.file?

/-- The bytes of the file that an absolute path leads to, if it can be read. -/
def bytesAt? (t : FileTree) (path : String) : Option ByteArray :=
  (t.fileAt? path).bind (·.bytes?)

/-- Whether an absolute path leads to a file. -/
def isFileAt (t : FileTree) (path : String) : Bool :=
  (t.fileAt? path).isSome

/-- Whether an absolute path leads to a folder. -/
def isFolderAt (t : FileTree) (path : String) : Bool :=
  (t.locate? path).any t.isFolder

/-- The text of the file that an absolute path leads to; none if it cannot be read or is not in
UTF-8. -/
def textAt? (t : FileTree) (path : String) : Option String :=
  (t.bytesAt? path).bind Text.Utf8.decode?

/-! ## Writing -/

/-- Adds a folder. -/
def addFolder (t : FileTree) (names : List String) : FileTree :=
  { t with folders := t.folders ++ [names] }

/-- Puts a file in the place of the one with the same names. -/
def replaceFile (names : List String) (contents : FileContents) :
    List (List String × FileContents) → List (List String × FileContents)
  | [] => [(names, contents)]
  | f :: rest =>
    if f.1 = names then (names, contents) :: rest else f :: replaceFile names contents rest

/-- The places of the files after one is written. -/
theorem mem_replaceFile {names : List String} {contents : FileContents}
    {files : List (List String × FileContents)} {place : List String}
    (h : place ∈ (replaceFile names contents files).map (·.1)) :
    place = names ∨ place ∈ files.map (·.1) := by
  induction files with
  | nil => simpa [replaceFile] using h
  | cons f rest ih =>
    by_cases hf : f.1 = names
    · simp only [replaceFile, hf, if_true, List.map_cons, List.mem_cons] at h ⊢
      rcases h with h | h
      · exact .inl h
      · exact .inr (.inr h)
    · simp only [replaceFile, hf, if_false, List.map_cons, List.mem_cons] at h ⊢
      rcases h with h | h
      · exact .inr (.inl h)
      · exact (ih h).imp_right .inr

/-- Writing a file lists no file twice. -/
theorem nodup_replaceFile {names : List String} {contents : FileContents}
    {files : List (List String × FileContents)} (h : (files.map (·.1)).Nodup) :
    ((replaceFile names contents files).map (·.1)).Nodup := by
  induction files with
  | nil => simp [replaceFile]
  | cons f rest ih =>
    rw [List.map_cons, List.nodup_cons] at h
    by_cases hf : f.1 = names
    · simp only [replaceFile, hf, if_true, List.map_cons, List.nodup_cons]
      exact ⟨hf ▸ h.1, h.2⟩
    · simp only [replaceFile, hf, if_false, List.map_cons, List.nodup_cons]
      exact ⟨fun hm => (mem_replaceFile hm).elim hf h.1, ih h.2⟩

/-- Writes a file at a place with proper names, over one that is there. -/
def write (t : FileTree) (names : List String) (contents : FileContents) : FileTree :=
  if hn : names.all Path.isName then
    { t with
      files := replaceFile names contents t.files
      nodup := nodup_replaceFile t.nodup
      named := by
        intro f hf
        rcases mem_replaceFile (List.mem_map_of_mem hf) with h | h
        · exact h ▸ hn
        · obtain ⟨g, hg, he⟩ := List.mem_map.1 h
          exact he ▸ t.named g hg }
  else
    t

end FileTree

end CallGuard
