import CallGuard.Ignore.Tree
import CallGuard.Proofs.FileTree.Contents
import CallGuard.Proofs.Path.Components

/-!
# Trees with the same ignore files

Which files of a tree are hidden is decided by its folders and by a few of its files: the ignore
files themselves, and those that say where a repository keeps its own.  They are known by how their
places end.  Trees that agree on these files hide the same files, whatever other files they have.

Main results:

- Definition {lit}`Ignore.ruleEndings`: how the places of the files that decide end.
- Theorem {lit}`FileTree.SameRules.fileAt?_eq`: a path to such a file finds the same in both trees.
- Theorem {lit}`FileTree.SameRules.isHidden_eq`: the same files are hidden in both trees.
-/

namespace CallGuard

/-- How the places of the files end that decide which files of a tree are ignored. -/
def Ignore.ruleEndings : List (List String) :=
  [[".ignore"], [".gitignore"], [".git"], [".jj"], ["commondir"], ["info", "exclude"]]

/-! ## Where a path leads in the end -/

/-- The pieces of a path below another one end with those of what is added. -/
theorem Path.exists_cut_join (base path : String) :
    ∃ front, Text.cut '/' (join base path).toList = front ++ Text.cut '/' path.toList := by
  unfold join
  split
  · exact ⟨[], rfl⟩
  · split
    · exact ⟨[], rfl⟩
    · split
      · rename_i hlast
        obtain ⟨front, hfront⟩ := List.getLast?_eq_some_iff.mp hlast
        refine ⟨Text.cut '/' front, ?_⟩
        rw [String.toList_append, hfront, List.append_assoc, List.singleton_append, Text.cut_append]
      · refine ⟨Text.cut '/' base.toList, ?_⟩
        rw [String.toList_append, String.toList_append, List.append_assoc]
        exact Text.cut_append '/' base.toList path.toList

namespace FileTree

/-- Names lead down. -/
theorem follow?_names {t : FileTree} {place found names : List String}
    (hnames : ∀ name ∈ names, Path.isName name = true)
    (h : t.follow? place (names.map String.toList) = some found) : found = place ++ names := by
  induction names generalizing place with
  | nil => simpa [follow?] using h.symm
  | cons name rest ih =>
    have hcounts := Path.laterComponent_of_isName (hnames name (by simp))
    rw [Path.laterComponent, Path.laterPart] at hcounts
    rw [List.map_cons, follow?] at h
    split at h
    · cases h
    · split at h
      · rename_i hskip
        rw [if_pos hskip] at hcounts
        cases hcounts
      · rename_i hskip
        rw [if_neg hskip] at hcounts
        split at h
        · rename_i hup
          rw [if_pos hup] at hcounts
          cases hcounts
        · rw [String.ofList_toList] at h
          rw [ih (fun other hother => hnames other (List.mem_cons_of_mem name hother)) h,
            List.append_assoc, List.singleton_append]

/-- A path that ends in names leads to a place that ends so. -/
theorem follow?_append_names {t : FileTree} {place found names : List String}
    {front : List (List Char)} (hnames : ∀ name ∈ names, Path.isName name = true)
    (h : t.follow? place (front ++ names.map String.toList) = some found) :
    ∃ above, found = above ++ names := by
  induction front generalizing place with
  | nil => exact ⟨place, follow?_names hnames h⟩
  | cons part front ih =>
    rw [List.cons_append, follow?] at h
    split at h
    · cases h
    · split at h
      · exact ih h
      · split at h
        · exact ih h
        · exact ih h

/-- The path of a file in the folder that a linked repository shares ends as the path of the file
there. -/
theorem exists_cut_sharedPath? {t : FileTree} {working link file path : String}
    (h : t.sharedPath? working link file = some path) :
    ∃ front, Text.cut '/' path.toList = front ++ Text.cut '/' file.toList := by
  obtain ⟨bytes, -, hline⟩ := Option.bind_eq_some_iff.mp h
  obtain ⟨line, -, rfl⟩ := Option.map_eq_some_iff.mp hline
  obtain ⟨front, hfront⟩ := Path.exists_cut_join working
    (Path.join (if line.head? = some '.' then Path.join link (String.ofList line)
      else String.ofList line) file)
  obtain ⟨middle, hmiddle⟩ := Path.exists_cut_join
    (if line.head? = some '.' then Path.join link (String.ofList line) else String.ofList line) file
  exact ⟨front ++ middle, by rw [hfront, hmiddle, List.append_assoc]⟩

/-! ## Agreement -/

/-- Two trees have the same folders and the same files among those that decide what is ignored. -/
structure SameRules (t u : FileTree) : Prop where
  folder : ∀ names, t.isFolder names = u.isFolder names
  file : ∀ names, ∀ ending ∈ Ignore.ruleEndings,
    t.file? (names ++ ending) = u.file? (names ++ ending)

namespace SameRules

variable {t u : FileTree}

/-- A path to a file that decides what is ignored finds the same in both trees. -/
theorem fileAt?_eq (h : SameRules t u) {path : String} {ending : List String}
    {front : List (List Char)} (hending : ending ∈ Ignore.ruleEndings)
    (hpath : Text.cut '/' path.toList = front ++ ending.map String.toList) :
    t.fileAt? path = u.fileAt? path := by
  have hnames : ∀ other ∈ Ignore.ruleEndings, ∀ name ∈ other, Path.isName name = true := by decide
  rw [fileAt?, fileAt?, ← locate?_congr h.folder]
  cases hlocate : t.locate? path with
  | none => rfl
  | some place =>
    rw [locate?, hpath] at hlocate
    split at hlocate
    · cases hlocate
    · obtain ⟨above, rfl⟩ := follow?_append_names (hnames ending hending) hlocate
      exact h.file above ending hending

/-- The bytes of a file that decides what is ignored are the same in both trees. -/
theorem bytes?_eq (h : SameRules t u) (names ending : List String)
    (hending : ending ∈ Ignore.ruleEndings) :
    t.bytes? (names ++ ending) = u.bytes? (names ++ ending) := by
  rw [bytes?, bytes?, h.file names ending hending]

/-- The same folders are those of repositories. -/
theorem isRepository_eq (h : SameRules t u) (names : List String) :
    t.isRepository names = u.isRepository names := by
  simp only [isRepository, isThere, isFile, h.folder, h.file names [".git"] (by decide),
    h.file names [".jj"] (by decide)]

/-- Linked repositories share the same folders. -/
theorem sharedPath?_eq (h : SameRules t u) (working link file : String) :
    t.sharedPath? working link file = u.sharedPath? working link file := by
  obtain ⟨front, hfront⟩ := Path.exists_cut_join working (Path.join link "commondir")
  obtain ⟨middle, hmiddle⟩ := Path.exists_cut_join link "commondir"
  have hpath : Text.cut '/' (sharedNamePath working link).toList =
      (front ++ middle) ++ ["commondir"].map String.toList := by
    rw [sharedNamePath, hfront, hmiddle, List.append_assoc]
    rfl
  rw [sharedPath?, sharedPath?, bytesAt?, bytesAt?, h.fileAt?_eq (by decide) hpath]

/-- The lists of excluded files are the same. -/
theorem excludeFile?_eq (h : SameRules t u) (working : String) (names : List String) :
    t.excludeFile? working names = u.excludeFile? working names := by
  have hexclude : t.bytes? (names ++ [".git", "info", "exclude"]) =
      u.bytes? (names ++ [".git", "info", "exclude"]) := by
    have hbytes := h.bytes?_eq (names ++ [".git"]) ["info", "exclude"] (by decide)
    rwa [List.append_assoc] at hbytes
  rw [excludeFile?, excludeFile?, h.file names [".git"] (by decide), hexclude]
  split
  · rfl
  · apply Option.bind_congr
    intro link _
    rw [h.sharedPath?_eq]
    apply Option.bind_congr
    intro path hpath
    obtain ⟨front, hfront⟩ := exists_cut_sharedPath? hpath
    have hending : Text.cut '/' path.toList = front ++ ["info", "exclude"].map String.toList :=
      hfront
    rw [bytesAt?, bytesAt?, h.fileAt?_eq (by decide) hending]

/-- The ignore files of each kind are the same. -/
theorem ignoreFile?_eq (h : SameRules t u) (working : String) (names : List String)
    (kind : Ignore.Kind) : t.ignoreFile? working names kind = u.ignoreFile? working names kind := by
  cases kind with
  | general => exact h.bytes?_eq names [".ignore"] (by decide)
  | versioned => exact h.bytes?_eq names [".gitignore"] (by decide)
  | excluded => exact h.excludeFile?_eq working names

/-- The same folders are asked about a file or folder. -/
theorem askedDepths_eq (h : SameRules t u) (names : List String) (kind : Ignore.Kind) :
    t.askedDepths names kind = u.askedDepths names kind := by
  simp only [askedDepths, h.isRepository_eq]

/-- The ignore files of each kind say the same about a file or folder. -/
theorem verdict?_eq (h : SameRules t u) (working : String) (kind : Ignore.Kind)
    (names : List String) (isFolder : Bool) :
    t.verdict? working kind names isFolder = u.verdict? working kind names isFolder := by
  simp only [verdict?, h.askedDepths_eq, h.ignoreFile?_eq]

/-- The same files and folders are ignored. -/
theorem isIgnored_eq (h : SameRules t u) (working : String) (names : List String)
    (isFolder : Bool) :
    t.isIgnored working names isFolder = u.isIgnored working names isFolder := by
  have hverdict : (fun kind => t.verdict? working kind names isFolder) =
      fun kind => u.verdict? working kind names isFolder :=
    funext fun kind => h.verdict?_eq working kind names isFolder
  rw [isIgnored, hverdict, isIgnored]

/-- The same files are hidden. -/
theorem isHidden_eq (h : SameRules t u) (working : String) (root way : List String) :
    t.isHidden working root way = u.isHidden working root way := by
  simp only [isHidden, h.isIgnored_eq]

end SameRules

end FileTree

end CallGuard
