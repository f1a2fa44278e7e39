import Mathlib.Data.List.Nodup
import CallGuard.FileTree

/-!
# The contents of file trees

A file tree lists its files in some order, but all that counts is which files and folders it has.
Files may be taken out of a tree; the folders that they lie in stay.

Main results:

- Theorem {lit}`file?_eq_some_iff`, {lit}`isFolder_iff`: what stands at a place.
- Theorem {lit}`locate?_congr`: trees with the same folders lead every path to the same place.
- Theorem {lit}`file?_of_perm`, {lit}`isFolder_of_perm`: the order of the lists makes no difference.
- Definition {lit}`without`, theorems {lit}`isFolder_without` and {lit}`file?_without_of_kept`: a
  tree without some of its files.
-/

namespace CallGuard.FileTree

/-! ## What stands at a place -/

/-- The file at a place is the one that is listed with it. -/
theorem file?_eq_some_iff {t : FileTree} {names : List String} {contents : FileContents} :
    t.file? names = some contents ↔ (names, contents) ∈ t.files := by
  rw [file?, Option.map_eq_some_iff]
  constructor
  · rintro ⟨f, hfind, rfl⟩
    have hnames : f.1 = names := by simpa using List.find?_some hfind
    rw [← hnames]
    exact List.mem_of_find?_eq_some hfind
  · intro hmem
    cases hfind : t.files.find? (·.1 == names) with
    | none =>
      have hnone := List.find?_eq_none.mp hfind (names, contents) hmem
      simp at hnone
    | some f =>
      have hnames : f.1 = names := by simpa using List.find?_some hfind
      have hf := List.mem_of_find?_eq_some hfind
      have heq : f = (names, contents) := List.inj_on_of_nodup_map t.nodup hf hmem hnames
      exact ⟨f, rfl, by rw [heq]⟩

/-- There is a folder at the root, at the places that are listed, and above all that is listed. -/
theorem isFolder_iff {t : FileTree} {names : List String} :
    t.isFolder names = true ↔ names = [] ∨ (∃ folder ∈ t.folders, names <+: folder) ∨
      ∃ f ∈ t.files, names <+: f.1 ∧ names.length < f.1.length := by
  simp [isFolder, List.any_eq_true, or_assoc]

/-! ## Trees with the same folders -/

/-- Trees with the same folders lead the parts of a path to the same place. -/
theorem follow?_congr {t u : FileTree} (h : ∀ names, t.isFolder names = u.isFolder names)
    (place : List String) (parts : List (List Char)) :
    t.follow? place parts = u.follow? place parts := by
  induction parts generalizing place with
  | nil => rfl
  | cons part rest ih =>
    rw [follow?, follow?, h, ih, ih, ih]

/-- Trees with the same folders lead every path to the same place. -/
theorem locate?_congr {t u : FileTree} (h : ∀ names, t.isFolder names = u.isFolder names)
    (path : String) : t.locate? path = u.locate? path := by
  rw [locate?, locate?, follow?_congr h]

/-! ## The order of the lists -/

/-- The order in which files are listed makes no difference to the file at a place. -/
theorem file?_of_perm {t u : FileTree} (h : t.files.Perm u.files) (names : List String) :
    t.file? names = u.file? names := by
  apply Option.ext
  intro contents
  rw [file?_eq_some_iff, file?_eq_some_iff, h.mem_iff]

/-- The order in which files and folders are listed makes no difference to the folders. -/
theorem isFolder_of_perm {t u : FileTree} (hfiles : t.files.Perm u.files)
    (hfolders : t.folders.Perm u.folders) (names : List String) :
    t.isFolder names = u.isFolder names := by
  rw [Bool.eq_iff_iff, isFolder_iff, isFolder_iff]
  simp only [hfiles.mem_iff, hfolders.mem_iff]

/-! ## Taking files out -/

/-- The tree without some of its files.  The folders that they lie in stay. -/
def without (t : FileTree) (gone : List String × FileContents → Bool) : FileTree where
  files := t.files.filter fun f => !gone f
  folders := t.folders ++ (t.files.filter gone).map (·.1.dropLast)
  nodup := t.nodup.sublist (List.filter_sublist.map _)
  named f hf := t.named f (List.mem_of_mem_filter hf)

/-- A place that is not the root lies above a file if and only if it is at or above the folder of
the file. -/
theorem isPrefix_dropLast_iff {names file : List String} (hne : names ≠ []) :
    names <+: file.dropLast ↔ names <+: file ∧ names.length < file.length := by
  have hpos : 0 < names.length := List.length_pos_iff.mpr hne
  have hlength : names.length ≤ file.length - 1 ↔ names.length < file.length := by omega
  rw [List.dropLast_eq_take, List.prefix_take_iff, hlength]

/-- Taking files out keeps all folders. -/
theorem isFolder_without (t : FileTree) (gone : List String × FileContents → Bool)
    (names : List String) : (t.without gone).isFolder names = t.isFolder names := by
  rw [Bool.eq_iff_iff, isFolder_iff, isFolder_iff]
  by_cases hne : names = []
  · simp [hne]
  · simp only [hne, false_or]
    constructor
    · rintro (⟨folder, hfolder, hat⟩ | ⟨f, hf, hat⟩)
      · rcases List.mem_append.mp hfolder with hold | hnew
        · exact .inl ⟨folder, hold, hat⟩
        · obtain ⟨f, hf, rfl⟩ := List.mem_map.mp hnew
          exact .inr ⟨f, List.mem_of_mem_filter hf, (isPrefix_dropLast_iff hne).mp hat⟩
      · exact .inr ⟨f, List.mem_of_mem_filter hf, hat⟩
    · rintro (⟨folder, hfolder, hat⟩ | ⟨f, hf, hat⟩)
      · exact .inl ⟨folder, List.mem_append_left _ hfolder, hat⟩
      · by_cases hgone : gone f = true
        · have hlisted : f.1.dropLast ∈ (t.without gone).folders :=
            List.mem_append_right _ (List.mem_map_of_mem (List.mem_filter.mpr ⟨hf, hgone⟩))
          exact .inl ⟨f.1.dropLast, hlisted, (isPrefix_dropLast_iff hne).mpr hat⟩
        · exact .inr ⟨f, List.mem_filter.mpr ⟨hf, by simpa using hgone⟩, hat⟩

/-- A file that is not taken out stays. -/
theorem file?_without_of_kept {t : FileTree} {gone : List String × FileContents → Bool}
    {names : List String} (h : ∀ f ∈ t.files, f.1 = names → gone f = false) :
    (t.without gone).file? names = t.file? names := by
  apply Option.ext
  intro contents
  rw [file?_eq_some_iff, file?_eq_some_iff, without, List.mem_filter]
  constructor
  · exact And.left
  · intro hmem
    exact ⟨hmem, by rw [h (names, contents) hmem rfl, Bool.not_false]⟩

end CallGuard.FileTree
