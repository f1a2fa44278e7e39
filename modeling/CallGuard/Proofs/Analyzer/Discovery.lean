import Mathlib.Data.List.Lex
import Mathlib.Data.List.Perm.Basic
import Mathlib.Data.String.Basic
import CallGuard.Analyzer.Run
import CallGuard.Proofs.Ignore.Agreement

/-!
# Discovering files

Each file below the root of a run has a path of its own, whose components are those of the root and
the names on the way.  So the paths of the discovered files ascend strictly, and this decides in
which order the files are read: neither the order in which a walk comes to them nor the presence of
files that are not read makes a difference.

Main results:

- Theorem {lit}`SourceFile.Ascending.eq_of_perm`, {lit}`SourceFile.Distinct.filter_mergeSort`:
  files with different paths have only one order.
- Theorem {lit}`Analyzer.components_pathBelow`: the components of the path of a file below the root.
- Theorem {lit}`Analyzer.discover_eq_ok`: the files that a run discovers.
- Theorem {lit}`Analyzer.ascending_discover`: their paths ascend, and so do their relative paths.
- Theorem {lit}`Analyzer.discover_of_perm`: the order in which a tree lists its files makes no
  difference.
- Theorem {lit}`Analyzer.discover_without`: which files are discovered when some are taken out.
-/

namespace CallGuard

/-! ## The order of files -/

namespace SourceFile

/-- No two files have the same path. -/
def Distinct (files : List SourceFile) : Prop :=
  files.Pairwise fun f g => Path.key f.path ≠ Path.key g.path

/-- The paths of files ascend, component by component. -/
def Ascending (files : List SourceFile) : Prop :=
  files.Pairwise fun f g => Path.key f.path < Path.key g.path

/-- The order of two files is that of their paths. -/
theorem precedes_iff (f g : SourceFile) :
    f.precedes g = true ↔ Path.key f.path ≤ Path.key g.path := by
  simp [precedes]

/-- The order is transitive. -/
theorem precedes_trans (f g h : SourceFile) (hfg : f.precedes g = true)
    (hgh : g.precedes h = true) : f.precedes h = true := by
  rw [precedes_iff] at hfg hgh ⊢
  exact hfg.trans hgh

/-- The order is total. -/
theorem precedes_total (f g : SourceFile) : (f.precedes g || g.precedes f) = true := by
  rw [Bool.or_eq_true, precedes_iff, precedes_iff]
  exact le_total _ _

/-- Other orders of distinct files are distinct. -/
theorem Distinct.perm {files others : List SourceFile} (h : Distinct files)
    (hperm : files.Perm others) : Distinct others :=
  List.Pairwise.perm h hperm Ne.symm

/-- Distinct files ascend when they are sorted. -/
theorem Distinct.ascending_mergeSort {files : List SourceFile} (h : Distinct files) :
    Ascending (files.mergeSort precedes) := by
  have horder := List.pairwise_mergeSort precedes_trans precedes_total files
  have hdistinct := h.perm (List.mergeSort_perm files precedes).symm
  apply (horder.and hdistinct).imp
  rintro f g ⟨hle, hne⟩
  exact lt_of_le_of_ne ((precedes_iff f g).mp hle) hne

/-- Ascending files are determined by which files they are. -/
theorem Ascending.eq_of_perm {files others : List SourceFile} (hfiles : Ascending files)
    (hothers : Ascending others) (h : files.Perm others) : files = others := by
  apply List.Perm.eq_of_pairwise _ hfiles hothers h
  intro f g _ _ hfg hgf
  exact absurd hgf (lt_asymm hfg)

/-- Distinct files are sorted in one way, whatever order they come in. -/
theorem Distinct.mergeSort_eq_of_perm {files others : List SourceFile} (hdistinct : Distinct files)
    (h : files.Perm others) : files.mergeSort precedes = others.mergeSort precedes := by
  apply hdistinct.ascending_mergeSort.eq_of_perm (hdistinct.perm h).ascending_mergeSort
  exact (List.mergeSort_perm files precedes).trans
    (h.trans (List.mergeSort_perm others precedes).symm)

/-- Leaving files out before they are sorted or afterwards comes to the same. -/
theorem Distinct.filter_mergeSort {files : List SourceFile} (hdistinct : Distinct files)
    (p : SourceFile → Bool) :
    (files.mergeSort precedes).filter p = (files.filter p).mergeSort precedes := by
  have hsorted : Ascending ((files.mergeSort precedes).filter p) :=
    hdistinct.ascending_mergeSort.filter p
  have hfiltered : Distinct (files.filter p) := List.Pairwise.filter p hdistinct
  apply hsorted.eq_of_perm hfiltered.ascending_mergeSort
  exact ((List.mergeSort_perm files precedes).filter p).trans
    (List.mergeSort_perm (files.filter p) precedes).symm

end SourceFile

namespace Analyzer

/-! ## Paths below the root -/

/-- The components of the path of a file below the root are those of the root and the names on the
way. -/
theorem components_pathBelow {a : Analyzer} (hroot : a.root ≠ "") {way : List String}
    (hway : ∀ name ∈ way, Path.isName name = true) :
    Path.components (a.pathBelow way) = Path.components a.root ++ way.map .name := by
  rw [pathBelow]
  split
  · rename_i hempty
    rw [List.isEmpty_iff.mp hempty, List.map_nil, List.append_nil]
  · rename_i hempty
    exact Path.components_join_names hroot (by simpa using hempty) hway

/-! ## Walking from the root -/

/-- What a walk from the root makes of a listed file: nothing if the file does not lie at or below
the root or is hidden. -/
def reached? (a : Analyzer) (t : FileTree) (root : List String) (f : List String × FileContents) :
    Option SourceFile :=
  if root.isPrefixOf f.1 then
    if a.settings.scan.respectIgnore && t.isHidden a.folder root (f.1.drop root.length) then none
    else some ⟨a.pathBelow (f.1.drop root.length), f.2⟩
  else none

/-- A walk takes the listed files in order. -/
theorem visit_eq (a : Analyzer) (t : FileTree) (root : List String) :
    a.visit t root = t.files.filterMap (a.reached? t root) := by
  rw [visit, FileTree.below, List.filterMap_filterMap]
  apply List.filterMap_congr
  intro f _
  rw [reached?]
  split <;> rfl

/-- A walk comes to a file below the root by the names on the way. -/
theorem reached?_eq_some {a : Analyzer} {t : FileTree} {root : List String}
    {f : List String × FileContents} {s : SourceFile} (h : a.reached? t root f = some s) :
    ∃ way, f.1 = root ++ way ∧ s = ⟨a.pathBelow way, f.2⟩ := by
  rw [reached?] at h
  split at h
  · rename_i hbelow
    split at h
    · cases h
    · obtain ⟨way, hway⟩ := List.isPrefixOf_iff_prefix.mp hbelow
      rw [← hway, List.drop_left] at h
      exact ⟨way, hway.symm, (Option.some.inj h).symm⟩
  · cases h

/-- The path of a file that a walk comes to has the components of the root and the names on the
way. -/
theorem components_of_reached? {a : Analyzer} {t : FileTree} {root : List String}
    (hroot : a.root ≠ "") {f : List String × FileContents} (hf : f ∈ t.files) {s : SourceFile}
    (h : a.reached? t root f = some s) :
    ∃ way, f.1 = root ++ way ∧
      Path.components s.path = Path.components a.root ++ way.map .name := by
  obtain ⟨way, hway, rfl⟩ := reached?_eq_some h
  have hnames : ∀ name ∈ way, Path.isName name = true := by
    intro name hname
    have hnamed := List.all_eq_true.mp (t.named f hf)
    exact hnamed name (hway ▸ List.mem_append_right root hname)
  exact ⟨way, hway, components_pathBelow hroot hnames⟩

/-- A walk comes to distinct files. -/
theorem distinct_visit {a : Analyzer} (hroot : a.root ≠ "") (t : FileTree) (root : List String) :
    SourceFile.Distinct (a.visit t root) := by
  have hplaces : t.files.Pairwise fun f g => f.1 ≠ g.1 := List.pairwise_map.mp t.nodup
  rw [SourceFile.Distinct, visit_eq, List.pairwise_filterMap]
  apply hplaces.imp_of_mem
  intro f g hf hg hne s hs r hr hkey
  obtain ⟨way, hway, hcomponents⟩ := components_of_reached? hroot hf hs
  obtain ⟨other, hother, hothers⟩ := components_of_reached? hroot hg hr
  rw [Path.key_inj, hcomponents, hothers, List.append_cancel_left_eq] at hkey
  -- The paths are the same, so the ways are, and so are the places.
  have hways : way = other := List.map_injective_iff.mpr (fun _ _ => Path.Component.name.inj) hkey
  exact hne (by rw [hway, hother, hways])

/-! ## The discovered files -/

/-- A run that discovers files has a root that is there, and it discovers the files that it wants
among those that a walk comes to. -/
theorem discover_eq_ok {a : Analyzer} {t : FileTree} {files : List SourceFile}
    (h : a.discover t = .ok files) :
    ∃ root, t.locate? a.root = some root ∧ (t.isFile root || t.isFolder root) = true ∧
      files = ((a.visit t root).filter fun f => a.wants f.path).mergeSort SourceFile.precedes := by
  rw [discover] at h
  split at h
  · cases h
  · rename_i root hlocate
    split at h
    · rename_i hthere
      exact ⟨root, hlocate, hthere, (Except.ok.inj h).symm⟩
    · cases h

/-- The files that a run wants among those that a walk comes to are discovered as they ascend. -/
theorem discover_eq_of_ascending {a : Analyzer} {t : FileTree} {root : List String}
    {files : List SourceFile} (hlocate : t.locate? a.root = some root)
    (hthere : (t.isFile root || t.isFolder root) = true)
    (hperm : files.Perm ((a.visit t root).filter fun f => a.wants f.path))
    (hascending : SourceFile.Ascending files) : a.discover t = .ok files := by
  have hdistinct : SourceFile.Distinct ((a.visit t root).filter fun f => a.wants f.path) :=
    (List.Pairwise.imp (fun hlt => ne_of_lt hlt) hascending).perm hperm Ne.symm
  have hsorted := hdistinct.ascending_mergeSort.eq_of_perm hascending
    ((List.mergeSort_perm _ _).trans hperm.symm)
  rw [discover, hlocate]
  simp only [hthere, if_true, hsorted]

/-- A path that leads somewhere is not empty. -/
theorem ne_empty_of_locate? {t : FileTree} {path : String} {place : List String}
    (h : t.locate? path = some place) : path ≠ "" := by
  rintro rfl
  cases h

/-- The files that a walk comes to and that a run wants are distinct. -/
theorem distinct_wanted {a : Analyzer} (hroot : a.root ≠ "") (t : FileTree) (root : List String) :
    SourceFile.Distinct ((a.visit t root).filter fun f => a.wants f.path) :=
  List.Pairwise.filter _ (distinct_visit hroot t root)

/-- The discovered files ascend. -/
theorem ascending_discover {a : Analyzer} {t : FileTree} {files : List SourceFile}
    (h : a.discover t = .ok files) : SourceFile.Ascending files := by
  obtain ⟨root, hlocate, -, rfl⟩ := discover_eq_ok h
  exact (distinct_wanted (ne_empty_of_locate? hlocate) t root).ascending_mergeSort

/-- Reported paths are relative to components that start the path of every discovered file. -/
theorem components_of_mem_discover {a : Analyzer} {t : FileTree} {files : List SourceFile}
    (h : a.discover t = .ok files) {s : SourceFile} (hs : s ∈ files) :
    ∃ more, Path.components s.path = a.base t ++ more := by
  obtain ⟨root, hlocate, -, rfl⟩ := discover_eq_ok h
  rw [List.mem_mergeSort, List.mem_filter, visit_eq, List.mem_filterMap] at hs
  obtain ⟨⟨f, hf, hreached⟩, -⟩ := hs
  obtain ⟨way, -, hcomponents⟩ := components_of_reached? (ne_empty_of_locate? hlocate) hf hreached
  have hbase : a.base t <+: Path.components a.root := by
    rw [base]
    split
    · exact List.dropLast_prefix _
    · exact List.prefix_refl _
  obtain ⟨last, hlast⟩ := hbase
  exact ⟨last ++ way.map .name, by rw [hcomponents, ← hlast, List.append_assoc]⟩

/-- The relative paths of the discovered files ascend. -/
theorem pairwise_relativeTo_discover {a : Analyzer} {t : FileTree} {files : List SourceFile}
    (h : a.discover t = .ok files) :
    files.Pairwise fun f g => Path.key (Path.relativeTo (a.base t) f.path) <
      Path.key (Path.relativeTo (a.base t) g.path) := by
  apply (ascending_discover h).imp_of_mem
  intro f g hf hg hlt
  obtain ⟨more, hmore⟩ := components_of_mem_discover h hf
  obtain ⟨other, hother⟩ := components_of_mem_discover h hg
  exact (Path.key_relativeTo_lt_iff hmore hother).mpr hlt

/-! ## Walks in another order -/

/-- Whatever order a walk takes, the discovered files are the same. -/
theorem mergeSort_walk_eq {a : Analyzer} {t : FileTree} {files walk : List SourceFile}
    {root : List String} (h : a.discover t = .ok files) (hlocate : t.locate? a.root = some root)
    (hwalk : walk.Perm (a.visit t root)) :
    (walk.filter fun f => a.wants f.path).mergeSort SourceFile.precedes = files := by
  obtain ⟨other, hother, -, rfl⟩ := discover_eq_ok h
  obtain rfl : other = root := Option.some.inj (hother.symm.trans hlocate)
  have hdistinct := distinct_wanted (ne_empty_of_locate? hlocate) t other
  exact (hdistinct.mergeSort_eq_of_perm (hwalk.symm.filter _)).symm

/-- Trees that agree on what is hidden, if that counts, let a walk come to the same of the files
that both list. -/
theorem reached?_congr {a : Analyzer} {t u : FileTree}
    (h : a.settings.scan.respectIgnore = true → t.SameRules u) (root : List String) :
    a.reached? t root = a.reached? u root := by
  funext f
  rw [reached?, reached?]
  cases hrespect : a.settings.scan.respectIgnore with
  | false => rfl
  | true => rw [(h hrespect).isHidden_eq]

/-- The order in which a tree lists its files and folders makes no difference to what is
discovered. -/
theorem discover_of_perm (a : Analyzer) {t u : FileTree} (hfiles : t.files.Perm u.files)
    (hfolders : t.folders.Perm u.folders) : a.discover t = a.discover u := by
  have hfolder := FileTree.isFolder_of_perm hfiles hfolders
  have hfile := FileTree.file?_of_perm hfiles
  have hrules : t.SameRules u := ⟨hfolder, fun names ending _ => hfile (names ++ ending)⟩
  rw [discover, discover, FileTree.locate?_congr hfolder]
  split
  · rfl
  · rename_i root hlocate
    have hvisit : (a.visit t root).Perm (a.visit u root) := by
      rw [visit_eq, visit_eq, reached?_congr fun _ => hrules]
      exact hfiles.filterMap _
    have hdistinct := distinct_wanted (ne_empty_of_locate? hlocate) t root
    rw [FileTree.isFile, FileTree.isFile, hfile, hfolder,
      hdistinct.mergeSort_eq_of_perm (hvisit.filter _)]

/-- Nor to what reported paths are relative to. -/
theorem base_of_perm (a : Analyzer) {t u : FileTree} (hfiles : t.files.Perm u.files)
    (hfolders : t.folders.Perm u.folders) : a.base t = a.base u := by
  have hlocate := FileTree.locate?_congr (FileTree.isFolder_of_perm hfiles hfolders) a.root
  have hfile : t.file? = u.file? := funext (FileTree.file?_of_perm hfiles)
  rw [base, base, FileTree.isFileAt, FileTree.isFileAt, FileTree.fileAt?, FileTree.fileAt?, hlocate,
    hfile]

/-! ## Files that are taken out -/

/-- A choice of files spares a run if neither its root is among them nor, if ignore files count, a
file that decides what is ignored. -/
structure Spares (a : Analyzer) (t : FileTree) (gone : List String × FileContents → Bool) :
    Prop where
  root : ∀ f ∈ t.files, gone f = true → t.locate? a.root ≠ some f.1
  rules : a.settings.scan.respectIgnore = true → ∀ f ∈ t.files, gone f = true →
    ∀ ending ∈ Ignore.ruleEndings, ¬ending <:+ f.1

namespace Spares

variable {a : Analyzer} {t : FileTree} {gone : List String × FileContents → Bool}

/-- The rules about ignored files stay. -/
theorem sameRules (h : a.Spares t gone) (hrespect : a.settings.scan.respectIgnore = true) :
    (t.without gone).SameRules t where
  folder := t.isFolder_without gone
  file names ending hending := by
    apply FileTree.file?_without_of_kept
    intro f hf hplace
    rw [← Bool.not_eq_true]
    intro hgone
    exact h.rules hrespect f hf hgone ending hending ⟨names, hplace.symm⟩

/-- The root stays. -/
theorem file?_root (h : a.Spares t gone) {root : List String}
    (hlocate : t.locate? a.root = some root) : (t.without gone).file? root = t.file? root := by
  apply FileTree.file?_without_of_kept
  intro f hf hplace
  rw [← Bool.not_eq_true]
  intro hgone
  exact h.root f hf hgone (by rw [hlocate, hplace])

/-- Reported paths are relative to the same components. -/
theorem base_eq (h : a.Spares t gone) : a.base (t.without gone) = a.base t := by
  have hlocate := FileTree.locate?_congr (t.isFolder_without gone) a.root
  have hfile : (t.without gone).isFileAt a.root = t.isFileAt a.root := by
    rw [FileTree.isFileAt, FileTree.isFileAt, FileTree.fileAt?, FileTree.fileAt?, hlocate]
    cases hroot : t.locate? a.root with
    | none => rfl
    | some root => rw [Option.bind_some, Option.bind_some, h.file?_root hroot]
  rw [base, base, hfile]

end Spares

/-- A walk of the tree that is left comes to the files that were reached before and stay.  Those
that do not stay make no difference if a condition leaves them out anyway. -/
theorem filter_visit_without {a : Analyzer} {t : FileTree}
    {gone : List String × FileContents → Bool} (hspares : a.Spares t gone) (root : List String)
    {p : SourceFile → Bool}
    (hp : ∀ f ∈ t.files, gone f = true → ∀ path, p ⟨path, f.2⟩ = false) :
    (a.visit (t.without gone) root).filter p = (a.visit t root).filter p := by
  rw [visit_eq, visit_eq, reached?_congr hspares.sameRules, FileTree.without,
    List.filterMap_filter, List.filter_filterMap, List.filter_filterMap]
  apply List.filterMap_congr
  intro f hf
  by_cases hgone : gone f = true
  · have hnothing : Option.filter p (a.reached? t root f) = none := by
      rw [Option.filter_eq_none_iff]
      intro s hs
      obtain ⟨way, -, rfl⟩ := reached?_eq_some hs
      simp [hp f hf hgone]
    simp [hgone, hnothing]
  · simp [hgone]

/-- When files are taken out that spare the run, the files that meet a condition on what they give
are discovered as before, unless they are taken out. -/
theorem discover_without {a : Analyzer} {t : FileTree} {files : List SourceFile}
    {gone : List String × FileContents → Bool} (hspares : a.Spares t gone)
    {good : FileContents → Bool} (hgood : ∀ f ∈ t.files, gone f = true → good f.2 = false)
    (h : a.discover t = .ok files) :
    ∃ kept, a.discover (t.without gone) = .ok kept ∧
      kept.filter (fun f => good f.contents) = files.filter fun f => good f.contents := by
  obtain ⟨root, hlocate, hthere, rfl⟩ := discover_eq_ok h
  have hroot := ne_empty_of_locate? hlocate
  have hlocate' : (t.without gone).locate? a.root = some root := by
    rw [FileTree.locate?_congr (t.isFolder_without gone), hlocate]
  have hthere' : ((t.without gone).isFile root || (t.without gone).isFolder root) = true := by
    rw [FileTree.isFile, hspares.file?_root hlocate, t.isFolder_without]
    exact hthere
  refine ⟨_, by rw [discover, hlocate']; exact if_pos hthere', ?_⟩
  rw [(distinct_wanted hroot (t.without gone) root).filter_mergeSort,
    (distinct_wanted hroot t root).filter_mergeSort, List.filter_filter, List.filter_filter]
  congr 1
  apply filter_visit_without hspares
  intro f hf hgone path
  simp [hgood f hf hgone]

end Analyzer

end CallGuard
