import CallGuard.Proofs.Analyzer.Run
import CallGuard.Proofs.Glob.Reach
import CallGuard.Proofs.Ignore.Relocation

/-!
# Analyzing the same files elsewhere

A run over a folder does not depend on where the folder is, apart from two things that look above it:
patterns of excluded paths are matched against whole paths, and ignore files above the folder count.
Where nothing above the root makes a difference to either, the same files at another place are
discovered in the same order, and the report is the same.

Main results:

- Theorem {lit}`discover_eq_of_rootsAt`: the files that a run discovers below a folder, by the ways to
  them.
- Theorem {lit}`exists_ways_of_moves`: at both places the ways to the discovered files are the same.
- Theorem {lit}`toOption_analyzeAll_movedTo`: what is found in files that are moved.
- Theorem {lit}`moved_analyzer_reports_the_same`: how the place of the root counts, and when it does
  not.
-/

namespace CallGuard.Analyzer

/-! ## Files by the ways to them -/

/-- A folder of a tree is the root of a run. -/
structure RootsAt (a : Analyzer) (t : FileTree) (place : List String) : Prop where
  located : t.locate? a.root = some place
  folder : t.isFolder place = true
  notFile : t.isFile place = false

/-- The file at the end of a way from the root. -/
def source (a : Analyzer) (f : List String × FileContents) : SourceFile :=
  ⟨a.pathBelow f.1, f.2⟩

/-- A run discovers the file at the end of a way: it is not hidden, and it is wanted. -/
def keeps (a : Analyzer) (t : FileTree) (place : List String) (f : List String × FileContents) :
    Bool :=
  !(a.settings.scan.respectIgnore && t.isHidden a.folder place f.1) && a.wants (a.pathBelow f.1)

/-- The order of the files at the end of two ways. -/
def wayPrecedes (f g : List String × FileContents) : Bool :=
  !decide (g.1.map (Path.Component.key ∘ .name) < f.1.map (Path.Component.key ∘ .name))

/-- The files that a run wants among those that a walk comes to. -/
theorem filter_visit_eq (a : Analyzer) (t : FileTree) (place : List String) :
    (a.visit t place).filter (fun f => a.wants f.path) =
      ((t.below place).filter (a.keeps t place)).map a.source := by
  rw [visit, List.filter_filterMap, ← List.filterMap_eq_map, List.filterMap_filter]
  apply List.filterMap_congr
  intro f _
  cases hhidden : a.settings.scan.respectIgnore && t.isHidden a.folder place f.1 with
  | true => simp [keeps, hhidden]
  | false =>
    by_cases hwants : a.wants (a.pathBelow f.1) = true
    · simp [keeps, hhidden, hwants, source]
    · simp [keeps, hhidden, hwants]

namespace RootsAt

variable {a : Analyzer} {t : FileTree} {place : List String}

/-- The root has a path. -/
theorem root_ne_empty (h : a.RootsAt t place) : a.root ≠ "" :=
  ne_empty_of_locate? h.located

/-- Reported paths are relative to the root. -/
theorem base_eq (h : a.RootsAt t place) : a.base t = Path.components a.root := by
  have hfile : t.isFileAt a.root = false := by
    rw [FileTree.isFileAt, FileTree.fileAt?, h.located]
    exact h.notFile
  rw [base, hfile]
  rfl

/-- The way to a file below the root is not empty. -/
theorem way_ne_nil (h : a.RootsAt t place) {f : List String × FileContents}
    (hf : f ∈ t.below place) : f.1 ≠ [] := by
  intro hway
  have hmem := FileTree.mem_below_iff.mp hf
  rw [hway, List.append_nil, ← FileTree.file?_eq_some_iff] at hmem
  have hfile := h.notFile
  rw [FileTree.isFile, hmem] at hfile
  cases hfile

end RootsAt

/-- The way to a file consists of names. -/
theorem isName_of_mem_below {t : FileTree} {place : List String} {f : List String × FileContents}
    (hf : f ∈ t.below place) : ∀ name ∈ f.1, Path.isName name = true := by
  intro name hname
  have hnamed := List.all_eq_true.mp (t.named _ (FileTree.mem_below_iff.mp hf))
  exact hnamed name (List.mem_append_right place hname)

/-- The files at the end of two ways are ordered as the ways are. -/
theorem precedes_source {a : Analyzer} (hroot : a.root ≠ "") {f g : List String × FileContents}
    (hf : ∀ name ∈ f.1, Path.isName name = true) (hg : ∀ name ∈ g.1, Path.isName name = true) :
    (a.source f).precedes (a.source g) = wayPrecedes f g := by
  simp only [SourceFile.precedes, wayPrecedes, source, Path.key, components_pathBelow hroot hf,
    components_pathBelow hroot hg, List.map_append, List.map_map, Path.append_lt_append_iff]

/-- The files that a run discovers below a folder, by the ways to them. -/
theorem discover_eq_of_rootsAt {a : Analyzer} {t : FileTree} {place : List String}
    (h : a.RootsAt t place) {files : List (List String × FileContents)}
    (hfiles : ((t.below place).filter (a.keeps t place)).Perm files) :
    a.discover t = .ok ((files.mergeSort wayPrecedes).map a.source) := by
  have hnames : ∀ f ∈ files, ∀ name ∈ f.1, Path.isName name = true := fun f hf =>
    isName_of_mem_below (List.mem_of_mem_filter (hfiles.mem_iff.mpr hf))
  have hsorted := List.map_mergeSort fun f hf g hg =>
    (precedes_source h.root_ne_empty (hnames f hf) (hnames g hg)).symm
  have hdistinct := distinct_wanted h.root_ne_empty t place
  rw [filter_visit_eq] at hdistinct
  rw [hsorted, ← hdistinct.mergeSort_eq_of_perm (hfiles.map a.source), ← filter_visit_eq, discover,
    h.located]
  simp only [h.folder, Bool.or_true, if_true]

/-! ## A run at another place -/

/-- An analyzer that starts from another folder and has another root. -/
def movedTo (a : Analyzer) (folder root : String) : Analyzer :=
  { a with folder := folder, root := root }

@[simp]
theorem folder_movedTo (a : Analyzer) (folder root : String) :
    (a.movedTo folder root).folder = folder := rfl

@[simp]
theorem settings_movedTo (a : Analyzer) (folder root : String) :
    (a.movedTo folder root).settings = a.settings := rfl

@[simp]
theorem strict_movedTo (a : Analyzer) (folder root : String) :
    (a.movedTo folder root).strict = a.strict := rfl

/-- The path of a file below the root. -/
theorem pathBelow_of_ne_nil (a : Analyzer) {way : List String} (hway : way ≠ []) :
    a.pathBelow way = Path.join a.root (String.intercalate "/" way) := by
  simp [pathBelow, hway]

/-- Two runs of an analyzer are over the same files and folders, at two places, where nothing above
makes a difference to what is hidden or excluded. -/
structure Moves (a : Analyzer) (folder root : String) (t u : FileTree)
    (place other : List String) : Prop where
  here : a.RootsAt t place
  there : (a.movedTo folder root).RootsAt u other
  same : t.SameBelow u place other
  alone : a.settings.scan.respectIgnore = true →
    t.StandsAlone a.folder place ∧ u.StandsAlone folder other
  decided : ∀ f ∈ t.below place, DecidedBelow a.excludes a.root (String.intercalate "/" f.1) ∧
    DecidedBelow a.excludes root (String.intercalate "/" f.1)

section Moved

variable {a : Analyzer} {folder root : String} {t u : FileTree} {place other : List String}

/-- A file that is moved is wanted as before. -/
theorem wants_movedTo (hpatterns : ∀ pattern ∈ a.excludes, IsRecursive pattern)
    (h : a.Moves folder root t u place other) {f : List String × FileContents}
    (hf : f ∈ t.below place) :
    (a.movedTo folder root).wants ((a.movedTo folder root).pathBelow f.1) =
      a.wants (a.pathBelow f.1) := by
  have hhere : a.root ≠ "" := h.here.root_ne_empty
  have hthere : root ≠ "" := h.there.root_ne_empty
  have hway := h.here.way_ne_nil hf
  have hnames := isName_of_mem_below hf
  have hpath := Path.isAbsolute_intercalate_names hway hnames
  obtain ⟨hdecided, hmoved⟩ := h.decided f hf
  rw [pathBelow_of_ne_nil _ hway, pathBelow_of_ne_nil _ hway, wants, wants, supports, supports]
  simp only [movedTo, Path.extensionOf_join_names hhere hway hnames,
    Path.extensionOf_join_names hthere hway hnames,
    (isExcluded_join_eq_iff hpatterns hhere hpath).mpr hdecided,
    (isExcluded_join_eq_iff hpatterns hthere hpath).mpr hmoved]

/-- A file that is moved is read as before. -/
theorem keeps_movedTo (hpatterns : ∀ pattern ∈ a.excludes, IsRecursive pattern)
    (h : a.Moves folder root t u place other) {f : List String × FileContents}
    (hf : f ∈ t.below place) : (a.movedTo folder root).keeps u other f = a.keeps t place f := by
  have hhidden : (a.settings.scan.respectIgnore && u.isHidden folder other f.1) =
      (a.settings.scan.respectIgnore && t.isHidden a.folder place f.1) := by
    cases hrespect : a.settings.scan.respectIgnore with
    | false => rw [Bool.false_and, Bool.false_and]
    | true =>
      obtain ⟨ht, hu⟩ := h.alone hrespect
      rw [h.same.isHidden_eq ht hu]
  simp only [keeps, settings_movedTo, folder_movedTo, hhidden, wants_movedTo hpatterns h hf]

/-- At both places the ways to the discovered files are the same. -/
theorem exists_ways_of_moves (hpatterns : ∀ pattern ∈ a.excludes, IsRecursive pattern)
    (h : a.Moves folder root t u place other) :
    ∃ ways : List (List String × FileContents), (∀ f ∈ ways, f ∈ t.below place) ∧
      a.discover t = .ok (ways.map a.source) ∧
      (a.movedTo folder root).discover u = .ok (ways.map (a.movedTo folder root).source) := by
  have hkept : (t.below place).filter (a.keeps t place) =
      (t.below place).filter ((a.movedTo folder root).keeps u other) :=
    List.filter_congr fun f hf => (keeps_movedTo hpatterns h hf).symm
  refine ⟨((t.below place).filter (a.keeps t place)).mergeSort wayPrecedes, ?_, ?_, ?_⟩
  · intro f hf
    exact List.mem_of_mem_filter (List.mem_mergeSort.mp hf)
  · exact discover_eq_of_rootsAt h.here (List.Perm.refl _)
  · apply discover_eq_of_rootsAt h.there
    rw [hkept]
    exact (h.same.files.filter _).symm

/-- The relative path of a file is the way to it. -/
theorem relativeTo_source (h : a.RootsAt t place) {f : List String × FileContents} (hway : f.1 ≠ [])
    (hnames : ∀ name ∈ f.1, Path.isName name = true) :
    Path.relativeTo (a.base t) (a.source f).path = String.intercalate "/" f.1 := by
  rw [h.base_eq, source, pathBelow_of_ne_nil a hway,
    Path.relativeTo_join_names h.root_ne_empty hway hnames]

/-- The findings in a file, by the way to it and what it gives. -/
def findingsAtWay? (a : Analyzer) (f : List String × FileContents) : Option (List Finding) :=
  f.2.bytes?.bind fun bytes =>
    (a.tokenizer.tokenize (Text.Utf8.decodeLossy bytes)).toOption.map fun tokens =>
      Finding.sort (a.scan (String.intercalate "/" f.1) tokens)

/-- What is found in a file depends on the way to it and what it gives, except for the path in an
error. -/
theorem toOption_analyzeFile_source (h : a.RootsAt t place) {f : List String × FileContents}
    (hway : f.1 ≠ []) (hnames : ∀ name ∈ f.1, Path.isName name = true) :
    (a.analyzeFile (a.base t) (a.source f)).toOption = a.findingsAtWay? f := by
  have hrelative := relativeTo_source h hway hnames
  obtain ⟨way, contents⟩ := f
  cases contents with
  | unreadable reason => rfl
  | bytes bytes =>
    rw [analyzeFile_of_bytes (a.base t) rfl, analyzeSource, hrelative]
    simp only [findingsAtWay?, FileContents.bytes?, Option.bind_some]
    cases a.tokenizer.tokenize (Text.Utf8.decodeLossy bytes) <;> rfl

/-- The result of a run that is changed afterwards. -/
theorem toOption_map {ε α β : Type} (g : α → β) (e : Except ε α) :
    (e.map g).toOption = e.toOption.map g := by
  cases e <;> rfl

/-- What is found in a list of files comes from what is found in the first one and in the others. -/
theorem toOption_analyzeAll_cons (a : Analyzer) (base : List Path.Component) (f : SourceFile)
    (rest : List SourceFile) :
    (a.analyzeAll base (f :: rest)).toOption =
      match (a.analyzeFile base f).toOption with
      | some findings => (a.analyzeAll base rest).toOption.map (findings :: ·)
      | none => if a.strict then none else (a.analyzeAll base rest).toOption := by
  rw [analyzeAll]
  cases a.analyzeFile base f with
  | ok findings => exact toOption_map _ _
  | error e => cases a.strict <;> rfl

/-- In files that are moved the same is found, or nothing because one of them ends the run. -/
theorem toOption_analyzeAll_movedTo (hhere : a.RootsAt t place)
    (hthere : (a.movedTo folder root).RootsAt u other) {ways : List (List String × FileContents)}
    (hways : ∀ f ∈ ways, f.1 ≠ [] ∧ ∀ name ∈ f.1, Path.isName name = true) :
    ((a.movedTo folder root).analyzeAll ((a.movedTo folder root).base u)
        (ways.map (a.movedTo folder root).source)).toOption =
      (a.analyzeAll (a.base t) (ways.map a.source)).toOption := by
  induction ways with
  | nil => rfl
  | cons f ways ih =>
    obtain ⟨hway, hnames⟩ := hways f (by simp)
    have hrest := ih fun g hg => hways g (List.mem_cons_of_mem f hg)
    have hfile : ((a.movedTo folder root).analyzeFile ((a.movedTo folder root).base u)
        ((a.movedTo folder root).source f)).toOption =
          (a.analyzeFile (a.base t) (a.source f)).toOption :=
      (toOption_analyzeFile_source hthere hway hnames).trans
        (toOption_analyzeFile_source hhere hway hnames).symm
    rw [List.map_cons, List.map_cons, toOption_analyzeAll_cons, toOption_analyzeAll_cons, hfile,
      hrest, strict_movedTo]

end Moved

/-- A project with a file that is read and one that is excluded. -/
def project : FileTree where
  files := [(["a.txt"], .bytes "bad".toUTF8), (["vendor", "b.txt"], .bytes "bad".toUTF8)]
  folders := []
  nodup := by decide
  named := by decide

/-- An analyzer that looks for a bad word in a project, with the usual patterns of excluded paths. -/
def projectAnalyzer : Analyzer :=
  { wordAnalyzer with folder := "/", root := "/srv/app", excludes := ScanSettings.default.exclude }

/-- The project below an ignore file that names one of its files. -/
def ignoredProject : FileTree where
  files := [(["srv", ".ignore"], .bytes "a.txt".toUTF8),
    (["srv", "app", "a.txt"], .bytes "bad".toUTF8),
    (["srv", "app", "vendor", "b.txt"], .bytes "bad".toUTF8)]
  folders := []
  nodup := by decide
  named := by decide

end CallGuard.Analyzer
