import CallGuard.Proofs.Analyzer.Discovery
import CallGuard.Proofs.Analyzer.Dispatch
import CallGuard.Proofs.Finding.Order
import CallGuard.Proofs.Guard.Findings

/-!
# Runs over files

A run reads the discovered files one after the other.  As long as every rule reports in the file
that it is shown, the findings of the files stand one behind the other in the report, in the order
of the paths, and what is found in a file depends on this file alone.  A file that cannot be read or
cannot be split into tokens is left out, or ends a strict run.

Main results:

- Theorem {lit}`exists_of_mem_scan`: where a finding of a scan comes from.
- Theorem {lit}`analyzeAll_of_not_strict`, {lit}`analyzeAll_of_reads`, {lit}`analyzeAll_of_failing`:
  the findings in a list of files, and the first file that ends a strict run.
- Theorem {lit}`analyze_concatenates_files`: the report of a run.
-/

namespace CallGuard

/-- A rule reports all that it finds in the file that it is shown. -/
def Rule.ReportsInFile (r : Rule) : Prop :=
  ∀ file tokens index, ∀ f ∈ r.inspect file tokens index, f.location.file = file

/-- A guard reports in the file that it is shown. -/
theorem Guard.reportsInFile_rule (g : Guard) : g.rule.ReportsInFile := by
  intro file tokens index f hf
  obtain ⟨token, -, -, group, -, -, -, rfl⟩ := (g.mem_inspect_iff file tokens index f).mp hf
  rfl

namespace Analyzer

/-! ## The findings in a file -/

/-- What the listeners find at a token, one of the rules finds there. -/
theorem exists_of_mem_inspectAt {a : Analyzer} {file : String} {tokens : Tokens} {index : Nat}
    {f : Finding} (h : f ∈ a.inspectAt file tokens index) :
    ∃ r ∈ a.rules, f ∈ r.inspect file tokens index := by
  rw [inspectAt] at h
  split at h
  · cases h
  · obtain ⟨i, -, hf⟩ := List.mem_flatMap.mp h
    split at hf
    · rename_i r hr
      exact ⟨r, List.mem_of_getElem? hr, hf⟩
    · cases hf

/-- A finding of a scan is what the listeners find at a token, up to its severity. -/
theorem exists_of_mem_scan {a : Analyzer} {file : String} {tokens : Tokens} {f : Finding}
    (h : f ∈ a.scan file tokens) :
    ∃ index, ∃ g ∈ a.inspectAt file tokens index, f = a.adjust g := by
  rw [scan_eq_map_adjust, List.mem_map] at h
  obtain ⟨g, hg, rfl⟩ := h
  obtain ⟨index, -, hg⟩ := List.mem_flatMap.mp hg
  exact ⟨index, g, hg, rfl⟩

/-- Rules that report in the file that they are shown make a scan do so. -/
theorem file_of_mem_scan {a : Analyzer} (hrules : ∀ r ∈ a.rules, r.ReportsInFile) {file : String}
    {tokens : Tokens} {f : Finding} (h : f ∈ a.scan file tokens) : f.location.file = file := by
  obtain ⟨index, g, hfound, rfl⟩ := exists_of_mem_scan h
  obtain ⟨r, hr, hg⟩ := exists_of_mem_inspectAt hfound
  rw [adjust_eq]
  exact hrules r hr file tokens index g hg

/-- What is found in a text is reported as it is if it is in order. -/
theorem analyzeSource_eq {a : Analyzer} {base : List Path.Component} {path text : String}
    {tokens : Tokens} {findings : List Finding}
    (htokens : a.tokenizer.tokenize text = .ok tokens)
    (hscan : a.scan (Path.relativeTo base path) tokens = findings)
    (horder : findings.Pairwise fun f g => f.precedes g = true) :
    a.analyzeSource base path text = .ok findings := by
  rw [analyzeSource, htokens]
  simp only [hscan, Finding.sort_of_pairwise horder]

/-- Whether a file can be read and its bytes, taken as text, can be split into tokens. -/
def reads (a : Analyzer) : FileContents → Bool
  | .bytes bytes => (a.tokenizer.tokenize (Text.Utf8.decodeLossy bytes)).isOk
  | .unreadable _ => false

/-- The files that can be read and split into tokens. -/
def readable (a : Analyzer) (files : List SourceFile) : List SourceFile :=
  files.filter fun f => a.reads f.contents

/-- The findings in a file; none if it cannot be read or split. -/
def findingsIn (a : Analyzer) (base : List Path.Component) (f : SourceFile) : List Finding :=
  match a.analyzeFile base f with
  | .ok findings => findings
  | .error _ => []

/-- A file that can be read is analyzed as its text is. -/
theorem analyzeFile_of_bytes {a : Analyzer} (base : List Path.Component) {f : SourceFile}
    {bytes : ByteArray} (h : f.contents = .bytes bytes) :
    a.analyzeFile base f = a.analyzeSource base f.path (Text.Utf8.decodeLossy bytes) := by
  rw [analyzeFile, h]

/-- The bytes of a file that can be read and split give tokens. -/
theorem exists_tokens_of_reads {a : Analyzer} {contents : FileContents}
    (h : a.reads contents = true) :
    ∃ bytes tokens, contents = .bytes bytes ∧
      a.tokenizer.tokenize (Text.Utf8.decodeLossy bytes) = .ok tokens := by
  cases contents with
  | unreadable reason => cases h
  | bytes bytes =>
    rw [reads] at h
    cases htokens : a.tokenizer.tokenize (Text.Utf8.decodeLossy bytes) with
    | error e => rw [htokens] at h; cases h
    | ok tokens => exact ⟨bytes, tokens, rfl, htokens⟩

/-- The findings in a file that can be read and split are sorted. -/
theorem exists_findingsIn {a : Analyzer} (base : List Path.Component) {f : SourceFile}
    (h : a.reads f.contents = true) :
    ∃ bytes tokens, f.contents = .bytes bytes ∧
      a.tokenizer.tokenize (Text.Utf8.decodeLossy bytes) = .ok tokens ∧
      a.findingsIn base f = Finding.sort (a.scan (Path.relativeTo base f.path) tokens) := by
  obtain ⟨bytes, tokens, hbytes, htokens⟩ := exists_tokens_of_reads h
  refine ⟨bytes, tokens, hbytes, htokens, ?_⟩
  rw [findingsIn, analyzeFile_of_bytes base hbytes, analyzeSource, htokens]

/-- A file that can be read and split is analyzed. -/
theorem analyzeFile_of_reads {a : Analyzer} (base : List Path.Component) {f : SourceFile}
    (h : a.reads f.contents = true) : a.analyzeFile base f = .ok (a.findingsIn base f) := by
  obtain ⟨bytes, tokens, hbytes, htokens, hfindings⟩ := exists_findingsIn base h
  rw [hfindings, analyzeFile_of_bytes base hbytes, analyzeSource, htokens]

/-- Why a file is not analyzed: it cannot be read, or it cannot be split into tokens.  The error
names the path of the file. -/
inductive FailsWith (a : Analyzer) (f : SourceFile) : RunError → Prop where
  | read {reason : String} (hcontents : f.contents = .unreadable reason) :
      a.FailsWith f (.read f.path reason)
  | tokenize {bytes : ByteArray} {e : TokenizeError} (hcontents : f.contents = .bytes bytes)
      (htokens : a.tokenizer.tokenize (Text.Utf8.decodeLossy bytes) = .error e) :
      a.FailsWith f (.tokenize f.path e)

/-- A file that fails is not analyzed. -/
theorem FailsWith.analyzeFile_eq {a : Analyzer} {f : SourceFile} {e : RunError}
    (h : a.FailsWith f e) (base : List Path.Component) : a.analyzeFile base f = .error e := by
  cases h with
  | read hcontents => rw [analyzeFile, hcontents]
  | tokenize hcontents htokens => rw [analyzeFile_of_bytes base hcontents, analyzeSource, htokens]

/-- A file that fails cannot be read or split. -/
theorem FailsWith.reads_eq_false {a : Analyzer} {f : SourceFile} {e : RunError}
    (h : a.FailsWith f e) : a.reads f.contents = false := by
  cases h with
  | read hcontents => rw [hcontents, reads]
  | tokenize hcontents htokens => rw [hcontents, reads, htokens]; rfl

/-- A file that cannot be read or split fails. -/
theorem exists_failsWith {a : Analyzer} {f : SourceFile} (h : a.reads f.contents = false) :
    ∃ e, a.FailsWith f e := by
  cases hcontents : f.contents with
  | unreadable reason => exact ⟨_, .read hcontents⟩
  | bytes bytes =>
    rw [hcontents, reads] at h
    cases htokens : a.tokenizer.tokenize (Text.Utf8.decodeLossy bytes) with
    | error e => exact ⟨_, .tokenize hcontents htokens⟩
    | ok tokens => rw [htokens] at h; cases h

/-- The findings in a file are reported under its relative path. -/
theorem file_of_mem_findingsIn {a : Analyzer} (hrules : ∀ r ∈ a.rules, r.ReportsInFile)
    {base : List Path.Component} {s : SourceFile} (hreads : a.reads s.contents = true) {f : Finding}
    (h : f ∈ a.findingsIn base s) : f.location.file = Path.relativeTo base s.path := by
  obtain ⟨bytes, tokens, -, -, hfindings⟩ := exists_findingsIn base hreads
  rw [hfindings, Finding.mem_sort] at h
  exact file_of_mem_scan hrules h

/-- The findings in a file are in order. -/
theorem pairwise_findingsIn {a : Analyzer} (base : List Path.Component) {s : SourceFile}
    (hreads : a.reads s.contents = true) :
    (a.findingsIn base s).Pairwise fun f g => f.precedes g = true := by
  obtain ⟨bytes, tokens, -, -, hfindings⟩ := exists_findingsIn base hreads
  rw [hfindings]
  exact Finding.pairwise_sort _

/-! ## The findings in a list of files -/

/-- Files that can all be read and split are all analyzed. -/
theorem analyzeAll_of_reads {a : Analyzer} (base : List Path.Component) {files : List SourceFile}
    (h : ∀ f ∈ files, a.reads f.contents = true) :
    a.analyzeAll base files = .ok (files.map (a.findingsIn base)) := by
  induction files with
  | nil => rfl
  | cons f rest ih =>
    rw [analyzeAll, analyzeFile_of_reads base (h f (by simp)),
      ih fun g hg => h g (List.mem_cons_of_mem f hg)]
    rfl

/-- A run that is not strict analyzes the files that can be read and split. -/
theorem analyzeAll_of_not_strict {a : Analyzer} (hstrict : a.strict = false)
    (base : List Path.Component) (files : List SourceFile) :
    a.analyzeAll base files = .ok ((a.readable files).map (a.findingsIn base)) := by
  induction files with
  | nil => rfl
  | cons f rest ih =>
    rw [analyzeAll, readable, List.filter_cons]
    cases hreads : a.reads f.contents with
    | true =>
      rw [analyzeFile_of_reads base hreads, ih]
      rfl
    | false =>
      obtain ⟨e, hfails⟩ := exists_failsWith hreads
      rw [hfails.analyzeFile_eq, hstrict]
      exact ih

/-- The first file that fails ends a strict run. -/
theorem analyzeAll_of_failing {a : Analyzer} (hstrict : a.strict = true)
    (base : List Path.Component) {front rest : List SourceFile} {f : SourceFile} {e : RunError}
    (hfront : ∀ g ∈ front, a.reads g.contents = true) (hf : a.FailsWith f e) :
    a.analyzeAll base (front ++ f :: rest) = .error e := by
  induction front with
  | nil => rw [List.nil_append, analyzeAll, hf.analyzeFile_eq, hstrict]; rfl
  | cons g front ih =>
    rw [List.cons_append, analyzeAll, analyzeFile_of_reads base (hfront g (by simp)),
      ih fun k hk => hfront k (List.mem_cons_of_mem g hk)]
    rfl

/-- A run analyzes the files that it discovers and sorts what it finds. -/
theorem analyze_of_discover {a : Analyzer} {t : FileTree} {files : List SourceFile}
    (h : a.discover t = .ok files) :
    a.analyze t = (a.analyzeAll (a.base t) files).map fun found =>
      ⟨Finding.sort found.flatten, found.length⟩ := by
  rw [analyze, h]

/-- The report of a run whose files are all analyzed. -/
theorem analyze_of_analyzeAll {a : Analyzer} {t : FileTree} {files read : List SourceFile}
    (h : a.discover t = .ok files)
    (hread : a.analyzeAll (a.base t) files = .ok (read.map (a.findingsIn (a.base t)))) :
    a.analyze t =
      .ok ⟨Finding.sort (read.flatMap (a.findingsIn (a.base t))), read.length⟩ := by
  rw [analyze_of_discover h, hread, List.flatMap_def, Except.map, List.length_map]

/-- The report of a run that is not strict. -/
theorem analyze_of_not_strict {a : Analyzer} (hstrict : a.strict = false) {t : FileTree}
    {files : List SourceFile} (h : a.discover t = .ok files) :
    a.analyze t = .ok
      ⟨Finding.sort ((a.readable files).flatMap (a.findingsIn (a.base t))),
        (a.readable files).length⟩ :=
  analyze_of_analyzeAll h (analyzeAll_of_not_strict hstrict (a.base t) files)

/-! ## The report of a run -/

/-- The findings of distinct files can be told apart again. -/
theorem filter_flatMap_file {α : Type} {blocks : List α} {file : α → String}
    {found : α → List Finding} (hfiles : blocks.Pairwise fun x y => file x ≠ file y)
    (hfound : ∀ x ∈ blocks, ∀ f ∈ found x, f.location.file = file x) {x : α} (hx : x ∈ blocks) :
    (blocks.flatMap found).filter (fun f => f.location.file = file x) = found x := by
  have hblock : ∀ y ∈ blocks, (found y).filter (fun f => f.location.file = file x) =
      if file y = file x then found y else [] := by
    intro y hy
    split
    · rename_i heq
      exact List.filter_eq_self.mpr fun f hf => by simp [hfound y hy f hf, heq]
    · rename_i hne
      exact List.filter_eq_nil_iff.mpr fun f hf => by simp [hfound y hy f hf, hne]
  rw [List.filter_flatMap, List.flatMap_congr hblock]
  clear hblock hfound
  induction blocks with
  | nil => cases hx
  | cons y rest ih =>
    rw [List.pairwise_cons] at hfiles
    rw [List.flatMap_cons]
    rcases List.mem_cons.mp hx with rfl | hrest
    · have hothers : ∀ z ∈ rest, (if file z = file x then found z else []) = [] := fun z hz =>
        if_neg (Ne.symm (hfiles.1 z hz))
      rw [if_pos rfl, List.flatMap_eq_nil_iff.mpr hothers, List.append_nil]
    · rw [if_neg (hfiles.1 x hrest), List.nil_append, ih hfiles.2 hrest]

/-- The findings of a run that is not strict are in order before they are sorted. -/
theorem sort_findings_eq {a : Analyzer} (hrules : ∀ r ∈ a.rules, r.ReportsInFile) {t : FileTree}
    {files : List SourceFile} (h : a.discover t = .ok files) :
    Finding.sort ((a.readable files).flatMap (a.findingsIn (a.base t))) =
      (a.readable files).flatMap (a.findingsIn (a.base t)) := by
  have hreads : ∀ f ∈ a.readable files, a.reads f.contents = true := fun f hf =>
    (List.mem_filter.mp hf).2
  apply Finding.sort_flatMap ((pairwise_relativeTo_discover h).filter _)
  · intro f hf g hg
    exact file_of_mem_findingsIn hrules (hreads f hf) hg
  · intro f hf
    exact pairwise_findingsIn (a.base t) (hreads f hf)

/-- Let a run not be strict, and let its rules report in the file that they are shown, as a guard
does.  Whatever the tree, the discovered files ascend by the components of their paths; the findings
of the report are those of the files that can be read and split into tokens, one file behind the
other in this order, each as if its text were analyzed alone, and the report counts these files.  So
sorting the findings of all files changes nothing, those that are reported in a file are what is
found in this file alone, and it makes no difference in which order a walk comes to the files or a
tree lists them. -/
theorem analyze_concatenates_files (a : Analyzer) (hstrict : a.strict = false)
    (hrules : ∀ r ∈ a.rules, r.ReportsInFile) (t : FileTree) (files : List SourceFile)
    (hfiles : a.discover t = .ok files) :
    files.Pairwise (fun f g => Path.key f.path < Path.key g.path) ∧
      (∃ found : SourceFile → List Finding,
        (∀ f ∈ a.readable files, ∃ bytes, f.contents = .bytes bytes ∧
          a.analyzeSource (a.base t) f.path (Text.Utf8.decodeLossy bytes) = .ok (found f)) ∧
        a.analyze t = .ok ⟨(a.readable files).flatMap found, (a.readable files).length⟩ ∧
        Finding.sort ((a.readable files).flatMap found) = (a.readable files).flatMap found ∧
        ∀ f ∈ a.readable files,
          ((a.readable files).flatMap found).filter
            (fun x => x.location.file = Path.relativeTo (a.base t) f.path) = found f) ∧
      (∀ root (walk : List SourceFile), t.locate? a.root = some root → walk.Perm (a.visit t root) →
        (walk.filter fun f => a.wants f.path).mergeSort SourceFile.precedes = files) ∧
      ∀ u : FileTree, u.files.Perm t.files → u.folders.Perm t.folders →
        a.analyze u = a.analyze t := by
  have hreads : ∀ f ∈ a.readable files, a.reads f.contents = true := fun f hf =>
    (List.mem_filter.mp hf).2
  refine ⟨ascending_discover hfiles, ⟨a.findingsIn (a.base t), ?_, ?_, ?_, ?_⟩, ?_, ?_⟩
  · intro f hf
    obtain ⟨bytes, -, hbytes, -⟩ := exists_tokens_of_reads (hreads f hf)
    refine ⟨bytes, hbytes, ?_⟩
    rw [← analyzeFile_of_bytes (a.base t) hbytes]
    exact analyzeFile_of_reads (a.base t) (hreads f hf)
  · rw [analyze_of_not_strict hstrict hfiles, sort_findings_eq hrules hfiles]
  · exact sort_findings_eq hrules hfiles
  · intro f hf
    have hpaths : (a.readable files).Pairwise fun f g =>
        Path.relativeTo (a.base t) f.path ≠ Path.relativeTo (a.base t) g.path := by
      apply ((pairwise_relativeTo_discover hfiles).filter _).imp
      intro f g hlt heq
      rw [heq] at hlt
      exact lt_irrefl _ hlt
    exact filter_flatMap_file hpaths
      (fun g hg x hx => file_of_mem_findingsIn hrules (hreads g hg) hx) hf
  · intro root walk hlocate hwalk
    exact mergeSort_walk_eq hfiles hlocate hwalk
  · intro u hperm hfolders
    rw [analyze, analyze, discover_of_perm a hperm hfolders, base_of_perm a hperm hfolders]

/-! ## A run over three files -/

/-- The rule that finds a bad word reports in the file that it is shown. -/
theorem reportsInFile_badWord : PlainText.badWord.ReportsInFile := by
  intro file tokens index f hf
  simp only [PlainText.badWord] at hf
  split at hf
  · split at hf
    · rw [List.mem_singleton.mp hf]
      rfl
    · cases hf
  · cases hf

/-- An analyzer of plain text that looks for a bad word. -/
def wordAnalyzer : Analyzer where
  folder := "/"
  root := "/"
  rules := [PlainText.badWord]
  listeners := .ofRules [PlainText.badWord]
  tokenizer := PlainText.tokenizer
  excludes := []
  extensions := [".txt"]
  settings := .default
  strict := false

/-- The bad word on the first line of a file. -/
def badIn (file : String) (column token : Nat) : Finding :=
  ⟨"bad-word", "words", .error, ⟨file, 1, column, 0, 3, token⟩, "bad word", "bad", none⟩

/-- A file in a folder, one beside the folder, and one that cannot be split. -/
def slashFile : SourceFile := ⟨"/a/b.txt", .bytes "so bad".toUTF8⟩

@[inherit_doc slashFile]
def dashFile : SourceFile := ⟨"/a-b.txt", .bytes "bad".toUTF8⟩

@[inherit_doc slashFile]
def brokenFile : SourceFile := ⟨"/c.txt", .bytes "broken".toUTF8⟩

/-- The tree of the three files. -/
def threeFiles : FileTree where
  files := [(["a-b.txt"], dashFile.contents), (["c.txt"], brokenFile.contents),
    (["a", "b.txt"], slashFile.contents)]
  folders := []
  nodup := by decide
  named := by decide

/-- The file in the folder comes first, though a dash comes before a slash. -/
theorem discover_threeFiles :
    wordAnalyzer.discover threeFiles = .ok [slashFile, dashFile, brokenFile] := by
  have hlocate : threeFiles.locate? wordAnalyzer.root = some [] := by decide +kernel
  apply discover_eq_of_ascending hlocate
  · decide +kernel
  · decide +kernel
  · rw [SourceFile.Ascending]
    decide +kernel

/-- Two of the three files are read, and what is found in them is reported in the order of their
paths. -/
theorem analyze_concatenates_files_three :
    wordAnalyzer.strict = false ∧ (∀ r ∈ wordAnalyzer.rules, r.ReportsInFile) ∧
      wordAnalyzer.analyze threeFiles = .ok ⟨[badIn "a/b.txt" 4 1, badIn "a-b.txt" 1 0], 2⟩ := by
  have hrules : ∀ r ∈ wordAnalyzer.rules, r.ReportsInFile := by
    intro r hr
    rw [List.mem_singleton.mp hr]
    exact reportsInFile_badWord
  refine ⟨rfl, hrules, ?_⟩
  obtain ⟨-, ⟨found, hfound, hreport, -⟩, -⟩ :=
    analyze_concatenates_files wordAnalyzer rfl hrules threeFiles _ discover_threeFiles
  have hreadable : wordAnalyzer.readable [slashFile, dashFile, brokenFile] =
      [slashFile, dashFile] := by decide +kernel
  rw [hreadable] at hfound hreport
  have hfile : ∀ f ∈ [slashFile, dashFile],
      wordAnalyzer.analyzeFile (wordAnalyzer.base threeFiles) f = .ok (found f) := by
    intro f hf
    obtain ⟨bytes, hbytes, hsource⟩ := hfound f hf
    rw [analyzeFile_of_bytes _ hbytes, hsource]
  have hslash : found slashFile = [badIn "a/b.txt" 4 1] := by
    have htokens : wordAnalyzer.tokenizer.tokenize (Text.Utf8.decodeLossy "so bad".toUTF8) =
        .ok #[⟨.identifier, "so", 1, 1, 0⟩, ⟨.identifier, "bad", 1, 4, 0⟩] := by decide +kernel
    apply Except.ok.inj
    rw [← hfile slashFile (by simp)]
    exact analyzeSource_eq htokens (by decide +kernel) (by simp)
  have hdash : found dashFile = [badIn "a-b.txt" 1 0] := by
    have htokens : wordAnalyzer.tokenizer.tokenize (Text.Utf8.decodeLossy "bad".toUTF8) =
        .ok #[⟨.identifier, "bad", 1, 1, 0⟩] := by decide +kernel
    apply Except.ok.inj
    rw [← hfile dashFile (by simp)]
    exact analyzeSource_eq htokens (by decide +kernel) (by simp)
  rw [hreport, List.flatMap_cons, List.flatMap_cons, hslash, hdash]
  rfl

end Analyzer

end CallGuard
