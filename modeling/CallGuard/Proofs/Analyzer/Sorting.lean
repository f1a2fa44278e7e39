import CallGuard.Proofs.Analyzer.Run

/-!
# The order of a report

The findings in each file are sorted, and all findings are sorted again when the files are put
together.  A rule may report in any file and at any place, so findings of several files may get mixed.
Still the two passes come to one: the report is the stable sort of what the rules find, taken in the
order of the files, and within a file in the order in which it is found.

Main results:

- Theorem {lit}`findingsIn_eq_sort`: the findings in a file are the sorted ones of a scan.
- Theorem {lit}`analyze_sorts_stably`: the findings of a report and their order.
-/

namespace CallGuard.Analyzer

/-- What a scan of a file finds, before anything is sorted; nothing if the file cannot be read or
split. -/
def scanned (a : Analyzer) (base : List Path.Component) (f : SourceFile) : List Finding :=
  match f.contents with
  | .unreadable _ => []
  | .bytes bytes =>
    match a.tokenizer.tokenize (Text.Utf8.decodeLossy bytes) with
    | .ok tokens => a.scan (Path.relativeTo base f.path) tokens
    | .error _ => []

/-- The findings in a file that can be read and split are what a scan of it finds, sorted. -/
theorem findingsIn_eq_sort {a : Analyzer} (base : List Path.Component) {f : SourceFile}
    (h : a.reads f.contents = true) : a.findingsIn base f = Finding.sort (a.scanned base f) := by
  obtain ⟨bytes, tokens, hbytes, htokens, hfindings⟩ := exists_findingsIn base h
  rw [hfindings, scanned, hbytes]
  simp only [htokens]

/-- Let all files that a run discovers be such that they can be read and split into tokens.
Whatever the rules report, and wherever, the findings of the report are the stable sort of what the
scans of the files find, one file behind the other in the order of discovery: the same findings,
each as often, ordered by file, line and column, and in the order in which they are found where
these are the same.  No other list is sorted so. -/
theorem analyze_sorts_stably (a : Analyzer) (t : FileTree) (files : List SourceFile)
    (hfiles : a.discover t = .ok files) (hreads : ∀ f ∈ files, a.reads f.contents = true) :
    a.analyze t =
      .ok ⟨Finding.sort (files.flatMap (a.scanned (a.base t))), files.length⟩ ∧
    Finding.IsStableSort (files.flatMap (a.scanned (a.base t)))
      (Finding.sort (files.flatMap (a.scanned (a.base t)))) ∧
    ∀ sorted, Finding.IsStableSort (files.flatMap (a.scanned (a.base t))) sorted →
      sorted = Finding.sort (files.flatMap (a.scanned (a.base t))) := by
  refine ⟨?_, Finding.isStableSort_sort _, fun sorted h => h.eq_sort⟩
  have hfound : files.flatMap (a.findingsIn (a.base t)) =
      files.flatMap fun f => Finding.sort (a.scanned (a.base t) f) :=
    List.flatMap_congr fun f hf => findingsIn_eq_sort (a.base t) (hreads f hf)
  rw [analyze_of_analyzeAll hfiles (analyzeAll_of_reads (a.base t) hreads), hfound,
    Finding.sort_flatMap_sort]

/-! ## A rule that reports elsewhere -/

/-- A finding in a file, which tells in which file a token was seen. -/
def seenIn (file seen : String) : Finding :=
  ⟨"scatter", "words", .error, ⟨file, 1, 1, 0, 0, 0⟩, "", seen, none⟩

/-- A rule that reports every identifier in two other files, in descending order of these. -/
def scatterRule : Rule where
  name := "scatter"
  description := ""
  kinds := [.identifier]
  inspect file _ _ := [seenIn "b" file, seenIn "a" file]

/-- An analyzer with this rule. -/
def scatterAnalyzer : Analyzer :=
  { wordAnalyzer with rules := [scatterRule], listeners := .ofRules [scatterRule] }

/-- Two files with a word each. -/
def twoFiles : FileTree where
  files := [(["x.txt"], .bytes "so".toUTF8), (["y.txt"], .bytes "what".toUTF8)]
  folders := []
  nodup := by decide
  named := by decide

/-- What is reported in the same file keeps the order in which the two files are read. -/
theorem analyze_sorts_stably_scatter :
    scatterAnalyzer.analyze twoFiles =
      .ok ⟨[seenIn "a" "x.txt", seenIn "a" "y.txt", seenIn "b" "x.txt", seenIn "b" "y.txt"], 2⟩ := by
  have hlocate : twoFiles.locate? scatterAnalyzer.root = some [] := by decide +kernel
  have hfiles : scatterAnalyzer.discover twoFiles =
      .ok [⟨"/x.txt", .bytes "so".toUTF8⟩, ⟨"/y.txt", .bytes "what".toUTF8⟩] := by
    apply discover_eq_of_ascending hlocate
    · decide +kernel
    · decide +kernel
    · rw [SourceFile.Ascending]
      decide +kernel
  obtain ⟨hreport, -, hunique⟩ :=
    analyze_sorts_stably scatterAnalyzer twoFiles _ hfiles (by decide +kernel)
  rw [hreport, ← hunique [seenIn "a" "x.txt", seenIn "a" "y.txt", seenIn "b" "x.txt",
    seenIn "b" "y.txt"] ?_]
  · rfl
  · constructor
    · decide +kernel
    · decide +kernel
    · apply Finding.sameTies_of_perm
      · decide +kernel
      · decide +kernel

end CallGuard.Analyzer
