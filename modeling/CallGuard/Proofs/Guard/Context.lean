import CallGuard.Proofs.Guard.Pass

/-!
# How far a guard looks

A guard that goes through the tokens of a file remembers the kinds of the last two significant
tokens and nothing else, and it never looks ahead.  So findings in the first part of a file do not
depend on the second, and findings in the second part depend on the first only by these two kinds.

Main results:

- Theorem {lit}`findings_append`: a scan of two parts of a file.
- Theorem {lit}`late_findings`: the findings in the second part.
- Theorem {lit}`findings_depend_on_last_two_kinds`: two files that end alike in their first parts.
-/

namespace CallGuard

/-- The kinds of the last significant tokens, last first, up to a number of them. -/
def Tokens.lastKinds (tokens : Tokens) (count : Nat) : List TokenKind :=
  (tokens.significant.reverse.take count).map (·.kind)

namespace Guard

/-- The findings about tokens from an index on. -/
def late (start : Nat) (findings : List Finding) : List Finding :=
  findings.filter (start ≤ ·.location.token)

/-- Findings from an index on, in two lists one behind the other. -/
theorem late_append (start : Nat) (xs ys : List Finding) :
    late start (xs ++ ys) = late start xs ++ late start ys :=
  List.filter_append ..

/-- The findings in the second part of a file, by a pass behind the first part. -/
def passAfter (g : Guard) (file : String) (p s : Tokens) : List Finding :=
  g.pass file ((numbered 0 p.toList).map (·.1.kind)).reverse (numbered p.size s.toList)

/-- A scan of two parts finds what a scan of the first part finds, and then what there is to find
behind it. -/
theorem findings_append (g : Guard) (a : Analyzer) (file : String) (p s : Tokens) :
    g.findings a file (p ++ s) =
      g.findings a file p ++ (g.passAfter file p s).map a.adjust := by
  rw [findings_eq_pass, findings_eq_pass, Array.toList_append, numbered_append,
    pass_append, List.map_append, List.append_nil, Array.length_toList, Nat.zero_add]
  rfl

/-- A finding in a file is about one of its tokens. -/
theorem token_lt_size_of_mem_findings {a : Analyzer} {g : Guard} {file : String} {tokens : Tokens}
    {f : Finding} (hf : f ∈ g.findings a file tokens) : f.location.token < tokens.size := by
  rw [findings_eq_pass] at hf
  obtain ⟨found, hfound, rfl⟩ := List.mem_map.mp hf
  obtain ⟨token, hmem, -⟩ := exists_mem_of_mem_pass hfound
  rw [mem_numbered_iff] at hmem
  rw [Analyzer.adjust_location, ← Array.length_toList]
  exact (List.getElem?_eq_some_iff.mp hmem.1).1

/-- A finding behind the first part of a file is about a token behind it. -/
theorem size_le_token_of_mem_passAfter {g : Guard} {file : String} {p s : Tokens} {f : Finding}
    (hf : f ∈ g.passAfter file p s) : p.size ≤ f.location.token := by
  obtain ⟨token, hmem, -⟩ := exists_mem_of_mem_pass hf
  exact le_of_mem_numbered hmem

/-- The findings in the second part of a file are those of the pass behind the first part. -/
theorem late_findings (g : Guard) (a : Analyzer) (file : String) (p s : Tokens) :
    late p.size (g.findings a file (p ++ s)) = (g.passAfter file p s).map a.adjust := by
  have hearly : late p.size (g.findings a file p) = [] := by
    rw [late, List.filter_eq_nil_iff]
    intro f hf
    have hlt := token_lt_size_of_mem_findings hf
    simpa using hlt
  have hlate : late p.size ((g.passAfter file p s).map a.adjust) =
      (g.passAfter file p s).map a.adjust := by
    rw [late, List.filter_eq_self]
    intro f hf
    obtain ⟨found, hfound, rfl⟩ := List.mem_map.mp hf
    rw [Analyzer.adjust_location]
    exact decide_eq_true (size_le_token_of_mem_passAfter hfound)
  rw [findings_append, late_append, hearly, hlate, List.nil_append]

/-- The kinds that a pass remembers of the first part of a file. -/
theorem take_kinds_numbered (p : Tokens) (count : Nat) :
    ((numbered 0 p.toList).map (·.1.kind)).reverse.take count = p.lastKinds count := by
  rw [map_kind_numbered, ← List.map_reverse, ← List.map_take]
  rfl

/-- What a pass finds behind the first part of a file, with indices that count from that part. -/
theorem passAfter_eq_map_renumber (g : Guard) (file : String) (p s : Tokens) :
    g.passAfter file p s =
      (g.pass file (p.lastKinds 2) (numbered 0 s.toList)).map (·.renumber (· + p.size)) := by
  have htake : (((numbered 0 p.toList).map (·.1.kind)).reverse).take 2 =
      (p.lastKinds 2).take 2 := by
    rw [take_kinds_numbered, ← take_kinds_numbered, List.take_take, Nat.min_self]
  have hnumbers : numbered p.size s.toList =
      (numbered 0 s.toList).map fun x => (x.1, x.2 + p.size) := by
    rw [← numbered_add, Nat.zero_add]
  rw [passAfter, pass_congr g file htake, hnumbers]
  exact g.pass_renumber file (p.lastKinds 2) (numbered 0 s.toList) (· + p.size)

/-- The findings in the second part of a file, with indices that count from the first. -/
theorem late_findings_eq_map_renumber (g : Guard) (a : Analyzer) (file : String)
    (p s : Tokens) :
    late p.size (g.findings a file (p ++ s)) =
      ((g.pass file (p.lastKinds 2) (numbered 0 s.toList)).map a.adjust).map
        (·.renumber (· + p.size)) := by
  rw [late_findings, passAfter_eq_map_renumber, List.map_map, List.map_map]
  apply List.map_congr_left
  intro f _
  exact a.adjust_renumber (· + p.size) f

/-- A guard looks back at two significant tokens and never ahead.  If the last two significant
tokens of two first parts have the same kinds, or there are fewer and these have the same kinds,
then a guard finds the same in any second part behind either of them, up to the difference of the
indices.  And the findings in two parts start with the findings in the first part alone; all others
are in the second. -/
theorem findings_depend_on_last_two_kinds (g : Guard) (a : Analyzer) (file : String) (s : Tokens) :
    (∀ p p' : Tokens, p.lastKinds 2 = p'.lastKinds 2 →
      (late p.size (g.findings a file (p ++ s))).map (·.renumber (· + p'.size)) =
        (late p'.size (g.findings a file (p' ++ s))).map (·.renumber (· + p.size))) ∧
    ∀ p : Tokens, g.findings a file (p ++ s) =
      g.findings a file p ++ late p.size (g.findings a file (p ++ s)) := by
  constructor
  · intro p p' hkinds
    rw [late_findings_eq_map_renumber, late_findings_eq_map_renumber, hkinds,
      Finding.map_renumber_add_map_renumber_add, Finding.map_renumber_add_map_renumber_add,
      Nat.add_comm]
  · intro p
    rw [late_findings, findings_append]

/-- A name and a separator behind it. -/
def qualifier : Tokens :=
  #[⟨.identifier, "Foo", 1, 1, 0⟩, ⟨.nsSeparator, "\\", 1, 4, 3⟩]

/-- Another one, with more in front and a comment between the two. -/
def spacedQualifier : Tokens :=
  #[⟨.variable, "$x", 1, 1, 0⟩, ⟨.identifier, "Bar", 1, 3, 2⟩, ⟨.comment, "/**/", 1, 6, 5⟩,
    ⟨.nsSeparator, "\\", 1, 10, 9⟩]

/-- A call of a restricted name, and another one in its arguments. -/
def nestedCalls : Tokens :=
  #[⟨.identifier, "var_dump", 2, 1, 20⟩, ⟨.openParenthesis, "(", 2, 9, 28⟩,
    ⟨.identifier, "var_dump", 2, 10, 29⟩]

/-- Behind either qualifier, the inner call alone is found. -/
theorem findings_depend_on_last_two_kinds_qualified :
    qualifier.lastKinds 2 = spacedQualifier.lastKinds 2 ∧
      ∃ a, Analyzer.build "/" dumpPlan = .ok a ∧
        (late 2 (a.scan "a.php" (qualifier ++ nestedCalls))).map (·.renumber (· + 4)) =
          (late 4 (a.scan "a.php" (spacedQualifier ++ nestedCalls))).map (·.renumber (· + 2)) ∧
        (a.scan "a.php" (qualifier ++ nestedCalls)).map (·.location.token) = [4] := by
  have hkinds : qualifier.lastKinds 2 = spacedQualifier.lastKinds 2 := by decide
  obtain ⟨a, hbuild⟩ : ∃ a, Analyzer.build "/" dumpPlan = .ok a := ⟨_, rfl⟩
  have hrules : a.rules = [(buildWithin (Group.withinLimit 1000) [.group dumps]).rule] := by
    cases hbuild
    rfl
  refine ⟨hkinds, a, hbuild, ?_, ?_⟩
  · rw [scan_eq_findings hbuild hrules, scan_eq_findings hbuild hrules]
    exact (findings_depend_on_last_two_kinds _ a "a.php" nestedCalls).1 qualifier spacedQualifier
      hkinds
  · cases hbuild
    decide +kernel

end Guard

end CallGuard
