import CallGuard.Proofs.Guard.Locality
import CallGuard.Proofs.NamePattern.Case

/-!
# The case of calls, patterns and exceptions

Case makes no difference to what a guard finds.  The patterns and the exceptions of groups and the
texts of tokens can be written in any case of the letters A to Z: the same groups report the same
tokens.  Only what a finding says changes, as it quotes the token as it is written.

Case is taken care of in three ways.  Exceptions are kept in lower case, the called name is looked up
in lower case, and patterns are compared by case folding.  None of the three can tell a capital
letter from a small one, and neither can a limit for regular expressions that goes by their length.

Main results:

- Theorem {lit}`Group.Recased.restricts_eq`: a group in another case restricts the same names.
- Theorem {lit}`Guard.map_withoutText_findAfter`: one token in another case.
- Theorem {lit}`Guard.map_withoutText_pass`: all tokens in another case.
- Theorem {lit}`Guard.findings_ignore_case`: the findings in a file.
-/

namespace CallGuard

open Text

/-! ## Groups in another case -/

/-- A limit for regular expressions that does not depend on the case of their letters. -/
def IgnoresCase (limit : String → Bool) : Prop :=
  ∀ e e', sameIgnoringAsciiCase e e' = true → limit e = limit e'

/-- A limit that goes by the length does not look at the case. -/
theorem ignoresCase_withinLimit (most : Nat) : IgnoresCase (Group.withinLimit most) := by
  intro e e' hsame
  rw [Group.withinLimit, Group.withinLimit, length_eq_of_same hsame]

/-- Patterns whose texts are the same up to case. -/
def SamePatterns (ps qs : List NamePattern) : Prop :=
  List.Forall₂ (fun p q => sameIgnoringAsciiCase p.text q.text = true) ps qs

/-- Texts that are the same up to case are both empty or both not. -/
theorem eq_empty_iff_of_same {s t : String} (h : sameIgnoringAsciiCase s t = true) :
    s = "" ↔ t = "" := by
  rw [← String.length_eq_zero_iff, ← String.length_eq_zero_iff, length_eq_of_same h]

/-- Texts that are the same up to case make patterns that are. -/
theorem samePatterns_ofTexts {texts others : List String}
    (h : List.Forall₂ (fun s t => sameIgnoringAsciiCase s t = true) texts others) :
    SamePatterns (texts.filterMap NamePattern.ofText?) (others.filterMap NamePattern.ofText?) := by
  refine List.rel_filterMap ?_ h
  intro s t hsame
  have hempty := eq_empty_iff_of_same hsame
  unfold NamePattern.ofText?
  split
  · rename_i hs
    rw [dif_pos (hempty.mp hs)]
    exact .none
  · rename_i hs
    rw [dif_neg fun ht => hs (hempty.mpr ht)]
    exact .some hsame

/-- Patterns that are the same up to case occur in the same names. -/
theorem SamePatterns.exists_occursIn_iff {ps qs : List NamePattern} (h : SamePatterns ps qs)
    (name : List Char) : (∃ p ∈ ps, p.OccursIn name) ↔ ∃ q ∈ qs, q.OccursIn name := by
  induction h with
  | nil => rfl
  | cons hsame _ ih =>
    rw [List.exists_mem_cons_iff, List.exists_mem_cons_iff, ih,
      NamePattern.occursIn_iff_of_same hsame]

namespace Group

/-- Groups whose patterns are the same up to case cover the same names. -/
theorem covers_eq_of_same {g k : Group} (h : SamePatterns g.patterns k.patterns) (name : String) :
    g.covers name = k.covers name := by
  by_cases hnil : g.patterns = []
  · have hnil' : k.patterns = [] := List.forall₂_nil_left_iff.mp (hnil ▸ h)
    rw [covers, covers, alternatives, alternatives, hnil, hnil']
  · have hnil' : k.patterns ≠ [] := fun hk => hnil (List.forall₂_nil_right_iff.mp (hk ▸ h))
    rw [Bool.eq_iff_iff, covers_iff hnil, covers_iff hnil', h.exists_occursIn_iff]

/-- The same group with its patterns and its exceptions written in another case. -/
inductive Recased : Group → Group → Prop
  | intro (id : String) (severity : Severity) (message : String) (doc : Option String)
      {patterns patterns' allow allow' : List String}
      (hpatterns : List.Forall₂ (fun s t => sameIgnoringAsciiCase s t = true) patterns patterns')
      (hallow : List.Forall₂ (fun s t => sameIgnoringAsciiCase s t = true) allow allow') :
      Recased (ofTexts id severity message patterns allow doc)
        (ofTexts id severity message patterns' allow' doc)

namespace Recased

variable {g k : Group}

/-- A group in another case has the same identifier. -/
theorem id_eq (h : g.Recased k) : k.id = g.id := by
  cases h
  rfl

/-- The patterns of a group in another case. -/
theorem samePatterns (h : g.Recased k) : SamePatterns g.patterns k.patterns := by
  cases h with
  | intro _ _ _ _ hpatterns _ => exact samePatterns_ofTexts hpatterns

/-- A group in another case has the same exceptions, as they are kept in lower case. -/
theorem allow_eq (h : g.Recased k) : k.allow = g.allow := by
  cases h with
  | intro _ _ _ _ _ hallow =>
    symm
    rw [ofTexts, ofTexts, ← List.forall₂_eq_eq_eq, List.forall₂_map_left_iff,
      List.forall₂_map_right_iff]
    exact hallow.imp fun _ _ => lowercase_eq_of_same

/-- A group in another case restricts the same names. -/
theorem restricts_eq (h : g.Recased k) (name : String) : k.restricts name = g.restricts name := by
  rw [restricts, restricts, allows, allows, h.allow_eq, covers_eq_of_same h.samePatterns]

/-- A group in another case is usable if the group is. -/
theorem isUsable_eq (h : g.Recased k) {limit : String → Bool} (hlimit : IgnoresCase limit) :
    Guard.isUsable limit k = Guard.isUsable limit g := by
  have hnil : k.patterns.isEmpty = g.patterns.isEmpty := by
    rw [Bool.eq_iff_iff, List.isEmpty_iff_length_eq_zero, List.isEmpty_iff_length_eq_zero,
      List.Forall₂.length_eq h.samePatterns]
  have hfits : limit g.expression = limit k.expression := hlimit _ _ (alternation_same h.samePatterns)
  rw [Guard.isUsable, Guard.isUsable, hnil, hfits]

end Recased

end Group

/-! ## Tokens in another case -/

/-- The same token with its text written in another case. -/
structure Token.Recased (t u : Token) : Prop where
  kind : u.kind = t.kind
  content : sameIgnoringAsciiCase t.content u.content = true
  line : u.line = t.line
  column : u.column = t.column
  offset : u.offset = t.offset

/-- A token in another case stands at the same place. -/
theorem Token.Recased.ofToken_eq {t u : Token} (h : t.Recased u) (file : String) (index : Nat) :
    Location.ofToken file u index = Location.ofToken file t index := by
  rw [Location.ofToken, Location.ofToken, h.line, h.column, h.offset,
    utf8ByteSize_eq_of_same h.content]

/-- Tokens in another case are numbered alike. -/
theorem forall₂_numbered {ts us : List Token} (h : List.Forall₂ Token.Recased ts us) (start : Nat) :
    List.Forall₂ (fun x y => x.1.Recased y.1 ∧ y.2 = x.2) (numbered start ts)
      (numbered start us) := by
  induction h generalizing start with
  | nil => exact .nil
  | cons htoken _ ih =>
    simp only [numbered, List.zipIdx_cons, List.filter_cons, htoken.kind]
    split
    · exact .cons ⟨htoken, rfl⟩ (ih (start + 1))
    · exact ih (start + 1)

/-! ## Findings without their texts -/

/-- A finding without the texts that quote the token. -/
def Finding.withoutText (f : Finding) : Finding :=
  { f with message := "", matched := "" }

/-- Replacing severities does not look at the texts. -/
theorem Analyzer.adjust_withoutText (a : Analyzer) (f : Finding) :
    a.adjust f.withoutText = (a.adjust f).withoutText := by
  rw [adjust_eq, adjust_eq]
  rfl

namespace Guard

/-- What groups in another case find about a call in another case, but for the texts. -/
theorem map_withoutText_findingsAt {groups others : List Group}
    (hgroups : List.Forall₂ Group.Recased groups others) {name called : String}
    (hname : sameIgnoringAsciiCase name called = true) (rule : String) (location : Location)
    (x : Exclusion) :
    (findingsAt rule called location others x).map (·.withoutText) =
      (findingsAt rule name location groups x).map (·.withoutText) := by
  unfold findingsAt
  rw [lowercase_eq_of_same hname]
  induction hgroups with
  | nil => rfl
  | @cons g k _ _ hgroup _ ih =>
    have hreport : (k.finding rule called location).withoutText =
        (g.finding rule name location).withoutText := by
      cases hgroup
      rfl
    simp only [List.filter_cons, hgroup.id_eq, hgroup.restricts_eq]
    split
    · simp only [List.map_cons, hreport, ih]
    · exact ih

/-- What groups in another case find at a token in another case, but for the texts. -/
theorem map_withoutText_findAfter {groups others : List Group}
    (hgroups : List.Forall₂ Group.Recased groups others) (x : Exclusion) (file : String)
    (context : List TokenKind) {t u : Token} (htoken : t.Recased u) (index : Nat) :
    (findAfter ⟨others, x⟩ file context u index).map (·.withoutText) =
      (findAfter ⟨groups, x⟩ file context t index).map (·.withoutText) := by
  rw [findAfter, findAfter, htoken.kind, htoken.ofToken_eq]
  split
  · exact map_withoutText_findingsAt hgroups htoken.content _ _ x
  · rfl

/-- What groups in another case find in tokens in another case, but for the texts. -/
theorem map_withoutText_pass {groups others : List Group}
    (hgroups : List.Forall₂ Group.Recased groups others) (x : Exclusion) (file : String)
    (context : List TokenKind) {ts us : List (Token × Nat)}
    (htokens : List.Forall₂ (fun t u => t.1.Recased u.1 ∧ u.2 = t.2) ts us) :
    (pass ⟨others, x⟩ file context us).map (·.withoutText) =
      (pass ⟨groups, x⟩ file context ts).map (·.withoutText) := by
  -- The kinds of the tokens are the same, so the context is the same all along.
  induction htokens generalizing context with
  | nil => rfl
  | cons htoken _ ih =>
    rw [pass, pass, List.map_append, List.map_append, htoken.2, htoken.1.kind,
      map_withoutText_findAfter hgroups x file context htoken.1, ih]

/-- What is found in a file in another case, but for the texts. -/
theorem map_withoutText_findings {groups others : List Group}
    (hgroups : List.Forall₂ Group.Recased groups others) (x : Exclusion) (a : Analyzer)
    (file : String) {tokens recased : Tokens}
    (htokens : List.Forall₂ Token.Recased tokens.toList recased.toList) :
    (findings ⟨others, x⟩ a file recased).map (·.withoutText) =
      (findings ⟨groups, x⟩ a file tokens).map (·.withoutText) := by
  have hadjust : ∀ found : List Finding, (found.map a.adjust).map (·.withoutText) =
      (found.map (·.withoutText)).map a.adjust := by
    intro found
    rw [List.map_map, List.map_map]
    apply List.map_congr_left
    intro f _
    exact (a.adjust_withoutText f).symm
  rw [findings_eq_pass, findings_eq_pass, hadjust, hadjust,
    map_withoutText_pass hgroups x file [] (forall₂_numbered htokens 0)]

/-! ## Texts as written -/

/-- A finding quotes its token as it is written. -/
theorem exists_token_of_mem_findings {g : Guard} {a : Analyzer} {file : String} {tokens : Tokens}
    {f : Finding} (hf : f ∈ g.findings a file tokens) :
    ∃ token, tokens[f.location.token]? = some token ∧ f.matched = token.content ∧
      ∃ group ∈ g.active, f.group = group.id ∧
        f.message = Template.fill group.message token.content := by
  rw [findings_eq_flatMap] at hf
  obtain ⟨found, hfound, rfl⟩ := List.mem_map.mp hf
  obtain ⟨index, -, hinspect⟩ := List.mem_flatMap.mp hfound
  obtain ⟨token, htoken, -, group, hgroup, -, -, rfl⟩ :=
    (g.mem_inspect_iff file tokens index found).mp hinspect
  simp only [Analyzer.adjust_location, Analyzer.adjust_matched, Analyzer.adjust_group,
    Analyzer.adjust_message]
  exact ⟨token, htoken, rfl, group, hgroup, rfl, rfl⟩

/-! ## Case makes no difference -/

/-- Case makes no difference to what is found.  Let the patterns and the exceptions of the groups of
any set and the texts of any tokens be written in another case of the letters A to Z.  Then the list
of findings has the same tokens, rules, groups, severities, places and references, in the same order.
Only the texts may change: they quote the token as it is written.  The limit for regular expressions
may be any that does not depend on case, such as one that goes by the length. -/
theorem findings_ignore_case (s recased : GroupSet)
    (hgroups : List.Forall₂ Group.Recased s.groups recased.groups) (tokens retyped : Tokens)
    (htokens : List.Forall₂ Token.Recased tokens.toList retyped.toList) (a : Analyzer)
    (file : String) :
    (∀ most, IgnoresCase (Group.withinLimit most)) ∧
      ∀ limit, IgnoresCase limit →
        ((buildWithin limit [.groups recased]).findings a file retyped).map
            (fun f => (f.location.token, f.rule, f.group, f.severity, f.location, f.doc)) =
          ((buildWithin limit [.groups s]).findings a file tokens).map
            (fun f => (f.location.token, f.rule, f.group, f.severity, f.location, f.doc)) ∧
        ∀ f ∈ (buildWithin limit [.groups recased]).findings a file retyped,
          ∃ token, retyped[f.location.token]? = some token ∧ f.matched = token.content ∧
            ∃ g ∈ recased.groups, f.group = g.id ∧
              f.message = Template.fill g.message token.content := by
  refine ⟨ignoresCase_withinLimit, fun limit hlimit => ⟨?_, ?_⟩⟩
  · have husable : List.Forall₂ Group.Recased (s.groups.filter (isUsable limit))
        (recased.groups.filter (isUsable limit)) := by
      refine List.rel_filter ?_ hgroups
      intro g k hgroup
      simp only [hgroup.isUsable_eq hlimit]
    have hplaces : ∀ found : List Finding,
        found.map (fun f => (f.location.token, f.rule, f.group, f.severity, f.location, f.doc)) =
          (found.map (·.withoutText)).map fun f =>
            (f.location.token, f.rule, f.group, f.severity, f.location, f.doc) := by
      intro found
      rw [List.map_map]
      rfl
    rw [buildWithin_groups, buildWithin_groups, hplaces, hplaces (findings _ a file tokens),
      map_withoutText_findings husable .none a file htokens]
  · intro f hf
    rw [buildWithin_groups] at hf
    obtain ⟨token, htoken, hmatched, g, hg, hgroup, hmessage⟩ := exists_token_of_mem_findings hf
    exact ⟨token, htoken, hmatched, g, List.mem_of_mem_filter hg, hgroup, hmessage⟩

/-- The group against names that start alike, in another case. -/
def loudDumps : Group :=
  .ofTexts "dumps" .warning "%s() found" ["VAR_*"] ["vAR_eXPORT"] (some "dumps.html")

/-- The calls in another case. -/
def loudDumpCalls : Tokens :=
  #[⟨.identifier, "VAR_DUMP", 1, 1, 0⟩, ⟨.whitespace, " ", 1, 9, 8⟩,
    ⟨.identifier, "var_Export", 1, 10, 9⟩]

/-- In another case, the restricted name is reported as before, with its new text, and the exception
is not. -/
theorem findings_ignore_case_dump :
    List.Forall₂ Group.Recased (GroupSet.ofList [dumps]).groups
        (GroupSet.ofList [loudDumps]).groups ∧
      List.Forall₂ Token.Recased dumpCalls.toList loudDumpCalls.toList ∧
      IgnoresCase (Group.withinLimit 1000) ∧
      ∃ a, Analyzer.build "/" dumpPlan = .ok a ∧
        ((buildWithin (Group.withinLimit 1000) [.groups (.ofList [loudDumps])]).findings a "a.php"
            loudDumpCalls).map
            (fun f => (f.location.token, f.rule, f.group, f.severity, f.location, f.doc)) =
          [(0, ruleName, "dumps", .warning, ⟨"a.php", 1, 1, 0, 8, 0⟩, some "dumps.html")] ∧
        ∀ f ∈ (buildWithin (Group.withinLimit 1000) [.groups (.ofList [loudDumps])]).findings a
            "a.php" loudDumpCalls,
          f.location.token = 0 → f.matched = "VAR_DUMP" ∧ f.message = "VAR_DUMP() found" := by
  have hgroups : List.Forall₂ Group.Recased (GroupSet.ofList [dumps]).groups
      (GroupSet.ofList [loudDumps]).groups :=
    .cons (.intro "dumps" .warning "%s() found" (some "dumps.html")
      (.cons (by decide +kernel) .nil) (.cons (by decide +kernel) .nil)) .nil
  have htokens : List.Forall₂ Token.Recased dumpCalls.toList loudDumpCalls.toList :=
    .cons ⟨rfl, by decide +kernel, rfl, rfl, rfl⟩ <|
      .cons ⟨rfl, by decide +kernel, rfl, rfl, rfl⟩ <|
        .cons ⟨rfl, by decide +kernel, rfl, rfl, rfl⟩ .nil
  obtain ⟨a, hbuild⟩ : ∃ a, Analyzer.build "/" dumpPlan = .ok a := ⟨_, rfl⟩
  obtain ⟨hlimits, hcase⟩ := findings_ignore_case (.ofList [dumps]) (.ofList [loudDumps]) hgroups
    dumpCalls loudDumpCalls htokens a "a.php"
  have hlimit := hlimits 1000
  obtain ⟨hsame, htexts⟩ := hcase (Group.withinLimit 1000) hlimit
  refine ⟨hgroups, htokens, hlimit, a, hbuild, ?_, ?_⟩
  · rw [hsame]
    cases hbuild
    rfl
  · intro f hf hfirst
    obtain ⟨token, htoken, hmatched, g, hg, -, hmessage⟩ := htexts f hf
    rw [hfirst] at htoken
    obtain rfl := Option.some.inj htoken
    obtain rfl : g = loudDumps := List.mem_singleton.mp hg
    exact ⟨hmatched, hmessage.trans (by decide +kernel)⟩

end Guard

end CallGuard
