import Mathlib.Data.List.Nodup
import Mathlib.Data.Prod.Lex
import CallGuard.Proofs.Analyzer.Dispatch
import CallGuard.Proofs.CallSite.Lookback
import CallGuard.Proofs.Group.Covering
import CallGuard.Proofs.Guard.Preparation

/-!
# The findings of a guard

An analyzer whose only rule is a guard visits every token once, so what it finds is decided token by
token.  A call is reported for exactly the active groups that restrict the called name.  The findings
come in the order of the tokens and, at one token, in the order of the active groups; as their
identifiers are distinct, no group reports a token twice.

Main results:

- Theorem {lit}`Group.restricts_lowercase_iff`: the names that a group reports.
- Theorem {lit}`scan_eq_flatMap_inspect`: a scan with a guard alone asks the guard about every token.
- Theorem {lit}`mem_inspect_iff`: the findings at one token.
- Theorem {lit}`pairwise_scan_rank`: the order of the findings.
- Theorem {lit}`scan_reports_restricted_calls`: all findings of a guard.
-/

namespace CallGuard

/-! ## The names that a group reports -/

namespace Group

/-- A group reports a name if the name is not one of its exceptions, whatever case either is written
in, and one of its patterns occurs in the name in lower case. -/
def Reports (g : Group) (name : String) : Prop :=
  (∀ allowed, Text.lowercase allowed ∈ g.allow → Text.lowercase allowed ≠ Text.lowercase name) ∧
    ∃ p ∈ g.patterns, p.OccursIn (Text.lowercase name).toList

/-- A group with a pattern restricts the lower-case form of the names that it reports. -/
theorem restricts_lowercase_iff {g : Group} (hne : g.patterns ≠ []) (name : String) :
    g.restricts (Text.lowercase name) = true ↔ g.Reports name := by
  have hallows : g.allows (Text.lowercase name) = true ↔ Text.lowercase name ∈ g.allow := by
    simp [allows]
  rw [restricts, Bool.and_eq_true, Bool.not_eq_true', ← Bool.not_eq_true, hallows,
    covers_iff hne]
  constructor
  · rintro ⟨hallow, hoccurs⟩
    refine ⟨?_, hoccurs⟩
    intro allowed hmem heq
    exact hallow (heq ▸ hmem)
  · rintro ⟨hallow, hoccurs⟩
    refine ⟨?_, hoccurs⟩
    intro hmem
    exact hallow name hmem rfl

/-- The exceptions of a group of texts are the names that it was given, up to case. -/
theorem reports_ofTexts_iff (id : String) (severity : Severity) (message : String)
    (patterns allow : List String) (doc : Option String) (name : String) :
    (ofTexts id severity message patterns allow doc).Reports name ↔
      (∀ allowed ∈ allow, Text.lowercase allowed ≠ Text.lowercase name) ∧
        ∃ p ∈ patterns.filterMap NamePattern.ofText?, p.OccursIn (Text.lowercase name).toList := by
  unfold Reports ofTexts
  constructor
  · rintro ⟨hallow, hoccurs⟩
    exact ⟨fun allowed hmem => hallow allowed (List.mem_map_of_mem hmem), hoccurs⟩
  · rintro ⟨hallow, hoccurs⟩
    refine ⟨?_, hoccurs⟩
    intro allowed hmem
    obtain ⟨given, hgiven, heq⟩ := List.mem_map.mp hmem
    rw [← heq]
    exact hallow given hgiven

end Group

namespace Guard

/-! ## What the guard finds at a token -/

/-- The findings of a guard at one token: one for each active group that is not left out and restricts
the called name, with the texts of the group and the place of the token. -/
theorem mem_inspect_iff (g : Guard) (file : String) (tokens : Tokens) (index : Nat) (f : Finding) :
    f ∈ g.inspect file tokens index ↔
      ∃ token, tokens[index]? = some token ∧ isBareCall tokens index = true ∧
        ∃ group ∈ g.active, g.exclusions.contains group.id = false ∧
          group.restricts (Text.lowercase token.content) = true ∧
          f = group.finding ruleName token.content (.ofToken file token index) := by
  unfold inspect
  cases htoken : tokens[index]? with
  | none => simp
  | some token =>
    by_cases hcall : isBareCall tokens index = true
    · simp only [hcall, if_true, findingsAt, List.mem_map, List.mem_filter, Bool.and_eq_true,
        Bool.not_eq_true']
      constructor
      · rintro ⟨group, ⟨hactive, hkept, hrestricts⟩, rfl⟩
        exact ⟨token, rfl, trivial, group, hactive, hkept, hrestricts, rfl⟩
      · rintro ⟨other, heq, -, group, hactive, hkept, hrestricts, rfl⟩
        obtain rfl := Option.some.inj heq
        exact ⟨group, ⟨hactive, hkept, hrestricts⟩, rfl⟩
    · simp [hcall]

/-- A guard that steps prepare finds a call for each active group that reports the called name. -/
theorem mem_inspect_buildWithin_iff (limit : String → Bool) (steps : List Step) (file : String)
    (tokens : Tokens) (index : Nat) (f : Finding) :
    f ∈ (buildWithin limit steps).inspect file tokens index ↔
      ∃ token, tokens[index]? = some token ∧ isBareCall tokens index = true ∧
        ∃ group ∈ (buildWithin limit steps).active, group.Reports token.content ∧
          f = group.finding ruleName token.content (.ofToken file token index) := by
  rw [mem_inspect_iff]
  constructor
  · rintro ⟨token, htoken, hcall, group, hactive, -, hrestricts, rfl⟩
    have hne := patterns_ne_nil_of_mem_active hactive
    have hreports := (Group.restricts_lowercase_iff hne token.content).mp hrestricts
    exact ⟨token, htoken, hcall, group, hactive, hreports, rfl⟩
  · rintro ⟨token, htoken, hcall, group, hactive, hreports, rfl⟩
    have hne := patterns_ne_nil_of_mem_active hactive
    have hrestricts := (Group.restricts_lowercase_iff hne token.content).mpr hreports
    have hkept := contains_exclusions_of_mem_active hactive
    exact ⟨token, htoken, hcall, group, hactive, hkept, hrestricts, rfl⟩

/-! ## Asking the guard about every token -/

/-- A bare call is an identifier or an evaluation. -/
theorem kind_of_isBareCall {tokens : Tokens} {index : Nat} {token : Token}
    (htoken : tokens[index]? = some token) (hcall : isBareCall tokens index = true) :
    token.kind = .identifier ∨ token.kind = .eval := by
  rw [isBareCall_eq, Tokens.kind?, htoken, Option.map_some, Option.any_some] at hcall
  exact kind_of_isCallAfter hcall

/-- A guard finds nothing at tokens that its rule does not listen for. -/
theorem inspect_eq_nil_of_not_listens {g : Guard} (file : String) {tokens : Tokens} {index : Nat}
    {token : Token} (htoken : tokens[index]? = some token)
    (hlistens : g.rule.listens token.kind = false) : g.inspect file tokens index = [] := by
  have hkind : token.kind ∉ g.kinds := by
    simpa [Rule.listens, rule] using hlistens
  rw [inspect, htoken]
  simp only
  split
  · rename_i hcall
    by_cases hactive : g.active = []
    · simp [findingsAt, hactive]
    · have hkinds : g.kinds = [.identifier, .eval] := by simp [kinds, hactive]
      rw [hkinds] at hkind
      rcases kind_of_isBareCall htoken hcall with h | h
      · exact absurd (by simp [h]) hkind
      · exact absurd (by simp [h]) hkind
  · rfl

/-- An analyzer whose only rule is a guard finds at a token what the guard finds. -/
theorem inspectAt_eq_inspect {a : Analyzer} {g : Guard} (htable : a.listeners = .ofRules a.rules)
    (hrules : a.rules = [g.rule]) (file : String) {tokens : Tokens} {index : Nat}
    (hindex : index < tokens.size) :
    a.inspectAt file tokens index = g.inspect file tokens index := by
  have htoken : tokens[index]? = some tokens[index] := Array.getElem?_eq_getElem hindex
  rw [Analyzer.inspectAt_eq htable file htoken, hrules]
  by_cases hlistens : g.rule.listens tokens[index].kind = true
  · have hfilter : [g.rule].filter (·.listens tokens[index].kind) = [g.rule] := by simp [hlistens]
    rw [hfilter, List.flatMap_singleton]
    rfl
  · rw [Bool.not_eq_true] at hlistens
    rw [inspect_eq_nil_of_not_listens file htoken hlistens]
    simp [hlistens]

/-- An analyzer whose only rule is a guard finds at all tokens what the guard finds. -/
theorem flatMap_inspectAt_eq {a : Analyzer} {g : Guard} (htable : a.listeners = .ofRules a.rules)
    (hrules : a.rules = [g.rule]) (file : String) (tokens : Tokens) :
    (List.range tokens.size).flatMap (a.inspectAt file tokens) =
      (List.range tokens.size).flatMap (g.inspect file tokens) := by
  apply List.flatMap_congr
  intro index hindex
  exact inspectAt_eq_inspect htable hrules file (List.mem_range.mp hindex)

/-- A scan with a guard alone, whose severities are not replaced, asks the guard about every
token. -/
theorem scan_eq_flatMap_inspect {a : Analyzer} {g : Guard}
    (htable : a.listeners = .ofRules a.rules) (hrules : a.rules = [g.rule])
    (hseverity : a.settings.severity? ruleName = none) (file : String) (tokens : Tokens) :
    a.scan file tokens = (List.range tokens.size).flatMap (g.inspect file tokens) := by
  have hadjust : ∀ f ∈ (List.range tokens.size).flatMap (g.inspect file tokens),
      a.adjust f = f := by
    intro f hf
    obtain ⟨index, -, hfound⟩ := List.mem_flatMap.mp hf
    obtain ⟨token, -, -, group, -, -, -, rfl⟩ := (g.mem_inspect_iff file tokens index f).mp hfound
    have hrule : (group.finding ruleName token.content (.ofToken file token index)).rule = ruleName :=
      rfl
    rw [Analyzer.adjust, hrule, hseverity]
  rw [Analyzer.scan_eq_map_adjust, flatMap_inspectAt_eq htable hrules, List.map_congr_left hadjust,
    List.map_id']

/-! ## The order of the findings -/

/-- The place of a finding in the order of tokens and, at one token, in a list of groups. -/
def rank (ids : List String) (f : Finding) : Nat × Nat :=
  (f.location.token, ids.idxOf f.group)

/-- Distinct entries of a list stand at increasing positions. -/
theorem pairwise_idxOf_lt {ids : List String} (h : ids.Nodup) :
    ids.Pairwise fun x y => ids.idxOf x < ids.idxOf y := by
  rw [List.pairwise_iff_getElem]
  intro i j hi hj hij
  rwa [h.idxOf_getElem, h.idxOf_getElem]

/-- The findings at one token come in the order of the active groups. -/
theorem pairwise_inspect_rank {g : Guard} (hids : (g.active.map (·.id)).Nodup) (file : String)
    (tokens : Tokens) (index : Nat) :
    (g.inspect file tokens index).Pairwise fun f h =>
      Prod.Lex (· < ·) (· < ·) (rank (g.active.map (·.id)) f) (rank (g.active.map (·.id)) h) := by
  unfold inspect
  split
  · exact .nil
  · split
    · unfold findingsAt
      rw [List.pairwise_map]
      have hactive := List.pairwise_map.mp (pairwise_idxOf_lt hids)
      exact (hactive.filter _).imp fun hlt => .right _ hlt
    · exact .nil

/-- The findings at all tokens come in the order of the tokens, and at one token in the order of the
active groups. -/
theorem pairwise_scan_rank {g : Guard} (hids : (g.active.map (·.id)).Nodup) (file : String)
    (tokens : Tokens) :
    ((List.range tokens.size).flatMap (g.inspect file tokens)).Pairwise fun f h =>
      Prod.Lex (· < ·) (· < ·) (rank (g.active.map (·.id)) f) (rank (g.active.map (·.id)) h) := by
  rw [List.pairwise_flatMap]
  constructor
  · intro index _
    exact pairwise_inspect_rank hids file tokens index
  · apply List.pairwise_lt_range.imp
    intro i j hij f hf h hh
    obtain ⟨token, -, -, group, -, -, -, rfl⟩ := (g.mem_inspect_iff file tokens i f).mp hf
    obtain ⟨other, -, -, next, -, -, -, rfl⟩ := (g.mem_inspect_iff file tokens j h).mp hh
    exact .left _ _ hij

/-! ## All findings -/

/-- An order of findings by rank leaves no two findings of one group at one token. -/
theorem nodup_of_pairwise_rank {ids : List String} {findings : List Finding}
    (horder : findings.Pairwise fun f h => Prod.Lex (· < ·) (· < ·) (rank ids f) (rank ids h)) :
    (findings.map fun f => (f.location.token, f.group)).Nodup := by
  rw [List.Nodup, List.pairwise_map]
  apply horder.imp
  intro f h hlex heq
  obtain ⟨htoken, hgroup⟩ := Prod.mk.inj heq
  have hrank : rank ids f = rank ids h := by
    rw [rank, rank, htoken, hgroup]
  rw [hrank, Prod.lex_iff] at hlex
  rcases hlex with hlt | ⟨-, hlt⟩
  · exact Nat.lt_irrefl _ hlt
  · exact Nat.lt_irrefl _ hlt

/-- Let the rules of an analyzer be a guard alone, prepared by any steps under any limit, and let no
severity be set for it.  For a token and an active group there is a finding if and only if the token
is a bare call and the group reports its text: the lower-case text is not that of a name that the
group allows, and one of the patterns of the group occurs in it.  The finding has the severity and the
documentation of the group, the text of the token as it is written, also in the message, and the place
of the token.  No token is reported twice for a group, and the findings come strictly in the order of
the tokens and of the active groups. -/
theorem scan_reports_restricted_calls (limit : String → Bool) (steps : List Step) (folder : String)
    (plan : Analyzer.Plan) (a : Analyzer) (hbuild : Analyzer.build folder plan = .ok a)
    (hrules : a.rules = [(buildWithin limit steps).rule])
    (hseverity : a.settings.severity? ruleName = none) (file : String) (tokens : Tokens) :
    (∀ f ∈ a.scan file tokens, ∃ g ∈ (buildWithin limit steps).active, f.group = g.id) ∧
      (∀ index, ∀ g ∈ (buildWithin limit steps).active, ∀ f,
        f ∈ a.scan file tokens ∧ f.location.token = index ∧ f.group = g.id ↔
          ∃ token, tokens[index]? = some token ∧ isBareCall tokens index = true ∧
            g.Reports token.content ∧
            f =
              { rule := ruleName
                group := g.id
                severity := g.severity
                location := ⟨file, token.line, token.column, token.offset,
                  token.content.utf8ByteSize, index⟩
                message := Template.fill g.message token.content
                matched := token.content
                doc := g.doc }) ∧
      ((a.scan file tokens).map fun f => (f.location.token, f.group)).Nodup ∧
      ((a.scan file tokens).map (rank ((buildWithin limit steps).active.map (·.id)))).Pairwise
        (Prod.Lex (· < ·) (· < ·)) := by
  have htable := Analyzer.listeners_of_build hbuild
  have hids := nodup_ids_buildWithin limit steps
  have horder := pairwise_scan_rank hids file tokens
  rw [scan_eq_flatMap_inspect htable hrules hseverity]
  refine ⟨?_, ?_, nodup_of_pairwise_rank horder, List.pairwise_map.mpr horder⟩
  · intro f hf
    obtain ⟨index, -, hfound⟩ := List.mem_flatMap.mp hf
    obtain ⟨token, -, -, g, hactive, -, rfl⟩ :=
      (mem_inspect_buildWithin_iff limit steps file tokens index f).mp hfound
    exact ⟨g, hactive, rfl⟩
  · intro index g hactive f
    constructor
    · rintro ⟨hf, hindex, hgroup⟩
      obtain ⟨visited, -, hfound⟩ := List.mem_flatMap.mp hf
      obtain ⟨token, htoken, hcall, other, hother, hreports, rfl⟩ :=
        (mem_inspect_buildWithin_iff limit steps file tokens visited f).mp hfound
      -- The token and the identifier of a finding say where it comes from.
      obtain rfl : visited = index := hindex
      obtain rfl : other = g := List.inj_on_of_nodup_map hids hother hactive hgroup
      exact ⟨token, htoken, hcall, hreports, rfl⟩
    · rintro ⟨token, htoken, hcall, hreports, rfl⟩
      have hlt : index < tokens.size := (Array.getElem?_eq_some_iff.mp htoken).1
      refine ⟨List.mem_flatMap.mpr ⟨index, List.mem_range.mpr hlt, ?_⟩, rfl, rfl⟩
      rw [mem_inspect_buildWithin_iff]
      exact ⟨token, htoken, hcall, g, hactive, hreports, rfl⟩

/-- A group against names that start alike, with an exception. -/
def dumps : Group :=
  .ofTexts "dumps" .warning "%s() found" ["var_*"] ["Var_Export"] (some "dumps.html")

/-- Two calls: one of a restricted name, and one of the exception. -/
def dumpCalls : Tokens :=
  #[⟨.identifier, "Var_Dump", 1, 1, 0⟩, ⟨.whitespace, " ", 1, 9, 8⟩,
    ⟨.identifier, "VAR_EXPORT", 1, 10, 9⟩]

/-- A plan with the guard of the group alone. -/
def dumpPlan : Analyzer.Plan where
  root := none
  rules := [(buildWithin (Group.withinLimit 1000) [.group dumps]).rule]
  tokenizer := some ⟨"none", [], fun _ => .ok #[]⟩
  excludes := []
  settings := none
  strict := false

/-- The restricted name is reported, and the exception is not. -/
theorem scan_reports_restricted_calls_dump :
    ∃ a, Analyzer.build "/" dumpPlan = .ok a ∧
      a.rules = [(buildWithin (Group.withinLimit 1000) [.group dumps]).rule] ∧
      a.settings.severity? ruleName = none ∧
      (∃ f ∈ a.scan "a.php" dumpCalls, f.location.token = 0 ∧ f.group = dumps.id) ∧
      ∀ f ∈ a.scan "a.php" dumpCalls, f.location.token = 2 → f.group ≠ dumps.id := by
  refine ⟨_, rfl, rfl, rfl, ?_⟩
  have hactive : dumps ∈ (buildWithin (Group.withinLimit 1000) [.group dumps]).active := by
    decide +kernel
  have hexact := (scan_reports_restricted_calls (Group.withinLimit 1000) [.group dumps] "/" dumpPlan
    _ rfl rfl rfl "a.php" dumpCalls).2.1
  constructor
  · have hreports : dumps.Reports "Var_Dump" :=
      (Group.restricts_lowercase_iff (by decide +kernel) _).mp (by decide +kernel)
    have hcall : isBareCall dumpCalls 0 = true := by decide +kernel
    obtain ⟨hfound, htoken, hgroup⟩ := (hexact 0 dumps hactive _).mpr ⟨_, rfl, hcall, hreports, rfl⟩
    exact ⟨_, hfound, htoken, hgroup⟩
  · intro f hf htoken hgroup
    obtain ⟨token, heq, -, hreports, -⟩ := (hexact 2 dumps hactive f).mp ⟨hf, htoken, hgroup⟩
    obtain rfl := Option.some.inj heq
    have hallow := ((Group.reports_ofTexts_iff _ _ _ _ _ _ _).mp hreports).1
    exact hallow "Var_Export" (by simp) (by decide +kernel)

end Guard

end CallGuard
