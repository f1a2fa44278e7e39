import CallGuard.Proofs.Analyzer.Run

/-!
# Rules do not interfere

As long as every rule reports under its own name, what one rule finds is independent of the other
rules and of their settings.  The findings of a rule can be picked out of a report, a rule that is
switched off takes its own findings away and no others, and a severity that is set for a rule
changes the severity of its findings and nothing else.  Sorting does not come in between, since it
is stable and looks at places only.

Main results:

- Theorem {lit}`Settings.rule?_withRule`: what changing the settings of one rule does to the others.
- Theorem {lit}`Analyzer.scan_of_selected`: the scan with some of the rules.
- Theorem {lit}`Analyzer.scan_override`: the scan with a severity for one rule.
- Theorem {lit}`Analyzer.rules_do_not_interfere`: one rule alone, without it, and with a severity.
-/

namespace CallGuard

/-- A rule reports all that it finds under its own name. -/
def Rule.ReportsUnderName (r : Rule) : Prop :=
  ∀ file tokens index, ∀ f ∈ r.inspect file tokens index, f.rule = r.name

/-- A guard reports under the name of its rule. -/
theorem Guard.reportsUnderName_rule (g : Guard) : g.rule.ReportsUnderName := by
  intro file tokens index f hf
  obtain ⟨token, -, -, group, -, -, -, rfl⟩ := (g.mem_inspect_iff file tokens index f).mp hf
  rfl

/-! ## Changing the settings of one rule -/

namespace Settings

/-- The settings with others for one rule. -/
def withRule (s : Settings) (name : String) (r : RuleSettings) : Settings :=
  { s with rules := (name, r) :: s.rules.filter (·.1 ≠ name) }

/-- The settings in which a rule is switched off. -/
def disable (s : Settings) (name : String) : Settings :=
  s.withRule name ⟨some false, s.severity? name⟩

/-- The settings in which a severity is set for a rule. -/
def override (s : Settings) (name : String) (severity : Severity) : Settings :=
  s.withRule name ⟨(s.rule? name).bind (·.enabled), some severity⟩

/-- Other rules keep their settings. -/
theorem rule?_withRule (s : Settings) (name other : String) (r : RuleSettings) :
    (s.withRule name r).rule? other = if other = name then some r else s.rule? other := by
  by_cases heq : other = name
  · simp [withRule, rule?, heq]
  · have hne : ¬ name = other := fun h => heq h.symm
    have hfind : (s.rules.filter (·.1 ≠ name)).find? (·.1 = other) =
        s.rules.find? (·.1 = other) := by
      rw [List.find?_filter]
      congr 1
      funext x
      by_cases hx : x.1 = other <;> simp [hx, heq]
    rw [rule?, withRule, List.find?_cons_of_neg (by simpa using hne), hfind, if_neg heq, rule?]

/-- A rule that is switched off is the only one. -/
theorem isEnabled_disable (s : Settings) (name other : String) :
    (s.disable name).isEnabled other = (decide (other ≠ name) && s.isEnabled other) := by
  rw [isEnabled, disable, rule?_withRule]
  by_cases heq : other = name
  · simp [heq]
  · simp [heq, isEnabled]

/-- Switching a rule off changes no severity. -/
theorem severity?_disable (s : Settings) (name other : String) :
    (s.disable name).severity? other = s.severity? other := by
  rw [severity?, disable, rule?_withRule]
  by_cases heq : other = name
  · simp [heq]
  · simp [heq, severity?]

/-- A severity that is set switches no rule on or off. -/
theorem isEnabled_override (s : Settings) (name other : String) (severity : Severity) :
    (s.override name severity).isEnabled other = s.isEnabled other := by
  rw [isEnabled, override, rule?_withRule]
  by_cases heq : other = name
  · simp [heq, isEnabled]
  · simp [heq, isEnabled]

/-- A severity that is set for a rule is that of the rule, and the others keep theirs. -/
theorem severity?_override (s : Settings) (name other : String) (severity : Severity) :
    (s.override name severity).severity? other =
      if other = name then some severity else s.severity? other := by
  rw [severity?, override, rule?_withRule]
  by_cases heq : other = name
  · simp [heq]
  · simp [heq, severity?]

end Settings

namespace Analyzer

/-! ## Building with other rules or settings -/

/-- The analyzer with other rules and settings, in the same place. -/
def reconfigure (a : Analyzer) (rules : List Rule) (settings : Settings) : Analyzer :=
  { a with rules := rules, listeners := .ofRules rules, settings := settings }

/-- Rules that are picked from a plan by their names are picked from the analyzer. -/
theorem build_of_selected {folder : String} {p : Plan} {a : Analyzer}
    (h : build folder p = .ok a) (q : String → Bool) :
    build folder { p with rules := p.rules.filter (q ·.name) } =
      .ok (a.reconfigure (a.rules.filter (q ·.name)) a.settings) := by
  unfold build at h ⊢
  cases htokenizer : p.tokenizer with
  | none => rw [htokenizer] at h; cases h
  | some tokenizer =>
    rw [htokenizer] at h
    cases h
    simp only [reconfigure, List.filter_comm fun r : Rule => q r.name]

/-- Other settings that scan the same files pick the rules that they enable. -/
theorem build_of_settings {folder : String} {p : Plan} {a : Analyzer}
    (h : build folder p = .ok a) {s : Settings} (hscan : s.scan = a.settings.scan) :
    build folder { p with settings := some s } =
      .ok (a.reconfigure (p.rules.filter (s.isEnabled ·.name)) s) := by
  unfold build at h ⊢
  cases htokenizer : p.tokenizer with
  | none => rw [htokenizer] at h; cases h
  | some tokenizer =>
    rw [htokenizer] at h
    cases h
    simp only [reconfigure, Option.getD_some, hscan]

/-! ## Scanning with other rules or settings -/

/-- Rules that report under their names and are picked by them find what is reported under these
names. -/
theorem flatMap_inspect_of_selected {rules : List Rule} (hnames : ∀ r ∈ rules, r.ReportsUnderName)
    (q : String → Bool) (file : String) (tokens : Tokens) (index : Nat) :
    (rules.filter (q ·.name)).flatMap (·.inspect file tokens index) =
      (rules.flatMap (·.inspect file tokens index)).filter (q ·.rule) := by
  induction rules with
  | nil => rfl
  | cons r rest ih =>
    have hrule : ∀ f ∈ r.inspect file tokens index, q f.rule = q r.name := fun f hf =>
      congrArg q (hnames r (by simp) file tokens index f hf)
    have hrest := ih fun s hs => hnames s (List.mem_cons_of_mem r hs)
    rw [List.flatMap_cons, List.filter_append, ← hrest]
    by_cases hq : q r.name = true
    · have hall : (r.inspect file tokens index).filter (q ·.rule) = r.inspect file tokens index :=
        List.filter_eq_self.mpr fun f hf => by rw [hrule f hf, hq]
      rw [List.filter_cons_of_pos (by simpa using hq), List.flatMap_cons, hall]
    · have hnone : (r.inspect file tokens index).filter (q ·.rule) = [] :=
        List.filter_eq_nil_iff.mpr fun f hf => by rw [hrule f hf]; exact hq
      rw [List.filter_cons_of_neg (by simpa using hq), hnone, List.nil_append]

/-- With some of the rules, picked by their names, and the same severities, a scan finds what is
reported under these names. -/
theorem scan_of_selected {a : Analyzer} (htable : a.listeners = .ofRules a.rules)
    (hnames : ∀ r ∈ a.rules, r.ReportsUnderName) (q : String → Bool) {settings : Settings}
    (hseverity : ∀ name, settings.severity? name = a.settings.severity? name) (file : String)
    (tokens : Tokens) :
    (a.reconfigure (a.rules.filter (q ·.name)) settings).scan file tokens =
      (a.scan file tokens).filter (q ·.rule) := by
  have hadjust : (a.reconfigure (a.rules.filter (q ·.name)) settings).adjust = a.adjust := by
    funext f
    rw [adjust_eq, adjust_eq, ← hseverity]
    rfl
  have hkept : (fun f : Finding => q f.rule) ∘ a.adjust = fun f => q f.rule := by
    funext f
    simp
  have hinspect : ∀ index ∈ List.range tokens.size,
      (a.reconfigure (a.rules.filter (q ·.name)) settings).inspectAt file tokens index =
        (a.inspectAt file tokens index).filter (q ·.rule) := by
    intro index hindex
    have hlt : index < tokens.size := List.mem_range.mp hindex
    have htoken : tokens[index]? = some tokens[index] := Array.getElem?_eq_getElem hlt
    rw [inspectAt_eq rfl file htoken, inspectAt_eq htable file htoken, reconfigure,
      List.filter_comm]
    exact flatMap_inspect_of_selected
      (fun r hr => hnames r (List.mem_of_mem_filter hr)) q file tokens index
  rw [scan_eq_map_adjust, scan_eq_map_adjust, hadjust, List.filter_map, hkept,
    List.filter_flatMap, List.flatMap_congr hinspect]

/-- The finding of a rule with another severity; findings of other rules stay. -/
def recast (name : String) (severity : Severity) (f : Finding) : Finding :=
  if f.rule = name then { f with severity := severity } else f

/-- With a severity that is set for a rule, a scan finds the same, and the findings of the rule have
this severity. -/
theorem scan_override {a : Analyzer} (htable : a.listeners = .ofRules a.rules) (name : String)
    (severity : Severity) (file : String) (tokens : Tokens) :
    (a.reconfigure a.rules (a.settings.override name severity)).scan file tokens =
      (a.scan file tokens).map (recast name severity) := by
  have hinspect : (a.reconfigure a.rules (a.settings.override name severity)).inspectAt file tokens =
      a.inspectAt file tokens := by
    funext index
    simp only [inspectAt, reconfigure, htable]
  have hadjust : ∀ f, (a.reconfigure a.rules (a.settings.override name severity)).adjust f =
      recast name severity (a.adjust f) := by
    intro f
    rw [adjust_eq, reconfigure, Settings.severity?_override, recast, adjust_rule, adjust_eq]
    split <;> rfl
  rw [scan_eq_map_adjust, scan_eq_map_adjust, hinspect, List.map_map]
  exact List.map_congr_left fun f _ => hadjust f

/-- What other rules and settings do to the findings of every scan, they do to the findings in every
source, if it commutes with sorting. -/
theorem analyzeSource_reconfigure {a : Analyzer} {rules : List Rule} {settings : Settings}
    {change : List Finding → List Finding}
    (hscan : ∀ file tokens,
      (a.reconfigure rules settings).scan file tokens = change (a.scan file tokens))
    (hsort : ∀ findings, Finding.sort (change findings) = change (Finding.sort findings))
    (t : FileTree) (path text : String) :
    (a.reconfigure rules settings).analyzeSource ((a.reconfigure rules settings).base t) path text =
      (a.analyzeSource (a.base t) path text).map change := by
  have htokenizer : (a.reconfigure rules settings).tokenizer = a.tokenizer := rfl
  have hbase : (a.reconfigure rules settings).base t = a.base t := rfl
  rw [analyzeSource, analyzeSource, htokenizer, hbase]
  cases a.tokenizer.tokenize text with
  | error e => rfl
  | ok tokens => simp only [hscan, hsort, Except.map]

/-! ## Rules and settings are independent -/

/-- Rules and their settings do not interfere.  Let an analyzer be built from any rules that report
under their own names, and any settings.  For every name, every tree and every source: the findings
of the rules of this name, picked out of the report, are the report of an analyzer with these rules
alone and the same settings; switching the rules of this name off leaves the other findings in the
same order; and setting a severity for this name gives it to the findings of the name, and leaves all
else of them, all other findings and the order as they are.  A source that cannot be split fails in
the same way each time. -/
theorem rules_do_not_interfere (folder : String) (plan : Plan) (a : Analyzer)
    (hbuild : build folder plan = .ok a) (hnames : ∀ r ∈ plan.rules, r.ReportsUnderName)
    (name : String) :
    (∃ only, build folder { plan with rules := plan.rules.filter (·.name = name) } = .ok only ∧
      ∀ t path text, only.analyzeSource (only.base t) path text =
        (a.analyzeSource (a.base t) path text).map (·.filter (·.rule = name))) ∧
      (∃ off, build folder { plan with settings := some (a.settings.disable name) } = .ok off ∧
        ∀ t path text, off.analyzeSource (off.base t) path text =
          (a.analyzeSource (a.base t) path text).map (·.filter (·.rule ≠ name))) ∧
      ∀ severity, ∃ changed,
        build folder { plan with settings := some (a.settings.override name severity) } =
            .ok changed ∧
          ∀ t path text, changed.analyzeSource (changed.base t) path text =
            (a.analyzeSource (a.base t) path text).map fun findings =>
              findings.map fun f =>
                if f.rule = name then { f with severity := severity } else f := by
  obtain ⟨-, hrules, htable⟩ := build_eq_ok hbuild
  have hreports : ∀ r ∈ a.rules, r.ReportsUnderName := by
    intro r hr
    rw [hrules] at hr
    exact hnames r (List.mem_of_mem_filter hr)
  refine ⟨⟨_, build_of_selected hbuild (· = name), ?_⟩,
    ⟨_, build_of_settings hbuild rfl, ?_⟩, fun severity => ⟨_, build_of_settings hbuild rfl, ?_⟩⟩
  · apply analyzeSource_reconfigure _ (Finding.sort_filter _)
    exact scan_of_selected htable hreports (· = name) fun _ => rfl
  · have hothers : plan.rules.filter ((a.settings.disable name).isEnabled ·.name) =
        a.rules.filter (·.name ≠ name) := by
      rw [hrules, List.filter_filter]
      exact List.filter_congr fun r _ => a.settings.isEnabled_disable name r.name
    rw [hothers]
    apply analyzeSource_reconfigure _ (Finding.sort_filter _)
    exact scan_of_selected htable hreports (· ≠ name) (a.settings.severity?_disable name)
  · have hsame : plan.rules.filter ((a.settings.override name severity).isEnabled ·.name) =
        a.rules := by
      rw [hrules]
      exact List.filter_congr fun r _ => a.settings.isEnabled_override name r.name severity
    rw [hsame]
    apply analyzeSource_reconfigure (scan_override htable name severity)
    apply Finding.sort_map
    intro f
    unfold recast
    split <;> rfl

/-! ## Two rules at one word -/

/-- The rule that finds a bad word reports under its name. -/
theorem reportsUnderName_badWord : PlainText.badWord.ReportsUnderName := by
  intro file tokens index f hf
  simp only [PlainText.badWord] at hf
  split at hf
  · split at hf
    · rw [List.mem_singleton.mp hf]
      rfl
    · cases hf
  · cases hf

/-- A plan with a guard and another rule that both look for the same word. -/
def twoRules : Plan where
  root := some "/"
  rules := [(Guard.buildWithin (Group.withinLimit 1000)
      [.group (.ofTexts "words" .warning "no %s" ["bad"] [] none)]).rule,
    PlainText.badWord]
  tokenizer := some PlainText.tokenizer
  excludes := []
  settings := none
  strict := false

/-- The word as the guard reports it. -/
def guardedBad : Finding :=
  ⟨Guard.ruleName, "words", .warning, ⟨"a.txt", 1, 4, 0, 3, 1⟩, "no bad", "bad", none⟩

/-- Both rules report the word; one of them stays if the other is switched off, and keeps its severity
if one is set for the other. -/
theorem rules_do_not_interfere_two :
    (∀ r ∈ twoRules.rules, r.ReportsUnderName) ∧ ∃ a, build "/" twoRules = .ok a ∧
      a.analyzeSource (a.base threeFiles) "/a.txt" "so bad" =
        .ok [guardedBad, badIn "a.txt" 4 1] ∧
      (∃ off, build "/" { twoRules with settings := some (a.settings.disable "bad-word") } =
          .ok off ∧
        off.analyzeSource (off.base threeFiles) "/a.txt" "so bad" = .ok [guardedBad]) ∧
      ∃ changed, build "/" { twoRules with
          settings := some (a.settings.override "bad-word" .warning) } = .ok changed ∧
        changed.analyzeSource (changed.base threeFiles) "/a.txt" "so bad" =
          .ok [guardedBad, { badIn "a.txt" 4 1 with severity := .warning }] := by
  have hnames : ∀ r ∈ twoRules.rules, r.ReportsUnderName := by
    intro r hr
    rcases List.mem_cons.mp hr with rfl | hr
    · exact Guard.reportsUnderName_rule _
    · rw [List.mem_singleton.mp hr]
      exact reportsUnderName_badWord
  obtain ⟨a, hbuild⟩ : ∃ a, build "/" twoRules = .ok a := ⟨_, rfl⟩
  have hboth : a.analyzeSource (a.base threeFiles) "/a.txt" "so bad" =
      .ok [guardedBad, badIn "a.txt" 4 1] := by
    cases hbuild
    have htokens : PlainText.tokenizer.tokenize "so bad" =
        .ok #[⟨.identifier, "so", 1, 1, 0⟩, ⟨.identifier, "bad", 1, 4, 0⟩] := by decide +kernel
    exact analyzeSource_eq htokens (by decide +kernel) (by decide +kernel)
  obtain ⟨-, ⟨off, hoff, hothers⟩, hseverity⟩ :=
    rules_do_not_interfere "/" twoRules a hbuild hnames "bad-word"
  obtain ⟨changed, hchanged, hsame⟩ := hseverity .warning
  refine ⟨hnames, a, hbuild, hboth, ⟨off, hoff, ?_⟩, changed, hchanged, ?_⟩
  · rw [hothers, hboth]
    rfl
  · rw [hsame, hboth]
    rfl

end Analyzer

end CallGuard
