import Mathlib.Data.List.Basic
import CallGuard.Analyzer.Scan
import CallGuard.PlainText

/-!
# Dispatching tokens to rules

A table of listeners answers, for each kind of token, with the indices of the rules that want to see
it, in the order of the rules and each once, however often a rule names the kind.  A scan that goes
through the table therefore shows each token, in the order of the text, exactly once to each rule
that listens for its kind.

Main results:

- Theorem {lit}`Listeners.indicesOf_add`: what adding one rule does to the table.
- Theorem {lit}`Listeners.indicesOf_ofRules`: the answers of the table of a list of rules.
- Theorem {lit}`Listeners.lt_length_of_mem_entries`: every index in the table is that of a rule.
- Theorem {lit}`Analyzer.inspectAt_eq`: the findings at a token.
- Theorem {lit}`Analyzer.scan_eq_map_adjust`: a scan visits every token, also if nobody listens.
- Theorem {lit}`Analyzer.scan_asks_enabled_listeners_once`: a scan asks each enabled rule that
  listens once about each token.
-/

namespace CallGuard

namespace Listeners

/-! ## The table of listeners -/

/-- Adding an index twice is adding it once. -/
@[simp]
theorem addIndex_addIndex (index : Nat) (indices : List Nat) :
    addIndex index (addIndex index indices) = addIndex index indices := by
  have hmem : index ∈ addIndex index indices := by
    unfold addIndex
    split <;> simp_all
  rw [addIndex, if_pos (by simpa using hmem)]

/-- An index that is not there yet comes last. -/
theorem addIndex_of_notMem {index : Nat} {indices : List Nat} (h : index ∉ indices) :
    addIndex index indices = indices ++ [index] := by
  simp [addIndex, h]

/-- Adding an index for a kind changes the answer for this kind only. -/
theorem indicesOf_addEntry (added kind : TokenKind) (index : Nat)
    (entries : List (TokenKind × List Nat)) :
    indicesOf ⟨addEntry added index entries⟩ kind =
      if kind = added then addIndex index (indicesOf ⟨entries⟩ kind)
      else indicesOf ⟨entries⟩ kind := by
  induction entries with
  | nil =>
    by_cases heq : kind = added
    · simp [addEntry, indicesOf, addIndex, heq]
    · have hne : ¬ added = kind := fun h => heq h.symm
      simp [addEntry, indicesOf, heq, hne]
  | cons entry rest ih =>
    obtain ⟨first, indices⟩ := entry
    by_cases hfirst : first = added
    · subst hfirst
      by_cases heq : kind = first
      · simp [addEntry, indicesOf, heq]
      · have hne : ¬ first = kind := fun h => heq h.symm
        simp [addEntry, indicesOf, heq, hne]
    · by_cases hkind : first = kind
      · subst hkind
        simp [addEntry, indicesOf, hfirst]
      · simpa [addEntry, indicesOf, hfirst, hkind] using ih

/-- Adding a rule adds its index to the answers for the kinds that it names, once for each of them
even if the rule names it several times. -/
theorem indicesOf_add (l : Listeners) (index : Nat) (kinds : List TokenKind) (kind : TokenKind) :
    (l.add index kinds).indicesOf kind =
      if kind ∈ kinds then addIndex index (l.indicesOf kind) else l.indicesOf kind := by
  induction kinds generalizing l with
  | nil => rfl
  | cons first rest ih =>
    have hstep : l.add index (first :: rest) = (add ⟨addEntry first index l.entries⟩ index rest) :=
      rfl
    rw [hstep, ih, indicesOf_addEntry]
    by_cases hrest : kind ∈ rest <;> by_cases hfirst : kind = first <;> simp [hrest, hfirst]

/-- Adding rules in order adds the indices of those that listen behind the smaller ones that are
there. -/
theorem indicesOf_addRules (rules : List Rule) (kind : TokenKind) {l : Listeners} {index : Nat}
    (hbelow : ∀ i ∈ l.indicesOf kind, i < index) :
    (l.addRules index rules).indicesOf kind =
      l.indicesOf kind ++ ((rules.zipIdx index).filter (·.1.listens kind)).map (·.2) := by
  induction rules generalizing l index with
  | nil => simp [addRules]
  | cons r rest ih =>
    have hadd := indicesOf_add l index r.kinds kind
    by_cases hlistens : kind ∈ r.kinds
    · have hnew : (l.add index r.kinds).indicesOf kind = l.indicesOf kind ++ [index] := by
        rw [hadd, if_pos hlistens]
        exact addIndex_of_notMem fun hmem => Nat.lt_irrefl _ (hbelow index hmem)
      have hbelow' : ∀ i ∈ (l.add index r.kinds).indicesOf kind, i < index + 1 := by
        intro i hi
        rw [hnew, List.mem_append, List.mem_singleton] at hi
        rcases hi with hi | rfl
        · exact Nat.lt_succ_of_lt (hbelow i hi)
        · exact Nat.lt_succ_self i
      rw [addRules, ih hbelow', hnew]
      simp [Rule.listens, hlistens]
    · have hsame : (l.add index r.kinds).indicesOf kind = l.indicesOf kind := by
        rw [hadd, if_neg hlistens]
      have hbelow' : ∀ i ∈ (l.add index r.kinds).indicesOf kind, i < index + 1 := by
        intro i hi
        rw [hsame] at hi
        exact Nat.lt_succ_of_lt (hbelow i hi)
      rw [addRules, ih hbelow', hsame]
      simp [Rule.listens, hlistens]

/-- The table of a list of rules answers with the indices of the rules that listen, in order. -/
theorem indicesOf_ofRules (rules : List Rule) (kind : TokenKind) :
    (ofRules rules).indicesOf kind = (rules.zipIdx.filter (·.1.listens kind)).map (·.2) := by
  have hempty : empty.indicesOf kind = [] := rfl
  rw [ofRules, indicesOf_addRules rules kind (by simp [hempty]), hempty, List.nil_append]

/-- Visiting the indices of a kind, where each index stands for its rule, visits the rules that
listen, in order. -/
theorem flatMap_indicesOf_ofRules {α : Type} (rules : List Rule) (kind : TokenKind)
    {visit : Nat → List α} {f : Rule → List α}
    (hvisit : ∀ i r, rules[i]? = some r → visit i = f r) :
    ((ofRules rules).indicesOf kind).flatMap visit =
      (rules.filter (·.listens kind)).flatMap f := by
  have hlookup : ∀ x ∈ rules.zipIdx.filter (·.1.listens kind), visit x.2 = f x.1 := by
    intro x hx
    have hmem := (List.mem_filter.mp hx).1
    exact hvisit x.2 x.1 (List.mem_zipIdx_iff_getElem?.mp hmem)
  have hfilter : (rules.zipIdx.filter (·.1.listens kind)).map (·.1) =
      rules.filter (·.listens kind) := by
    have hmap := List.filter_map (f := Prod.fst) (p := (·.listens kind)) (l := rules.zipIdx)
    rw [List.zipIdx_map_fst] at hmap
    exact hmap.symm
  rw [indicesOf_ofRules, List.flatMap_map, ← hfilter, List.flatMap_map]
  exact List.flatMap_congr hlookup

/-! ## The indices in the table -/

/-- An index for a kind in a table after one is added was there before, or is the one that was
added. -/
theorem mem_of_mem_addEntry {added : TokenKind} {index i : Nat}
    {entries : List (TokenKind × List Nat)} {entry : TokenKind × List Nat}
    (hentry : entry ∈ addEntry added index entries) (hi : i ∈ entry.2) :
    i = index ∨ ∃ old ∈ entries, i ∈ old.2 := by
  induction entries with
  | nil =>
    rw [addEntry, List.mem_singleton] at hentry
    subst hentry
    exact .inl (List.mem_singleton.mp hi)
  | cons first rest ih =>
    rw [addEntry] at hentry
    split at hentry
    · rcases List.mem_cons.mp hentry with rfl | hrest
      · simp only [addIndex] at hi
        split at hi
        · exact .inr ⟨first, by simp, hi⟩
        · rcases List.mem_append.mp hi with hold | hnew
          · exact .inr ⟨first, by simp, hold⟩
          · exact .inl (List.mem_singleton.mp hnew)
      · exact .inr ⟨entry, List.mem_cons_of_mem first hrest, hi⟩
    · rcases List.mem_cons.mp hentry with rfl | hrest
      · exact .inr ⟨entry, by simp, hi⟩
      · rcases ih hrest with hnew | ⟨old, hold, hmem⟩
        · exact .inl hnew
        · exact .inr ⟨old, List.mem_cons_of_mem first hold, hmem⟩

/-- All indices in a table are below a bound. -/
def Below (l : Listeners) (bound : Nat) : Prop :=
  ∀ entry ∈ l.entries, ∀ i ∈ entry.2, i < bound

/-- Adding a rule by an index below the bound keeps all indices below it. -/
theorem Below.add {l : Listeners} {bound index : Nat} (h : l.Below bound) (hindex : index < bound)
    (kinds : List TokenKind) : (l.add index kinds).Below bound := by
  induction kinds generalizing l with
  | nil => exact h
  | cons kind rest ih =>
    have hstep : Below ⟨addEntry kind index l.entries⟩ bound := by
      intro entry hentry i hi
      rcases mem_of_mem_addEntry hentry hi with rfl | ⟨old, hold, hmem⟩
      · exact hindex
      · exact h old hold i hmem
    exact ih hstep

/-- Adding rules in order puts all indices below the number of rules so far. -/
theorem Below.addRules {l : Listeners} {index : Nat} (h : l.Below index) (rules : List Rule) :
    (l.addRules index rules).Below (index + rules.length) := by
  induction rules generalizing l index with
  | nil => exact h
  | cons r rest ih =>
    have hnext : l.Below (index + 1) := fun entry hentry i hi =>
      Nat.lt_succ_of_lt (h entry hentry i hi)
    have hrest := ih (hnext.add (Nat.lt_succ_self index) r.kinds)
    rwa [Nat.add_assoc, Nat.add_comm 1] at hrest

/-- Every index in the table of a list of rules is that of one of the rules. -/
theorem lt_length_of_mem_entries {rules : List Rule} {entry : TokenKind × List Nat} {i : Nat}
    (hentry : entry ∈ (ofRules rules).entries) (hi : i ∈ entry.2) : i < rules.length := by
  have hempty : empty.Below 0 := by simp [Below, empty]
  have hbelow := hempty.addRules rules entry hentry i hi
  rwa [Nat.zero_add] at hbelow

/-- The table of a list of rules answers with the indices of exactly the rules that listen. -/
theorem mem_indicesOf_ofRules_iff (rules : List Rule) (kind : TokenKind) (i : Nat) :
    i ∈ (ofRules rules).indicesOf kind ↔ ∃ r, rules[i]? = some r ∧ r.listens kind = true := by
  rw [indicesOf_ofRules]
  simp only [List.mem_map, List.mem_filter, List.mem_zipIdx_iff_getElem?, Prod.exists]
  constructor
  · rintro ⟨r, j, ⟨hr, hlistens⟩, rfl⟩
    exact ⟨r, hr, hlistens⟩
  · rintro ⟨r, hr, hlistens⟩
    exact ⟨r, i, ⟨hr, hlistens⟩, rfl⟩

/-- The table of a list of rules answers with increasing indices, so with none of them twice. -/
theorem pairwise_indicesOf_ofRules (rules : List Rule) (kind : TokenKind) :
    ((ofRules rules).indicesOf kind).Pairwise (· < ·) := by
  have hindices : (rules.zipIdx.map (·.2)).Pairwise (· < ·) := by
    rw [List.zipIdx_map_snd]
    exact List.pairwise_lt_range'
  rw [indicesOf_ofRules]
  exact hindices.sublist (List.filter_sublist.map _)

/-- A table without entries answers with no index. -/
theorem indicesOf_of_isEmpty {l : Listeners} (h : l.isEmpty = true) (kind : TokenKind) :
    l.indicesOf kind = [] := by
  have hentries : l.entries = [] := by simpa [isEmpty] using h
  simp [indicesOf, hentries]

end Listeners

namespace Analyzer

/-! ## Building an analyzer -/

/-- An analyzer that is built has the settings of its plan, or the default ones, the rules of the
plan that the settings enable, and the table of these rules. -/
theorem build_eq_ok {folder : String} {p : Plan} {a : Analyzer} (h : build folder p = .ok a) :
    a.settings = p.settings.getD .default ∧
      a.rules = p.rules.filter (a.settings.isEnabled ·.name) ∧ a.listeners = .ofRules a.rules := by
  unfold build at h
  split at h
  · cases h
  · cases h
    exact ⟨rfl, rfl, rfl⟩

/-- An analyzer that is built has the table of its rules. -/
theorem listeners_of_build {folder : String} {p : Plan} {a : Analyzer}
    (h : build folder p = .ok a) : a.listeners = .ofRules a.rules :=
  (build_eq_ok h).2.2

/-! ## Visiting the tokens -/

/-- The findings at a token are those of the rules that listen for its kind, in order. -/
theorem inspectAt_eq {a : Analyzer} (htable : a.listeners = .ofRules a.rules) (file : String)
    {tokens : Tokens} {index : Nat} {token : Token} (htoken : tokens[index]? = some token) :
    a.inspectAt file tokens index =
      (a.rules.filter (·.listens token.kind)).flatMap (·.inspect file tokens index) := by
  rw [inspectAt, htoken]
  simp only [htable]
  apply Listeners.flatMap_indicesOf_ofRules
  intro i r hr
  rw [hr]

/-- A scan visits every token.  That it stops at once if nobody listens makes no difference. -/
theorem scan_eq_map_adjust (a : Analyzer) (file : String) (tokens : Tokens) :
    a.scan file tokens =
      ((List.range tokens.size).flatMap (a.inspectAt file tokens)).map a.adjust := by
  rw [scan]
  split
  · rename_i hempty
    have hnothing : ∀ index ∈ List.range tokens.size, a.inspectAt file tokens index = [] := by
      intro index _
      rw [inspectAt]
      split
      · rfl
      · rw [Listeners.indicesOf_of_isEmpty hempty, List.flatMap_nil]
    rw [List.flatMap_eq_nil_iff.mpr hnothing, List.map_nil]
  · rfl

/-- Visiting all tokens by their indices is visiting them in order, each with its index. -/
theorem flatMap_range_eq_flatMap_zipIdx {α : Type} (tokens : Tokens) {visit : Nat → List α}
    {f : Token × Nat → List α}
    (hvisit : ∀ index token, tokens[index]? = some token → visit index = f (token, index)) :
    (List.range tokens.size).flatMap visit = tokens.toList.zipIdx.flatMap f := by
  have hrange : List.range tokens.size = tokens.toList.zipIdx.map (·.2) := by
    rw [List.zipIdx_map_snd, List.range_eq_range', Array.length_toList]
  have hpairs : ∀ x ∈ tokens.toList.zipIdx, visit x.2 = f x := by
    intro x hx
    rw [List.mem_zipIdx_iff_getElem?, Array.getElem?_toList] at hx
    exact hvisit x.2 x.1 hx
  rw [hrange, List.flatMap_map]
  exact List.flatMap_congr hpairs

/-- Replacing severities takes the one that is set for the rule of a finding, if there is one, and
changes nothing else. -/
theorem adjust_eq (a : Analyzer) (f : Finding) :
    a.adjust f = { f with severity := (a.settings.severity? f.rule).getD f.severity } := by
  unfold adjust
  split <;> rename_i hseverity <;> rw [hseverity] <;> rfl

/-- Replacing severities keeps the rules of findings. -/
@[simp]
theorem adjust_rule (a : Analyzer) (f : Finding) : (a.adjust f).rule = f.rule := by
  rw [adjust_eq]

/-- Replacing severities keeps the texts that were found. -/
@[simp]
theorem adjust_matched (a : Analyzer) (f : Finding) : (a.adjust f).matched = f.matched := by
  rw [adjust_eq]

/-- Replacing severities keeps the messages of findings. -/
@[simp]
theorem adjust_message (a : Analyzer) (f : Finding) : (a.adjust f).message = f.message := by
  rw [adjust_eq]

/-- Dispatch is exact.  Let an analyzer be built from any rules, whatever kinds each of them names
and however often, and any settings.  A scan of any tokens finds, token by token in their order and
for each of them rule by rule in the order of the plan, what the enabled rules find that listen for
the kind of the token; afterwards the severity that is set for the rule of a finding, if any, takes
the place of its own.  For each kind the table of listeners holds the index of every such rule once,
in increasing order, and every index in the table is that of an enabled rule.  That nothing is
visited if nobody listens makes no difference to the loop over all tokens. -/
theorem scan_asks_enabled_listeners_once (folder : String) (plan : Plan) (a : Analyzer)
    (hbuild : build folder plan = .ok a) (file : String) (tokens : Tokens) :
    a.settings = plan.settings.getD .default ∧
      a.rules = plan.rules.filter (a.settings.isEnabled ·.name) ∧
      a.scan file tokens =
        ((tokens.toList.zipIdx.flatMap fun x =>
          (a.rules.filter fun r => r.kinds.contains x.1.kind).flatMap fun r =>
            r.inspect file tokens x.2).map fun f =>
              { f with severity := (a.settings.severity? f.rule).getD f.severity }) ∧
      (∀ kind, (a.listeners.indicesOf kind).Pairwise (· < ·) ∧
        ∀ i, i ∈ a.listeners.indicesOf kind ↔ ∃ r, a.rules[i]? = some r ∧ kind ∈ r.kinds) ∧
      (∀ entry ∈ a.listeners.entries, ∀ i ∈ entry.2, i < a.rules.length) ∧
      a.scan file tokens =
        ((List.range tokens.size).flatMap (a.inspectAt file tokens)).map a.adjust := by
  obtain ⟨hsettings, hrules, htable⟩ := build_eq_ok hbuild
  refine ⟨hsettings, hrules, ?_, ?_, ?_, scan_eq_map_adjust a file tokens⟩
  · have htokens : (List.range tokens.size).flatMap (a.inspectAt file tokens) =
        tokens.toList.zipIdx.flatMap fun x =>
          (a.rules.filter (·.listens x.1.kind)).flatMap (·.inspect file tokens x.2) :=
      flatMap_range_eq_flatMap_zipIdx tokens fun _ _ htoken => inspectAt_eq htable file htoken
    rw [scan_eq_map_adjust, htokens]
    exact List.map_congr_left fun f _ => adjust_eq a f
  · intro kind
    rw [htable]
    refine ⟨Listeners.pairwise_indicesOf_ofRules a.rules kind, ?_⟩
    intro i
    simp [Listeners.mem_indicesOf_ofRules_iff, Rule.listens]
  · intro entry hentry i hi
    rw [htable] at hentry
    exact Listeners.lt_length_of_mem_entries hentry hi

/-- A plan with a rule that is not enabled, one that listens to nothing, and one that names its kind
twice and whose findings are to be warnings. -/
def mixedPlan : Plan where
  root := none
  rules := [{ PlainText.badWord with name := "off" }, PlainText.silent, PlainText.badWord]
  tokenizer := some PlainText.tokenizer
  excludes := []
  settings := some
    ⟨.default, [("off", ⟨some false, none⟩), ("bad-word", ⟨none, some .warning⟩)], ⟨[], ""⟩⟩
  strict := false

/-- A bad word between two others. -/
def threeWords : Tokens :=
  #[⟨.identifier, "a", 1, 1, 0⟩, ⟨.identifier, "bad", 1, 3, 0⟩, ⟨.identifier, "word", 1, 7, 0⟩]

/-- The bad word is found once, as a warning, by the second of two enabled rules. -/
theorem scan_asks_enabled_listeners_once_mixed :
    ∃ a, build "/" mixedPlan = .ok a ∧ a.rules.map (·.name) = ["silent", "bad-word"] ∧
      a.listeners.indicesOf .identifier = [1] ∧
      a.scan "a.txt" threeWords =
        [⟨"bad-word", "words", .warning, ⟨"a.txt", 1, 3, 0, 3, 1⟩, "bad word", "bad", none⟩] := by
  refine ⟨_, rfl, by decide +kernel, by decide +kernel, ?_⟩
  rw [(scan_asks_enabled_listeners_once "/" mixedPlan _ rfl "a.txt" threeWords).2.2.1]
  decide +kernel

end Analyzer

end CallGuard
