import CallGuard.Proofs.Guard.Findings

/-!
# A scan as one pass

An analyzer whose only rule is a guard can be run as one pass over the significant tokens, each with
its index.  All that the pass remembers is the kinds of the significant tokens that it has seen.  It
never looks ahead, and the indices go into the findings and nowhere else.

Main results:

- Theorem {lit}`Guard.scan_eq_findings`: what an analyzer finds with a guard as its only rule.
- Theorem {lit}`Guard.inspect_eq_findAfter`: what a guard finds at a token.
- Theorem {lit}`Guard.flatMap_inspect_eq_pass`: visiting all tokens comes down to the pass.
- Theorem {lit}`Guard.findings_eq_pass`: so does a scan.
- Theorem {lit}`Guard.pass_append`, {lit}`Guard.pass_renumber`, {lit}`Guard.pass_congr`: a pass in
  two parts, with other indices, and behind other tokens.
-/

namespace CallGuard

/-! ## Analyzers with a guard as their only rule -/

namespace Analyzer

/-- The analyzer with a guard as its only rule. -/
def watching (a : Analyzer) (g : Guard) : Analyzer :=
  { a with rules := [g.rule], listeners := .ofRules [g.rule] }

/-- Replacing severities keeps the places of findings. -/
@[simp]
theorem adjust_location (a : Analyzer) (f : Finding) : (a.adjust f).location = f.location := by
  unfold adjust
  split <;> rfl

/-- Replacing severities keeps the groups of findings. -/
@[simp]
theorem adjust_group (a : Analyzer) (f : Finding) : (a.adjust f).group = f.group := by
  unfold adjust
  split <;> rfl

end Analyzer

/-- What an analyzer finds in the tokens of a file if a guard is its only rule. -/
def Guard.findings (g : Guard) (a : Analyzer) (file : String) (tokens : Tokens) : List Finding :=
  (a.watching g).scan file tokens

/-- This is what an analyzer finds that is built with the guard as its only rule. -/
theorem Guard.scan_eq_findings {folder : String} {plan : Analyzer.Plan} {a : Analyzer} {g : Guard}
    (hbuild : Analyzer.build folder plan = .ok a) (hrules : a.rules = [g.rule]) (file : String)
    (tokens : Tokens) : a.scan file tokens = g.findings a file tokens := by
  have htable := Analyzer.listeners_of_build hbuild
  rw [hrules] at htable
  rw [findings, Analyzer.watching, ← htable, ← hrules]

/-- The guard is asked about every token. -/
theorem Guard.findings_eq_flatMap (g : Guard) (a : Analyzer) (file : String) (tokens : Tokens) :
    g.findings a file tokens =
      ((List.range tokens.size).flatMap (g.inspect file tokens)).map a.adjust := by
  rw [findings, Analyzer.scan_eq_map_adjust, flatMap_inspectAt_eq (a := a.watching g) rfl rfl file]
  rfl

/-! ## Numbered tokens -/

/-- The significant tokens of a list, with their indices, of which the first is given. -/
def numbered (start : Nat) (tokens : List Token) : List (Token × Nat) :=
  (tokens.zipIdx start).filter (·.1.kind.isSignificant)

/-- The numbers of a second list go on behind those of the first. -/
theorem numbered_append (start : Nat) (p s : List Token) :
    numbered start (p ++ s) = numbered start p ++ numbered (start + p.length) s := by
  rw [numbered, List.zipIdx_append, List.filter_append]
  rfl

/-- Numbers from another start are moved by the distance. -/
theorem numbered_add (start distance : Nat) (tokens : List Token) :
    numbered (start + distance) tokens =
      (numbered start tokens).map fun x => (x.1, x.2 + distance) := by
  have hindices : tokens.zipIdx (start + distance) =
      (tokens.zipIdx start).map fun x => (x.1, x.2 + distance) := by
    rw [Nat.add_comm, ← List.map_snd_add_zipIdx_eq_zipIdx]
    rfl
  rw [numbered, hindices, List.filter_map]
  rfl

/-- The tokens of a numbered list are the significant ones. -/
theorem map_fst_numbered (start : Nat) (tokens : List Token) :
    (numbered start tokens).map (·.1) = tokens.filter (·.kind.isSignificant) := by
  have hfilter := List.filter_map (f := Prod.fst) (p := fun t : Token => t.kind.isSignificant)
    (l := tokens.zipIdx start)
  rw [List.zipIdx_map_fst] at hfilter
  exact hfilter.symm

/-- A number belongs to a significant token of the list. -/
theorem mem_numbered_iff (tokens : List Token) (token : Token) (index : Nat) :
    (token, index) ∈ numbered 0 tokens ↔
      tokens[index]? = some token ∧ token.kind.isSignificant = true := by
  rw [numbered, List.mem_filter, List.mk_mem_zipIdx_iff_getElem?]

/-- The numbers of a list start with the given one. -/
theorem le_of_mem_numbered {start index : Nat} {tokens : List Token} {token : Token}
    (hmem : (token, index) ∈ numbered start tokens) : start ≤ index :=
  List.le_snd_of_mem_zipIdx (List.mem_of_mem_filter hmem)

/-- The kinds in a numbered list are those of the significant tokens. -/
theorem map_kind_numbered (start : Nat) (tokens : List Token) :
    (numbered start tokens).map (·.1.kind) =
      (tokens.filter (·.kind.isSignificant)).map (·.kind) := by
  rw [← map_fst_numbered start tokens, List.map_map]
  rfl

/-- The kinds before the last token of a list. -/
theorem kindsBefore_length (tokens : List Token) (t : Token) :
    Tokens.kindsBefore (tokens ++ [t]).toArray tokens.length =
      ((numbered 0 tokens).map (·.1.kind)).reverse := by
  rw [Tokens.kindsBefore, Tokens.significantBefore, List.take_left, map_kind_numbered]

/-- A finding with another index for its token. -/
def Finding.renumber (index : Nat → Nat) (f : Finding) : Finding :=
  { f with location := { f.location with token := index f.location.token } }

/-- Moving indices twice moves them by both distances. -/
theorem Finding.map_renumber_add_map_renumber_add (m n : Nat) (findings : List Finding) :
    (findings.map (·.renumber (· + m))).map (·.renumber (· + n)) =
      findings.map (·.renumber (· + (m + n))) := by
  rw [List.map_map]
  apply List.map_congr_left
  intro f _
  simp [Finding.renumber, Nat.add_assoc]

/-- Replacing severities and indices does not interfere. -/
theorem Analyzer.adjust_renumber (a : Analyzer) (index : Nat → Nat) (f : Finding) :
    a.adjust (f.renumber index) = (a.adjust f).renumber index := by
  have hrule : (f.renumber index).rule = f.rule := rfl
  unfold Analyzer.adjust
  rw [hrule]
  split <;> rfl

namespace Guard

/-! ## What a guard finds at a token -/

/-- What a guard finds at a token behind significant tokens of given kinds, nearest first. -/
def findAfter (g : Guard) (file : String) (context : List TokenKind) (token : Token) (index : Nat) :
    List Finding :=
  if isCallAfter context token.kind then
    findingsAt ruleName token.content (.ofToken file token index) g.active g.exclusions
  else
    []

/-- A guard finds at a token what the significant tokens before it decide. -/
theorem inspect_eq_findAfter (g : Guard) (file : String) {tokens : Tokens} {index : Nat}
    {token : Token} (htoken : tokens[index]? = some token) :
    g.inspect file tokens index = g.findAfter file (tokens.kindsBefore index) token index := by
  have hkind : tokens.kind? index = some token.kind := by
    rw [Tokens.kind?, htoken, Option.map_some]
  rw [inspect, htoken]
  simp only [isBareCall_eq, hkind, Option.any_some]
  rfl

/-- What comes behind a token makes no difference. -/
theorem inspect_append_left (g : Guard) (file : String) (p s : Tokens) {index : Nat}
    (hindex : index < p.size) : g.inspect file (p ++ s) index = g.inspect file p index := by
  have hleft : p[index]? = some p[index] := Array.getElem?_eq_getElem hindex
  have hboth : (p ++ s)[index]? = some p[index] := by
    rw [Array.getElem?_append_left hindex, hleft]
  have hkinds : (p ++ s).kindsBefore index = p.kindsBefore index := by
    have hle : index ≤ p.toList.length := Nat.le_of_lt hindex
    rw [Tokens.kindsBefore, Tokens.significantBefore, Array.toList_append,
      List.take_append_of_le_length hle]
    rfl
  rw [inspect_eq_findAfter g file hboth, inspect_eq_findAfter g file hleft, hkinds]

/-- A finding at a token is about an identifier or an evaluation, and has the index of the token. -/
theorem kind_of_mem_findAfter {g : Guard} {file : String} {context : List TokenKind} {token : Token}
    {index : Nat} {f : Finding} (hf : f ∈ g.findAfter file context token index) :
    f.location.token = index ∧ (token.kind = .identifier ∨ token.kind = .eval) := by
  rw [findAfter] at hf
  split at hf
  · rename_i hcall
    obtain ⟨group, -, rfl⟩ := List.mem_map.mp hf
    exact ⟨rfl, kind_of_isCallAfter hcall⟩
  · cases hf

/-- There is nothing to find at white space or a comment. -/
theorem findAfter_of_not_significant (g : Guard) (file : String) (context : List TokenKind)
    {token : Token} (index : Nat) (hkind : token.kind.isSignificant = false) :
    g.findAfter file context token index = [] := by
  rw [List.eq_nil_iff_forall_not_mem]
  intro f hf
  rcases (kind_of_mem_findAfter hf).2 with h | h
  · rw [h] at hkind
    cases hkind
  · rw [h] at hkind
    cases hkind

/-! ## The pass -/

/-- The findings in numbered significant tokens behind significant tokens of given kinds, nearest
first. -/
def pass (g : Guard) (file : String) : List TokenKind → List (Token × Nat) → List Finding
  | _, [] => []
  | context, (token, index) :: rest =>
    g.findAfter file context token index ++ g.pass file (token.kind :: context) rest

/-- A pass over two lists, one behind the other. -/
theorem pass_append (g : Guard) (file : String) (context : List TokenKind)
    (xs ys : List (Token × Nat)) :
    g.pass file context (xs ++ ys) =
      g.pass file context xs ++ g.pass file ((xs.map (·.1.kind)).reverse ++ context) ys := by
  induction xs generalizing context with
  | nil => rfl
  | cons x xs ih =>
    rw [List.cons_append, pass, ih, pass, List.append_assoc, List.map_cons, List.reverse_cons,
      List.append_assoc, List.singleton_append]

/-- Visiting all tokens of a list comes down to the pass. -/
theorem flatMap_inspect_eq_pass (g : Guard) (file : String) (tokens : List Token) :
    (List.range tokens.length).flatMap (g.inspect file tokens.toArray) =
      g.pass file [] (numbered 0 tokens) := by
  induction tokens using List.reverseRecOn with
  | nil => rfl
  | append_singleton tokens token ih =>
    have harray : (tokens ++ [token]).toArray = tokens.toArray ++ #[token] := by simp
    have htoken : (tokens ++ [token]).toArray[tokens.length]? = some token := by simp
    have hbefore : (List.range tokens.length).flatMap (g.inspect file (tokens ++ [token]).toArray) =
        g.pass file [] (numbered 0 tokens) := by
      rw [← ih]
      apply List.flatMap_congr
      intro index hindex
      rw [harray]
      exact g.inspect_append_left file tokens.toArray #[token] (List.mem_range.mp hindex)
    have hlast : g.inspect file (tokens ++ [token]).toArray tokens.length =
        g.pass file ((numbered 0 tokens).map (·.1.kind)).reverse
          (numbered tokens.length [token]) := by
      rw [inspect_eq_findAfter g file htoken, kindsBefore_length]
      by_cases hkind : token.kind.isSignificant = true
      · simp [numbered, hkind, pass]
      · rw [Bool.not_eq_true] at hkind
        rw [findAfter_of_not_significant g file _ _ hkind]
        simp [numbered, hkind, pass]
    rw [List.length_append, List.length_singleton, List.range_succ, List.flatMap_append,
      List.flatMap_singleton, hbefore, hlast, numbered_append, pass_append, List.append_nil,
      Nat.zero_add]

/-- What is found in a file comes down to the pass. -/
theorem findings_eq_pass (g : Guard) (a : Analyzer) (file : String) (tokens : Tokens) :
    g.findings a file tokens = (g.pass file [] (numbered 0 tokens.toList)).map a.adjust := by
  have hpass := g.flatMap_inspect_eq_pass file tokens.toList
  rw [Array.length_toList, Array.toArray_toList] at hpass
  rw [findings_eq_flatMap, hpass]

/-! ## Other indices and other tokens before -/

/-- The findings at a token with another index. -/
theorem findAfter_renumber (g : Guard) (file : String) (context : List TokenKind) (token : Token)
    (index : Nat) (renumber : Nat → Nat) :
    g.findAfter file context token (renumber index) =
      (g.findAfter file context token index).map (·.renumber renumber) := by
  unfold findAfter
  split
  · rw [findingsAt, findingsAt, List.map_map]
    rfl
  · rfl

/-- Other indices go into the findings and nowhere else. -/
theorem pass_renumber (g : Guard) (file : String) (context : List TokenKind)
    (xs : List (Token × Nat)) (renumber : Nat → Nat) :
    g.pass file context (xs.map fun x => (x.1, renumber x.2)) =
      (g.pass file context xs).map (·.renumber renumber) := by
  induction xs generalizing context with
  | nil => rfl
  | cons x xs ih =>
    rw [List.map_cons, pass, ih, findAfter_renumber, pass, List.map_append]

/-- The nearest two significant tokens before a pass decide what it finds. -/
theorem pass_congr (g : Guard) (file : String) {context other : List TokenKind}
    (h : context.take 2 = other.take 2) (xs : List (Token × Nat)) :
    g.pass file context xs = g.pass file other xs := by
  induction xs generalizing context other with
  | nil => rfl
  | cons x xs ih =>
    have hcall : isCallAfter context x.1.kind = isCallAfter other x.1.kind := by
      rw [← isCallAfter_take_two context, h, isCallAfter_take_two]
    have hnext : (x.1.kind :: context).take 2 = (x.1.kind :: other).take 2 := by
      have hone : context.take 1 = other.take 1 := by
        simpa [List.take_take] using congrArg (List.take 1) h
      rw [List.take_succ_cons, List.take_succ_cons, hone]
    rw [pass, pass, findAfter, findAfter, hcall, ih hnext]

/-- A finding of a pass is about an identifier or an evaluation, and has its index. -/
theorem exists_mem_of_mem_pass {g : Guard} {file : String} {context : List TokenKind}
    {xs : List (Token × Nat)} {f : Finding} (hf : f ∈ g.pass file context xs) :
    ∃ token, (token, f.location.token) ∈ xs ∧
      (token.kind = .identifier ∨ token.kind = .eval) := by
  induction xs generalizing context with
  | nil => cases hf
  | cons x xs ih =>
    rw [pass] at hf
    rcases List.mem_append.mp hf with hfound | hrest
    · obtain ⟨hindex, hkind⟩ := kind_of_mem_findAfter hfound
      exact ⟨x.1, by simp [hindex], hkind⟩
    · obtain ⟨token, hmem, hkind⟩ := ih hrest
      exact ⟨token, List.mem_cons_of_mem x hmem, hkind⟩

end Guard

end CallGuard
