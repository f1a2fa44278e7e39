import Mathlib.Logic.Relation
import CallGuard.Proofs.Guard.Pass

/-!
# White space and comments

White space and comments may be put into a file or taken out of it anywhere.  A guard finds the same
calls before and after, in the same order and with the same words; only the indices of the tokens
change, and each of them becomes the new index of the same token.

Main results:

- Theorem {lit}`Tokens.significant_eq_of_edits`: the significant tokens stay.
- Theorem {lit}`numbered_eq_map_newIndex`: they get new indices.
- Theorem {lit}`Guard.findings_of_trivia_edits`: the findings before and after.
-/

namespace CallGuard

/-! ## Putting in and taking out -/

/-- A token that carries no code is put in somewhere, or taken out. -/
inductive TriviaEdit : Tokens → Tokens → Prop
  /-- Puts in a token. -/
  | insert (before after : Tokens) (token : Token) (htrivia : token.kind.isTrivia = true) :
      TriviaEdit (before ++ after) (before ++ #[token] ++ after)
  /-- Takes out a token. -/
  | delete (before after : Tokens) (token : Token) (htrivia : token.kind.isTrivia = true) :
      TriviaEdit (before ++ #[token] ++ after) (before ++ after)

namespace Tokens

/-- A token that carries no code makes no difference to the significant ones. -/
theorem significant_append_trivia (before after : Tokens) {token : Token}
    (htrivia : token.kind.isTrivia = true) :
    (before ++ #[token] ++ after).significant = (before ++ after).significant := by
  have hkind : token.kind.isSignificant = false := by
    rw [TokenKind.isSignificant, htrivia]
    rfl
  simp [significant, hkind]

/-- One edit keeps the significant tokens. -/
theorem significant_eq_of_edit {tokens edited : Tokens} (h : TriviaEdit tokens edited) :
    edited.significant = tokens.significant := by
  cases h with
  | insert before after token htrivia => exact significant_append_trivia before after htrivia
  | delete before after token htrivia => exact (significant_append_trivia before after htrivia).symm

/-- Any number of edits keeps the significant tokens. -/
theorem significant_eq_of_edits {tokens edited : Tokens}
    (h : Relation.ReflTransGen TriviaEdit tokens edited) :
    edited.significant = tokens.significant := by
  induction h with
  | refl => rfl
  | tail _ hedit ih => rw [significant_eq_of_edit hedit, ih]

end Tokens

/-! ## New indices -/

/-- The index, among other tokens, of the significant token that has as many significant tokens
before it as the one at a given index. -/
def newIndex (tokens edited : Tokens) (index : Nat) : Nat :=
  ((numbered 0 edited.toList)[(tokens.significantBefore index).length]?.map (·.2)).getD 0

/-- Before the index of a significant token stand the significant tokens with smaller numbers. -/
theorem filter_take_of_getElem?_numbered {tokens : List Token} {start k index : Nat} {token : Token}
    (h : (numbered start tokens)[k]? = some (token, index)) :
    (tokens.take (index - start)).filter (·.kind.isSignificant) =
      (tokens.filter (·.kind.isSignificant)).take k := by
  induction tokens generalizing start k with
  | nil => simp
  | cons first rest ih =>
    -- Behind the first token, indices count from the next one.
    have hrest : ∀ {k : Nat}, (numbered (start + 1) rest)[k]? = some (token, index) →
        index - start = (index - (start + 1)) + 1 := by
      intro k hk
      have hle := le_of_mem_numbered (List.mem_of_getElem? hk)
      omega
    by_cases hkind : first.kind.isSignificant = true
    · have hcons : numbered start (first :: rest) =
          (first, start) :: numbered (start + 1) rest := by
        simp [numbered, hkind]
      rw [hcons] at h
      cases k with
      | zero =>
        rw [List.getElem?_cons_zero, Option.some.injEq, Prod.mk.injEq] at h
        simp [h.2]
      | succ k =>
        rw [List.getElem?_cons_succ] at h
        simp [hrest h, hkind, ih h]
    · have hcons : numbered start (first :: rest) = numbered (start + 1) rest := by
        simp [numbered, hkind]
      rw [hcons] at h
      simp [hrest h, hkind, ih h]

/-- The significant tokens before the one with a number. -/
theorem significantBefore_of_getElem?_numbered {tokens : Tokens} {k index : Nat} {token : Token}
    (h : (numbered 0 tokens.toList)[k]? = some (token, index)) :
    tokens.significantBefore index = tokens.significant.take k :=
  filter_take_of_getElem?_numbered h

/-- The number of a significant token counts the significant tokens before it. -/
theorem length_significantBefore_of_getElem?_numbered {tokens : Tokens} {k index : Nat}
    {token : Token} (h : (numbered 0 tokens.toList)[k]? = some (token, index)) :
    (tokens.significantBefore index).length = k := by
  have hk : k < tokens.significant.length := by
    rw [Tokens.significant, ← map_fst_numbered 0 tokens.toList, List.length_map]
    exact (List.getElem?_eq_some_iff.mp h).1
  rw [significantBefore_of_getElem?_numbered h, List.length_take, Nat.min_eq_left (Nat.le_of_lt hk)]

/-- If the significant tokens stay, they only get new indices. -/
theorem numbered_eq_map_newIndex {tokens edited : Tokens}
    (h : edited.significant = tokens.significant) :
    numbered 0 edited.toList =
      (numbered 0 tokens.toList).map fun x => (x.1, newIndex tokens edited x.2) := by
  have htokens : (numbered 0 edited.toList).map (·.1) = (numbered 0 tokens.toList).map (·.1) := by
    rw [map_fst_numbered, map_fst_numbered]
    exact h
  apply List.ext_getElem?
  intro k
  have hk := congrArg (·[k]?) htokens
  simp only [List.getElem?_map] at hk ⊢
  cases hold : (numbered 0 tokens.toList)[k]? with
  | none =>
    rw [hold, Option.map_none, Option.map_eq_none_iff] at hk
    rw [hk, Option.map_none]
  | some x =>
    rw [hold, Option.map_some, Option.map_eq_some_iff] at hk
    obtain ⟨y, hnew, hfst⟩ := hk
    have hindex : newIndex tokens edited x.2 = y.2 := by
      rw [newIndex, length_significantBefore_of_getElem?_numbered hold, hnew]
      rfl
    rw [hnew, Option.map_some, hindex, ← hfst]

/-! ## Findings -/

namespace Guard

/-- A finding of a scan is about an identifier or an evaluation, and has its index. -/
theorem exists_mem_numbered_of_mem_findings {a : Analyzer} {g : Guard} {file : String}
    {tokens : Tokens} {f : Finding} (hf : f ∈ g.findings a file tokens) :
    ∃ token, (token.kind = .identifier ∨ token.kind = .eval) ∧
      (token, f.location.token) ∈ numbered 0 tokens.toList := by
  rw [findings_eq_pass] at hf
  obtain ⟨found, hfound, rfl⟩ := List.mem_map.mp hf
  obtain ⟨token, hmem, hkind⟩ := exists_mem_of_mem_pass hfound
  rw [Analyzer.adjust_location]
  exact ⟨token, hkind, hmem⟩

/-- White space and comments that are put in or taken out, any number of them anywhere, leave the
findings of a guard as they are, in the same order, but for the indices of tokens.  Each index
becomes the new index of the same identifier or evaluation: the token there is the same, and the
same significant tokens stand before it. -/
theorem findings_of_trivia_edits (g : Guard) (a : Analyzer) (file : String) {tokens edited : Tokens}
    (hedits : Relation.ReflTransGen TriviaEdit tokens edited) :
    g.findings a file edited =
        (g.findings a file tokens).map (·.renumber (newIndex tokens edited)) ∧
      ∀ f ∈ g.findings a file tokens, ∃ token,
        (token.kind = .identifier ∨ token.kind = .eval) ∧
          tokens[f.location.token]? = some token ∧
          edited[newIndex tokens edited f.location.token]? = some token ∧
          edited.significantBefore (newIndex tokens edited f.location.token) =
            tokens.significantBefore f.location.token := by
  have hsame := Tokens.significant_eq_of_edits hedits
  have hnumbers := numbered_eq_map_newIndex hsame
  constructor
  · rw [findings_eq_pass, findings_eq_pass, hnumbers, pass_renumber, List.map_map,
      List.map_map]
    apply List.map_congr_left
    intro f _
    exact a.adjust_renumber (newIndex tokens edited) f
  · intro f hf
    obtain ⟨token, hkind, hmem⟩ := exists_mem_numbered_of_mem_findings hf
    obtain ⟨k, hk⟩ := List.mem_iff_getElem?.mp hmem
    have hnew : (numbered 0 edited.toList)[k]? =
        some (token, newIndex tokens edited f.location.token) := by
      rw [hnumbers, List.getElem?_map, hk, Option.map_some]
    refine ⟨token, hkind, ?_, ?_, ?_⟩
    · have hold := ((mem_numbered_iff _ _ _).mp hmem).1
      rwa [Array.getElem?_toList] at hold
    · have hold := ((mem_numbered_iff _ _ _).mp (List.mem_of_getElem? hnew)).1
      rwa [Array.getElem?_toList] at hold
    · rw [significantBefore_of_getElem?_numbered hnew, significantBefore_of_getElem?_numbered hk,
        hsame]

/-- The same two calls, with a comment in front and no white space between them. -/
def commentedCalls : Tokens :=
  #[⟨.comment, "// dumps", 1, 1, 0⟩, ⟨.identifier, "Var_Dump", 1, 1, 0⟩,
    ⟨.identifier, "VAR_EXPORT", 1, 10, 9⟩]

/-- The restricted call is found again, one token further back. -/
theorem findings_of_trivia_edits_dump :
    Relation.ReflTransGen TriviaEdit dumpCalls commentedCalls ∧
      ∃ a, Analyzer.build "/" dumpPlan = .ok a ∧
        a.scan "a.php" commentedCalls =
          (a.scan "a.php" dumpCalls).map (·.renumber (newIndex dumpCalls commentedCalls)) ∧
        (a.scan "a.php" dumpCalls).map (·.location.token) = [0] ∧
        newIndex dumpCalls commentedCalls 0 = 1 := by
  have hedits : Relation.ReflTransGen TriviaEdit dumpCalls commentedCalls := by
    have hdelete := TriviaEdit.delete #[⟨.identifier, "Var_Dump", 1, 1, 0⟩]
      #[⟨.identifier, "VAR_EXPORT", 1, 10, 9⟩] ⟨.whitespace, " ", 1, 9, 8⟩ rfl
    have hinsert := TriviaEdit.insert #[]
      #[⟨.identifier, "Var_Dump", 1, 1, 0⟩, ⟨.identifier, "VAR_EXPORT", 1, 10, 9⟩]
      ⟨.comment, "// dumps", 1, 1, 0⟩ rfl
    exact .tail (.single hdelete) hinsert
  obtain ⟨a, hbuild⟩ : ∃ a, Analyzer.build "/" dumpPlan = .ok a := ⟨_, rfl⟩
  have hrules : a.rules = [(buildWithin (Group.withinLimit 1000) [.group dumps]).rule] := by
    cases hbuild
    rfl
  refine ⟨hedits, a, hbuild, ?_, ?_, by decide +kernel⟩
  · rw [scan_eq_findings hbuild hrules, scan_eq_findings hbuild hrules]
    exact (findings_of_trivia_edits _ a "a.php" hedits).1
  · cases hbuild
    decide +kernel

end Guard

end CallGuard
