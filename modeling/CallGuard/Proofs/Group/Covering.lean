import CallGuard.Group
import CallGuard.Proofs.NamePattern.Search
import CallGuard.Proofs.Regex.Meaning

/-!
# The names that a group covers

A group covers a name if the regular expression of its patterns is found in it.  That is the case
exactly if one of the patterns occurs in the name.  For a name of word characters, an occurrence
takes the whole name.

Main results:

- Theorem {lit}`Group.covers_iff`: a group covers the names that one of its patterns occurs in.
- Theorem {lit}`Group.covers_iff_occurrence`: the same for the regular expression of the group, for
  names of word characters and for patterns without a star.
-/

namespace CallGuard.Group

/-- A group with a pattern covers the names that one of its patterns occurs in. -/
theorem covers_iff {g : Group} (hne : g.patterns ≠ []) (name : String) :
    g.covers name = true ↔ ∃ p ∈ g.patterns, p.OccursIn name.toList := by
  have halternatives : g.alternatives = g.patterns.map (·.segments) := by
    rw [alternatives, if_neg (by simpa using hne)]
  rw [covers, halternatives, List.any_map, List.any_eq_true]
  constructor
  · rintro ⟨p, hp, hoccurs⟩
    exact ⟨p, hp, (p.occurs_iff name.toList).mp hoccurs⟩
  · rintro ⟨p, hp, hoccurs⟩
    exact ⟨p, hp, (p.occurs_iff name.toList).mpr hoccurs⟩

/-- A group with a pattern covers a name if and only if its regular expression is found in it, if and
only if between two word boundaries of the name one of the patterns is spelled.  In a name of word
characters the pattern has to spell the whole name; a pattern without a star does so exactly if it is
equal to the name up to case, and then the two have the same length. -/
theorem covers_iff_occurrence (g : Group) (hne : g.patterns ≠ []) (name : String) :
    (∃ branches, Regex.parse g.expression = some branches ∧
        (g.covers name = true ↔ Regex.Finds branches name.toList)) ∧
      (g.covers name = true ↔
        ∃ i j, i ≤ j ∧ IsWordBoundary name.toList i ∧ IsWordBoundary name.toList j ∧
          ∃ p ∈ g.patterns, Spells p.segments (part name.toList i j)) ∧
      (name ≠ "" → (∀ c ∈ name.toList, Text.isWord c = true) →
        (g.covers name = true ↔ ∃ p ∈ g.patterns, Spells p.segments name.toList) ∧
          ∀ p ∈ g.patterns, p.hasWildcard = false →
            (Spells p.segments name.toList ↔ SameText p.text.toList name.toList) ∧
              (Spells p.segments name.toList → name.length = p.text.length)) := by
  refine ⟨⟨_, Regex.parse_alternation hne, ?_⟩, ?_, ?_⟩
  · rw [covers_iff hne, Regex.finds_shape_iff]
  · rw [covers_iff hne]
    constructor
    · rintro ⟨p, hp, i, j, hij, hi, hj, hspells⟩
      exact ⟨i, j, hij, hi, hj, p, hp, hspells⟩
    · rintro ⟨i, j, hij, hi, hj, p, hp, hspells⟩
      exact ⟨p, hp, i, j, hij, hi, hj, hspells⟩
  · intro hname hword
    have hchars : name.toList ≠ [] := by simpa using hname
    refine ⟨?_, ?_⟩
    · rw [covers_iff hne]
      constructor
      · rintro ⟨p, hp, hoccurs⟩
        exact ⟨p, hp, (p.occursIn_iff_spells hchars hword).mp hoccurs⟩
      · rintro ⟨p, hp, hspells⟩
        exact ⟨p, hp, (p.occursIn_iff_spells hchars hword).mpr hspells⟩
    · intro p hp hstar
      have hsame := NamePattern.spells_iff_sameText hstar name.toList
      refine ⟨hsame, ?_⟩
      intro hspells
      have hlen := (hsame.mp hspells).length_eq
      rw [String.length_toList, String.length_toList] at hlen
      exact hlen.symm

/-- A group with a pattern that has a star and a pattern that has none. -/
def callsOfEval : Group :=
  ofTexts "eval" .error "%s" ["eval_*", "Eval"] [] none

/-- One name is spelled by the pattern with a star, and one by the pattern without. -/
theorem covers_iff_occurrence_eval :
    callsOfEval.patterns ≠ [] ∧
      ("EVAL_code" ≠ "" ∧ (∀ c ∈ "EVAL_code".toList, Text.isWord c = true) ∧
        ∃ p ∈ callsOfEval.patterns, Spells p.segments "EVAL_code".toList) ∧
      ("evaL" ≠ "" ∧ (∀ c ∈ "evaL".toList, Text.isWord c = true) ∧
        ∃ p ∈ callsOfEval.patterns, p.hasWildcard = false ∧
          SameText p.text.toList "evaL".toList) := by
  have hne : callsOfEval.patterns ≠ [] := by decide +kernel
  have hstar : ∀ c ∈ "EVAL_code".toList, Text.isWord c = true :=
    List.all_eq_true.mp (by decide +kernel)
  have hplain : ∀ c ∈ "evaL".toList, Text.isWord c = true :=
    List.all_eq_true.mp (by decide +kernel)
  have hwhole := (covers_iff_occurrence callsOfEval hne "EVAL_code").2.2 (by decide) hstar
  have hsame := (covers_iff_occurrence callsOfEval hne "evaL").2.2 (by decide) hplain
  refine ⟨hne, ⟨by decide, hstar, hwhole.1.mp (by decide +kernel)⟩, by decide, hplain, ?_⟩
  have hlast : ⟨"Eval", by decide⟩ ∈ callsOfEval.patterns := by decide +kernel
  refine ⟨⟨"Eval", by decide⟩, hlast, by decide +kernel, ?_⟩
  refine (hsame.2 _ hlast (by decide +kernel)).1.mp ?_
  exact (NamePattern.occursIn_iff_spells _ (by decide) hplain).mp
    ((NamePattern.occurs_iff _ _).mp (by decide +kernel))

end CallGuard.Group
