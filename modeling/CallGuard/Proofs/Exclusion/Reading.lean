import CallGuard.Exclusion
import CallGuard.Proofs.Text.Cutting

/-!
# Reading lists of excluded groups

A text that is put together from two texts with a comma between them is cut at this comma, whatever
blanks, commas and blank entries the two texts have.  It names what either of them names.  A blank
text names nothing, so it makes no difference whether it is left out of the combined text.

Main results:

- Theorem {lit}`Exclusion.ids_parse_append`: the identifiers of two texts with a comma between them.
- Theorem {lit}`Exclusion.contains_parse_join`, {lit}`Exclusion.join_names_union`: a configured text
  with one from elsewhere.
-/

namespace CallGuard

/-- A blank text has no comma. -/
theorem Text.comma_notMem_of_blank {cs : List Char} (h : ∀ c ∈ cs, isBlank c = true) : ',' ∉ cs := by
  intro hmem
  exact absurd (h ',' hmem) (by decide)

namespace Exclusion

/-- A blank text names nothing. -/
theorem parse_of_trim_eq_empty {value : String} (h : Text.trim value = "") : parse value = none := by
  have htrim : Text.trimChars value.toList = [] := String.ofList_eq_empty_iff.mp h
  have hcomma : ',' ∉ value.toList :=
    Text.comma_notMem_of_blank ((Text.trimChars_eq_nil_iff value.toList).mp htrim)
  simp [parse, none, Text.cut_of_notMem hcomma, htrim]

/-- The empty text names nothing. -/
theorem parse_empty : parse "" = none :=
  rfl

/-- Two texts with a comma between them name what the first and then what the second names. -/
theorem ids_parse_append (first second : String) :
    (parse (first ++ "," ++ second)).ids = (parse first).ids ++ (parse second).ids := by
  have hchars : (first ++ "," ++ second).toList = first.toList ++ ',' :: second.toList := by
    rw [String.toList_append, String.toList_append, List.append_assoc]
    rfl
  simp only [parse, hchars, Text.cut_append, List.map_append, List.filter_append]

/-- An identifier is named by two texts with a comma between them if one of the two names it. -/
theorem contains_parse_append (first second id : String) :
    (parse (first ++ "," ++ second)).contains id =
      ((parse first).contains id || (parse second).contains id) := by
  simp only [contains, ids_parse_append, List.contains_eq_mem, List.mem_append, Bool.decide_or]

/-- An identifier is named by a configured text with one from elsewhere if one of the two names
it. -/
theorem contains_parse_join (configured : String) (extra : Option String) (id : String) :
    (parse (join configured extra)).contains id =
      ((parse configured).contains id || extra.any fun x => (parse x).contains id) := by
  cases extra with
  | none => rw [join, Option.any_none, Bool.or_false]
  | some x =>
    rw [join, Option.any_some]
    split
    · rename_i hblank
      rw [parse_of_trim_eq_empty hblank]
      rfl
    · exact contains_parse_append configured x id

/-- What a configured text with one from elsewhere names is the union of what the two name, whatever
blanks, commas and padding they have; without a text from elsewhere, it is what the configured text
names. -/
theorem join_names_union (configured : String) (extra : Option String) (id : String) :
    (parse (join configured extra)).contains id = true ↔
      (parse configured).contains id = true ∨
        ∃ text, extra = some text ∧ (parse text).contains id = true := by
  rw [contains_parse_join, Bool.or_eq_true, Option.any_eq_true]

end Exclusion

end CallGuard
