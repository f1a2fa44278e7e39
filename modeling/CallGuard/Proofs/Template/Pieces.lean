import CallGuard.Template
import Mathlib.Data.List.Basic

/-!
# The pieces of a template

A template is a list of literal pieces with a place between each two of them, and filling it puts the
name between the pieces.  The pieces are read off the template alone, so what stands in the name is
never taken for a place.  How a template is read is said by what it starts with: a text in which every
percent sign is doubled stands for itself, a place ends a piece, and a percent sign that nothing
belongs to is kept.

Main results:

- Theorem {lit}`fillChars_eq_intercalate`: filling a template is joining its pieces by the name.
- Theorem {lit}`piecesChars_cons`: a character that stands for itself.
- Theorem {lit}`piecesChars_escapeChars_append`: a text with doubled percent signs in front of a
  template.
- Theorem {lit}`fill_escape_append`, {lit}`fill_percent_append`: both, for filled templates.
- Theorem {lit}`fill_joins_pieces`: how templates are filled.
-/

namespace CallGuard.Template

/-! ## Reading a template -/

/-- The literal pieces of a template, over lists of characters: a place ends a piece. -/
def piecesChars : List Char → List (List Char)
  | [] => [[]]
  | '%' :: '%' :: rest => (piecesChars rest).modifyHead ('%' :: ·)
  | '%' :: '1' :: '$' :: 's' :: rest => [] :: piecesChars rest
  | '%' :: 's' :: rest => [] :: piecesChars rest
  | c :: rest => (piecesChars rest).modifyHead (c :: ·)

/-- The literal pieces of a template. -/
def pieces (template : String) : List String :=
  (piecesChars template.toList).map String.ofList

/-- A text with every percent sign doubled, over lists of characters. -/
def escapeChars (text : List Char) : List Char :=
  text.flatMap fun c => if c = '%' then ['%', '%'] else [c]

/-- A text with every percent sign doubled. -/
def escape (text : String) : String :=
  String.ofList (escapeChars text.toList)

/-- Nothing of a text belongs to a percent sign in front of it: the text starts with none of the
endings that make it a place or one of two percent signs. -/
def StandsApart (text : List Char) : Prop :=
  ∀ ending ∈ ["%", "s", "1$s"], ¬ ending.toList <+: text

/-- A template has at least one piece. -/
theorem piecesChars_ne_nil (template : List Char) : piecesChars template ≠ [] := by
  fun_induction piecesChars template with
  | case1 => simp
  | case2 rest ih => simpa using ih
  | case3 rest => simp
  | case4 rest => simp
  | case5 c rest _ _ _ ih => simpa using ih

/-- A character in front of a template is put in front of its first piece, unless it is a percent sign
that something of the template belongs to. -/
theorem piecesChars_cons {c : Char} {template : List Char} (h : c = '%' → StandsApart template) :
    piecesChars (c :: template) = (piecesChars template).modifyHead (c :: ·) := by
  have hending : ∀ ending ∈ ["%", "s", "1$s"], ∀ rest, c = '%' →
      template = ending.toList ++ rest → False := by
    intro ending hmem rest hc htemplate
    exact h hc ending hmem ⟨rest, htemplate.symm⟩
  rw [piecesChars]
  · exact hending "%" (by simp)
  · exact hending "1$s" (by simp)
  · exact hending "s" (by simp)

/-- A text with doubled percent signs in front of a template is put in front of its first piece. -/
theorem piecesChars_escapeChars_append (text template : List Char) :
    piecesChars (escapeChars text ++ template) = (piecesChars template).modifyHead (text ++ ·) := by
  induction text with
  | nil =>
    show piecesChars template = (piecesChars template).modifyHead id
    rw [List.modifyHead_id]
    rfl
  | cons c text ih =>
    by_cases hc : c = '%'
    · have hdoubled : escapeChars (c :: text) ++ template =
          '%' :: '%' :: (escapeChars text ++ template) := by
        simp [escapeChars, hc]
      rw [hdoubled, piecesChars, ih, List.modifyHead_modifyHead, hc]
      rfl
    · have hkept : escapeChars (c :: text) ++ template = c :: (escapeChars text ++ template) := by
        simp [escapeChars, hc]
      rw [hkept, piecesChars_cons fun h => absurd h hc, ih, List.modifyHead_modifyHead]
      rfl

/-! ## Filling a template -/

/-- What is put in front of the first piece stands in front of all of them. -/
theorem intercalate_modifyHead (name text : List Char) {parts : List (List Char)} (h : parts ≠ []) :
    List.intercalate name (parts.modifyHead (text ++ ·)) = text ++ List.intercalate name parts := by
  obtain ⟨part, rest, rfl⟩ := List.exists_cons_of_ne_nil h
  cases rest with
  | nil => simp
  | cons next rest => simp [List.intercalate_cons_cons]

/-- A place in front of a template stands for the name. -/
theorem intercalate_nil_cons (name : List Char) {parts : List (List Char)} (h : parts ≠ []) :
    List.intercalate name ([] :: parts) = name ++ List.intercalate name parts := by
  obtain ⟨part, rest, rfl⟩ := List.exists_cons_of_ne_nil h
  rw [List.intercalate_cons_cons, List.nil_append]

/-- Filling a template is joining its pieces by the name. -/
theorem fillChars_eq_intercalate (name template : List Char) :
    fillChars name template = List.intercalate name (piecesChars template) := by
  fun_induction piecesChars template with
  | case1 => rfl
  | case2 rest ih =>
    rw [fillChars, ih]
    exact (intercalate_modifyHead name ['%'] (piecesChars_ne_nil rest)).symm
  | case3 rest ih | case4 rest ih =>
    rw [fillChars, ih, intercalate_nil_cons name (piecesChars_ne_nil rest)]
  | case5 c rest hdoubled hnumbered hplain ih =>
    rw [fillChars, ih]
    · exact (intercalate_modifyHead name [c] (piecesChars_ne_nil rest)).symm
    · exact hdoubled
    · exact hnumbered
    · exact hplain

/-- Filling a template is joining its pieces by the name, for texts. -/
theorem fill_eq_intercalate (template name : String) :
    fill template name = name.intercalate (pieces template) := by
  apply String.toList_inj.mp
  rw [fill, String.toList_ofList, fillChars_eq_intercalate, String.toList_intercalate, pieces,
    List.map_map]
  simp [Function.comp_def]

/-- What stands in front of a template is filled apart from it if it is for the characters. -/
theorem fill_append {front filled template name : String}
    (h : fillChars name.toList (front.toList ++ template.toList) =
      filled.toList ++ fillChars name.toList template.toList) :
    fill (front ++ template) name = filled ++ fill template name := by
  rw [fill, String.toList_append, h, String.ofList_append, String.ofList_toList, fill]

/-- A text with doubled percent signs in front of a template stands for itself. -/
theorem fill_escape_append (text template name : String) :
    fill (escape text ++ template) name = text ++ fill template name := by
  apply fill_append
  rw [escape, String.toList_ofList, fillChars_eq_intercalate, fillChars_eq_intercalate,
    piecesChars_escapeChars_append, intercalate_modifyHead _ _ (piecesChars_ne_nil _)]

/-- A percent sign that nothing belongs to stands for itself. -/
theorem fill_percent_append {template : String} (h : StandsApart template.toList) (name : String) :
    fill ("%" ++ template) name = "%" ++ fill template name := by
  apply fill_append
  rw [fillChars_eq_intercalate, fillChars_eq_intercalate]
  exact (congrArg _ (piecesChars_cons fun _ => h)).trans
    (intercalate_modifyHead _ ['%'] (piecesChars_ne_nil _))

/-- For every template there is a list of pieces that does not depend on the name, and filling the
template is joining the pieces by the name, whatever the name is.  A text with doubled percent signs
stands for itself, on its own and in front of a place of either form, which stands for the name, and
the rest of the template is filled as if it stood alone.  A percent sign that nothing belongs to is
kept, and the rest is filled from right behind it. -/
theorem fill_joins_pieces :
    (∀ template, pieces template ≠ [] ∧
      ∀ name : String, fill template name = name.intercalate (pieces template)) ∧
    (∀ text template name,
      fill (escape text ++ "%s" ++ template) name = text ++ name ++ fill template name ∧
      fill (escape text ++ "%1$s" ++ template) name = text ++ name ++ fill template name) ∧
    (∀ text name, fill (escape text) name = text) ∧
    ∀ text template name, StandsApart template.toList →
      fill (escape text ++ "%" ++ template) name = text ++ "%" ++ fill template name := by
  refine ⟨?_, ?_, ?_, ?_⟩
  · intro template
    refine ⟨?_, fill_eq_intercalate template⟩
    simpa [pieces] using piecesChars_ne_nil template.toList
  · intro text template name
    have hplain : fill ("%s" ++ template) name = name ++ fill template name := fill_append rfl
    have hnumbered : fill ("%1$s" ++ template) name = name ++ fill template name := fill_append rfl
    constructor
    · rw [String.append_assoc, fill_escape_append, hplain, String.append_assoc]
    · rw [String.append_assoc, fill_escape_append, hnumbered, String.append_assoc]
  · intro text name
    have hempty := fill_escape_append text "" name
    rwa [String.append_empty, show fill "" name = "" from rfl, String.append_empty] at hempty
  · intro text template name h
    rw [String.append_assoc, fill_escape_append, fill_percent_append h, String.append_assoc]

/-- A kept percent sign behind a doubled one and in front of a place, filled with a name that looks
like a place. -/
theorem fill_joins_pieces_odd :
    StandsApart "d and %s".toList ∧
      fill (escape "100%, " ++ "%" ++ "d and %s") "%s" =
        "100%, " ++ "%" ++ fill "d and %s" "%s" := by
  have happart : StandsApart "d and %s".toList := by
    unfold StandsApart
    decide
  exact ⟨happart, fill_joins_pieces.2.2.2 "100%, " "d and %s" "%s" happart⟩

end CallGuard.Template
