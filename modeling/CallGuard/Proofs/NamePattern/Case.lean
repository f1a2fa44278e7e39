import CallGuard.Proofs.NamePattern.Occurrence
import CallGuard.Proofs.Text.Case

/-!
# The case of a pattern

The case of the letters A to Z in a pattern makes no difference.  Stars and dots are no letters, so
the pattern is cut at the same places, and its segments are compared by case folding.  No letter is
escaped, so the written form changes in the case of its letters only.

Main results:

- Theorem {lit}`segments_map_toLower`: the segments of a text in small letters.
- Theorem {lit}`spells_map_toLower`: they spell the same texts.
- Theorem {lit}`NamePattern.occursIn_iff_of_same`: patterns that are the same up to case occur in the
  same names.
- Theorem {lit}`alternation_same`: the written form of patterns that are the same up to case.
-/

namespace CallGuard

open Text

/-! ## Segments -/

/-- The stars of a text in small letters are those of the text. -/
theorem toLower_eq_star_iff (c : Char) : c.toLower = '*' ↔ c = '*' :=
  iff_of_eq (apply_toLower (f := fun c => c = '*') (fun n hn => propext (by revert n; decide)) c)

/-- The dots of a text in small letters are those of the text. -/
theorem toLower_eq_dot_iff (c : Char) : c.toLower = '.' ↔ c = '.' :=
  iff_of_eq (apply_toLower (f := fun c => c = '.') (fun n hn => propext (by revert n; decide)) c)

/-- Putting a character in front of the first segment, in small letters. -/
theorem map_consSegment (c : Char) (segs : List (List Char)) :
    (consSegment c segs).map (·.map Char.toLower) =
      consSegment c.toLower (segs.map (·.map Char.toLower)) := by
  cases segs <;> rfl

/-- A text in small letters is cut at the same places. -/
theorem segments_map_toLower (text : List Char) :
    segments (text.map Char.toLower) = (segments text).map (·.map Char.toLower) := by
  fun_induction segments text with
  | case1 => rfl
  | case2 rest ih => exact congrArg ([] :: ·) ih
  | case3 rest ih => exact congrArg ([] :: ·) ih
  | case4 c rest hdot hstar ih =>
    rw [map_consSegment, ← ih, List.map_cons, segments]
    · -- A dot with a star behind it among the small letters is one in the text.
      intro behind hc hrest
      obtain ⟨star, others, rfl, hlower, -⟩ := List.map_eq_cons_iff.mp hrest
      exact hdot others ((toLower_eq_dot_iff c).mp hc)
        (congrArg (· :: others) ((toLower_eq_star_iff star).mp hlower))
    · exact fun hc => hstar ((toLower_eq_star_iff c).mp hc)

/-- Small letters are equal up to case to the same texts. -/
theorem sameText_map_toLower (seg text : List Char) :
    SameText (seg.map Char.toLower) text ↔ SameText seg text := by
  unfold SameText SameLetter
  rw [List.forall₂_map_left_iff]
  simp only [fold_toLower]

/-- Segments in small letters spell the same texts. -/
theorem spells_map_toLower (segs : List (List Char)) (text : List Char) :
    Spells (segs.map (·.map Char.toLower)) text ↔ Spells segs text := by
  induction segs generalizing text with
  | nil => rfl
  | cons seg segs ih =>
    cases segs with
    | nil => exact sameText_map_toLower seg text
    | cons next segs =>
      simp only [List.map_cons, Spells, sameText_map_toLower] at ih ⊢
      simp only [ih]

/-- Patterns that are the same up to case have the same segments up to case. -/
theorem map_segments_of_same {s t : String} (h : sameIgnoringAsciiCase s t = true) :
    (segments s.toList).map (·.map Char.toLower) =
      (segments t.toList).map (·.map Char.toLower) := by
  rw [sameIgnoringAsciiCase_iff] at h
  rw [← segments_map_toLower, h, segments_map_toLower]

namespace NamePattern

/-- Patterns that are the same up to case occur in the same names. -/
theorem occursIn_iff_of_same {p q : NamePattern} (h : sameIgnoringAsciiCase p.text q.text = true)
    (name : List Char) : p.OccursIn name ↔ q.OccursIn name := by
  have hspells : ∀ text, p.Spells text ↔ q.Spells text := by
    intro text
    unfold Spells segments
    rw [← spells_map_toLower, map_segments_of_same h, spells_map_toLower]
  simp only [OccursIn, hspells]

end NamePattern

/-! ## The written form -/

/-- Small letters are escaped as the text is. -/
theorem escape_map_toLower (text : List Char) :
    escape (text.map Char.toLower) = (escape text).map Char.toLower := by
  have hmeta : ∀ c : Char, metaCharacters.contains c.toLower = metaCharacters.contains c :=
    apply_toLower (by decide)
  induction text with
  | nil => rfl
  | cons c text ih =>
    rw [List.map_cons, escape, escape, hmeta, ih]
    split <;> rfl

/-- Changing all characters of joined texts changes those of the texts and of the separators. -/
theorem map_intercalate (f : Char → Char) (sep : List Char) (texts : List (List Char)) :
    (List.intercalate sep texts).map f = List.intercalate (sep.map f) (texts.map (·.map f)) := by
  induction texts with
  | nil => rfl
  | cons text texts ih =>
    cases texts with
    | nil => simp
    | cons next texts =>
      simp only [List.map_cons, List.intercalate_cons_cons, List.map_append] at ih ⊢
      rw [ih]

/-- The small letters of joined segments are those of the segments. -/
theorem map_joinSegments (segs : List (List Char)) :
    (joinSegments segs).map Char.toLower = joinSegments (segs.map (·.map Char.toLower)) := by
  rw [joinSegments, joinSegments, map_intercalate, List.map_map, List.map_map]
  congr 1
  apply List.map_congr_left
  intro seg _
  exact (escape_map_toLower seg).symm

/-- The written forms of patterns that are the same up to case are the same up to case. -/
theorem alternation_same {ps qs : List NamePattern}
    (h : List.Forall₂ (fun p q => sameIgnoringAsciiCase p.text q.text = true) ps qs) :
    sameIgnoringAsciiCase (alternation ps) (alternation qs) = true := by
  have hparts : (ps.map fun p => joinSegments p.segments).map (·.map Char.toLower) =
      (qs.map fun p => joinSegments p.segments).map (·.map Char.toLower) := by
    induction h with
    | nil => rfl
    | cons hsame _ ih =>
      simp only [List.map_cons, map_joinSegments, NamePattern.segments, map_segments_of_same hsame]
      exact congrArg (_ :: ·) ih
  rw [sameIgnoringAsciiCase_iff, toList_alternation, toList_alternation]
  simp only [List.map_append, map_intercalate, hparts]

end CallGuard
