import CallGuard.Text.Basic
import Mathlib.Data.List.DropRight
import Mathlib.Data.List.TakeWhile

/-!
# Cutting and trimming texts

Cutting a text at a separator and putting pieces together with it undo each other.  Trimming takes
the white space at both ends of a text away and nothing else, so white space that is put around a
text makes no difference, and trimming a second time changes nothing.

Main results:

- Theorem {lit}`cut_append`: cutting a text at a separator that stands between two texts.
- Theorem {lit}`cut_intercalate`, {lit}`intercalate_cut`: pieces that are put together are found
  again, and a text is put together from its pieces.
- Theorem {lit}`trimChars_padded`, {lit}`trim_padded`: white space around a text.
- Theorem {lit}`exists_padding`: what trimming takes away.
- Theorem {lit}`trimChars_trimChars`, {lit}`trimChars_eq_nil_iff`: trimming twice, and trimming blank
  texts.
-/

namespace CallGuard.Text

/-! ## Cutting and putting together -/

/-- A text with a separator between two parts is cut into the pieces of both parts. -/
theorem cut_append {α : Type} [DecidableEq α] (sep : α) (cs ds : List α) :
    cut sep (cs ++ sep :: ds) = cut sep cs ++ cut sep ds := by
  induction cs with
  | nil => simp [cut]
  | cons c cs ih =>
    rw [List.cons_append, cut, cut, ih]
    by_cases hsep : c = sep
    · simp [hsep]
    · obtain ⟨piece, pieces, hcut⟩ := List.exists_cons_of_ne_nil (cut_ne_nil sep cs)
      simp [hsep, hcut]

/-- A text without the separator is one piece. -/
theorem cut_of_notMem {α : Type} [DecidableEq α] {sep : α} {cs : List α} (h : sep ∉ cs) :
    cut sep cs = [cs] := by
  induction cs with
  | nil => rfl
  | cons c cs ih =>
    rw [List.mem_cons, not_or] at h
    rw [cut, if_neg (Ne.symm h.1), ih h.2]

/-- The pieces of a text do not hold the separator. -/
theorem notMem_of_mem_cut {α : Type} [DecidableEq α] {sep : α} {cs piece : List α}
    (h : piece ∈ cut sep cs) : sep ∉ piece := by
  induction cs generalizing piece with
  | nil =>
    rw [cut, List.mem_singleton] at h
    simp [h]
  | cons c cs ih =>
    obtain ⟨first, rest, hcut⟩ := List.exists_cons_of_ne_nil (cut_ne_nil sep cs)
    rw [cut, hcut] at h
    rw [hcut] at ih
    split at h
    · rcases List.mem_cons.mp h with rfl | hmem
      · simp
      · exact ih hmem
    · rename_i hne
      rcases List.mem_cons.mp h with rfl | hmem
      · have hfirst : sep ∉ first := ih (by simp)
        simp [hfirst, Ne.symm hne]
      · exact ih (List.mem_cons_of_mem first hmem)

/-- Pieces without the separator are found again when they are put together and cut. -/
theorem cut_intercalate {α : Type} [DecidableEq α] {sep : α} {pieces : List (List α)}
    (hne : pieces ≠ []) (h : ∀ piece ∈ pieces, sep ∉ piece) :
    cut sep (List.intercalate [sep] pieces) = pieces := by
  induction pieces with
  | nil => exact absurd rfl hne
  | cons piece rest ih =>
    have hpiece : cut sep piece = [piece] := cut_of_notMem (h piece (by simp))
    cases rest with
    | nil => rw [List.intercalate_singleton, hpiece]
    | cons next rest =>
      rw [List.intercalate_cons_cons, List.append_assoc, List.singleton_append, cut_append, hpiece,
        ih (by simp) fun other hother => h other (List.mem_cons_of_mem piece hother)]
      rfl

/-- A text is put together from its pieces. -/
theorem intercalate_cut {α : Type} [DecidableEq α] (sep : α) (cs : List α) :
    List.intercalate [sep] (cut sep cs) = cs := by
  induction cs with
  | nil => rfl
  | cons c cs ih =>
    obtain ⟨first, rest, hcut⟩ := List.exists_cons_of_ne_nil (cut_ne_nil sep cs)
    rw [hcut] at ih
    rw [cut, hcut]
    split
    · rename_i hsep
      rw [List.intercalate_cons_cons, ih, hsep]
      rfl
    · cases rest with
      | nil =>
        rw [List.intercalate_singleton] at ih ⊢
        rw [ih]
      | cons next rest =>
        rw [List.intercalate_cons_cons] at ih ⊢
        rw [← ih, List.cons_append, List.cons_append]

/-! ## Trimming -/

/-- White space behind a text does not count. -/
theorem trimChars_append_blank {after : List Char} (h : ∀ c ∈ after, isBlank c = true)
    (cs : List Char) : trimChars (cs ++ after) = trimChars cs := by
  have hnil : after.dropWhile isBlank = [] := List.dropWhile_eq_nil_iff.mpr h
  rw [trimChars, trimChars, List.dropWhile_append]
  by_cases hcs : cs.dropWhile isBlank = []
  · simp [hcs, hnil]
  · rw [if_neg (by simpa using hcs), trimRight, trimRight, List.reverse_append,
      List.dropWhile_append_of_pos (by simpa using h)]

/-- White space around a text does not count. -/
theorem trimChars_padded {before after : List Char} (hbefore : ∀ c ∈ before, isBlank c = true)
    (hafter : ∀ c ∈ after, isBlank c = true) (cs : List Char) :
    trimChars (before ++ cs ++ after) = trimChars cs := by
  rw [trimChars_append_blank hafter, trimChars, List.dropWhile_append_of_pos hbefore, trimChars]

/-- White space around a text is trimmed away. -/
theorem trim_padded {before after : String} (hbefore : ∀ c ∈ before.toList, isBlank c = true)
    (hafter : ∀ c ∈ after.toList, isBlank c = true) (s : String) :
    trim (before ++ s ++ after) = trim s := by
  rw [trim, String.toList_append, String.toList_append, trimChars_padded hbefore hafter, trim]

/-- Trimming takes white space away from both ends and nothing else. -/
theorem exists_padding (cs : List Char) :
    ∃ before after, cs = before ++ trimChars cs ++ after ∧ (∀ c ∈ before, isBlank c = true) ∧
      ∀ c ∈ after, isBlank c = true := by
  refine ⟨cs.takeWhile isBlank, (cs.dropWhile isBlank).rtakeWhile isBlank, ?_, ?_, ?_⟩
  · have htrim : trimChars cs = (cs.dropWhile isBlank).rdropWhile isBlank := rfl
    rw [htrim, List.append_assoc, List.rdropWhile_append_rtakeWhile, List.takeWhile_append_dropWhile]
  · exact fun c hc => List.mem_takeWhile_imp hc
  · exact fun c hc => List.mem_rtakeWhile_imp hc

/-- Trimming a second time changes nothing. -/
@[simp]
theorem trimChars_trimChars (cs : List Char) : trimChars (trimChars cs) = trimChars cs := by
  obtain ⟨before, after, hcs, hbefore, hafter⟩ := exists_padding cs
  conv_rhs => rw [hcs, trimChars_padded hbefore hafter]

/-- What is left of a text after trimming was there before. -/
theorem mem_of_mem_trimChars {cs : List Char} {c : Char} (h : c ∈ trimChars cs) : c ∈ cs := by
  obtain ⟨before, after, hcs, -, -⟩ := exists_padding cs
  rw [hcs]
  simp [h]

/-- Nothing is left of a text after trimming if and only if it is blank. -/
theorem trimChars_eq_nil_iff (cs : List Char) :
    trimChars cs = [] ↔ ∀ c ∈ cs, isBlank c = true := by
  constructor
  · intro hnil
    obtain ⟨before, after, hcs, hbefore, hafter⟩ := exists_padding cs
    rw [hnil, List.append_nil] at hcs
    intro c hc
    rw [hcs, List.mem_append] at hc
    exact hc.elim (hbefore c) (hafter c)
  · intro hblank
    exact trimChars_append_blank hblank []

end CallGuard.Text
