import CallGuard.Proofs.Text.Bytes
import CallGuard.Text.Fold
import CallGuard.Text.Lowercase

/-!
# The case of the letters A to Z

Two texts are the same up to the case of the letters A to Z if their small letters agree.  Neither
lower case nor case folding can tell such texts apart, and they take the same number of bytes.  For
lower case this includes the capital sigma, whose image depends on the letters around it: small
letters have a case just as the capital ones have, and neither are looked through.

Main results:

- Theorem {lit}`apply_toLower`: what holds for the capital letters holds for all characters.
- Theorem {lit}`lowerFrom_map_toLower`: the lower case of a text does not depend on its case.
- Theorem {lit}`lowercase_eq_of_same`, {lit}`utf8ByteSize_eq_of_same`: texts that are the same up to
  case have the same lower case and the same length.
-/

namespace CallGuard.Text

/-! ## Characters -/

/-- A character is its own small letter unless it is a capital letter. -/
theorem toLower_eq_or (c : Char) : c.toLower = c ∨ ∃ n < 26, c = Char.ofNat (65 + n) := by
  by_cases hupper : 65 ≤ c.toNat ∧ c.toNat ≤ 90
  · refine .inr ⟨c.toNat - 65, by omega, ?_⟩
    have hcode : 65 + (c.toNat - 65) = c.toNat := by omega
    rw [hcode, Char.ofNat_toNat]
  · left
    have hval : ¬ (c.val ≥ 'A'.val ∧ c.val ≤ 'Z'.val) := hupper
    exact dif_neg hval

/-- What cannot tell the capital letters from the small ones cannot tell any character from its small
letter. -/
theorem apply_toLower {α : Type} {f : Char → α}
    (h : ∀ n < 26, f (Char.ofNat (65 + n)).toLower = f (Char.ofNat (65 + n))) (c : Char) :
    f c.toLower = f c := by
  rcases toLower_eq_or c with hsmall | ⟨n, hn, rfl⟩
  · rw [hsmall]
  · exact h n hn

/-- A small letter has a case if the capital one has. -/
@[simp]
theorem isCased_toLower (c : Char) : isCased c.toLower = isCased c :=
  apply_toLower (by decide) c

/-- A small letter is looked through if the capital one is. -/
@[simp]
theorem isCaseIgnorable_toLower (c : Char) : isCaseIgnorable c.toLower = isCaseIgnorable c :=
  apply_toLower (by decide) c

/-- A small letter has the lower case of the capital one. -/
@[simp]
theorem lowerChar_toLower (c : Char) : lowerChar c.toLower = lowerChar c :=
  apply_toLower (by decide) c

/-- A small letter is folded as the capital one is. -/
@[simp]
theorem fold_toLower (c : Char) : fold c.toLower = fold c :=
  apply_toLower (by decide) c

/-- A small letter takes as many bytes as the capital one. -/
@[simp]
theorem utf8Size_toLower (c : Char) : c.toLower.utf8Size = c.utf8Size :=
  apply_toLower (by decide) c

/-! ## Lower case -/

/-- Whether a text starts with a letter does not depend on its case. -/
@[simp]
theorem startsCased_map_toLower (cs : List Char) :
    startsCased (cs.map Char.toLower) = startsCased cs := by
  have hignore : isCaseIgnorable ∘ Char.toLower = isCaseIgnorable := by
    funext c
    exact isCaseIgnorable_toLower c
  rw [startsCased, startsCased, List.dropWhile_map, hignore]
  cases cs.dropWhile isCaseIgnorable with
  | nil => rfl
  | cons c rest => exact isCased_toLower c

/-- The lower case of a character depends neither on its own case nor on that of the text around
it. -/
theorem lowerAt_toLower (before : List Char) (c : Char) (after : List Char) :
    lowerAt (before.map Char.toLower) c.toLower (after.map Char.toLower) =
      lowerAt before c after := by
  have hsigma : (c.toLower.toNat = 0x3a3) = (c.toNat = 0x3a3) :=
    apply_toLower (f := fun c => c.toNat = 0x3a3) (fun n hn => propext (by revert n; decide)) c
  simp only [lowerAt, hsigma, startsCased_map_toLower, lowerChar_toLower]

/-- The lower case of a text does not depend on its case. -/
theorem lowerFrom_map_toLower (before cs : List Char) :
    lowerFrom (before.map Char.toLower) (cs.map Char.toLower) = lowerFrom before cs := by
  induction cs generalizing before with
  | nil => rfl
  | cons c cs ih =>
    rw [List.map_cons, lowerFrom, lowerFrom, lowerAt_toLower, ← List.map_cons, ih]

/-! ## Texts that are the same up to case -/

/-- Texts are the same up to case if their small letters agree. -/
theorem sameIgnoringAsciiCase_iff (s t : String) :
    sameIgnoringAsciiCase s t = true ↔ s.toList.map Char.toLower = t.toList.map Char.toLower := by
  simp [sameIgnoringAsciiCase]

/-- Texts that are the same up to case have the same lower case. -/
theorem lowercase_eq_of_same {s t : String} (h : sameIgnoringAsciiCase s t = true) :
    lowercase s = lowercase t := by
  rw [sameIgnoringAsciiCase_iff] at h
  have hlower : lowerChars s.toList = lowerChars t.toList := by
    rw [lowerChars, ← lowerFrom_map_toLower, h, lowerFrom_map_toLower, lowerChars]
  rw [lowercase, lowercase, hlower]

/-- Texts that are the same up to case have equally many characters. -/
theorem length_eq_of_same {s t : String} (h : sameIgnoringAsciiCase s t = true) :
    s.length = t.length := by
  rw [sameIgnoringAsciiCase_iff] at h
  have hlength := congrArg List.length h
  rwa [List.length_map, List.length_map, String.length_toList, String.length_toList] at hlength

/-- Small letters take as many bytes as the capital ones. -/
theorem byteLength_map_toLower (cs : List Char) :
    byteLength (cs.map Char.toLower) = byteLength cs := by
  induction cs with
  | nil => rfl
  | cons c cs ih => rw [List.map_cons, byteLength, byteLength, utf8Size_toLower, ih]

/-- Texts that are the same up to case have equally many bytes. -/
theorem utf8ByteSize_eq_of_same {s t : String} (h : sameIgnoringAsciiCase s t = true) :
    s.utf8ByteSize = t.utf8ByteSize := by
  rw [sameIgnoringAsciiCase_iff] at h
  have hbytes : ∀ u : String, u.utf8ByteSize = byteLength (u.toList.map Char.toLower) := by
    intro u
    rw [byteLength_map_toLower, ← utf8ByteSize_ofList, String.ofList_toList]
  rw [hbytes, hbytes, h]

end CallGuard.Text
