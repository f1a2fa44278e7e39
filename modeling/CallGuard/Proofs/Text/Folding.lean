import CallGuard.Text.Fold
import CallGuard.Text.Lowercase
import Mathlib.Data.List.Basic

/-!
# Lower case and case folding

Lower case and case folding both forget the case of a text, each in its own way.  On most characters
they agree.  The capital I with a dot above is folded to itself, while its lower case is folded to an
i and a dot.  Some letters have a second small form, such as the long s and the final sigma, that is
folded to the first one and is its own lower case.  Where neither kind of character comes up, texts
are the same up to folding exactly if their lower cases are equal.

Main results:

- Theorem {lit}`map_fold_lowercase`: the lower case of a text is folded as the text is.
- Theorem {lit}`eq_of_map_fold_eq`: small texts that are the same up to folding are equal.
- Theorem {lit}`foldsAsLower_of_ascii`, {lit}`lowersBack_of_mem_lowercase`: ASCII texts have no such
  characters.
-/

namespace CallGuard.Text

/-! ## Characters on which the two agree -/

/-- The lower case of a character is folded as the character itself. -/
def FoldsAsLower (c : Char) : Prop :=
  (lowerChar c).map fold = [fold c]

instance (c : Char) : Decidable (FoldsAsLower c) :=
  inferInstanceAs (Decidable ((lowerChar c).map fold = [fold c]))

/-- The lower case of a folded character is the character itself. -/
def LowersBack (c : Char) : Prop :=
  lowerChar (fold c) = [c]

instance (c : Char) : Decidable (LowersBack c) :=
  inferInstanceAs (Decidable (lowerChar (fold c) = [c]))

/-- What holds for all code points below a bound holds for all characters below it. -/
theorem forall_of_toNat_lt {bound : Nat} {p : Char → Prop} (h : ∀ n < bound, p (Char.ofNat n))
    {c : Char} (hc : c.toNat < bound) : p c := by
  have hcode := h c.toNat hc
  rwa [Char.ofNat_toNat] at hcode

/-- What is checked for every character of a text holds for all of them. -/
theorem forall_of_all {p : Char → Prop} [DecidablePred p] {cs : List Char}
    (h : cs.all (p ·) = true) : ∀ c ∈ cs, p c := by
  simpa using h

/-- The lower case of an ASCII character is folded as the character itself. -/
theorem foldsAsLower_of_ascii {c : Char} (hc : c.toNat < 128) : FoldsAsLower c :=
  forall_of_toNat_lt (by decide +kernel) hc

/-- The lower case of an ASCII character has no second form. -/
theorem lowersBack_of_ascii {c : Char} (hc : c.toNat < 128) : ∀ d ∈ lowerChar c, LowersBack d := by
  apply forall_of_all
  exact forall_of_toNat_lt (p := fun c => (lowerChar c).all (LowersBack ·) = true)
    (by decide +kernel) hc

/-! ## Texts -/

/-- The lower case of a character is folded as the character itself, whatever stands around it: both
small forms of the capital sigma are folded as it is. -/
theorem map_fold_lowerAt {c : Char} (h : FoldsAsLower c) (before after : List Char) :
    (lowerAt before c after).map fold = [fold c] := by
  unfold lowerAt
  by_cases hsigma : c.toNat = 0x3a3
  · have hc : c = Char.ofNat 0x3a3 := by rw [← hsigma, Char.ofNat_toNat]
    subst hc
    rw [if_pos hsigma]
    split <;> decide
  · rw [if_neg hsigma]
    exact h

/-- The lower case of a part of a text is folded as the part is. -/
theorem map_fold_lowerFrom (before : List Char) {cs : List Char} (h : ∀ c ∈ cs, FoldsAsLower c) :
    (lowerFrom before cs).map fold = cs.map fold := by
  induction cs generalizing before with
  | nil => rfl
  | cons c cs ih =>
    have hrest := ih (c :: before) fun d hd => h d (List.mem_cons_of_mem c hd)
    rw [lowerFrom, List.map_append, map_fold_lowerAt (h c (by simp)), hrest, List.map_cons,
      List.singleton_append]

/-- The lower case of a text is folded as the text is. -/
theorem map_fold_lowercase {s : String} (h : ∀ c ∈ s.toList, FoldsAsLower c) :
    (lowercase s).toList.map fold = s.toList.map fold := by
  rw [lowercase, String.toList_ofList]
  exact map_fold_lowerFrom [] h

/-- Small texts that are the same up to folding are equal. -/
theorem eq_of_map_fold_eq {cs ds : List Char} (hcs : ∀ c ∈ cs, LowersBack c)
    (hds : ∀ d ∈ ds, LowersBack d) (h : cs.map fold = ds.map fold) : cs = ds := by
  have hback : ∀ text : List Char, (∀ c ∈ text, LowersBack c) →
      (text.map fold).flatMap lowerChar = text := by
    intro text htext
    rw [List.flatMap_map]
    exact (List.flatMap_congr htext).trans (List.flatMap_singleton' text)
  rw [← hback cs hcs, h, hback ds hds]

/-- What the lower case of a text consists of if no capital sigma is in it. -/
theorem exists_of_mem_lowerFrom {before cs : List Char} (hsigma : ∀ c ∈ cs, c.toNat ≠ 0x3a3)
    {d : Char} (hd : d ∈ lowerFrom before cs) : ∃ c ∈ cs, d ∈ lowerChar c := by
  induction cs generalizing before with
  | nil => cases hd
  | cons c cs ih =>
    rw [lowerFrom, lowerAt, if_neg (hsigma c (by simp)), List.mem_append] at hd
    rcases hd with hhead | hrest
    · exact ⟨c, by simp, hhead⟩
    · obtain ⟨e, he, hlower⟩ := ih (fun e he => hsigma e (List.mem_cons_of_mem c he)) hrest
      exact ⟨e, List.mem_cons_of_mem c he, hlower⟩

/-- What the lower case of an ASCII text consists of. -/
theorem exists_of_mem_lowercase {s : String} (hs : ∀ c ∈ s.toList, c.toNat < 128) {d : Char}
    (hd : d ∈ (lowercase s).toList) : ∃ c ∈ s.toList, d ∈ lowerChar c := by
  rw [lowercase, String.toList_ofList] at hd
  have hsigma : ∀ c ∈ s.toList, c.toNat ≠ 0x3a3 := by
    intro c hc
    have hcode := hs c hc
    omega
  exact exists_of_mem_lowerFrom hsigma hd

/-- The lower case of an ASCII text has no second forms of letters. -/
theorem lowersBack_of_mem_lowercase {s : String} (hs : ∀ c ∈ s.toList, c.toNat < 128) :
    ∀ d ∈ (lowercase s).toList, LowersBack d := by
  intro d hd
  obtain ⟨c, hc, hlower⟩ := exists_of_mem_lowercase hs hd
  exact lowersBack_of_ascii (hs c hc) d hlower

/-- A text that is not empty has a lower case that is not empty. -/
theorem lowercase_ne_nil {s : String} (h : s ≠ "") : (lowercase s).toList ≠ [] := by
  rw [lowercase, String.toList_ofList, lowerChars]
  cases hs : s.toList with
  | nil => exact absurd (String.toList_eq_nil_iff.mp hs) h
  | cons c cs =>
    simp only [lowerFrom, lowerAt, lowerChar, ne_eq, List.append_eq_nil_iff]
    repeat' split
    all_goals simp

end CallGuard.Text
