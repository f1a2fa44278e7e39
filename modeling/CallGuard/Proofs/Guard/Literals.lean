import CallGuard.Proofs.Guard.Pass
import CallGuard.Proofs.Text.Folding

/-!
# Patterns without wildcards

A pattern without a star stands for one name, written in any case.  In a name of word characters it
occurs only as the whole name, so a group with such a pattern reports the calls of one name and no
others.  Two names count as one if they are the same up to case folding: they do if their lower cases
are equal and, as long as no letter has a second small form, only then.

Main results:

- Theorem {lit}`NamePattern.occursIn_lowercase_iff`: in a name of word characters, a pattern without a
  star occurs as the whole name.
- Theorem {lit}`sameText_lowercase_iff`: names that are the same up to folding.
- Theorem {lit}`Guard.reportsAt_iff`: when a call is reported for a group.
- Theorem {lit}`Guard.literal_pattern_reports_its_name`: the calls that are reported for a group with
  one pattern without a star.
- Theorem {lit}`Guard.literal_pattern_beyond_words`: names with other characters, and letters with
  several small forms.
-/

namespace CallGuard

open Text

/-! ## Identifiers -/

/-- The texts that can name a function: letters, digits, underscores and characters beyond ASCII, with
no digit in front. -/
def IsIdentifier (text : String) : Prop :=
  text ≠ "" ∧
    (∀ c ∈ text.toList, c.isAlphanum = true ∨ c = '_' ∨ 128 ≤ c.toNat) ∧
    text.toList.head?.any Char.isDigit = false

instance (text : String) : Decidable (IsIdentifier text) :=
  decidable_of_iff
    (text ≠ "" ∧
      text.toList.all (fun c => c.isAlphanum = true ∨ c = '_' ∨ 128 ≤ c.toNat) = true ∧
      text.toList.head?.any Char.isDigit = false)
    (by simp [IsIdentifier])

/-- An identifier has no star. -/
theorem IsIdentifier.hasWildcard_eq_false {p : NamePattern} (h : IsIdentifier p.text) :
    p.hasWildcard = false := by
  have hstar : '*' ∉ p.text.toList := by
    intro hmem
    exact absurd (h.2.1 '*' hmem) (by decide)
  simpa [NamePattern.hasWildcard] using hstar

/-- The lower case of an ASCII identifier consists of word characters. -/
theorem IsIdentifier.isWord_of_mem_lowercase {text : String} (h : IsIdentifier text)
    (hascii : ∀ c ∈ text.toList, c.toNat < 128) : ∀ d ∈ (lowercase text).toList, isWord d = true := by
  intro d hd
  obtain ⟨c, hc, hlower⟩ := exists_of_mem_lowercase hascii hd
  have hsmall : ∀ c : Char, c.toNat < 128 → isWord c = true → (lowerChar c).all isWord = true :=
    fun c hc => forall_of_toNat_lt (p := fun c => isWord c = true → (lowerChar c).all isWord = true)
      (by decide +kernel) hc
  have hword : isWord c = true := by
    have hcode := hascii c hc
    simp only [isWord, hcode, if_true, Bool.or_eq_true, beq_iff_eq]
    rcases h.2.1 c hc with hletter | hunderscore | hbeyond
    · exact .inl hletter
    · exact .inr hunderscore
    · omega
  exact List.all_eq_true.mp (hsmall c (hascii c hc) hword) d hlower

/-! ## Names up to case -/

/-- Equality of texts up to case is equality of their foldings. -/
theorem sameText_iff_map_fold_eq (text other : List Char) :
    SameText text other ↔ text.map fold = other.map fold := by
  rw [← List.forall₂_eq_eq_eq, List.forall₂_map_left_iff, List.forall₂_map_right_iff]
  rfl

/-- A text is the same, up to case, as every name with the same lower case. -/
theorem sameText_of_lowercase_eq {text name : String} (hfold : ∀ c ∈ text.toList, FoldsAsLower c)
    (h : lowercase name = lowercase text) : SameText text.toList (lowercase name).toList := by
  rw [sameText_iff_map_fold_eq, h, map_fold_lowercase hfold]

/-- Where no letter has a second small form, a text is the same, up to case, as the names with the
same lower case only. -/
theorem sameText_lowercase_iff {text name : String} (hfold : ∀ c ∈ text.toList, FoldsAsLower c)
    (htext : ∀ c ∈ (lowercase text).toList, LowersBack c)
    (hname : ∀ c ∈ (lowercase name).toList, LowersBack c) :
    SameText text.toList (lowercase name).toList ↔ lowercase name = lowercase text := by
  constructor
  · intro hsame
    rw [sameText_iff_map_fold_eq, ← map_fold_lowercase hfold] at hsame
    exact String.toList_injective (eq_of_map_fold_eq hname htext hsame.symm)
  · exact sameText_of_lowercase_eq hfold

/-- In a name of word characters, a pattern without a star occurs as the whole name. -/
theorem NamePattern.occursIn_lowercase_iff {p : NamePattern} (hstar : p.hasWildcard = false)
    {name : String} (hne : name ≠ "") (hword : ∀ c ∈ (lowercase name).toList, isWord c = true) :
    p.OccursIn (lowercase name).toList ↔ SameText p.text.toList (lowercase name).toList := by
  rw [p.occursIn_iff_spells (lowercase_ne_nil hne) hword, spells_iff_sameText hstar]

/-- A group with one pattern and no exceptions reports the names in which the pattern occurs. -/
theorem Group.reports_iff_occursIn {g : Group} {p : NamePattern} (hpatterns : g.patterns = [p])
    (hallow : g.allow = []) (name : String) :
    g.Reports name ↔ p.OccursIn (lowercase name).toList := by
  simp [Group.Reports, hpatterns, hallow]

namespace Guard

/-! ## Reports for a group -/

/-- A finding about the token at an index is reported for a group. -/
def ReportsAt (guard : Guard) (a : Analyzer) (file : String) (tokens : Tokens) (index : Nat)
    (g : Group) : Prop :=
  ∃ f ∈ guard.findings a file tokens, f.location.token = index ∧ f.group = g.id

instance (guard : Guard) (a : Analyzer) (file : String) (tokens : Tokens) (index : Nat)
    (g : Group) : Decidable (guard.ReportsAt a file tokens index g) :=
  inferInstanceAs (Decidable (∃ f ∈ guard.findings a file tokens, _))

/-- A bare call is reported for exactly the active groups that report the called name. -/
theorem reportsAt_iff {limit : String → Bool} {steps : List Step} {g : Group}
    (hactive : g ∈ (buildWithin limit steps).active) (a : Analyzer) (file : String) {tokens : Tokens}
    {index : Nat} {token : Token} (htoken : tokens[index]? = some token)
    (hcall : isBareCall tokens index = true) :
    (buildWithin limit steps).ReportsAt a file tokens index g ↔ g.Reports token.content := by
  unfold ReportsAt
  rw [findings_eq_flatMap]
  constructor
  · rintro ⟨f, hf, hindex, hgroup⟩
    obtain ⟨found, hfound, rfl⟩ := List.mem_map.mp hf
    obtain ⟨i, -, hfound⟩ := List.mem_flatMap.mp hfound
    obtain ⟨other, hother, -, k, hk, hreports, rfl⟩ :=
      (mem_inspect_buildWithin_iff limit steps file tokens i found).mp hfound
    simp only [Analyzer.adjust_location, Analyzer.adjust_group] at hindex hgroup
    have hi : i = index := hindex
    have hsame : k = g :=
      List.inj_on_of_nodup_map (nodup_ids_buildWithin limit steps) hk hactive hgroup
    subst hi hsame
    rw [htoken, Option.some_inj] at hother
    rw [hother]
    exact hreports
  · intro hreports
    have hfound := (mem_inspect_buildWithin_iff limit steps file tokens index _).mpr
      ⟨token, htoken, hcall, g, hactive, hreports, rfl⟩
    have hindex : index ∈ List.range tokens.size := by
      rw [List.mem_range]
      exact (Array.getElem?_eq_some_iff.mp htoken).1
    refine ⟨_, List.mem_map_of_mem (List.mem_flatMap.mpr ⟨index, hindex, hfound⟩), ?_⟩
    simp [Group.finding, Location.ofToken]

/-- A bare call is reported for a group with a single identifier as its pattern and no exceptions
exactly if the called name is the identifier up to case.  In ASCII this means that the two have the
same lower case.  Beyond ASCII it holds for names of word characters, if the lower case of the pattern
is folded as the pattern: then every name with the lower case of the pattern is reported, and where no
letter has a second small form nothing else is. -/
theorem literal_pattern_reports_its_name (limit : String → Bool) (steps : List Step) (a : Analyzer)
    (file : String) (tokens : Tokens) (index : Nat) (token : Token) (g : Group) (p : NamePattern)
    (hactive : g ∈ (buildWithin limit steps).active) (hpatterns : g.patterns = [p])
    (hallow : g.allow = []) (hpattern : IsIdentifier p.text)
    (htoken : tokens[index]? = some token) (hcall : isBareCall tokens index = true)
    (hname : IsIdentifier token.content) :
    ((∀ c ∈ p.text.toList ++ token.content.toList, c.toNat < 128) →
      ((buildWithin limit steps).ReportsAt a file tokens index g ↔
        lowercase token.content = lowercase p.text)) ∧
    ((∀ c ∈ (lowercase token.content).toList, isWord c = true) →
      (∀ c ∈ p.text.toList, FoldsAsLower c) →
      ((buildWithin limit steps).ReportsAt a file tokens index g ↔
        SameText p.text.toList (lowercase token.content).toList) ∧
      (lowercase token.content = lowercase p.text →
        (buildWithin limit steps).ReportsAt a file tokens index g) ∧
      ((∀ c ∈ (lowercase p.text).toList ++ (lowercase token.content).toList, LowersBack c) →
        ((buildWithin limit steps).ReportsAt a file tokens index g ↔
          lowercase token.content = lowercase p.text))) := by
  have hstar := hpattern.hasWildcard_eq_false
  have hreports : (∀ c ∈ (lowercase token.content).toList, isWord c = true) →
      ((buildWithin limit steps).ReportsAt a file tokens index g ↔
        SameText p.text.toList (lowercase token.content).toList) := by
    intro hword
    rw [reportsAt_iff hactive a file htoken hcall, Group.reports_iff_occursIn hpatterns hallow,
      NamePattern.occursIn_lowercase_iff hstar hname.1 hword]
  constructor
  · intro hascii
    have htext : ∀ c ∈ p.text.toList, c.toNat < 128 := fun c hc =>
      hascii c (List.mem_append_left _ hc)
    have hcontent : ∀ c ∈ token.content.toList, c.toNat < 128 := fun c hc =>
      hascii c (List.mem_append_right _ hc)
    rw [hreports (hname.isWord_of_mem_lowercase hcontent)]
    exact sameText_lowercase_iff (fun c hc => foldsAsLower_of_ascii (htext c hc))
      (lowersBack_of_mem_lowercase htext) (lowersBack_of_mem_lowercase hcontent)
  · intro hword hfold
    rw [hreports hword]
    refine ⟨Iff.rfl, sameText_of_lowercase_eq hfold, ?_⟩
    intro hback
    exact sameText_lowercase_iff hfold (fun c hc => hback c (List.mem_append_left _ hc))
      fun c hc => hback c (List.mem_append_right _ hc)

/-- The group with a single text as its pattern. -/
def onlyName (text : String) : Group :=
  .ofTexts "name" .error "%s() found" [text] [] none

/-- A call of a name. -/
def callOf (name : String) : Tokens :=
  #[⟨.identifier, name, 1, 1, 0⟩]

/-- The guard with a single text as its only pattern reports a call of a name. -/
def ReportsCall (text name : String) (a : Analyzer) : Prop :=
  (buildWithin (Group.withinLimit 1000) [.group (onlyName text)]).ReportsAt a "a.php" (callOf name) 0
    (onlyName text)

instance (text name : String) (a : Analyzer) : Decidable (ReportsCall text name a) :=
  inferInstanceAs (Decidable (ReportsAt _ _ _ _ _ _))

/-- A name with letters beyond ASCII is reported in any case, and a longer name is not. -/
theorem literal_pattern_reports_its_name_umlaut :
    IsIdentifier "Größe" ∧ IsIdentifier "GRÖßE" ∧ IsIdentifier "Größen" ∧
      ∃ a, Analyzer.build "/" dumpPlan = .ok a ∧ ReportsCall "Größe" "GRÖßE" a ∧
        ¬ ReportsCall "Größe" "Größen" a := by
  obtain ⟨a, hbuild⟩ : ∃ a, Analyzer.build "/" dumpPlan = .ok a := ⟨_, rfl⟩
  refine ⟨by decide +kernel, by decide +kernel, by decide +kernel, a, hbuild, ?_, ?_⟩
  · obtain ⟨-, hfound, -⟩ := (literal_pattern_reports_its_name (Group.withinLimit 1000)
      [.group (onlyName "Größe")] a "a.php" (callOf "GRÖßE") 0 _ (onlyName "Größe")
      ⟨"Größe", by decide⟩ (by decide +kernel) (by decide +kernel) (by decide +kernel)
      (by decide +kernel) rfl (by decide +kernel) (by decide +kernel)).2
      (List.all_eq_true.mp (by decide +kernel)) (forall_of_all (by decide +kernel))
    exact hfound (by decide +kernel)
  · obtain ⟨-, -, hexact⟩ := (literal_pattern_reports_its_name (Group.withinLimit 1000)
      [.group (onlyName "Größe")] a "a.php" (callOf "Größen") 0 _ (onlyName "Größe")
      ⟨"Größe", by decide⟩ (by decide +kernel) (by decide +kernel) (by decide +kernel)
      (by decide +kernel) rfl (by decide +kernel) (by decide +kernel)).2
      (List.all_eq_true.mp (by decide +kernel)) (forall_of_all (by decide +kernel))
    rw [ReportsCall, hexact (forall_of_all (by decide +kernel))]
    decide +kernel

/-- Beyond names of word characters, and beyond letters on which folding and lower case agree, equal
lower cases and reports are not the same: a currency sign is not found where it is called, a letter is
found beside one, a dotted capital I is not found where it is called, and an s is found in place of a
long s. -/
theorem literal_pattern_beyond_words :
    IsIdentifier "€" ∧ IsIdentifier "a" ∧ IsIdentifier "a€b" ∧ IsIdentifier "İ" ∧
      IsIdentifier "s" ∧ IsIdentifier "ſ" ∧
      ∃ a, Analyzer.build "/" dumpPlan = .ok a ∧
        ¬ ReportsCall "€" "€" a ∧
        (ReportsCall "a" "a€b" a ∧ lowercase "a€b" ≠ lowercase "a") ∧
        ¬ ReportsCall "İ" "İ" a ∧
        (ReportsCall "s" "ſ" a ∧ lowercase "ſ" ≠ lowercase "s") := by
  refine ⟨by decide +kernel, by decide +kernel, by decide +kernel, by decide +kernel,
    by decide +kernel, by decide +kernel, _, rfl, ?_⟩
  decide +kernel

end Guard

end CallGuard
