import CallGuard.Group
import CallGuard.Proofs.Exclusion.Reading

/-!
# Identifiers that can be excluded

Identifiers are checked when groups are loaded, and lists of exclusions are read when a guard is
built.  The check accepts exactly the identifiers that such a list can name, so every group that is
loaded can be excluded.  A list of accepted identifiers can be written with any white space around
them and with blank entries anywhere, and it is read back as it was meant.

Main results:

- Theorem {lit}`Exclusion.mem_ids_parse_iff`, {lit}`Exclusion.ids_parse_intercalate`: what a text
  names, and what entries with commas between them name.
- Theorem {lit}`Group.checkId_eq_none_iff`: which identifiers are accepted.
- Theorem {lit}`Group.checkId_of_mem_parse`: an identifier that a text names is accepted.
- Theorem {lit}`Group.ids_parse_of_lists`: entries that list accepted identifiers name these.
- Theorem {lit}`Group.accepted_ids_can_be_excluded`: accepted identifiers and exclusions.
-/

namespace CallGuard

/-! ## What a text names -/

namespace Exclusion

/-- An identifier is named if it is one of those that are read. -/
theorem contains_iff (x : Exclusion) (id : String) : x.contains id = true ↔ id ∈ x.ids := by
  rw [contains, List.contains_iff_mem]

/-- A text names what is left of its pieces after trimming, unless nothing is left. -/
theorem mem_ids_parse_iff (value id : String) :
    id ∈ (parse value).ids ↔ ∃ piece ∈ Text.cut ',' value.toList,
      Text.trimChars piece ≠ [] ∧ String.ofList (Text.trimChars piece) = id := by
  simp [parse, and_assoc]

/-- A text without a comma that is not blank names itself without the white space at its ends. -/
theorem ids_parse_of_notMem {value : String} (hcomma : ',' ∉ value.toList)
    (hblank : Text.trim value ≠ "") : (parse value).ids = [Text.trim value] := by
  have htrim : Text.trimChars value.toList ≠ [] := mt String.ofList_eq_empty_iff.mpr hblank
  simp [parse, Text.cut_of_notMem hcomma, htrim, Text.trim]

/-- Entries with commas between them name what the entries name, one after the other. -/
theorem ids_parse_intercalate (entries : List String) :
    (parse (String.intercalate "," entries)).ids = entries.flatMap fun entry => (parse entry).ids := by
  induction entries with
  | nil => rfl
  | cons entry entries ih =>
    cases entries with
    | nil => simp
    | cons next entries =>
      rw [String.intercalate_cons_cons, ids_parse_append, ih]
      rfl

end Exclusion

/-! ## Accepted identifiers -/

namespace Group

/-- Accepted are the identifiers that are not empty, have no comma, and have no white space at an
end. -/
theorem checkId_eq_none_iff (id : String) :
    checkId id = none ↔ id ≠ "" ∧ ',' ∉ id.toList ∧ Text.trim id = id := by
  by_cases htrim : Text.trim id = id
  · rw [checkId, htrim]
    by_cases hempty : id = "" <;> simp [hempty]
  · have hfault : checkId id ≠ none := by
      unfold checkId
      split <;> simp [htrim]
    simp [htrim, hfault]

/-- An identifier that a text names is accepted. -/
theorem checkId_of_mem_parse {value id : String} (h : id ∈ (Exclusion.parse value).ids) :
    checkId id = none := by
  obtain ⟨piece, hpiece, hne, rfl⟩ := (Exclusion.mem_ids_parse_iff value id).mp h
  rw [checkId_eq_none_iff]
  refine ⟨mt String.ofList_eq_empty_iff.mp hne, ?_, ?_⟩
  · intro hmem
    rw [String.toList_ofList] at hmem
    exact Text.notMem_of_mem_cut hpiece (Text.mem_of_mem_trimChars hmem)
  · rw [Text.trim, String.toList_ofList, Text.trimChars_trimChars]

/-- An accepted identifier with white space around it names the identifier. -/
theorem ids_parse_padded {id before after : String} (hid : checkId id = none)
    (hbefore : ∀ c ∈ before.toList, Text.isBlank c = true)
    (hafter : ∀ c ∈ after.toList, Text.isBlank c = true) :
    (Exclusion.parse (before ++ id ++ after)).ids = [id] := by
  obtain ⟨hne, hcomma, htrim⟩ := (checkId_eq_none_iff id).mp hid
  have hpadded : Text.trim (before ++ id ++ after) = id := by
    rw [Text.trim_padded hbefore hafter, htrim]
  rw [Exclusion.ids_parse_of_notMem ?_ (by rwa [hpadded]), hpadded]
  simp [hcomma, Text.comma_notMem_of_blank hbefore, Text.comma_notMem_of_blank hafter]

/-- An accepted identifier names itself. -/
theorem contains_parse_of_checkId {id : String} (hid : checkId id = none) :
    (Exclusion.parse id).contains id = true := by
  have hids : (Exclusion.parse ("" ++ id ++ "")).ids = [id] :=
    ids_parse_padded hid (by simp) (by simp)
  rw [String.empty_append, String.append_empty] at hids
  rw [Exclusion.contains_iff, hids]
  exact List.mem_singleton_self id

/-- Entries that list identifiers: each identifier in order with white space around it, and blank
entries anywhere. -/
inductive Lists : List String → List String → Prop where
  /-- No entries list no identifiers. -/
  | nil : Lists [] []
  /-- A blank entry adds nothing. -/
  | blank {ids entries : List String} {entry : String}
      (hentry : ∀ c ∈ entry.toList, Text.isBlank c = true) (h : Lists ids entries) :
      Lists ids (entry :: entries)
  /-- An entry adds the identifier between its white space. -/
  | padded {ids entries : List String} {before id after : String}
      (hbefore : ∀ c ∈ before.toList, Text.isBlank c = true)
      (hafter : ∀ c ∈ after.toList, Text.isBlank c = true) (h : Lists ids entries) :
      Lists (id :: ids) ((before ++ id ++ after) :: entries)

/-- Entries that list accepted identifiers, with commas between them, name these identifiers. -/
theorem ids_parse_of_lists {ids entries : List String} (h : Lists ids entries)
    (hids : ∀ id ∈ ids, checkId id = none) :
    (Exclusion.parse (String.intercalate "," entries)).ids = ids := by
  rw [Exclusion.ids_parse_intercalate]
  induction h with
  | nil => rfl
  | @blank ids entries entry hentry _ ih =>
    have htrim : Text.trim entry = "" :=
      String.ofList_eq_empty_iff.mpr ((Text.trimChars_eq_nil_iff entry.toList).mpr hentry)
    rw [List.flatMap_cons, Exclusion.parse_of_trim_eq_empty htrim, ih hids]
    rfl
  | @padded ids entries before id after hbefore hafter _ ih =>
    have hrest := ih fun other hother => hids other (List.mem_cons_of_mem id hother)
    rw [List.flatMap_cons, ids_parse_padded (hids id (by simp)) hbefore hafter, hrest]
    rfl

/-- An identifier is accepted if and only if some list of exclusions names it, and if and only if it
names itself.  Accepted identifiers that are joined with commas, with any white space around them and
any blank entries, give a text that names exactly these identifiers. -/
theorem accepted_ids_can_be_excluded :
    (∀ id : String,
      (checkId id = none ↔ ∃ value, (Exclusion.parse value).contains id = true) ∧
        (checkId id = none ↔ (Exclusion.parse id).contains id = true)) ∧
      ∀ ids entries : List String, Lists ids entries → (∀ id ∈ ids, checkId id = none) →
        ∀ id, (Exclusion.parse (String.intercalate "," entries)).contains id = true ↔ id ∈ ids := by
  have hnamed : ∀ {value id : String}, (Exclusion.parse value).contains id = true →
      checkId id = none := by
    intro value id hcontains
    exact checkId_of_mem_parse ((Exclusion.contains_iff _ id).mp hcontains)
  refine ⟨fun id => ⟨⟨?_, ?_⟩, contains_parse_of_checkId, hnamed⟩, ?_⟩
  · intro hid
    exact ⟨id, contains_parse_of_checkId hid⟩
  · rintro ⟨value, hvalue⟩
    exact hnamed hvalue
  · intro ids entries hlists hids id
    rw [Exclusion.contains_iff, ids_parse_of_lists hlists hids]

/-- Two identifiers, with white space around them and blank entries before and between them. -/
theorem accepted_ids_can_be_excluded_padded :
    Lists ["debug", "user meta"] ["", " debug\t", "  ", "user meta\u00a0"] ∧
      (∀ id ∈ ["debug", "user meta"], checkId id = none) ∧
      ∀ id, (Exclusion.parse ", debug\t,  ,user meta\u00a0").contains id = true ↔
        id ∈ ["debug", "user meta"] := by
  have hblank : ∀ s : String, s.toList.all Text.isBlank = true →
      ∀ c ∈ s.toList, Text.isBlank c = true :=
    fun _ => List.all_eq_true.mp
  have hlast : Lists ["user meta"] ["user meta\u00a0"] :=
    @Lists.padded _ _ "" "user meta" "\u00a0" (hblank _ (by decide)) (hblank _ (by decide)) .nil
  have hlists : Lists ["debug", "user meta"] ["", " debug\t", "  ", "user meta\u00a0"] :=
    .blank (hblank _ (by decide)) (@Lists.padded _ _ " " "debug" "\t" (hblank _ (by decide))
      (hblank _ (by decide)) (.blank (hblank _ (by decide)) hlast))
  have hids : ∀ id ∈ ["debug", "user meta"], checkId id = none := by decide
  have htext : String.intercalate "," ["", " debug\t", "  ", "user meta\u00a0"] =
      ", debug\t,  ,user meta\u00a0" := by decide
  have hnamed := accepted_ids_can_be_excluded.2 _ _ hlists hids
  rw [htext] at hnamed
  exact ⟨hlists, hids, hnamed⟩

end Group

end CallGuard
