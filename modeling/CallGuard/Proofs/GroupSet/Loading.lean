import Mathlib.Data.List.Forall2
import CallGuard.GroupSet.Toml
import CallGuard.Proofs.Group.Identifiers
import CallGuard.Proofs.GroupSet.OrderedMap

/-!
# Loading groups

The entries of a document are checked one after the other, and the first one that is rejected decides
the error.  An entry is rejected if its identifier has a fault or if an entry before it has the same
identifier, where a fault counts first.  If no entry is rejected, every entry describes one group of
the set that is loaded, in the same order, and no group takes the place of another one.

Main results:

- Theorem {lit}`Group.checkId_eq_some_iff`: the fault of an identifier.
- Theorem {lit}`GroupEntry.rejectedAt_iff`: an entry is rejected as the check behind the entries before
  it says.
- Theorem {lit}`GroupEntry.forall_not_rejectedAt_iff`: when no entry is rejected.
- Theorem {lit}`GroupSet.loadFrom_cons`, {lit}`GroupSet.outcome_loadFrom`: how one more entry is
  loaded, and how loading ends.
- Theorem {lit}`GroupSet.load_all_or_first_rejection`: loading as a whole.
-/

namespace CallGuard

/-- A blank identifier counts as empty; every other one with a fault is invalid. -/
theorem Group.checkId_eq_some_iff (id : String) (fault : Fault) :
    checkId id = some fault ↔
      (∀ c ∈ id.toList, Text.isBlank c = true) ∧ fault = .empty ∨
        (∃ c ∈ id.toList, Text.isBlank c = false) ∧ (',' ∈ id.toList ∨ Text.trim id ≠ id) ∧
          fault = .invalid id := by
  have hblank : Text.trim id = "" ↔ ∀ c ∈ id.toList, Text.isBlank c = true := by
    rw [Text.trim, String.ofList_eq_empty_iff, Text.trimChars_eq_nil_iff]
  by_cases hempty : Text.trim id = ""
  · have hall := hblank.mp hempty
    have hnone : ¬∃ c ∈ id.toList, Text.isBlank c = false := by
      rintro ⟨c, hc, hfalse⟩
      rw [hall c hc] at hfalse
      cases hfalse
    have hcheck : checkId id = some .empty := by simp [checkId, hempty]
    simp only [hcheck, hnone, Option.some_inj, false_and, or_false]
    exact ⟨fun h => ⟨hall, h.symm⟩, fun h => h.2.symm⟩
  · have hsome : ∃ c ∈ id.toList, Text.isBlank c = false := by
      simpa using mt hblank.mpr hempty
    have hnot : ¬∀ c ∈ id.toList, Text.isBlank c = true := mt hblank.mpr hempty
    by_cases hfault : ',' ∈ id.toList ∨ Text.trim id ≠ id
    · have hcheck : checkId id = some (.invalid id) := by
        simpa [checkId, hempty, or_iff_not_imp_left] using hfault
      simp only [hcheck, hnot, hsome, hfault, Option.some_inj, false_and, true_and, false_or]
      exact eq_comm
    · have hcheck : checkId id = none := by simpa [checkId, hempty] using hfault
      simp [hcheck, hnot, hfault]

namespace GroupEntry

/-! ## Groups that entries describe -/

/-- An entry describes a group: the group has the name of the entry as its identifier, its message
and its documentation, the patterns that are not empty, in order, and the exceptions in lower case;
and it is a warning exactly if the entry says so. -/
structure Describes (e : GroupEntry) (g : Group) : Prop where
  id : g.id = e.name
  severity : g.severity = .warning ↔ e.severity = "warning"
  message : g.message = e.message
  patterns : g.patterns.map (·.text) = e.functions.filter (· ≠ "")
  allow : ∀ name, g.allows name = true ↔ ∃ exception ∈ e.allow, Text.lowercase exception = name
  doc : g.doc = e.doc

/-- The texts of patterns are those that are given, without the empty ones. -/
theorem map_text_filterMap_ofText? (texts : List String) :
    (texts.filterMap NamePattern.ofText?).map (·.text) = texts.filter (· ≠ "") := by
  induction texts with
  | nil => rfl
  | cons text texts ih =>
    by_cases hempty : text = ""
    · simpa [NamePattern.ofText?, hempty] using ih
    · simpa [NamePattern.ofText?, hempty] using ih

/-- An entry describes the group that is made from it. -/
theorem describes_toGroup (e : GroupEntry) : e.Describes e.toGroup where
  id := rfl
  severity := by simp [toGroup, Group.ofTexts, Severity.ofType]
  message := rfl
  patterns := map_text_filterMap_ofText? e.functions
  allow name := by simp [toGroup, Group.ofTexts, Group.allows]
  doc := rfl

/-! ## Rejected entries -/

/-- The entry at an index of a list is rejected with an error. -/
inductive RejectedAt (entries : List GroupEntry) (index : Nat) : LoadError → Prop where
  /-- Its name is blank. -/
  | blank {e : GroupEntry} (entry : entries[index]? = some e)
      (name : ∀ c ∈ e.name.toList, Text.isBlank c = true) :
      RejectedAt entries index (.invalid index .empty)
  /-- Its name is not blank, but it has a comma or white space at an end. -/
  | unfit {e : GroupEntry} (entry : entries[index]? = some e)
      (visible : ∃ c ∈ e.name.toList, Text.isBlank c = false)
      (name : ',' ∈ e.name.toList ∨ Text.trim e.name ≠ e.name) :
      RejectedAt entries index (.invalid index (.invalid e.name))
  /-- Its name has no fault, but an entry before it has the same name. -/
  | repeated {e : GroupEntry} (entry : entries[index]? = some e)
      (valid : Group.checkId e.name = none)
      (earlier : e.name ∈ (entries.take index).map (·.name)) :
      RejectedAt entries index (.duplicate index e.name)

/-- The error with which an entry behind others is rejected, if it is. -/
def rejection? (before : List GroupEntry) (e : GroupEntry) : Option LoadError :=
  match Group.checkId e.name with
  | some fault => some (.invalid before.length fault)
  | none =>
    if e.name ∈ before.map (·.name) then some (.duplicate before.length e.name) else none

/-- An entry is rejected as the check behind the entries before it says. -/
theorem rejectedAt_iff {entries : List GroupEntry} {index : Nat} {error : LoadError} :
    RejectedAt entries index error ↔
      ∃ e, entries[index]? = some e ∧ rejection? (entries.take index) e = some error := by
  have hlength : ∀ {e}, entries[index]? = some e → (entries.take index).length = index := by
    intro e he
    have hlt := (List.getElem?_eq_some_iff.mp he).1
    rw [List.length_take]
    omega
  constructor
  · intro h
    cases h with
    | @blank e he hname =>
      have hfault := (Group.checkId_eq_some_iff e.name .empty).mpr (.inl ⟨hname, rfl⟩)
      exact ⟨e, he, by simp only [rejection?, hfault, hlength he]⟩
    | @unfit e he hvisible hname =>
      have hfault := (Group.checkId_eq_some_iff e.name _).mpr (.inr ⟨hvisible, hname, rfl⟩)
      exact ⟨e, he, by simp only [rejection?, hfault, hlength he]⟩
    | @repeated e he hvalid hearlier =>
      exact ⟨e, he, by simp only [rejection?, hvalid, if_pos hearlier, hlength he]⟩
  · rintro ⟨e, he, herror⟩
    unfold rejection? at herror
    split at herror
    · rename_i fault hfault
      rw [hlength he, Option.some_inj] at herror
      subst herror
      rcases (Group.checkId_eq_some_iff e.name fault).mp hfault with ⟨hname, rfl⟩ | ⟨hvisible, hname, rfl⟩
      · exact .blank he hname
      · exact .unfit he hvisible hname
    · rename_i hvalid
      split at herror
      · rename_i hearlier
        rw [hlength he, Option.some_inj] at herror
        subst herror
        exact .repeated he hvalid hearlier
      · cases herror

/-- An entry is rejected with one error. -/
theorem RejectedAt.unique {entries : List GroupEntry} {index : Nat} {error other : LoadError}
    (h : RejectedAt entries index error) (hother : RejectedAt entries index other) :
    error = other := by
  obtain ⟨e, he, herror⟩ := rejectedAt_iff.mp h
  obtain ⟨d, hd, hsame⟩ := rejectedAt_iff.mp hother
  rw [he, Option.some_inj] at hd
  subst hd
  exact Option.some_inj.mp (herror.symm.trans hsame)

/-- The first entry that is rejected decides the error. -/
theorem RejectedAt.eq_of_first {entries : List GroupEntry} {index first : Nat}
    {error other : LoadError} (h : RejectedAt entries index error)
    (hfirst : ∀ earlier < index, ∀ error, ¬RejectedAt entries earlier error)
    (hother : RejectedAt entries first other)
    (hotherFirst : ∀ earlier < first, ∀ error, ¬RejectedAt entries earlier error) :
    error = other := by
  rcases Nat.lt_trichotomy index first with hlt | rfl | hlt
  · exact absurd h (hotherFirst index hlt error)
  · exact h.unique hother
  · exact absurd hother (hfirst first hlt other)

/-- An entry behind others is not rejected if its name has no fault and none of them has it. -/
theorem rejection?_eq_none_iff (before : List GroupEntry) (e : GroupEntry) :
    rejection? before e = none ↔
      Group.checkId e.name = none ∧ e.name ∉ before.map (·.name) := by
  unfold rejection?
  cases Group.checkId e.name with
  | some fault => simp
  | none => simp

/-- The members of a list are distinct if and only if none stands among those before it. -/
theorem nodup_iff_notMem_take (names : List String) :
    names.Nodup ↔ ∀ index name, names[index]? = some name → name ∉ names.take index := by
  rw [List.Nodup, List.pairwise_iff_getElem]
  constructor
  · intro h index name hname hmem
    obtain ⟨hindex, rfl⟩ := List.getElem?_eq_some_iff.mp hname
    obtain ⟨earlier, hearlier, heq⟩ := List.mem_take_iff_getElem.mp hmem
    exact h earlier index (by omega) hindex (by omega) heq
  · intro h earlier index hearlier hindex hlt heq
    apply h index names[index] (List.getElem?_eq_getElem hindex)
    exact List.mem_take_iff_getElem.mpr ⟨earlier, by omega, heq⟩

/-- No entry is rejected if and only if all names pass the check and are pairwise distinct. -/
theorem forall_not_rejectedAt_iff (entries : List GroupEntry) :
    (∀ index error, ¬RejectedAt entries index error) ↔
      (∀ e ∈ entries, Group.checkId e.name = none) ∧ (entries.map (·.name)).Nodup := by
  have hnone : (∀ index error, ¬RejectedAt entries index error) ↔
      ∀ index e, entries[index]? = some e → rejection? (entries.take index) e = none := by
    simp only [rejectedAt_iff, not_exists, not_and, Option.eq_none_iff_forall_ne_some, ne_eq]
    exact ⟨fun h index e he error => h index error e he,
      fun h index error e he => h index e he error⟩
  rw [hnone, nodup_iff_notMem_take]
  simp only [rejection?_eq_none_iff, List.mem_iff_getElem?, List.getElem?_map, List.map_take,
    Option.map_eq_some_iff]
  constructor
  · intro h
    constructor
    · rintro e ⟨index, he⟩
      exact (h index e he).1
    · rintro index name ⟨e, he, rfl⟩
      exact (h index e he).2
  · rintro ⟨hvalid, hdistinct⟩ index e he
    exact ⟨hvalid e ⟨index, he⟩, hdistinct index e.name ⟨e, he, rfl⟩⟩

end GroupEntry

namespace GroupSet

/-! ## Loading entry by entry -/

/-- A set holds the groups of entries in order, one for each. -/
def Holds (s : GroupSet) (entries : List GroupEntry) : Prop :=
  s.groups = entries.map (·.toGroup)

/-- A set that holds entries has the groups of their names. -/
theorem Holds.contains_iff {s : GroupSet} {entries : List GroupEntry} (h : s.Holds entries)
    (name : String) : s.contains name = true ↔ name ∈ entries.map (·.name) := by
  have hids : s.ids = entries.map (·.name) := by
    rw [ids, h, List.map_map]
    rfl
  rw [contains, ← mem_ids_iff, hids]

/-- An entry with a new name is added at the end. -/
theorem Holds.insert {s : GroupSet} {entries : List GroupEntry} (h : s.Holds entries)
    {e : GroupEntry} (hnew : e.name ∉ entries.map (·.name)) :
    (s.insert e.toGroup).Holds (entries ++ [e]) := by
  have hids : e.toGroup.id ∉ s.groups.map (·.id) := by
    rw [h, List.map_map]
    exact hnew
  rw [Holds, List.map_append, ← h]
  exact putGroup_of_notMem hids

/-- One more entry ends loading if it is rejected, and else its group is added. -/
theorem loadFrom_cons {s : GroupSet} {before : List GroupEntry} (hs : s.Holds before)
    (e : GroupEntry) (rest : List GroupEntry) :
    loadFrom before.length s (e :: rest) =
      match GroupEntry.rejection? before e with
      | some error => .error error
      | none => loadFrom (before.length + 1) (s.insert e.toGroup) rest := by
  rw [loadFrom, GroupEntry.rejection?]
  cases Group.checkId e.name with
  | some fault => rfl
  | none =>
    by_cases hearlier : e.name ∈ before.map (·.name)
    · have hcontains := (hs.contains_iff e.name).mpr hearlier
      simp only [hcontains, hearlier, if_true]
    · have hcontains : ¬s.contains e.name = true := mt (hs.contains_iff e.name).mp hearlier
      rw [if_neg hcontains]
      simp only [hearlier, if_false]

/-- How loading a list of entries may end. -/
inductive Outcome (entries : List GroupEntry) : Except LoadError GroupSet → Prop where
  /-- No entry is rejected, and the set holds all of them. -/
  | loaded {s : GroupSet} (holds : s.Holds entries)
      (accepted : ∀ index error, ¬GroupEntry.RejectedAt entries index error) :
      Outcome entries (.ok s)
  /-- An entry is rejected, and none before it is. -/
  | rejected (index : Nat) {error : LoadError} (rejected : GroupEntry.RejectedAt entries index error)
      (first : ∀ earlier < index, ∀ other, ¬GroupEntry.RejectedAt entries earlier other) :
      Outcome entries (.error error)

/-- Behind entries that are not rejected, loading goes on until an entry is rejected or none is left. -/
theorem outcome_loadFrom {s : GroupSet} {before rest : List GroupEntry} (hs : s.Holds before)
    (hbefore : ∀ index < before.length, ∀ error,
      ¬GroupEntry.RejectedAt (before ++ rest) index error) :
    Outcome (before ++ rest) (loadFrom before.length s rest) := by
  induction rest generalizing before s with
  | nil =>
    apply Outcome.loaded
    · rwa [List.append_nil]
    · intro index error hrejected
      obtain ⟨e, he, -⟩ := GroupEntry.rejectedAt_iff.mp hrejected
      rw [List.append_nil] at hbefore hrejected he
      exact hbefore index (List.getElem?_eq_some_iff.mp he).1 error hrejected
  | cons e rest ih =>
    have hentry : (before ++ e :: rest)[before.length]? = some e := by simp
    have htake : (before ++ e :: rest).take before.length = before := by simp
    rw [loadFrom_cons hs]
    cases hrejection : GroupEntry.rejection? before e with
    | some error =>
      have hrejected : GroupEntry.RejectedAt (before ++ e :: rest) before.length error :=
        GroupEntry.rejectedAt_iff.mpr ⟨e, hentry, by rwa [htake]⟩
      exact .rejected before.length hrejected hbefore
    | none =>
      have hnew := ((GroupEntry.rejection?_eq_none_iff before e).mp hrejection).2
      have hlist : before ++ e :: rest = before ++ [e] ++ rest := by simp
      have hlength : before.length + 1 = (before ++ [e]).length := by simp
      rw [hlist] at hbefore hentry htake ⊢
      simp only [hlength]
      apply ih (hs.insert hnew)
      -- The entries in front are now those before and the one that was accepted.
      intro index hindex error hrejected
      rw [List.length_append, List.length_singleton] at hindex
      rcases Nat.lt_succ_iff_lt_or_eq.mp hindex with hlt | rfl
      · exact hbefore index hlt error hrejected
      · obtain ⟨d, hd, herror⟩ := GroupEntry.rejectedAt_iff.mp hrejected
        rw [hentry, Option.some_inj] at hd
        subst hd
        rw [htake, hrejection] at herror
        cases herror

/-- How loading ends. -/
theorem outcome_load (entries : List GroupEntry) : Outcome entries (load entries) := by
  have hempty : (∅ : GroupSet).Holds [] := rfl
  exact @outcome_loadFrom ∅ [] entries hempty (by simp)

/-! ## Loading as a whole -/

/-- Loading a list of entries succeeds if and only if all names pass the check and are pairwise
distinct, and then the set has one group for each entry, in the same order, which the entry describes.
Otherwise it ends with the error of the first entry that is rejected: because its name is blank or has
another fault, or else because an entry before it has the same name.  The text of the error names the
entry by its index. -/
theorem load_all_or_first_rejection (entries : List GroupEntry) :
    ((∃ s, load entries = .ok s) ↔
      (∀ e ∈ entries, Group.checkId e.name = none) ∧ (entries.map (·.name)).Nodup) ∧
    (∀ s, load entries = .ok s → entries.Forall₂ GroupEntry.Describes s.groups) ∧
    (∀ error, load entries = .error error ↔
      ∃ index, GroupEntry.RejectedAt entries index error ∧
        ∀ earlier < index, ∀ other, ¬GroupEntry.RejectedAt entries earlier other) ∧
    ∀ error, load entries = .error error →
      (∃ index fault, error = .invalid index fault ∧
        error.message = "groups[" ++ toString index ++ "].name: " ++ fault.message) ∨
      ∃ index name, error = .duplicate index name ∧
        error.message = "groups[" ++ toString index ++ "]: duplicate group name `" ++ name ++ "`" := by
  have hend := outcome_load entries
  refine ⟨⟨?_, ?_⟩, ?_, ?_, ?_⟩
  · rintro ⟨s, hload⟩
    rw [hload] at hend
    cases hend with
    | loaded _ haccepted => exact (GroupEntry.forall_not_rejectedAt_iff entries).mp haccepted
  · intro hnames
    have haccepted := (GroupEntry.forall_not_rejectedAt_iff entries).mpr hnames
    cases hload : load entries with
    | ok s => exact ⟨s, rfl⟩
    | error error =>
      rw [hload] at hend
      cases hend with
      | rejected index hrejected _ => exact absurd hrejected (haccepted index error)
  · intro s hload
    rw [hload] at hend
    cases hend with
    | loaded hholds _ =>
      rw [hholds, List.forall₂_map_right_iff, List.forall₂_same]
      exact fun e _ => e.describes_toGroup
  · intro error
    constructor
    · intro hload
      rw [hload] at hend
      cases hend with
      | rejected index hrejected hfirst => exact ⟨index, hrejected, hfirst⟩
    · rintro ⟨index, hrejected, hfirst⟩
      cases hload : load entries with
      | ok s =>
        rw [hload] at hend
        cases hend with
        | loaded _ haccepted => exact absurd hrejected (haccepted index error)
      | error other =>
        rw [hload] at hend
        cases hend with
        | rejected first hother hotherFirst =>
          rw [hrejected.eq_of_first hfirst hother hotherFirst]
  · intro error hload
    rw [hload] at hend
    cases hend with
    | rejected index hrejected _ =>
      cases hrejected with
      | blank => exact .inl ⟨index, _, rfl, rfl⟩
      | unfit => exact .inl ⟨index, _, rfl, rfl⟩
      | repeated => exact .inr ⟨index, _, rfl, rfl⟩

/-- A repeated name is reported in front of a blank one that follows it. -/
example : load [⟨"a", "error", "%s", [], [], none⟩, ⟨"a", "warning", "%s", [], [], none⟩,
    ⟨" ", "error", "%s", [], [], none⟩] = .error (.duplicate 1 "a") := by decide +kernel

end GroupSet

end CallGuard
