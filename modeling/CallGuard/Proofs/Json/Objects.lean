import CallGuard.Json.Basic
import Mathlib.Data.List.Nodup
import Mathlib.Data.List.Perm.Basic

/-!
# JSON objects

An object is a row of fields, but the order of the fields means nothing.  So two values are the same
if one becomes the other when fields change places, on any level.  As long as the keys of an object
are distinct, looking up some keys one after the other finds exactly the fields with these keys.

Main results:

- Theorem {lit}`field?_eq_some_iff`: a field is found if and only if it is there.
- Theorem {lit}`pick_perm`: the fields that are found under some keys are those with these keys.
- Theorem {lit}`Reordered.outlines_perm`: what stays when fields change places.
-/

namespace CallGuard.Json

/-! ## Looking up -/

/-- Whether a value is null. -/
def isNull : Json → Bool
  | null => true
  | _ => false

/-- A value holds a text if and only if it is that text. -/
theorem text?_eq_some_iff (value : Json) (s : String) :
    value.text? = some s ↔ value = .string s := by
  cases value <;> simp [text?]

/-- A value holds a word if and only if it is that number, and the number is below the bound. -/
theorem word?_eq_some_iff (value : Json) (n : Nat) :
    value.word? = some n ↔ value = .natural n ∧ n < wordBound := by
  cases value with
  | natural m =>
    simp only [word?, natural.injEq]
    split
    · rename_i hm
      rw [Option.some_inj]
      exact ⟨fun h => ⟨h, h ▸ hm⟩, And.left⟩
    · rename_i hm
      simp only [reduceCtorEq, false_iff, not_and]
      rintro rfl
      exact hm
  | _ => simp [word?]

/-- Reading goes on from a text if and only if there is one. -/
theorem bind_text?_eq_some_iff {α : Type} {given : Option Json} {next : String → Option α}
    {a : α} :
    (given.bind fun value => value.text?.bind next) = some a ↔
      ∃ s, given = some (.string s) ∧ next s = some a := by
  simp [Option.bind_eq_some_iff, text?_eq_some_iff]

/-- Reading goes on from a word if and only if there is one. -/
theorem bind_word?_eq_some_iff {α : Type} {given : Option Json} {next : Nat → Option α} {a : α} :
    (given.bind fun value => value.word?.bind next) = some a ↔
      ∃ n, given = some (.natural n) ∧ n < wordBound ∧ next n = some a := by
  simp [Option.bind_eq_some_iff, word?_eq_some_iff, and_assoc]

/-- The keys of fields are distinct. -/
def DistinctKeys (fields : List (String × Json)) : Prop :=
  (fields.map (·.1)).Nodup

instance (fields : List (String × Json)) : Decidable (DistinctKeys fields) :=
  inferInstanceAs (Decidable (fields.map (·.1)).Nodup)

/-- A field is found if and only if it is there. -/
theorem field?_eq_some_iff {fields : List (String × Json)} (h : DistinctKeys fields) (key : String)
    (value : Json) : field? fields key = some value ↔ (key, value) ∈ fields := by
  unfold DistinctKeys at h
  induction fields with
  | nil => simp [field?]
  | cons entry rest ih =>
    obtain ⟨name, other⟩ := entry
    simp only [List.map_cons, List.nodup_cons] at h
    by_cases hname : name = key
    · have hrest : (key, value) ∉ rest := fun hmem =>
        h.1 (hname ▸ List.mem_map_of_mem (f := (·.1)) hmem)
      simp [field?, hname, hrest, eq_comm]
    · have hfield : field? ((name, other) :: rest) key = field? rest key := by
        simp [field?, hname]
      rw [hfield, ih h.2]
      simp [Ne.symm hname]

/-- Values with distinct names are fields with distinct keys. -/
theorem distinctKeys_zip {names : List String} (h : names.Nodup) (items : List Json) :
    DistinctKeys (names.zip items) := by
  unfold DistinctKeys
  induction names generalizing items with
  | nil => simp
  | cons name names ih =>
    cases items with
    | nil => simp
    | cons item items =>
      rw [List.nodup_cons] at h
      have hname : name ∉ (names.zip items).map (·.1) := by
        intro hmem
        obtain ⟨⟨key, value⟩, hfield, rfl⟩ := List.mem_map.mp hmem
        exact h.1 (List.of_mem_zip hfield).1
      simpa [hname] using ih h.2 items

/-- Fields whose values are changed, each depending on its key. -/
def mapFields (change : String → Json → Json) (fields : List (String × Json)) :
    List (String × Json) :=
  fields.map fun field => (field.1, change field.1 field.2)

/-- The keys stay. -/
theorem DistinctKeys.mapFields {fields : List (String × Json)} (h : DistinctKeys fields)
    (change : String → Json → Json) : DistinctKeys (mapFields change fields) := by
  unfold DistinctKeys Json.mapFields at *
  rwa [List.map_map]

/-- A changed field is found under its key. -/
theorem field?_mapFields (change : String → Json → Json) (fields : List (String × Json))
    (key : String) :
    field? (mapFields change fields) key = (field? fields key).map (change key) := by
  induction fields with
  | nil => rfl
  | cons entry rest ih =>
    unfold field? mapFields at *
    by_cases hname : entry.1 = key
    · simp [hname]
    · simpa [hname] using ih

/-! ## Picking fields -/

/-- The fields that are found under some keys, in the order of the keys. -/
def pick (names : List String) (fields : List (String × Json)) : List (String × Json) :=
  names.filterMap fun name => (field? fields name).map (name, ·)

/-- A field that is found is picked. -/
theorem pick_cons {name : String} {fields : List (String × Json)} {value : Json}
    (h : field? fields name = some value) (names : List String) :
    pick (name :: names) fields = (name, value) :: pick names fields := by
  simp [pick, h]

/-- Under one key, at most one field is picked. -/
theorem pick_singleton (name : String) (fields : List (String × Json)) :
    pick [name] fields = ((field? fields name).map (name, ·)).toList := by
  cases hfield : field? fields name <;> simp [pick, hfield]

/-- The fields with one of some keys, in their own order. -/
def restrictFields (names : List String) (fields : List (String × Json)) : List (String × Json) :=
  fields.filter fun field => field.1 ∈ names

/-- An object with only the fields with one of some keys. -/
def restrict (names : List String) : Json → Json
  | object fields => object (restrictFields names fields)
  | value => value

/-- The fields that are found under some keys are the fields with these keys. -/
theorem pick_perm {names : List String} (hnames : names.Nodup) {fields : List (String × Json)}
    (hkeys : DistinctKeys fields) : (pick names fields).Perm (restrictFields names fields) := by
  have hpick : (pick names fields).Nodup := by
    apply hnames.filterMap
    intro name other field hname hother
    simp only [Option.mem_def, Option.map_eq_some_iff] at hname hother
    obtain ⟨_, -, rfl⟩ := hname
    obtain ⟨_, -, heq⟩ := hother
    exact (congrArg Prod.fst heq).symm
  have hfields : (restrictFields names fields).Nodup := (List.Nodup.of_map _ hkeys).filter _
  rw [List.perm_ext_iff_of_nodup hpick hfields]
  rintro ⟨key, value⟩
  simp only [pick, restrictFields, List.mem_filterMap, List.mem_filter, Option.map_eq_some_iff,
    Prod.mk.injEq, decide_eq_true_eq]
  constructor
  · rintro ⟨name, hname, other, hfield, rfl, rfl⟩
    exact ⟨(field?_eq_some_iff hkeys name other).mp hfield, hname⟩
  · rintro ⟨hmem, hname⟩
    exact ⟨key, hname, value, (field?_eq_some_iff hkeys key value).mpr hmem, rfl, rfl⟩

/-! ## The order of fields -/

/-- A value becomes another one when fields change places, on any level. -/
inductive Reordered : Json → Json → Prop where
  | refl (value : Json) : Reordered value value
  /-- The fields of an object change places. -/
  | fields {fields others : List (String × Json)} (order : fields.Perm others) :
      Reordered (.object fields) (.object others)
  /-- Fields change places in the value of a field. -/
  | inField {value other : Json} (front : List (String × Json)) (key : String)
      (back : List (String × Json)) (inside : Reordered value other) :
      Reordered (.object (front ++ (key, value) :: back)) (.object (front ++ (key, other) :: back))
  /-- Fields change places in an item of an array. -/
  | inItem {value other : Json} (front back : List Json) (inside : Reordered value other) :
      Reordered (.array (front ++ value :: back)) (.array (front ++ other :: back))
  | trans {value middle other : Json} (first : Reordered value middle)
      (second : Reordered middle other) : Reordered value other

/-- What a value is apart from its fields: its text, and whether it is an array. -/
def outline (value : Json) : Option String × Bool :=
  (value.text?, value.items?.isSome)

/-- The outline of a value stays when fields change places. -/
theorem Reordered.outline_eq {value other : Json} (h : Reordered value other) :
    value.outline = other.outline := by
  induction h with
  | refl value => rfl
  | fields order => rfl
  | inField front key back inside _ => rfl
  | inItem front back inside _ => rfl
  | trans first second ihfirst ihsecond => exact ihfirst.trans ihsecond

/-- The outlines of the fields of an object, under their keys. -/
def outlines (value : Json) : List (String × Option String × Bool) :=
  value.fields.map fun field => (field.1, field.2.outline)

/-- The outlines of the fields of an object change places at most. -/
theorem Reordered.outlines_perm {value other : Json} (h : Reordered value other) :
    value.outlines.Perm other.outlines := by
  induction h with
  | refl value => exact .refl _
  | fields order => exact order.map _
  | inField front key back inside _ => simp [outlines, Json.fields, inside.outline_eq]
  | inItem front back inside _ => exact .refl _
  | trans first second ihfirst ihsecond => exact ihfirst.trans ihsecond

end CallGuard.Json
