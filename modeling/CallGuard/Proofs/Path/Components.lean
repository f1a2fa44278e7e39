import Mathlib.Data.List.DropRight
import CallGuard.FileTree
import CallGuard.Proofs.Text.Cutting

/-!
# The components of paths

A path is a text, but what it leads to is decided by its components.  Going down from a path adds
components behind its own, however the path is spelled, and what is left of a path when some
components in front are taken away is a text with exactly the other components.

Main results:

- Theorem {lit}`components_join`: the components of a path below another one.
- Theorem {lit}`components_join_names`: those of a path that goes down through names.
- Theorem {lit}`components_render`: the text of parts has their components.
- Theorem {lit}`components_relativeTo`: the components of a relative path.
- Theorem {lit}`key_relativeTo_lt_iff`: relative paths are ordered as the paths are.
-/

namespace CallGuard

namespace Path

/-! ## Going down -/

/-- The component of a piece of a path behind a slash, if it counts. -/
def laterComponent (text : List Char) : Option Component :=
  (laterPart text).component

/-- The components of a path by its pieces. -/
theorem components_of_cut {path : String} {first : List Char} {rest : List (List Char)}
    (h : Text.cut '/' path.toList = first :: rest) :
    components path =
      (firstPart first (!rest.isEmpty)).component.toList ++ rest.filterMap laterComponent := by
  have hrest : (rest.map laterPart).filterMap (·.component) = rest.filterMap laterComponent := by
    rw [List.filterMap_map]
    rfl
  rw [components, parts, h]
  cases hfirst : (firstPart first (!rest.isEmpty)).component with
  | none => rw [List.filterMap_cons_none hfirst, hrest, Option.toList_none, List.nil_append]
  | some c => rw [List.filterMap_cons_some hfirst, hrest, Option.toList_some, List.singleton_append]

/-- What the first piece of a path is depends on what follows only if the piece is empty. -/
theorem firstPart_of_ne_nil {text : List Char} (h : text ≠ []) (more other : Bool) :
    firstPart text more = firstPart text other := by
  simp [firstPart, h]

/-- The components of a text that a slash follows. -/
def componentsBefore (front : List Char) : List Component :=
  match Text.cut '/' front with
  | [] => []
  | first :: rest => (firstPart first true).component.toList ++ rest.filterMap laterComponent

/-- The components of a path with a slash in it are those in front of it and those behind it. -/
theorem components_of_slash {path : String} {front behind : List Char}
    (hpath : path.toList = front ++ '/' :: behind) :
    components path = componentsBefore front ++ (Text.cut '/' behind).filterMap laterComponent := by
  obtain ⟨first, rest, hcut⟩ := List.exists_cons_of_ne_nil (Text.cut_ne_nil '/' front)
  have hpieces : Text.cut '/' path.toList = first :: (rest ++ Text.cut '/' behind) := by
    rw [hpath, Text.cut_append, hcut, List.cons_append]
  have hmore : (!(rest ++ Text.cut '/' behind).isEmpty) = true := by
    simp [Text.cut_ne_nil]
  rw [components_of_cut hpieces, hmore, List.filterMap_append, componentsBefore, hcut,
    ← List.append_assoc]

/-- A slash behind a path that is not empty does not change its components. -/
theorem componentsBefore_toList {path : String} (hpath : path ≠ "") :
    componentsBefore path.toList = components path := by
  obtain ⟨first, rest, hcut⟩ := List.exists_cons_of_ne_nil (Text.cut_ne_nil '/' path.toList)
  have hfirst : firstPart first (!rest.isEmpty) = firstPart first true := by
    by_cases hempty : first = []
    · -- A path that starts with an empty piece and is not empty itself goes on.
      have hrest : rest ≠ [] := by
        rintro rfl
        have hchars := Text.intercalate_cut '/' path.toList
        rw [hcut, hempty, List.intercalate_singleton] at hchars
        exact hpath (String.toList_eq_nil_iff.mp hchars.symm)
      rw [List.isEmpty_eq_false_iff.mpr hrest, Bool.not_false]
    · exact firstPart_of_ne_nil hempty _ _
  rw [components_of_cut hcut, componentsBefore, hcut, hfirst]

/-- The components of a path below another one are those of that one and those of what is added,
where a dot in front does not count any more. -/
theorem components_join {base path : String} (hbase : base ≠ "") (hpath : isAbsolute path = false) :
    components (join base path) =
      components base ++ (Text.cut '/' path.toList).filterMap laterComponent := by
  rw [join, hpath, if_neg Bool.false_ne_true, if_neg hbase]
  split
  · rename_i hlast
    obtain ⟨front, hfront⟩ := List.getLast?_eq_some_iff.mp hlast
    have hjoined : (base ++ path).toList = front ++ '/' :: path.toList := by
      rw [String.toList_append, hfront, List.append_assoc, List.singleton_append]
    have hempty : (Text.cut '/' []).filterMap laterComponent = [] := rfl
    rw [components_of_slash hjoined, components_of_slash hfront, hempty, List.append_nil]
  · have hjoined : (base ++ "/" ++ path).toList = base.toList ++ '/' :: path.toList := by
      rw [String.toList_append, String.toList_append, List.append_assoc]
      rfl
    rw [components_of_slash hjoined, componentsBefore_toList hbase]

/-- What a name is not. -/
theorem isName_iff (name : String) :
    isName name = true ↔ name ≠ "" ∧ name ≠ "." ∧ name ≠ ".." ∧ '/' ∉ name.toList := by
  simp [isName, and_assoc]

/-- A name is the component that it spells. -/
theorem laterComponent_of_isName {name : String} (h : isName name = true) :
    laterComponent name.toList = some (.name name) := by
  obtain ⟨hempty, hdot, hdots, -⟩ := (isName_iff name).mp h
  have hne : ∀ {other : String}, name ≠ other → name.toList ≠ other.toList := fun hother heq =>
    hother (String.toList_inj.mp heq)
  have hfirst : ¬(name.toList = [] ∨ name.toList = ['.']) := not_or.mpr ⟨hne hempty, hne hdot⟩
  have hsecond : name.toList ≠ ['.', '.'] := hne hdots
  rw [laterComponent, laterPart, if_neg hfirst, if_neg hsecond, String.ofList_toList]

/-- The pieces of a path that is put together from names. -/
theorem cut_intercalate_names {names : List String} (hne : names ≠ [])
    (hnames : ∀ name ∈ names, isName name = true) :
    Text.cut '/' (String.intercalate "/" names).toList = names.map String.toList := by
  have hslash : ∀ piece ∈ names.map String.toList, '/' ∉ piece := by
    intro piece hpiece
    obtain ⟨name, hname, rfl⟩ := List.mem_map.mp hpiece
    exact ((isName_iff name).mp (hnames name hname)).2.2.2
  rw [String.toList_intercalate]
  exact Text.cut_intercalate (by simpa using hne) hslash

/-- A path that is put together from names is relative. -/
theorem isAbsolute_intercalate_names {names : List String} (hne : names ≠ [])
    (hnames : ∀ name ∈ names, isName name = true) :
    isAbsolute (String.intercalate "/" names) = false := by
  rw [isAbsolute, decide_eq_false_iff_not]
  intro hhead
  obtain ⟨cs, hchars⟩ := List.head?_eq_some_iff.mp hhead
  have hcut := cut_intercalate_names hne hnames
  obtain ⟨name, rest, rfl⟩ := List.exists_cons_of_ne_nil hne
  rw [hchars, Text.cut, if_pos rfl, List.map_cons, List.cons.injEq] at hcut
  -- The piece in front of the first slash would be a name without a character.
  have hempty : name = "" := String.toList_eq_nil_iff.mp hcut.1.symm
  exact ((isName_iff name).mp (hnames name (by simp))).1 hempty

/-- The components of a path that goes down from another one through names. -/
theorem components_join_names {base : String} {names : List String} (hbase : base ≠ "")
    (hne : names ≠ []) (hnames : ∀ name ∈ names, isName name = true) :
    components (join base (String.intercalate "/" names)) = components base ++ names.map .name := by
  rw [components_join hbase (isAbsolute_intercalate_names hne hnames),
    cut_intercalate_names hne hnames, List.filterMap_map]
  congr 1
  apply List.filterMap_eq_map_iff_forall_eq_some.mpr
  intro name hname
  exact laterComponent_of_isName (hnames name hname)

/-! ## Parts -/

/-- The components of parts. -/
def componentsOf (parts : List Part) : List Component :=
  parts.filterMap (·.component)

/-- The components of two rows of parts. -/
theorem componentsOf_append (front rest : List Part) :
    componentsOf (front ++ rest) = componentsOf front ++ componentsOf rest :=
  List.filterMap_append

/-- A part that counts comes first. -/
theorem componentsOf_cons_some {part : Part} {c : Component} (h : part.component = some c)
    (rest : List Part) : componentsOf (part :: rest) = c :: componentsOf rest :=
  List.filterMap_cons_some h

/-- A part that does not count makes no difference. -/
theorem componentsOf_cons_none {part : Part} (h : part.component = none) (rest : List Part) :
    componentsOf (part :: rest) = componentsOf rest :=
  List.filterMap_cons_none h

/-- A part stands behind a slash, as it is read from a text. -/
def Part.IsLater (p : Part) : Prop :=
  '/' ∉ p.text ∧ p = laterPart p.text

/-- Parts stand in a row as they are read from a text: all but the first stand behind a slash, and
so does the first, unless it starts the text. -/
def AreRead : List Part → Prop
  | [] => True
  | first :: rest =>
    (first.IsLater ∨ '/' ∉ first.text ∧ ∃ more, first = firstPart first.text more) ∧
      ∀ p ∈ rest, p.IsLater

/-- A part behind a slash keeps its text. -/
@[simp]
theorem laterPart_text (text : List Char) : (laterPart text).text = text := by
  unfold laterPart
  split
  · rfl
  · split <;> rfl

/-- The first part of a path keeps its text. -/
@[simp]
theorem firstPart_text (text : List Char) (more : Bool) : (firstPart text more).text = text := by
  unfold firstPart
  split
  · rfl
  · split
    · rfl
    · exact laterPart_text text

/-- The parts of a path are read from it. -/
theorem areRead_parts (path : String) : AreRead (parts path) := by
  obtain ⟨first, rest, hcut⟩ := List.exists_cons_of_ne_nil (Text.cut_ne_nil '/' path.toList)
  have hslash : ∀ piece ∈ first :: rest, '/' ∉ piece := fun piece hpiece =>
    Text.notMem_of_mem_cut (hcut ▸ hpiece)
  rw [parts, hcut]
  refine ⟨.inr ?_, ?_⟩
  · rw [firstPart_text]
    exact ⟨hslash first (by simp), !rest.isEmpty, rfl⟩
  · intro p hp
    obtain ⟨text, htext, rfl⟩ := List.mem_map.mp hp
    rw [Part.IsLater, laterPart_text]
    exact ⟨hslash text (List.mem_cons_of_mem first htext), rfl⟩

/-- What is left of parts when some in front are dropped is still in a row. -/
theorem AreRead.of_append_right {front rest : List Part} (h : AreRead (front ++ rest)) :
    AreRead rest := by
  cases front with
  | nil => exact h
  | cons p front =>
    cases rest with
    | nil => trivial
    | cons first rest =>
      have hlater := h.2
      refine ⟨.inl (hlater first (by simp)), ?_⟩
      intro q hq
      exact hlater q (by simp [hq])

/-- What is left of parts when some at the end are dropped is still in a row. -/
theorem AreRead.of_append_left {front rest : List Part} (h : AreRead (front ++ rest)) :
    AreRead front := by
  cases front with
  | nil => trivial
  | cons first front =>
    refine ⟨h.1, ?_⟩
    intro p hp
    exact h.2 p (List.mem_append_left rest hp)

/-- A part that counts is found again when it starts a text, unless it is the root and stands
alone. -/
theorem firstPart_component {first : Part} {c : Component} {more : Bool}
    (hread : first.IsLater ∨ '/' ∉ first.text ∧ ∃ other, first = firstPart first.text other)
    (hc : first.component = some c) (hroot : c = .root → more = true) :
    (firstPart first.text more).component = some c := by
  by_cases hempty : first.text = []
  · rcases hread with ⟨-, hlater⟩ | ⟨-, other, hfirst⟩
    · rw [hlater, hempty] at hc
      cases hc
    · rw [hfirst, hempty] at hc
      cases other with
      | false => cases hc
      | true =>
        have hcroot : c = .root := (Option.some.inj hc).symm
        rw [hempty, hroot hcroot, hcroot]
        rfl
  · rcases hread with ⟨-, hlater⟩ | ⟨-, other, hfirst⟩
    · by_cases hdot : first.text = ['.']
      · rw [hlater, hdot] at hc
        cases hc
      · rw [firstPart, if_neg hempty, if_neg hdot, ← hlater, hc]
    · rw [firstPart_of_ne_nil hempty more other, ← hfirst, hc]

/-- Parts that start with one that counts are found again in their text, unless the root stands
alone. -/
theorem components_ofList_intercalate {first : Part} {rest : List Part} {c : Component}
    (hread : AreRead (first :: rest)) (hc : first.component = some c)
    (hroot : c = .root → rest ≠ []) :
    components (String.ofList (List.intercalate ['/'] ((first :: rest).map (·.text)))) =
      componentsOf (first :: rest) := by
  have hslash : ∀ piece ∈ (first :: rest).map (·.text), '/' ∉ piece := by
    intro piece hpiece
    obtain ⟨p, hp, rfl⟩ := List.mem_map.mp hpiece
    rcases List.mem_cons.mp hp with rfl | hrest
    · exact hread.1.elim And.left And.left
    · exact (hread.2 p hrest).1
  have hcut : Text.cut '/'
      (String.ofList (List.intercalate ['/'] ((first :: rest).map (·.text)))).toList =
        first.text :: rest.map (·.text) := by
    rw [String.toList_ofList]
    exact Text.cut_intercalate (by simp) hslash
  have hfirst : (firstPart first.text (!(rest.map (·.text)).isEmpty)).component = some c := by
    apply firstPart_component hread.1 hc
    intro hcroot
    simpa using hroot hcroot
  have hrest : (rest.map (·.text)).filterMap laterComponent = componentsOf rest := by
    rw [List.filterMap_map]
    apply List.filterMap_congr
    intro p hp
    rw [Function.comp_apply, laterComponent, ← (hread.2 p hp).2]
  rw [components_of_cut hcut, hfirst, hrest, componentsOf_cons_some hc, Option.toList_some,
    List.singleton_append]

/-- Parts without those at the two ends that do not count. -/
def trimmed (parts : List Part) : List Part :=
  (parts.dropWhile (·.component.isNone)).rdropWhile (·.component.isNone)

/-- Parts that do not count have no components. -/
theorem componentsOf_eq_nil {parts : List Part} (h : ∀ p ∈ parts, p.component.isNone = true) :
    componentsOf parts = [] := by
  rw [componentsOf, List.filterMap_eq_nil_iff]
  intro p hp
  exact Option.isNone_iff_eq_none.mp (h p hp)

/-- What is left out at the two ends has no components. -/
theorem exists_eq_append_trimmed (parts : List Part) :
    ∃ front back, parts = front ++ (trimmed parts ++ back) ∧ componentsOf front = [] ∧
      componentsOf back = [] := by
  refine ⟨parts.takeWhile (·.component.isNone),
    (parts.dropWhile (·.component.isNone)).rtakeWhile (·.component.isNone), ?_, ?_, ?_⟩
  · rw [trimmed, List.rdropWhile_append_rtakeWhile, List.takeWhile_append_dropWhile]
  · exact componentsOf_eq_nil fun p hp =>
      List.mem_takeWhile_imp (p := fun p : Part => p.component.isNone) hp
  · exact componentsOf_eq_nil fun p hp =>
      List.mem_rtakeWhile_imp (p := fun p : Part => p.component.isNone) hp

/-- The first of the parts that are left counts. -/
theorem component_of_trimmed_eq_cons {parts rest : List Part} {first : Part}
    (h : trimmed parts = first :: rest) : ∃ c, first.component = some c := by
  obtain ⟨back, hback⟩ := List.rdropWhile_prefix (·.component.isNone)
    (parts.dropWhile (·.component.isNone))
  rw [← trimmed, h, List.cons_append] at hback
  have hfirst := List.head?_dropWhile_not (·.component.isNone) parts
  rw [← hback, List.head?_cons] at hfirst
  exact Option.isSome_iff_exists.mp (by simpa using hfirst)

/-- The text of parts has their components. -/
theorem components_render {parts : List Part} (h : AreRead parts) :
    components (render parts) = componentsOf parts := by
  obtain ⟨front, back, hsplit, hfront, hback⟩ := exists_eq_append_trimmed parts
  have hread : AreRead (trimmed parts) := by
    rw [hsplit] at h
    exact h.of_append_right.of_append_left
  have hcomponents : componentsOf parts = componentsOf (trimmed parts) := by
    conv => lhs; rw [hsplit]
    rw [componentsOf_append, componentsOf_append, hfront, hback, List.nil_append, List.append_nil]
  have htrim : ((parts.dropWhile (·.component.isNone)).reverse.dropWhile
      (·.component.isNone)).reverse = trimmed parts := rfl
  rw [hcomponents, render, htrim]
  split
  · rename_i hroot
    rw [hroot]
    rfl
  · rename_i hroot
    cases htrimmed : trimmed parts with
    | nil => rfl
    | cons first rest =>
      obtain ⟨c, hc⟩ := component_of_trimmed_eq_cons htrimmed
      rw [htrimmed] at hread
      apply components_ofList_intercalate hread hc
      rintro rfl rfl
      exact hroot first.text (by rw [htrimmed, ← hc])

/-! ## Relative paths -/

/-- Parts that have some components in front are split behind these. -/
theorem dropComponents_eq_some {parts : List Part} {base more : List Component}
    (h : componentsOf parts = base ++ more) :
    ∃ front rest, parts = front ++ rest ∧ dropComponents parts base = some rest ∧
      componentsOf rest = more := by
  induction parts generalizing base with
  | nil =>
    obtain ⟨rfl, rfl⟩ := List.append_eq_nil_iff.mp h.symm
    exact ⟨[], [], rfl, rfl, rfl⟩
  | cons part parts ih =>
    cases base with
    | nil => exact ⟨[], part :: parts, rfl, rfl, h⟩
    | cons c base =>
      cases hpart : part.component with
      | none =>
        rw [componentsOf_cons_none hpart] at h
        obtain ⟨front, rest, hsplit, hdrop, hrest⟩ := ih h
        refine ⟨part :: front, rest, ?_, ?_, hrest⟩
        · rw [hsplit, List.cons_append]
        · rw [dropComponents, hpart]
          exact hdrop
      | some d =>
        rw [componentsOf_cons_some hpart, List.cons_append, List.cons.injEq] at h
        obtain ⟨front, rest, hsplit, hdrop, hrest⟩ := ih h.2
        refine ⟨part :: front, rest, ?_, ?_, hrest⟩
        · rw [hsplit, List.cons_append]
        · rw [dropComponents, hpart]
          simpa [h.1] using hdrop

/-- A path relative to components that it starts with has the other components. -/
theorem components_relativeTo {path : String} {base more : List Component}
    (h : components path = base ++ more) : components (relativeTo base path) = more := by
  obtain ⟨front, rest, hparts, hdrop, hrest⟩ := dropComponents_eq_some h
  have hread : AreRead rest := by
    have hall := areRead_parts path
    rw [hparts] at hall
    exact hall.of_append_right
  rw [relativeTo, hdrop]
  exact (components_render hread).trans hrest

/-! ## The order of paths -/

/-- Different components have different keys. -/
theorem Component.key_injective : Function.Injective Component.key := by
  intro c d h
  have hhead : c.key.toList.head? = d.key.toList.head? := by rw [h]
  cases c <;> cases d <;> simp [Component.key, String.toList_append] at hhead h ⊢
  exact h

/-- Paths with the same key have the same components. -/
theorem key_inj {p q : String} : key p = key q ↔ components p = components q :=
  (List.map_injective_iff.mpr Component.key_injective).eq_iff

/-- What two lists have in common in front makes no difference to their order. -/
theorem append_lt_append_iff (common xs ys : List String) :
    common ++ xs < common ++ ys ↔ xs < ys := by
  induction common with
  | nil => rfl
  | cons x common ih => rw [List.cons_append, List.cons_append, List.cons_lt_cons_self, ih]

/-- Below the same components, relative paths are ordered as the paths are. -/
theorem key_relativeTo_lt_iff {p q : String} {base more other : List Component}
    (hp : components p = base ++ more) (hq : components q = base ++ other) :
    key (relativeTo base p) < key (relativeTo base q) ↔ key p < key q := by
  rw [key, key, components_relativeTo hp, components_relativeTo hq, key, key, hp, hq,
    List.map_append, List.map_append, append_lt_append_iff]

end Path

end CallGuard
