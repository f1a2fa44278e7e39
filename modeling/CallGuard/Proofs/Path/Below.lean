import CallGuard.Proofs.Path.Components

/-!
# Paths below a root

A path below a root consists of the text of the root, a slash, and the rest of the path.  What is
reported about a file is decided by the rest: the extension of the file, and its path relative to the
root, which is the rest again, whatever the root is called and however it is spelled.

Main results:

- Theorem {lit}`toList_join`: the text of a path below a root.
- Theorem {lit}`name_mem_components_iff`: the folders on the way to a root are pieces of its text.
- Theorem {lit}`relativeTo_join_names`: a path that goes down from a root through names is these names
  again, relative to the root.
- Theorem {lit}`extensionOf_join_names`: its extension is that of the last name.
-/

namespace CallGuard.Path

/-! ## The text of a root -/

/-- The text of a root in front of the slash behind which the paths below it go on. -/
def front (root : String) : List Char :=
  if root.toList.getLast? = some '/' then root.toList.dropLast else root.toList

/-- A path below a root is its text, a slash and the rest of the path. -/
theorem toList_join {root path : String} (hroot : root ≠ "") (hpath : isAbsolute path = false) :
    (join root path).toList = front root ++ '/' :: path.toList := by
  rw [join, hpath, if_neg Bool.false_ne_true, if_neg hroot, front]
  by_cases hlast : root.toList.getLast? = some '/'
  · obtain ⟨init, hinit⟩ := List.getLast?_eq_some_iff.mp hlast
    rw [if_pos hlast, if_pos hlast, String.toList_append, hinit, List.dropLast_concat,
      List.append_assoc, List.singleton_append]
  · rw [if_neg hlast, if_neg hlast, String.toList_append, String.toList_append, List.append_assoc]
    rfl

/-- A root has the components of the text in front of its last slash. -/
theorem componentsBefore_front {root : String} (hroot : root ≠ "") :
    componentsBefore (front root) = components root := by
  rw [front]
  by_cases hlast : root.toList.getLast? = some '/'
  · obtain ⟨init, hinit⟩ := List.getLast?_eq_some_iff.mp hlast
    rw [if_pos hlast, hinit, List.dropLast_concat, components_of_slash hinit]
    exact (List.append_nil _).symm
  · rw [if_neg hlast, componentsBefore_toList hroot]

/-- The text of an absolute root starts with an empty piece. -/
theorem exists_cut_front {root : String} (hroot : isAbsolute root = true) :
    ∃ pieces, Text.cut '/' (front root) = [] :: pieces := by
  rw [isAbsolute, decide_eq_true_eq] at hroot
  obtain ⟨rest, hrest⟩ := List.head?_eq_some_iff.mp hroot
  rw [front, hrest]
  cases rest with
  | nil => exact ⟨[], rfl⟩
  | cons c rest =>
    split
    · exact ⟨_, by rw [List.dropLast_cons_cons, Text.cut, if_pos rfl]⟩
    · exact ⟨_, by rw [Text.cut, if_pos rfl]⟩

/-- A folder of some name is on the way to an absolute root if the name is a piece of its text. -/
theorem name_mem_components_iff {root name : String} (hroot : isAbsolute root = true)
    (hname : isName name = true) :
    .name name ∈ components root ↔ name.toList ∈ Text.cut '/' (front root) := by
  have hne : root ≠ "" := by
    rintro rfl
    cases hroot
  have hempty : name.toList ≠ [] := fun h =>
    ((isName_iff name).mp hname).1 (String.toList_eq_nil_iff.mp h)
  have hlater : ∀ piece, laterComponent piece = some (.name name) ↔ piece = name.toList := by
    intro piece
    constructor
    · intro h
      rw [laterComponent, laterPart] at h
      split at h
      · cases h
      · split at h
        · cases h
        · rw [Option.some_inj, Component.name.injEq] at h
          rw [← h, String.toList_ofList]
    · rintro rfl
      exact laterComponent_of_isName hname
  obtain ⟨pieces, hcut⟩ := exists_cut_front hroot
  rw [← componentsBefore_front hne, componentsBefore, hcut]
  simp [firstPart, hlater, hempty]

/-! ## Going down and back -/

/-- The parts of a text that a slash follows. -/
def partsBefore (front : List Char) : List Part :=
  match Text.cut '/' front with
  | [] => []
  | first :: rest => firstPart first true :: rest.map laterPart

/-- They have the components of the text. -/
theorem componentsOf_partsBefore (front : List Char) :
    componentsOf (partsBefore front) = componentsBefore front := by
  obtain ⟨first, rest, hcut⟩ := List.exists_cons_of_ne_nil (Text.cut_ne_nil '/' front)
  rw [partsBefore, componentsBefore, hcut]
  cases hfirst : (firstPart first true).component with
  | none =>
    simp only [componentsOf_cons_none hfirst, hfirst, Option.toList_none, List.nil_append]
    rw [componentsOf, List.filterMap_map]
    rfl
  | some c =>
    simp only [componentsOf_cons_some hfirst, hfirst, Option.toList_some, List.singleton_append]
    rw [componentsOf, List.filterMap_map]
    rfl

/-- The parts of a path with a slash in it are those in front of it and those behind it. -/
theorem parts_of_slash {path : String} {front behind : List Char}
    (hpath : path.toList = front ++ '/' :: behind) :
    parts path = partsBefore front ++ (Text.cut '/' behind).map laterPart := by
  obtain ⟨first, rest, hcut⟩ := List.exists_cons_of_ne_nil (Text.cut_ne_nil '/' front)
  have hpieces : Text.cut '/' path.toList = first :: (rest ++ Text.cut '/' behind) := by
    rw [hpath, Text.cut_append, hcut, List.cons_append]
  have hmore : (!(rest ++ Text.cut '/' behind).isEmpty) = true := by
    simp [Text.cut_ne_nil]
  rw [parts, hpieces, partsBefore, hcut]
  simp only [hmore, List.map_append, List.cons_append]

/-- Of parts whose components are dropped, none is left that counts. -/
theorem dropComponents_append (front rest : List Part) :
    ∃ skipped, componentsOf skipped = [] ∧
      dropComponents (front ++ rest) (componentsOf front) = some (skipped ++ rest) := by
  induction front with
  | nil => exact ⟨[], rfl, by cases rest <;> rfl⟩
  | cons part front ih =>
    cases hpart : part.component with
    | none =>
      rw [componentsOf_cons_none hpart]
      cases hfront : componentsOf front with
      | nil => exact ⟨part :: front, by rw [componentsOf_cons_none hpart, hfront], rfl⟩
      | cons c cs =>
        rw [hfront] at ih
        rw [List.cons_append, dropComponents, hpart]
        exact ih
    | some d =>
      rw [componentsOf_cons_some hpart, List.cons_append, dropComponents, hpart]
      simpa using ih

/-- The text of names, with parts in front that do not count. -/
theorem render_names {skipped : List Part} (hskipped : componentsOf skipped = [])
    {names : List String} (hnames : ∀ name ∈ names, isName name = true) :
    render (skipped ++ names.map fun name => laterPart name.toList) =
      String.intercalate "/" names := by
  have hnone : ∀ p ∈ skipped, p.component.isNone = true := fun p hp =>
    Option.isNone_iff_eq_none.mpr (List.filterMap_eq_nil_iff.mp hskipped p hp)
  have hname : ∀ p ∈ names.map fun name => laterPart name.toList,
      ∃ name, p.component = some (.name name) := by
    intro p hp
    obtain ⟨name, hmem, rfl⟩ := List.mem_map.mp hp
    exact ⟨name, laterComponent_of_isName (hnames name hmem)⟩
  have hkept : ∀ ps : List Part, (∀ p ∈ ps, ∃ name, p.component = some (.name name)) →
      ps.dropWhile (·.component.isNone) = ps := by
    intro ps hps
    cases ps with
    | nil => rfl
    | cons p ps =>
      obtain ⟨name, hp⟩ := hps p (by simp)
      rw [List.dropWhile_cons_of_neg (by simp [hp])]
  have htexts : (names.map fun name => laterPart name.toList).map (·.text) =
      names.map String.toList := by
    rw [List.map_map]
    exact List.map_congr_left fun name _ => laterPart_text name.toList
  rw [render]
  simp only [List.dropWhile_append_of_pos hnone, hkept _ hname,
    hkept _ fun p hp => hname p (List.mem_reverse.mp hp), List.reverse_reverse]
  split
  · rename_i text hroot
    obtain ⟨name, hp⟩ := hname ⟨some .root, text⟩ (by rw [hroot]; simp)
    cases hp
  · rw [htexts]
    apply String.toList_injective
    rw [String.toList_ofList, String.toList_intercalate]
    rfl

/-- A path that goes down from a root through names is these names again, relative to the root. -/
theorem relativeTo_join_names {root : String} {names : List String} (hroot : root ≠ "")
    (hne : names ≠ []) (hnames : ∀ name ∈ names, isName name = true) :
    relativeTo (components root) (join root (String.intercalate "/" names)) =
      String.intercalate "/" names := by
  have hparts : parts (join root (String.intercalate "/" names)) =
      partsBefore (front root) ++ names.map fun name => laterPart name.toList := by
    rw [parts_of_slash (toList_join hroot (isAbsolute_intercalate_names hne hnames)),
      cut_intercalate_names hne hnames, List.map_map]
    rfl
  obtain ⟨skipped, hskipped, hdrop⟩ := dropComponents_append (partsBefore (front root))
    (names.map fun name => laterPart name.toList)
  rw [componentsOf_partsBefore, componentsBefore_front hroot] at hdrop
  rw [relativeTo, hparts, hdrop]
  exact render_names hskipped hnames

/-- The extension of a path that goes down through names is that of the last name. -/
theorem extensionOf_join_names {root : String} {names : List String} (hroot : root ≠ "")
    (hne : names ≠ []) (hnames : ∀ name ∈ names, isName name = true) :
    extensionOf (join root (String.intercalate "/" names)) = extension (names.getLast hne) := by
  rw [extensionOf, components_join_names hroot hne hnames, List.getLast?_append, List.getLast?_map,
    List.getLast?_eq_some_getLast hne]
  rfl

end CallGuard.Path
