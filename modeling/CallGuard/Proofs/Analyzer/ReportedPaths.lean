import CallGuard.Proofs.Analyzer.Run

/-!
# Reported paths

A file is reported by its path relative to the folder of a run.  The relative path is a text, and
what it leads to is decided by its components, so the way back has to be checked for every spelling
of the two paths: slashes that are repeated or stand at the end, dots between slashes, an empty root
and the root of all files.  Going down from the root by the relative path leads to the file again.

Main results:

- Theorem {lit}`filterMap_laterComponent`: components that may follow others are the same behind a
  slash.
- Theorem {lit}`components_join_relativeTo`: going down from a root by a relative path.
- Theorem {lit}`relativeTo_of_not_prefix`: a path that is not below a root is kept.
- Theorem {lit}`components_parent`: the components of the folder of a file.
- Theorem {lit}`relative_paths_lead_back`: relative paths lead back to the files.
-/

namespace CallGuard

namespace Path

/-! ## Components behind the first one -/

/-- A component may follow another one if it is neither the root nor a dot. -/
def Component.MayFollow (c : Component) : Prop :=
  c ≠ .root ∧ c ≠ .here

/-- What a piece behind a slash stands for may follow. -/
theorem mayFollow_of_laterComponent {text : List Char} {c : Component}
    (h : laterComponent text = some c) : c.MayFollow := by
  unfold laterComponent laterPart at h
  split at h
  · cases h
  · split at h
    · obtain rfl := Option.some.inj h
      simp [Component.MayFollow]
    · obtain rfl := Option.some.inj h
      simp [Component.MayFollow]

/-- Only the first component of a path may be the root or a dot. -/
theorem mayFollow_of_mem {path : String} {base more : List Component}
    (hpath : components path = base ++ more) (hbase : base ≠ []) {c : Component} (hc : c ∈ more) :
    c.MayFollow := by
  obtain ⟨first, rest, hcut⟩ := List.exists_cons_of_ne_nil (Text.cut_ne_nil '/' path.toList)
  obtain ⟨start, base, rfl⟩ := List.exists_cons_of_ne_nil hbase
  have hrest : c ∈ rest.filterMap laterComponent := by
    rw [components_of_cut hcut] at hpath
    cases hfirst : (firstPart first (!rest.isEmpty)).component with
    | none =>
      rw [hfirst, Option.toList_none, List.nil_append] at hpath
      simp [hpath, hc]
    | some d =>
      rw [hfirst, Option.toList_some, List.singleton_append, List.cons_append,
        List.cons.injEq] at hpath
      simp [hpath.2, hc]
  obtain ⟨text, -, htext⟩ := List.mem_filterMap.mp hrest
  exact mayFollow_of_laterComponent htext

/-- An absolute path has the root among its components. -/
theorem root_mem_components {path : String} (h : isAbsolute path = true) :
    .root ∈ components path := by
  rw [isAbsolute, decide_eq_true_eq] at h
  obtain ⟨rest, hrest⟩ := List.head?_eq_some_iff.mp h
  have hslash : path.toList = [] ++ '/' :: rest := hrest
  rw [components_of_slash hslash]
  exact List.mem_cons_self

/-- A path whose components may follow others has the same components behind a slash. -/
theorem filterMap_laterComponent {path : String} (h : ∀ c ∈ components path, c.MayFollow) :
    (Text.cut '/' path.toList).filterMap laterComponent = components path := by
  obtain ⟨first, rest, hcut⟩ := List.exists_cons_of_ne_nil (Text.cut_ne_nil '/' path.toList)
  have hcomponents := components_of_cut hcut
  have hstart : ∀ c, (firstPart first (!rest.isEmpty)).component = some c → c.MayFollow := by
    intro c hc
    apply h
    simp [hcomponents, hc]
  have hfirst : (firstPart first (!rest.isEmpty)).component = laterComponent first := by
    unfold firstPart at hstart ⊢
    split
    · -- An empty piece in front of a slash would be the root.
      rename_i hempty
      rw [if_pos hempty] at hstart
      cases hrest : rest with
      | nil => simp [hempty, laterComponent, laterPart]
      | cons next rest => exact absurd rfl (hstart .root (by simp [hrest])).1
    · rename_i hempty
      rw [if_neg hempty] at hstart
      split
      · rename_i hdot
        exact absurd rfl (hstart .here (by simp [hdot])).2
      · rfl
  rw [hcomponents, hcut, hfirst, List.filterMap_cons]
  cases laterComponent first <;> rfl

/-! ## Going down by a relative path -/

/-- The first piece of a path does not count only if it is empty and nothing follows. -/
theorem firstPart_component_eq_none {text : List Char} {more : Bool}
    (h : (firstPart text more).component = none) : text = [] ∧ more = false := by
  unfold firstPart laterPart at h
  split at h
  · rename_i hempty
    exact ⟨hempty, by simpa using h⟩
  · rename_i hempty
    split at h
    · cases h
    · rename_i hdot
      rw [if_neg (not_or.mpr ⟨hempty, hdot⟩)] at h
      split at h <;> cases h

/-- A path without components is empty. -/
theorem eq_empty_of_components_eq_nil {path : String} (h : components path = []) : path = "" := by
  obtain ⟨first, rest, hcut⟩ := List.exists_cons_of_ne_nil (Text.cut_ne_nil '/' path.toList)
  rw [components_of_cut hcut, List.append_eq_nil_iff, Option.toList_eq_nil_iff] at h
  obtain ⟨rfl, hmore⟩ := firstPart_component_eq_none h.1
  obtain rfl : rest = [] := by simpa using hmore
  have hchars := Text.intercalate_cut '/' path.toList
  rw [hcut, List.intercalate_singleton] at hchars
  exact String.toList_eq_nil_iff.mp hchars.symm

/-- Going down from a root by the path of a file relative to it leads to the components of the
file. -/
theorem components_join_relativeTo {path root : String}
    (h : components root <+: components path) :
    components (join root (relativeTo (components root) path)) = components path := by
  obtain ⟨more, hmore⟩ := h
  have hrelative : components (relativeTo (components root) path) = more :=
    components_relativeTo hmore.symm
  by_cases hroot : root = ""
  · -- Nothing is taken away, and nothing is put in front.
    subst hroot
    have hjoin : ∀ other, join "" other = other := by simp [join]
    rw [hjoin, hrelative, ← hmore]
    rfl
  · have hbase : components root ≠ [] := mt eq_empty_of_components_eq_nil hroot
    have hfollow : ∀ c ∈ components (relativeTo (components root) path), c.MayFollow := by
      rw [hrelative]
      exact fun c hc => mayFollow_of_mem hmore.symm hbase hc
    have habsolute : isAbsolute (relativeTo (components root) path) = false := by
      rw [Bool.eq_false_iff]
      intro habsolute
      exact (hfollow .root (root_mem_components habsolute)).1 rfl
    rw [components_join hroot habsolute, filterMap_laterComponent hfollow, hrelative, hmore]

/-- Components that are dropped from parts stand in front. -/
theorem prefix_of_dropComponents {parts rest : List Part} {base : List Component}
    (h : dropComponents parts base = some rest) : base <+: componentsOf parts := by
  induction parts generalizing base with
  | nil =>
    cases base with
    | nil => exact List.nil_prefix
    | cons c base => cases h
  | cons part parts ih =>
    cases base with
    | nil => exact List.nil_prefix
    | cons c base =>
      rw [dropComponents] at h
      cases hpart : part.component with
      | none =>
        rw [hpart] at h
        rw [componentsOf_cons_none hpart]
        exact ih h
      | some d =>
        simp only [hpart] at h
        split at h
        · rename_i heq
          rw [componentsOf_cons_some hpart, heq]
          exact List.cons_prefix_cons.mpr ⟨rfl, ih h⟩
        · cases h

/-- A path that does not start with some components is kept as it is written. -/
theorem relativeTo_of_not_prefix {path : String} {base : List Component}
    (h : ¬base <+: components path) : relativeTo base path = path := by
  rw [relativeTo]
  cases hdrop : dropComponents (parts path) base with
  | none => rfl
  | some rest => exact absurd (prefix_of_dropComponents hdrop) h

/-! ## The folder of a file -/

/-- Parts without the last one that counts have all components but the last. -/
theorem exists_eq_dropLastComponent_append (parts : List Part) :
    ∃ back, parts = dropLastComponent parts ++ back ∧
      componentsOf (dropLastComponent parts) = (componentsOf parts).dropLast := by
  have hsplit := List.takeWhile_append_dropWhile (p := fun p : Part => p.component.isNone)
    (l := parts.reverse)
  have hnone : componentsOf (parts.reverse.takeWhile (·.component.isNone)).reverse = [] := by
    apply componentsOf_eq_nil
    intro p hp
    exact List.mem_takeWhile_imp (p := fun p : Part => p.component.isNone) (List.mem_reverse.mp hp)
  rw [dropLastComponent]
  cases hrest : parts.reverse.dropWhile (·.component.isNone) with
  | nil =>
    rw [hrest, List.append_nil] at hsplit
    rw [hsplit, List.reverse_reverse] at hnone
    exact ⟨parts, rfl, by rw [hnone]; rfl⟩
  | cons last front =>
    have hlast := List.head?_dropWhile_not (fun p : Part => p.component.isNone) parts.reverse
    rw [hrest, List.head?_cons] at hlast
    obtain ⟨c, hc⟩ := Option.isSome_iff_exists.mp (by simpa using hlast)
    have hparts : parts = front.reverse ++
        (last :: (parts.reverse.takeWhile (·.component.isNone)).reverse) := by
      have hreverse := congrArg List.reverse hsplit
      rw [hrest] at hreverse
      simpa using hreverse.symm
    refine ⟨_, hparts, ?_⟩
    conv_rhs => rw [hparts]
    rw [componentsOf_append, componentsOf_cons_some hc, hnone, List.dropLast_concat]
    rfl

/-- The folder of a file has all components of the file but the last. -/
theorem components_parent (path : String) :
    components (parent path) = (components path).dropLast := by
  obtain ⟨back, hparts, hcomponents⟩ := exists_eq_dropLastComponent_append (parts path)
  have hread : AreRead (dropLastComponent (parts path)) := by
    have hall := areRead_parts path
    rw [hparts] at hall
    exact hall.of_append_left
  rw [parent, components_render hread, hcomponents]
  rfl

end Path

namespace Analyzer

/-- The folder that reported paths are relative to: the root, or its folder if it is a file. -/
def baseFolder (a : Analyzer) (t : FileTree) : String :=
  if t.isFileAt a.root then Path.parent a.root else a.root

/-- Reported paths are relative to the components of this folder. -/
theorem components_baseFolder (a : Analyzer) (t : FileTree) :
    Path.components (a.baseFolder t) = a.base t := by
  rw [baseFolder, base]
  split
  · exact Path.components_parent a.root
  · rfl

end Analyzer

namespace Path

/-! ## Leading back -/

/-- Let a path and a root be spelled in any way.  If the components of the root stand in front of
those of the path, then going down from the root by the relative path leads to exactly the
components of the path; otherwise the relative path is the path as it is written.  So files below
one root that differ in their components differ in their relative paths, and the path under which a
run reports a file that it discovers leads back to the file from the folder of the run. -/
theorem relative_paths_lead_back :
    (∀ path root : String, components root <+: components path →
      components (join root (relativeTo (components root) path)) = components path) ∧
    (∀ path root : String, ¬components root <+: components path →
      relativeTo (components root) path = path) ∧
    (∀ path other root : String, components root <+: components path →
      components root <+: components other → components path ≠ components other →
      relativeTo (components root) path ≠ relativeTo (components root) other) ∧
    ∀ (a : Analyzer) (t : FileTree) (files : List SourceFile), a.discover t = .ok files →
      ∀ f ∈ files,
        components (join (a.baseFolder t) (relativeTo (a.base t) f.path)) = components f.path := by
  refine ⟨fun path root => components_join_relativeTo, fun path root => relativeTo_of_not_prefix,
    ?_, ?_⟩
  · intro path other root hpath hother hne heq
    apply hne
    rw [← components_join_relativeTo hpath, heq, components_join_relativeTo hother]
  · intro a t files hfiles f hf
    obtain ⟨more, hmore⟩ := Analyzer.components_of_mem_discover hfiles hf
    rw [← a.components_baseFolder t] at hmore ⊢
    exact components_join_relativeTo ⟨more, hmore.symm⟩

/-- A path and a root are spelled with slashes and dots that do not count, the name of a root starts
another name, two files have the same name, and a run reports a file in a folder. -/
theorem relative_paths_lead_back_spelled :
    (components "/srv//app/./" <+: components "//srv/app//src/./a.php/" ∧
      components (join "/srv//app/./" "src/./a.php") = components "//srv/app//src/./a.php/") ∧
    (¬components "/app" <+: components "/app2/a.php" ∧
      relativeTo (components "/app") "/app2/a.php" = "/app2/a.php") ∧
    (components "./" <+: components "./a.php" ∧ components "./" <+: components "./src/a.php" ∧
      relativeTo (components "./") "./a.php" ≠ relativeTo (components "./") "./src/a.php") ∧
    Analyzer.slashFile ∈ [Analyzer.slashFile, Analyzer.dashFile, Analyzer.brokenFile] ∧
      components (join "/" "a/b.txt") = components Analyzer.slashFile.path := by
  obtain ⟨hback, hkept, hdistinct, hreported⟩ := relative_paths_lead_back
  have hbelow : components "/srv//app/./" <+: components "//srv/app//src/./a.php/" := by
    decide +kernel
  have hrelative :
      relativeTo (components "/srv//app/./") "//srv/app//src/./a.php/" = "src/./a.php" := by
    decide +kernel
  have hbeside : ¬components "/app" <+: components "/app2/a.php" := by decide +kernel
  have hfirst : components "./" <+: components "./a.php" := by decide +kernel
  have hsecond : components "./" <+: components "./src/a.php" := by decide +kernel
  have hfile : Analyzer.slashFile ∈
      [Analyzer.slashFile, Analyzer.dashFile, Analyzer.brokenFile] := List.mem_cons_self
  refine ⟨⟨hbelow, ?_⟩, ⟨hbeside, hkept _ _ hbeside⟩, ⟨hfirst, hsecond, ?_⟩, hfile, ?_⟩
  · rw [← hrelative]
    exact hback _ _ hbelow
  · exact hdistinct _ _ _ hfirst hsecond (by decide +kernel)
  · have hfolder : Analyzer.wordAnalyzer.baseFolder Analyzer.threeFiles = "/" := by decide +kernel
    have hpath : relativeTo (Analyzer.wordAnalyzer.base Analyzer.threeFiles)
        Analyzer.slashFile.path = "a/b.txt" := by decide +kernel
    rw [← hfolder, ← hpath]
    exact hreported _ _ _ Analyzer.discover_threeFiles _ hfile

end Path

end CallGuard
