import CallGuard.Ignore.Tree
import CallGuard.Proofs.FileTree.Contents

/-!
# The same files at two places

A folder may stand at one place of a tree or at another, with the same files and folders in it.  If no
ignore file stands above it and no repository in it lies elsewhere, the files that are hidden in it
are the same at both places.

Main results:

- Definition {lit}`FileTree.SameBelow`: two places with the same files and folders below them.
- Theorem {lit}`FileTree.verdict?_append`: what ignore files say where none stands above a place.
- Theorem {lit}`FileTree.SameBelow.isHidden_eq`: the same files are hidden below both places.
- Theorem {lit}`FileTree.sameBelow_placedAt`: a tree that is put at two places.
-/

namespace CallGuard

/-! ## Asking up to a folder -/

namespace Ignore

/-- Members of a list that ends with one are members of the list. -/
theorem mem_of_mem_through {α : Type} {p : α → Bool} {xs : List α} {x : α}
    (h : x ∈ through p xs) : x ∈ xs := by
  induction xs with
  | nil => cases h
  | cons y xs ih =>
    rw [through] at h
    split at h
    · rw [List.mem_singleton.mp h]
      simp
    · rcases List.mem_cons.mp h with rfl | hrest
      · simp
      · exact List.mem_cons_of_mem y (ih hrest)

/-- A list ends with the first member whose image satisfies a condition. -/
theorem through_map {α β : Type} (p : β → Bool) (g : α → β) (xs : List α) :
    through p (xs.map g) = (through (fun x => p (g x)) xs).map g := by
  induction xs with
  | nil => rfl
  | cons x xs ih =>
    by_cases hx : p (g x) = true
    · simp [through, hx]
    · simp [through, hx, ih]

/-- A list without such a member goes on to its end. -/
theorem through_false {α : Type} (xs : List α) : through (fun _ => false) xs = xs := by
  induction xs with
  | nil => rfl
  | cons x xs ih => simp [through, ih]

/-- Members at the end that have nothing to say make no difference. -/
theorem findSome?_through_append {α β : Type} {p : α → Bool} {f : α → Option β}
    {front rest : List α} (h : ∀ x ∈ rest, f x = none) :
    (through p (front ++ rest)).findSome? f = (through p front).findSome? f := by
  induction front with
  | nil =>
    rw [List.nil_append, through, List.findSome?_nil, List.findSome?_eq_none_iff]
    intro x hx
    exact h x (mem_of_mem_through hx)
  | cons x front ih =>
    by_cases hx : p x = true
    · simp [through, hx]
    · simp [through, hx, List.findSome?_cons, ih]

end Ignore

namespace FileTree

/-- Folders above a place are not asked about a kind of ignore file. -/
def endsAsking (t : FileTree) (kind : Ignore.Kind) (names : List String) : Bool :=
  match kind with
  | .general => false
  | .versioned | .excluded => t.isRepository names

/-- The folders are asked from the nearest up to one above which none is asked. -/
theorem askedDepths_eq_through (t : FileTree) (names : List String) (kind : Ignore.Kind) :
    t.askedDepths names kind = Ignore.through (fun depth => t.endsAsking kind (names.take depth))
      (List.range names.length).reverse := by
  cases kind with
  | general => exact (Ignore.through_false _).symm
  | versioned => rfl
  | excluded => rfl

/-- Where no ignore file of a kind stands above a place, only the folders from there on are asked. -/
theorem verdict?_append {t : FileTree} {working : String} {kind : Ignore.Kind} {place : List String}
    (habove : ∀ depth < place.length, t.ignoreFile? working (place.take depth) kind = none)
    (way : List String) (isFolder : Bool) :
    t.verdict? working kind (place ++ way) isFolder =
      (Ignore.through (fun depth => t.endsAsking kind (place ++ way.take depth))
        (List.range way.length).reverse).findSome? fun depth =>
          (t.ignoreFile? working (place ++ way.take depth) kind).bind fun bytes =>
            Ignore.verdict? (Ignore.fileLines bytes) (way.drop depth) isFolder := by
  have hdepths : (List.range (place ++ way).length).reverse =
      (List.range way.length).reverse.map (place.length + ·) ++
        (List.range place.length).reverse := by
    rw [List.length_append, List.range_add, List.reverse_append, List.map_reverse]
  rw [verdict?, askedDepths_eq_through, hdepths, Ignore.findSome?_through_append, Ignore.through_map,
    List.findSome?_map]
  · simp only [List.take_length_add_append, Function.comp_def, List.drop_length_add_append]
  · intro depth hdepth
    have hlt : depth < place.length := by simpa using hdepth
    rw [List.take_append_of_le_length (Nat.le_of_lt hlt), habove depth hlt]
    rfl

/-! ## Two places with the same contents -/

/-- A file lies below a place if it is listed with the place in front. -/
theorem mem_below_iff {t : FileTree} {place way : List String} {contents : FileContents} :
    (way, contents) ∈ t.below place ↔ (place ++ way, contents) ∈ t.files := by
  rw [below, List.mem_filterMap]
  constructor
  · rintro ⟨f, hf, hfound⟩
    split at hfound
    · rename_i hbelow
      obtain ⟨rest, hrest⟩ := List.isPrefixOf_iff_prefix.mp hbelow
      rw [Option.some_inj, ← hrest, List.drop_left, Prod.mk.injEq] at hfound
      rw [← hfound.1, hrest, ← hfound.2]
      exact hf
    · cases hfound
  · intro hmem
    exact ⟨_, hmem, by simp⟩

/-- Two trees have the same files and folders below two places. -/
structure SameBelow (t u : FileTree) (place other : List String) : Prop where
  files : (t.below place).Perm (u.below other)
  folder : ∀ way, t.isFolder (place ++ way) = u.isFolder (other ++ way)

/-- Nothing outside a folder tells which files in it are ignored: no ignore file stands above it, and
no file in it says that a repository lies elsewhere. -/
structure StandsAlone (t : FileTree) (working : String) (place : List String) : Prop where
  above : ∀ depth < place.length, ∀ kind ∈ Ignore.kinds,
    t.ignoreFile? working (place.take depth) kind = none
  linked : ∀ f ∈ t.below place, f.1.getLast? = some ".git" → Ignore.link? f.2 = none

namespace SameBelow

variable {t u : FileTree} {place other : List String}

/-- The same files stand below both places. -/
theorem file?_eq (h : t.SameBelow u place other) (way : List String) :
    t.file? (place ++ way) = u.file? (other ++ way) := by
  apply Option.ext
  intro contents
  rw [file?_eq_some_iff, file?_eq_some_iff, ← mem_below_iff, ← mem_below_iff, h.files.mem_iff]

/-- The same bytes stand below both places. -/
theorem bytes?_eq (h : t.SameBelow u place other) (way : List String) :
    t.bytes? (place ++ way) = u.bytes? (other ++ way) := by
  rw [bytes?, bytes?, h.file?_eq]

/-- The same folders below both places are those of repositories. -/
theorem isRepository_eq (h : t.SameBelow u place other) (way : List String) :
    t.isRepository (place ++ way) = u.isRepository (other ++ way) := by
  simp only [isRepository, isThere, isFile, List.append_assoc, h.file?_eq, h.folder]

/-- Asking ends at the same folders below both places. -/
theorem endsAsking_eq (h : t.SameBelow u place other) (kind : Ignore.Kind) (way : List String) :
    t.endsAsking kind (place ++ way) = u.endsAsking kind (other ++ way) := by
  cases kind with
  | general => rfl
  | versioned => exact h.isRepository_eq way
  | excluded => exact h.isRepository_eq way

/-- The same ignore files of each kind stand below both places. -/
theorem ignoreFile?_eq (h : t.SameBelow u place other)
    (hlinked : ∀ f ∈ t.below place, f.1.getLast? = some ".git" → Ignore.link? f.2 = none)
    (working elsewhere : String) (way : List String) (kind : Ignore.Kind) :
    t.ignoreFile? working (place ++ way) kind = u.ignoreFile? elsewhere (other ++ way) kind := by
  cases kind with
  | general => simp only [ignoreFile?, List.append_assoc, h.bytes?_eq]
  | versioned => simp only [ignoreFile?, List.append_assoc, h.bytes?_eq]
  | excluded =>
    simp only [ignoreFile?, excludeFile?, List.append_assoc, h.bytes?_eq, ← h.file?_eq]
    cases hfile : t.file? (place ++ (way ++ [".git"])) with
    | none => rfl
    | some contents =>
      -- A file in the place of a repository that names none leads nowhere.
      have hmem := mem_below_iff.mpr (file?_eq_some_iff.mp hfile)
      have hlink : Ignore.link? contents = none := hlinked _ hmem (by simp)
      simp only [hlink, Option.bind_none]

/-- The same files and folders are ignored below both places. -/
theorem isIgnored_eq (h : t.SameBelow u place other) {working elsewhere : String}
    (ht : t.StandsAlone working place) (hu : u.StandsAlone elsewhere other) (way : List String)
    (isFolder : Bool) :
    t.isIgnored working (place ++ way) isFolder = u.isIgnored elsewhere (other ++ way) isFolder := by
  have hverdict : (fun kind => t.verdict? working kind (place ++ way) isFolder) =
      fun kind => u.verdict? elsewhere kind (other ++ way) isFolder := by
    funext kind
    have hkind : kind ∈ Ignore.kinds := by cases kind <;> decide
    rw [verdict?_append fun depth hdepth => ht.above depth hdepth kind hkind,
      verdict?_append fun depth hdepth => hu.above depth hdepth kind hkind]
    simp only [h.endsAsking_eq, h.ignoreFile?_eq ht.linked working elsewhere]
  rw [isIgnored, hverdict, isIgnored]

/-- The same files are hidden below both places. -/
theorem isHidden_eq (h : t.SameBelow u place other) {working elsewhere : String}
    (ht : t.StandsAlone working place) (hu : u.StandsAlone elsewhere other) (way : List String) :
    t.isHidden working place way = u.isHidden elsewhere other way := by
  simp only [isHidden, h.isIgnored_eq ht hu]

end SameBelow

/-! ## A tree that is put at a place -/

/-- The tree that holds another one at a place with proper names. -/
def placedAt (t : FileTree) (place : List String) (hplace : place.all Path.isName = true) :
    FileTree where
  files := t.files.map fun f => (place ++ f.1, f.2)
  folders := place :: t.folders.map (place ++ ·)
  nodup := by
    rw [List.map_map]
    have hnodup := t.nodup.map fun xs ys => (List.append_cancel_left : place ++ xs = place ++ ys → _)
    rwa [List.map_map] at hnodup
  named := by
    intro f hf
    obtain ⟨g, hg, rfl⟩ := List.mem_map.mp hf
    rw [List.all_append, hplace, t.named g hg, Bool.and_true]

/-- A tree that is put at a place has its files below it. -/
theorem below_placedAt (t : FileTree) {place : List String} (hplace : place.all Path.isName = true) :
    (t.placedAt place hplace).below place = t.files := by
  rw [below, placedAt, List.filterMap_map]
  simp

/-- A tree that is put at a place has its folders below it. -/
theorem isFolder_placedAt (t : FileTree) {place : List String}
    (hplace : place.all Path.isName = true) (way : List String) :
    (t.placedAt place hplace).isFolder (place ++ way) = t.isFolder way := by
  have hbelow : ∀ names, (place ++ way).isPrefixOf (place ++ names) = way.isPrefixOf names := by
    intro names
    rw [Bool.eq_iff_iff, List.isPrefixOf_iff_prefix, List.isPrefixOf_iff_prefix,
      List.prefix_append_right_inj]
  cases way with
  | nil => simp [isFolder, placedAt]
  | cons name way =>
    have hself : (place ++ name :: way).isPrefixOf place = false := by
      have hnil := hbelow []
      rwa [List.append_nil] at hnil
    have hempty : (place ++ name :: way).isEmpty = false := by simp
    simp [isFolder, placedAt, hbelow, hself, hempty, Function.comp_def]

/-- A tree that is put at two places has the same files and folders below them. -/
theorem sameBelow_placedAt (t : FileTree) {place other : List String}
    (hplace : place.all Path.isName = true) (hother : other.all Path.isName = true) :
    (t.placedAt place hplace).SameBelow (t.placedAt other hother) place other where
  files := by rw [below_placedAt, below_placedAt]
  folder way := by rw [isFolder_placedAt, isFolder_placedAt]

end FileTree

end CallGuard
