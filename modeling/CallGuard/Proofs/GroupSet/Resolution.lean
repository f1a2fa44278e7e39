import CallGuard.GroupSet
import Mathlib.Data.List.Basic
import Mathlib.Data.List.Induction
import Mathlib.Data.List.Nodup

/-!
# What becomes of groups that are added

Groups that are added one after the other to a set come down to a list with one group for each
identifier: it stands where the identifier first came, and it is the last group of that identifier.

Main results:

- Theorem {lit}`putGroup_filterMap`: what putting a group does to a list that is given by its
  identifiers.
- Theorem {lit}`putGroup_resolve`: adding one more group.
- Theorem {lit}`GroupSet.groups_insertAll`: adding a list of groups.
- Theorem {lit}`resolve_of_nodup`: groups with distinct identifiers stay as they are.
- Theorem {lit}`GroupSet.groups_insert_of_mem`: replacing a group changes its own place only.
- Theorem {lit}`map_id_filter_resolve`, {lit}`lastNamed_append`: the identifiers that are left, and
  the group of each.
-/

namespace CallGuard

/-! ## First occurrences -/

/-- A further item counts as a first occurrence only if it is new. -/
theorem eraseDups_concat (ids : List String) (id : String) :
    (ids ++ [id]).eraseDups = if id ∈ ids then ids.eraseDups else ids.eraseDups ++ [id] := by
  rw [List.eraseDups_append]
  by_cases hmem : id ∈ ids
  · simp [hmem, List.removeAll]
  · simp [hmem, List.removeAll, List.eraseDups_cons]

/-- First occurrences are distinct. -/
theorem nodup_eraseDups (ids : List String) : ids.eraseDups.Nodup := by
  induction ids using List.reverseRecOn with
  | nil => simp
  | append_singleton ids id ih =>
    rw [eraseDups_concat]
    split
    · exact ih
    · rename_i hmem
      rw [List.nodup_append]
      refine ⟨ih, by simp, ?_⟩
      intro a ha b hb hab
      rw [List.mem_singleton] at hb
      rw [hab, hb, List.mem_eraseDups] at ha
      exact hmem ha

/-- Distinct identifiers are first occurrences. -/
theorem eraseDups_of_nodup {ids : List String} (h : ids.Nodup) : ids.eraseDups = ids := by
  induction ids using List.reverseRecOn with
  | nil => rfl
  | append_singleton ids id ih =>
    rw [List.nodup_append] at h
    have hnew : id ∉ ids := fun hmem => h.2.2 id hmem id (by simp) rfl
    rw [eraseDups_concat, if_neg hnew, ih h.1]

/-- The first occurrences of two lists, of which the second has distinct items. -/
theorem eraseDups_append_of_nodup (ids : List String) {others : List String} (h : others.Nodup) :
    (ids ++ others).eraseDups = ids.eraseDups ++ others.filter (· ∉ ids) := by
  have hnew : others.removeAll ids = others.filter (· ∉ ids) := by
    apply List.filter_congr
    intro id _
    simp
  rw [List.eraseDups_append, hnew, eraseDups_of_nodup (h.filter _)]

/-! ## Resolution -/

/-- The last group of an identifier. -/
def lastNamed (groups : List Group) (id : String) : Option Group :=
  groups.findRev? (·.id = id)

/-- One group for each identifier: the last one, at the place of the first one. -/
def resolve (groups : List Group) : List Group :=
  (groups.map (·.id)).eraseDups.filterMap (lastNamed groups)

/-- The group of each identifier after a group has become that of its own. -/
def redefine (named : String → Option Group) (g : Group) (id : String) : Option Group :=
  if id = g.id then some g else named id

/-- A group is that of its own identifier. -/
theorem redefine_of_eq (named : String → Option Group) {g : Group} {id : String} (h : id = g.id) :
    redefine named g id = some g :=
  if_pos h

/-- Other identifiers keep their groups. -/
theorem redefine_of_ne (named : String → Option Group) {g : Group} {id : String} (h : id ≠ g.id) :
    redefine named g id = named id :=
  if_neg h

/-- A further group becomes the last one of its identifier. -/
theorem lastNamed_concat (groups : List Group) (g : Group) :
    lastNamed (groups ++ [g]) = redefine (lastNamed groups) g := by
  funext id
  by_cases hid : id = g.id
  · rw [redefine_of_eq _ hid]
    simp [lastNamed, hid]
  · rw [redefine_of_ne _ hid]
    have hne : ¬ g.id = id := fun h => hid h.symm
    simp [lastNamed, hne]

/-- The last group of an identifier has that identifier. -/
theorem exists_lastNamed {groups : List Group} {id : String} (hmem : id ∈ groups.map (·.id)) :
    ∃ g, lastNamed groups id = some g ∧ g.id = id := by
  obtain ⟨h, hh, hid⟩ := List.mem_map.mp hmem
  have hsome : (lastNamed groups id).isSome = true := by
    rw [lastNamed, List.findRev?_eq_find?_reverse, List.find?_isSome]
    exact ⟨h, by simpa using hh, by simpa using hid⟩
  obtain ⟨g, hg⟩ := Option.isSome_iff_exists.mp hsome
  rw [lastNamed, List.findRev?_eq_find?_reverse] at hg
  have hgid := List.find?_some hg
  exact ⟨g, by rw [lastNamed, List.findRev?_eq_find?_reverse, hg], by simpa using hgid⟩

/-- The last group of an identifier is one of the groups. -/
theorem mem_of_lastNamed {groups : List Group} {id : String} {g : Group}
    (h : lastNamed groups id = some g) : g ∈ groups := by
  rw [lastNamed, List.findRev?_eq_find?_reverse] at h
  exact List.mem_reverse.mp (List.mem_of_find?_eq_some h)

/-- Resolving groups adds none. -/
theorem mem_of_mem_resolve {groups : List Group} {g : Group} (h : g ∈ resolve groups) :
    g ∈ groups := by
  obtain ⟨id, -, hlast⟩ := List.mem_filterMap.mp h
  exact mem_of_lastNamed hlast

/-- Putting a group into a list that is given by distinct identifiers and the group of each: its
identifier comes last if it is new, and it becomes the group of its identifier. -/
theorem putGroup_filterMap (g : Group) {ids : List String} {named : String → Option Group}
    (hdistinct : ids.Nodup) (hnamed : ∀ id ∈ ids, ∃ h, named id = some h ∧ h.id = id) :
    putGroup g (ids.filterMap named) =
      (if g.id ∈ ids then ids else ids ++ [g.id]).filterMap (redefine named g) := by
  induction ids with
  | nil => simp [putGroup, redefine_of_eq]
  | cons id ids ih =>
    obtain ⟨hnotMem, hrest⟩ := List.nodup_cons.mp hdistinct
    obtain ⟨h, hh, hid⟩ := hnamed id (by simp)
    have ih := ih hrest fun k hk => hnamed k (List.mem_cons_of_mem id hk)
    rw [List.filterMap_cons_some hh, putGroup]
    by_cases heq : id = g.id
    · -- The identifier is here, and no other group has it.
      have hsame : ids.filterMap named = ids.filterMap (redefine named g) := by
        apply List.filterMap_congr
        intro k hk
        have hne : k ≠ g.id := by
          rintro rfl
          exact hnotMem (heq ▸ hk)
        exact (redefine_of_ne named hne).symm
      rw [if_pos (hid.trans heq), if_pos (by simp [heq]),
        List.filterMap_cons_some (redefine_of_eq named heq), hsame]
    · have hne : ¬ g.id = id := fun e => heq e.symm
      have hkept : redefine named g id = some h := by
        rw [redefine_of_ne named heq, hh]
      rw [if_neg (by rw [hid]; exact heq), ih]
      by_cases hmem : g.id ∈ ids
      · rw [if_pos hmem, if_pos (List.mem_cons_of_mem id hmem), List.filterMap_cons_some hkept]
      · rw [if_neg hmem, if_neg (by simp [hne, hmem]), List.cons_append,
          List.filterMap_cons_some hkept]

/-- Putting a group into a resolved list resolves the list with the group behind it. -/
theorem putGroup_resolve (g : Group) (groups : List Group) :
    putGroup g (resolve groups) = resolve (groups ++ [g]) := by
  have hnamed : ∀ id ∈ (groups.map (·.id)).eraseDups,
      ∃ h, lastNamed groups id = some h ∧ h.id = id :=
    fun id hid => exists_lastNamed (List.mem_eraseDups.mp hid)
  rw [resolve, putGroup_filterMap g (nodup_eraseDups _) hnamed, resolve, lastNamed_concat,
    List.map_append, List.map_singleton, eraseDups_concat]
  simp only [List.mem_eraseDups]

namespace GroupSet

/-- Groups that are added to a resolved list are resolved together with it. -/
theorem groups_insertAll {s : GroupSet} {before : List Group} (hs : s.groups = resolve before)
    (groups : List Group) : (s.insertAll groups).groups = resolve (before ++ groups) := by
  induction groups generalizing s before with
  | nil => simpa [insertAll] using hs
  | cons g groups ih =>
    have hput : (s.insert g).groups = resolve (before ++ [g]) := by
      rw [← putGroup_resolve, ← hs]
      rfl
    have hrest := ih hput
    rw [List.append_assoc, List.singleton_append] at hrest
    exact hrest

end GroupSet

/-! ## Distinct identifiers -/

/-- A group with a new identifier comes last. -/
theorem putGroup_of_notMem {g : Group} {groups : List Group} (h : g.id ∉ groups.map (·.id)) :
    putGroup g groups = groups ++ [g] := by
  induction groups with
  | nil => rfl
  | cons k rest ih =>
    rw [List.map_cons, List.mem_cons, not_or] at h
    rw [putGroup, if_neg (Ne.symm h.1), ih h.2, List.cons_append]

/-- A group whose identifier is present takes the place of the one that has it. -/
theorem putGroup_of_mem {g : Group} {groups : List Group} (h : g.id ∈ groups.map (·.id))
    (hdistinct : (groups.map (·.id)).Nodup) :
    putGroup g groups = groups.map fun k => if k.id = g.id then g else k := by
  induction groups with
  | nil => cases h
  | cons k rest ih =>
    rw [List.map_cons, List.nodup_cons] at hdistinct
    by_cases heq : k.id = g.id
    · have hothers : rest.map (fun k => if k.id = g.id then g else k) = rest := by
        conv_rhs => rw [← List.map_id rest]
        apply List.map_congr_left
        intro m hm
        have hne : m.id ≠ g.id := by
          rintro hid
          exact hdistinct.1 (List.mem_map.mpr ⟨m, hm, hid.trans heq.symm⟩)
        exact if_neg hne
      rw [putGroup, if_pos heq, List.map_cons, if_pos heq, hothers]
    · have hrest : g.id ∈ rest.map (·.id) := by
        rcases List.mem_cons.mp h with hid | hrest
        · exact absurd hid.symm heq
        · exact hrest
      rw [putGroup, if_neg heq, ih hrest hdistinct.2, List.map_cons, if_neg heq]

/-- Groups with distinct identifiers are resolved already. -/
theorem resolve_of_nodup {groups : List Group} (h : (groups.map (·.id)).Nodup) :
    resolve groups = groups := by
  induction groups using List.reverseRecOn with
  | nil => rfl
  | append_singleton groups g ih =>
    rw [List.map_append, List.nodup_append] at h
    have hnew : g.id ∉ groups.map (·.id) := fun hmem => h.2.2 _ hmem g.id (by simp) rfl
    rw [← putGroup_resolve, ih h.1, putGroup_of_notMem hnew]

/-- The set of a list has the resolved list. -/
theorem GroupSet.groups_ofList (groups : List Group) : (ofList groups).groups = resolve groups := by
  have hempty : empty.groups = resolve [] := rfl
  exact groups_insertAll hempty groups

/-- The set of a list has no other groups. -/
theorem GroupSet.mem_of_mem_ofList {groups : List Group} {g : Group}
    (h : g ∈ (ofList groups).groups) : g ∈ groups := by
  rw [groups_ofList] at h
  exact mem_of_mem_resolve h

/-- Groups that are resolved first and then together with others are resolved as all of them are. -/
theorem resolve_resolve_append (groups others : List Group) :
    resolve (resolve groups ++ others) = resolve (groups ++ others) := by
  have hset := GroupSet.groups_ofList groups
  have hdistinct := (GroupSet.ofList groups).distinct
  rw [hset] at hdistinct
  have hresolved : (GroupSet.ofList groups).groups = resolve (resolve groups) := by
    rw [hset, resolve_of_nodup hdistinct]
  rw [← GroupSet.groups_insertAll hresolved, ← GroupSet.groups_insertAll hset]

/-- Replacing a group of a set changes its own place only. -/
theorem GroupSet.groups_insert_of_mem (s : GroupSet) {g : Group} (h : g.id ∈ s.ids) :
    (s.insert g).groups = s.groups.map fun k => if k.id = g.id then g else k :=
  putGroup_of_mem h s.distinct

/-- A set has no other group with the identifier of one of its groups. -/
theorem GroupSet.filter_id_of_mem (s : GroupSet) {g : Group} (hg : g ∈ s.groups) :
    s.groups.filter (·.id = g.id) = [g] := by
  have hdistinct := s.distinct
  obtain ⟨before, after, hparts⟩ := List.append_of_mem hg
  rw [hparts, List.map_append, List.map_cons, List.nodup_middle, List.nodup_cons,
    ← List.map_append] at hdistinct
  have hothers : ∀ k ∈ before ++ after, ¬ decide (k.id = g.id) = true := by
    intro k hk heq
    exact hdistinct.1 (List.mem_map.mpr ⟨k, hk, of_decide_eq_true heq⟩)
  have hbefore := List.filter_eq_nil_iff.mpr fun k hk => hothers k (List.mem_append_left after hk)
  have hafter := List.filter_eq_nil_iff.mpr fun k hk => hothers k (List.mem_append_right before hk)
  rw [hparts, List.filter_append, hbefore, List.filter_cons_of_pos (by simp), hafter,
    List.nil_append]

/-! ## Looking groups up -/

/-- Among groups with distinct identifiers, looking for an identifier finds the group that has it. -/
theorem find?_id_eq_some_iff {groups : List Group} (h : (groups.map (·.id)).Nodup) (id : String)
    (g : Group) : groups.find? (·.id = id) = some g ↔ g ∈ groups ∧ g.id = id := by
  constructor
  · intro hfind
    have hid := List.find?_some hfind
    exact ⟨List.mem_of_find?_eq_some hfind, by simpa using hid⟩
  · rintro ⟨hg, rfl⟩
    have hsome : (groups.find? (·.id = g.id)).isSome := by
      rw [List.find?_isSome]
      exact ⟨g, hg, by simp⟩
    obtain ⟨k, hk⟩ := Option.isSome_iff_exists.mp hsome
    have hid := List.find?_some hk
    rw [hk, List.inj_on_of_nodup_map h (List.mem_of_find?_eq_some hk) hg (by simpa using hid)]

/-- The last group of an identifier in a set is the only one. -/
theorem GroupSet.lastNamed_groups (s : GroupSet) (id : String) :
    lastNamed s.groups id = s.get? id := by
  have hreverse : (s.groups.reverse.map (·.id)).Nodup := by
    rw [List.map_reverse, List.nodup_reverse]
    exact s.distinct
  rw [lastNamed, List.findRev?_eq_find?_reverse, get?]
  apply Option.ext
  intro g
  rw [find?_id_eq_some_iff hreverse, find?_id_eq_some_iff s.distinct, List.mem_reverse]

/-- The last group of an identifier in two lists is that of the second, if it has one. -/
theorem lastNamed_append (groups others : List Group) (id : String) :
    lastNamed (groups ++ others) id = (lastNamed others id).or (lastNamed groups id) := by
  simp only [lastNamed, List.findRev?_eq_find?_reverse, List.reverse_append, List.find?_append]

/-- The identifiers of the resolved groups that satisfy a condition. -/
theorem map_id_filter_resolve (groups : List Group) (p : Group → Bool) :
    ((resolve groups).filter p).map (·.id) =
      (groups.map (·.id)).eraseDups.filter fun id => (lastNamed groups id).any p := by
  rw [resolve, List.filter_filterMap, List.map_filterMap, ← List.filterMap_eq_filter]
  apply List.filterMap_congr
  intro id hid
  obtain ⟨g, hg, rfl⟩ := exists_lastNamed (List.mem_eraseDups.mp hid)
  simp [hg, Option.guard, Option.filter]

/-- A resolved group is the last one of its identifier. -/
theorem lastNamed_of_mem_resolve {groups : List Group} {g : Group} (h : g ∈ resolve groups) :
    lastNamed groups g.id = some g := by
  obtain ⟨id, hid, hlast⟩ := List.mem_filterMap.mp h
  obtain ⟨k, hk, rfl⟩ := exists_lastNamed (List.mem_eraseDups.mp hid)
  obtain rfl : k = g := Option.some.inj (hk.symm.trans hlast)
  exact hlast

end CallGuard
