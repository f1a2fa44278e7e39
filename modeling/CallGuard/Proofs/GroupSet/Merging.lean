import CallGuard.Proofs.GroupSet.OrderedMap

/-!
# Merging sets of groups

A set of groups is determined by its identifiers in their order and by the group that each of them
stands for.  Adding groups to a set keeps the first occurrences of the identifiers and the last group
of each.  Both come out the same whichever of several additions are put together first, so merging is
associative, and groups may be collected in any batches.

Main results:

- Theorem {lit}`GroupSet.eq_of_ids_of_get?`: when two sets are the same.
- Theorem {lit}`GroupSet.ids_insertAll`, {lit}`GroupSet.get?_insertAll`: the identifiers of a set to
  which groups are added, and what they stand for.
- Theorem {lit}`GroupSet.merge_insertAll`: adding groups before or after merging.
- Theorem {lit}`GroupSet.merge_merge`, {lit}`GroupSet.empty_merge`, {lit}`GroupSet.merge_self`: the
  laws of merging.
- Theorem {lit}`GroupSet.ofList_append`, {lit}`GroupSet.foldl_merge_ofList`: collecting groups in
  batches.
-/

namespace CallGuard

/-! ## First occurrences of two lists -/

/-- Only the first occurrences in the first of two lists count. -/
theorem eraseDups_eraseDups_append (ids others : List String) :
    (ids.eraseDups ++ others).eraseDups = (ids ++ others).eraseDups := by
  induction others using List.reverseRecOn with
  | nil => rw [List.append_nil, List.append_nil, eraseDups_of_nodup (nodup_eraseDups ids)]
  | append_singleton others id ih =>
    rw [← List.append_assoc, ← List.append_assoc, eraseDups_concat, eraseDups_concat, ih]
    simp only [List.mem_append, List.mem_eraseDups]

/-- Only the first occurrences in the second of two lists count. -/
theorem eraseDups_append_eraseDups (ids others : List String) :
    (ids ++ others.eraseDups).eraseDups = (ids ++ others).eraseDups := by
  induction others using List.reverseRecOn with
  | nil => rfl
  | append_singleton others id ih =>
    rw [← List.append_assoc, eraseDups_concat others, eraseDups_concat]
    by_cases hmem : id ∈ others
    · rw [if_pos hmem, if_pos (List.mem_append_right ids hmem), ih]
    · rw [if_neg hmem, ← List.append_assoc, eraseDups_concat, ih]
      simp only [List.mem_append, List.mem_eraseDups]

namespace GroupSet

/-! ## Sets as identifiers with their groups -/

/-- A set lists what its identifiers stand for. -/
theorem filterMap_get?_ids (s : GroupSet) : s.ids.filterMap s.get? = s.groups := by
  have hnamed : lastNamed s.groups = s.get? := funext s.lastNamed_groups
  have hresolve := resolve_of_nodup s.distinct
  rwa [resolve, eraseDups_of_nodup s.distinct, hnamed] at hresolve

/-- Sets with the same groups in the same order are the same. -/
theorem eq_of_groups {s t : GroupSet} (h : s.groups = t.groups) : s = t := by
  cases s
  cases t
  congr

/-- Two sets with the same identifiers in the same order, which stand for the same groups, are the
same. -/
theorem eq_of_ids_of_get? {s t : GroupSet} (hids : s.ids = t.ids)
    (hget : ∀ id, s.get? id = t.get? id) : s = t := by
  apply eq_of_groups
  rw [← filterMap_get?_ids s, ← filterMap_get?_ids t, hids, funext hget]

/-- A set has each of its identifiers once. -/
theorem eraseDups_ids (s : GroupSet) : s.ids.eraseDups = s.ids :=
  eraseDups_of_nodup s.distinct

/-- The identifiers after a group is put. -/
theorem ids_insert (s : GroupSet) (g : Group) :
    (s.insert g).ids = if g.id ∈ s.ids then s.ids else s.ids ++ [g.id] :=
  map_id_putGroup g s.groups

/-- A further group is put last. -/
theorem insertAll_concat (s : GroupSet) (groups : List Group) (g : Group) :
    s.insertAll (groups ++ [g]) = (s.insertAll groups).insert g :=
  List.foldl_concat insert s g groups

/-- The identifiers of added groups come behind those of the set unless they are there already. -/
theorem ids_insertAll (s : GroupSet) (groups : List Group) :
    (s.insertAll groups).ids = (s.ids ++ groups.map (·.id)).eraseDups := by
  induction groups using List.reverseRecOn with
  | nil =>
    rw [List.map_nil, List.append_nil, eraseDups_ids]
    rfl
  | append_singleton groups g ih =>
    rw [insertAll_concat, ids_insert, ih, List.map_append, List.map_singleton, ← List.append_assoc,
      eraseDups_concat]
    simp only [List.mem_eraseDups]

/-- An identifier stands for the last added group that has it, and else for what it stood for. -/
theorem get?_insertAll (s : GroupSet) (groups : List Group) (id : String) :
    (s.insertAll groups).get? id = (lastNamed groups id).or (s.get? id) := by
  induction groups using List.reverseRecOn with
  | nil => rfl
  | append_singleton groups g ih =>
    rw [insertAll_concat, get?_insert, lastNamed_concat]
    by_cases hid : id = g.id
    · rw [redefine_of_eq _ hid, redefine_of_eq _ hid, Option.some_or]
    · rw [redefine_of_ne _ hid, redefine_of_ne _ hid, ih]

/-- The identifiers of two merged sets. -/
theorem ids_merge (s t : GroupSet) : (s.merge t).ids = (s.ids ++ t.ids).eraseDups :=
  ids_insertAll s t.groups

/-- In two merged sets, an identifier stands for what it stands for in the second, and else for what
it stands for in the first. -/
theorem get?_merge (s t : GroupSet) (id : String) :
    (s.merge t).get? id = (t.get? id).or (s.get? id) := by
  rw [merge, get?_insertAll, lastNamed_groups]

/-! ## The laws of merging -/

/-- Groups may be added to a set before or after it is merged into another one. -/
theorem merge_insertAll (s t : GroupSet) (groups : List Group) :
    s.merge (t.insertAll groups) = (s.merge t).insertAll groups := by
  apply eq_of_ids_of_get?
  · rw [ids_merge, ids_insertAll, ids_insertAll, ids_merge, eraseDups_append_eraseDups,
      eraseDups_eraseDups_append, List.append_assoc]
  · intro id
    rw [get?_merge, get?_insertAll, get?_insertAll, get?_merge, Option.or_assoc]

/-- It makes no difference which two of three sets are merged first. -/
theorem merge_merge (a b c : GroupSet) : (a.merge b).merge c = a.merge (b.merge c) :=
  (merge_insertAll a b c.groups).symm

/-- A set that is merged into the empty set stays as it is. -/
@[simp]
theorem empty_merge (s : GroupSet) : (∅ : GroupSet).merge s = s := by
  apply eq_of_ids_of_get?
  · rw [ids_merge]
    exact eraseDups_ids s
  · intro id
    rw [get?_merge]
    exact Option.or_none

/-- Merging the empty set into a set changes nothing. -/
@[simp]
theorem merge_empty (s : GroupSet) : s.merge ∅ = s :=
  rfl

/-- Merging a set into itself changes nothing. -/
@[simp]
theorem merge_self (s : GroupSet) : s.merge s = s := by
  apply eq_of_ids_of_get?
  · have hnone : s.ids.filter (· ∉ s.ids) = [] := List.filter_eq_nil_iff.mpr (by simp)
    have hdistinct : s.ids.Nodup := s.distinct
    rw [ids_merge, eraseDups_append_of_nodup s.ids hdistinct, hnone, List.append_nil, eraseDups_ids]
  · intro id
    rw [get?_merge, Option.or_self]

/-! ## Collecting groups -/

/-- The set of the groups of a set is the set. -/
theorem ofList_groups (s : GroupSet) : ofList s.groups = s :=
  empty_merge s

/-- Collecting two lists of groups one after the other is merging their sets. -/
theorem ofList_append (groups others : List Group) :
    ofList (groups ++ others) = (ofList groups).merge (ofList others) :=
  calc ofList (groups ++ others)
    _ = (ofList groups).insertAll others := List.foldl_append
    _ = (ofList groups).merge (ofList others) := (merge_insertAll (ofList groups) ∅ others).symm

/-- Collecting batches of groups and merging their sets one after the other is collecting all
groups. -/
theorem foldl_merge_ofList (batches : List (List Group)) :
    (batches.map ofList).foldl merge ∅ = ofList batches.flatten := by
  induction batches using List.reverseRecOn with
  | nil => rfl
  | append_singleton batches batch ih =>
    rw [List.map_append, List.map_singleton, List.foldl_concat, ih, List.flatten_append,
      List.flatten_singleton, ofList_append]

/-- Merging sets one after the other is collecting their groups. -/
theorem foldl_merge (sets : List GroupSet) :
    sets.foldl merge ∅ = ofList (sets.flatMap (·.groups)) := by
  have hsets : (sets.map (·.groups)).map ofList = sets := by
    simp [Function.comp_def, ofList_groups]
  rw [List.flatMap_def, ← foldl_merge_ofList, hsets]

end GroupSet

end CallGuard
