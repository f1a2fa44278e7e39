import CallGuard.Group

/-!
# Ordered sets of groups

A set holds at most one group of each identifier and keeps the order in which the identifiers came.
Inserting a group whose identifier is present replaces the old one in its place.

Main definitions:

- {lit}`GroupSet`: the groups in order, with pairwise distinct identifiers.
- {lit}`GroupSet.insert`, {lit}`GroupSet.merge`, {lit}`GroupSet.ofList`: adding groups.
- {lit}`GroupSet.get?`: the group of an identifier.
- {lit}`GroupSet.dropEmpty`: the set without the groups that have no pattern.
-/

namespace CallGuard

/-! ## Lists of groups -/

/-- Replaces the group with the same identifier, or adds the group at the end. -/
def putGroup (g : Group) : List Group → List Group
  | [] => [g]
  | h :: rest => if h.id = g.id then g :: rest else h :: putGroup g rest

/-- Putting a group adds its identifier at the end unless it is there already. -/
theorem map_id_putGroup (g : Group) (groups : List Group) :
    (putGroup g groups).map (·.id) =
      if g.id ∈ groups.map (·.id) then groups.map (·.id) else groups.map (·.id) ++ [g.id] := by
  induction groups with
  | nil => simp [putGroup]
  | cons h rest ih =>
    by_cases heq : h.id = g.id
    · simp [putGroup, heq]
    · have hne : ¬ g.id = h.id := fun e => heq e.symm
      simp only [putGroup, heq, if_false, List.map_cons, ih, List.mem_cons, hne, false_or]
      split <;> rfl

/-- Putting a group keeps identifiers distinct. -/
theorem nodup_putGroup (g : Group) {groups : List Group} (h : (groups.map (·.id)).Nodup) :
    ((putGroup g groups).map (·.id)).Nodup := by
  rw [map_id_putGroup]
  split
  · exact h
  · rename_i hmem
    rw [List.nodup_append]
    refine ⟨h, by simp, ?_⟩
    intro a ha b hb
    simp only [List.mem_singleton] at hb
    subst hb
    intro e
    exact hmem (e ▸ ha)

/-! ## Sets -/

/-- Groups in order, with pairwise distinct identifiers. -/
structure GroupSet where
  groups : List Group
  distinct : (groups.map (·.id)).Nodup
deriving DecidableEq

namespace GroupSet

/-- The set without groups. -/
def empty : GroupSet := ⟨[], List.nodup_nil⟩

instance : EmptyCollection GroupSet := ⟨empty⟩

instance : Inhabited GroupSet := ⟨empty⟩

/-- Adds a group; it replaces the one with the same identifier in its place. -/
def insert (s : GroupSet) (g : Group) : GroupSet :=
  ⟨putGroup g s.groups, nodup_putGroup g s.distinct⟩

/-- Adds a list of groups one after the other. -/
def insertAll (s : GroupSet) (groups : List Group) : GroupSet :=
  groups.foldl insert s

/-- The set of a list of groups. -/
def ofList (groups : List Group) : GroupSet :=
  empty.insertAll groups

/-- Adds the groups of another set, which win. -/
def merge (s t : GroupSet) : GroupSet :=
  s.insertAll t.groups

/-- The group of an identifier. -/
def get? (s : GroupSet) (id : String) : Option Group :=
  s.groups.find? (·.id = id)

/-- Whether a set has a group of an identifier. -/
def contains (s : GroupSet) (id : String) : Bool :=
  (s.get? id).isSome

/-- The number of groups. -/
def size (s : GroupSet) : Nat :=
  s.groups.length

/-- Whether a set has no group. -/
def isEmpty (s : GroupSet) : Bool :=
  s.groups.isEmpty

/-- The identifiers in order. -/
def ids (s : GroupSet) : List String :=
  s.groups.map (·.id)

/-- The groups that satisfy a condition, in the same order. -/
def filter (s : GroupSet) (p : Group → Bool) : GroupSet :=
  ⟨s.groups.filter p, s.distinct.sublist (List.filter_sublist.map _)⟩

/-- The set without the groups that have no pattern. -/
def dropEmpty (s : GroupSet) : GroupSet :=
  s.filter (!·.isEmpty)

end GroupSet

end CallGuard
