import CallGuard.Guard
import CallGuard.Proofs.GroupSet.Resolution

/-!
# Preparing a guard

The steps that prepare a guard may come in any order and any number.  What they come to is said
without running them: the groups that are given in order, followed by those of the last supplementary
set, are resolved to one group for each identifier.  Groups without a pattern, groups whose regular
expression is too large and groups that the last list of exclusions names are dropped, in this order,
so that a dropped group never brings an earlier one back.

Main results:

- Theorem {lit}`Plan.Follows.step`: what one more step does to a plan.
- Theorem {lit}`Plan.follows_foldl`: what a plan holds after any steps.
- Theorem {lit}`nodup_ids_buildWithin`: the active groups have distinct identifiers.
- Theorem {lit}`buildWithin_active_eq_survivors`: the active groups of the guard.
-/

namespace CallGuard.Guard

/-! ## What the steps say -/

namespace Step

/-- The groups that a step gives. -/
def given : Step → List Group
  | .group g => [g]
  | .groups gs => gs.groups
  | .supplementary _ | .exclude _ => []

/-- The supplementary set that a step sets. -/
def supplement? : Step → Option GroupSet
  | .supplementary gs => some gs
  | .group _ | .groups _ | .exclude _ => none

/-- The list of exclusions that a step sets. -/
def exclusion? : Step → Option String
  | .exclude value => some value
  | .group _ | .groups _ | .supplementary _ => none

end Step

/-- The last supplementary set among the steps. -/
def lastSupplementary (steps : List Step) : Option GroupSet :=
  (steps.filterMap Step.supplement?).getLast?

/-- The last list of exclusions among the steps; nothing is excluded if there is none. -/
def lastExclude (steps : List Step) : String :=
  (steps.filterMap Step.exclusion?).getLast?.getD ""

/-- All groups of the steps, those of the last supplementary set behind the others. -/
def declared (steps : List Step) : List Group :=
  steps.flatMap Step.given ++ ((lastSupplementary steps).map (·.groups)).getD []

/-- The groups that steps leave active under a limit: one for each identifier, without those that
have no pattern, those that are too large and those that are excluded. -/
def survivors (limit : String → Bool) (steps : List Step) : List Group :=
  (((resolve (declared steps)).filter fun g => !g.patterns.isEmpty).filter
    fun g => limit g.expression).filter
      fun g => !(Exclusion.parse (lastExclude steps)).contains g.id

/-! ## Following the steps -/

namespace Plan

/-- A plan holds what steps come to. -/
structure Follows (p : Plan) (steps : List Step) : Prop where
  groups : p.groups.groups = resolve (steps.flatMap Step.given)
  supplementary : p.supplementary = lastSupplementary steps
  exclude : p.exclude = lastExclude steps

/-- The first plan follows no steps. -/
theorem follows_empty : Follows empty [] where
  groups := rfl
  supplementary := rfl
  exclude := rfl

/-- A plan that follows steps follows one more step after taking it. -/
theorem Follows.step {p : Plan} {steps : List Step} (h : Follows p steps) (s : Step) :
    Follows (p.step s) (steps ++ [s]) := by
  obtain ⟨hgroups, hsupplementary, hexclude⟩ := h
  cases s with
  | group g =>
    refine ⟨?_, ?_, ?_⟩
    · rw [List.flatMap_append, List.flatMap_singleton]
      exact GroupSet.groups_insertAll hgroups [g]
    · simpa [Plan.step, lastSupplementary, Step.supplement?] using hsupplementary
    · simpa [Plan.step, lastExclude, Step.exclusion?] using hexclude
  | groups gs =>
    refine ⟨?_, ?_, ?_⟩
    · rw [List.flatMap_append, List.flatMap_singleton]
      exact GroupSet.groups_insertAll hgroups gs.groups
    · simpa [Plan.step, lastSupplementary, Step.supplement?] using hsupplementary
    · simpa [Plan.step, lastExclude, Step.exclusion?] using hexclude
  | supplementary gs =>
    refine ⟨?_, ?_, ?_⟩
    · simpa [Plan.step, Step.given] using hgroups
    · simp [Plan.step, lastSupplementary, Step.supplement?]
    · simpa [Plan.step, lastExclude, Step.exclusion?] using hexclude
  | exclude value =>
    refine ⟨?_, ?_, ?_⟩
    · simpa [Plan.step, Step.given] using hgroups
    · simpa [Plan.step, lastSupplementary, Step.supplement?] using hsupplementary
    · simp [Plan.step, lastExclude, Step.exclusion?]

/-- The plan after any steps follows them. -/
theorem follows_foldl (steps : List Step) : Follows (steps.foldl Plan.step empty) steps := by
  induction steps using List.reverseRecOn with
  | nil => exact follows_empty
  | append_singleton steps s ih =>
    rw [List.foldl_append, List.foldl_cons, List.foldl_nil]
    exact ih.step s

end Plan

/-! ## The active groups -/

/-- The set that usable groups are taken from holds all groups of the steps, resolved. -/
theorem usableGroupsWithin_eq (limit : String → Bool) {p : Plan} {steps : List Step}
    (h : p.Follows steps) :
    usableGroupsWithin limit p.groups p.supplementary =
      ((resolve (declared steps)).filter fun g => !g.patterns.isEmpty).filter
        fun g => limit g.expression := by
  unfold usableGroupsWithin declared
  rw [h.supplementary]
  cases lastSupplementary steps with
  | none =>
    simp only [Option.map_none, Option.getD_none, List.append_nil, ← h.groups]
    rfl
  | some gs =>
    have hmerged := GroupSet.groups_insertAll h.groups gs.groups
    simp only [Option.map_some, Option.getD_some, ← hmerged]
    rfl

/-- The active groups of a guard are those that the steps leave active. -/
theorem active_buildWithin (limit : String → Bool) (steps : List Step) :
    (buildWithin limit steps).active = survivors limit steps := by
  have hfollows := Plan.follows_foldl steps
  rw [buildWithin, Plan.guardWithin, activeGroups, usableGroupsWithin_eq limit hfollows,
    hfollows.exclude]
  rfl

/-- The usable groups of sets have distinct identifiers. -/
theorem nodup_ids_usableGroupsWithin (limit : String → Bool) (primary : GroupSet)
    (supplementary : Option GroupSet) :
    ((usableGroupsWithin limit primary supplementary).map (·.id)).Nodup := by
  unfold usableGroupsWithin
  exact (GroupSet.dropEmpty _).distinct.sublist (List.filter_sublist.map _)

/-- The active groups of a guard have distinct identifiers. -/
theorem nodup_ids_buildWithin (limit : String → Bool) (steps : List Step) :
    ((buildWithin limit steps).active.map (·.id)).Nodup :=
  (nodup_ids_usableGroupsWithin limit _ _).sublist (List.filter_sublist.map _)

/-- An active group has a pattern. -/
theorem patterns_ne_nil_of_mem_active {limit : String → Bool} {steps : List Step} {g : Group}
    (h : g ∈ (buildWithin limit steps).active) : g.patterns ≠ [] := by
  rw [active_buildWithin, survivors] at h
  have hpattern := List.of_mem_filter (List.mem_of_mem_filter (List.mem_of_mem_filter h))
  simpa using hpattern

/-- An active group is not among the exclusions that the guard keeps. -/
theorem contains_exclusions_of_mem_active {limit : String → Bool} {steps : List Step} {g : Group}
    (h : g ∈ (buildWithin limit steps).active) :
    (buildWithin limit steps).exclusions.contains g.id = false := by
  have hkept : (!(buildWithin limit steps).exclusions.contains g.id) = true :=
    (List.mem_filter.mp h).2
  simpa using hkept

/-- A guard has no active groups to give exactly if its list is empty. -/
theorem activeGroups?_eq_none_iff (g : Guard) : g.activeGroups? = none ↔ g.active = [] := by
  unfold activeGroups?
  split <;> simp_all

/-- A guard wants to see no tokens exactly if it has no active groups. -/
theorem kinds_eq_nil_iff (g : Guard) : g.kinds = [] ↔ g.active = [] := by
  unfold kinds
  split <;> simp_all

/-- For any sequence of steps and any limit, the active groups are the groups of all group steps and
of the last supplementary step, each identifier at the place of its first group with its last group,
without the groups that have no pattern, that are too large, or that the last list of exclusions
names.  The guard has nothing to check and wants to see no tokens exactly if this list is empty. -/
theorem buildWithin_active_eq_survivors (limit : String → Bool) (steps : List Step) :
    (buildWithin limit steps).active = survivors limit steps ∧
      ((buildWithin limit steps).activeGroups? = none ↔ survivors limit steps = []) ∧
      ((buildWithin limit steps).rule.kinds = [] ↔ survivors limit steps = []) := by
  have hactive := active_buildWithin limit steps
  refine ⟨hactive, ?_, ?_⟩
  · rw [activeGroups?_eq_none_iff, hactive]
  · rw [← hactive]
    exact kinds_eq_nil_iff (buildWithin limit steps)

end CallGuard.Guard
