import CallGuard.Proofs.Guard.Preparation
import CallGuard.Proofs.GroupSet.Merging

/-!
# Giving groups in batches

A guard is prepared by steps that give groups and by steps that say what to do with them.  Of the
steps that give groups, only the set that they come to matters.  So the same groups may be given one
by one, in batches or as one set that is merged beforehand, with other steps in between or not.

Main results:

- Theorem {lit}`groups_foldl_step`: the set that steps come to.
- Theorem {lit}`buildWithin_eq_of_given`: steps that give the same set and have the same other steps
  build the same guard.
- Theorem {lit}`batches_build_the_same`: the laws of merging, and the guards that batches build.
-/

namespace CallGuard.Guard

open GroupSet (ofList)

/-! ## Steps that give groups -/

namespace Step

/-- Whether a step gives groups. -/
def givesGroups : Step → Bool
  | .group _ | .groups _ => true
  | .supplementary _ | .exclude _ => false

/-- The set of the groups that a step gives. -/
def givenSet : Step → GroupSet
  | .group g => ofList [g]
  | .groups gs => gs
  | .supplementary _ | .exclude _ => ∅

/-- The set of a step has the groups that it gives. -/
theorem groups_givenSet (s : Step) : s.givenSet.groups = s.given := by
  cases s <;> rfl

end Step

/-- The steps that give no groups. -/
def otherSteps (steps : List Step) : List Step :=
  steps.filter (!·.givesGroups)

/-- The sets that steps give, merged one after the other. -/
def mergedSet (steps : List Step) : GroupSet :=
  (steps.map Step.givenSet).foldl GroupSet.merge ∅

/-- Merging what steps give is collecting it. -/
theorem mergedSet_eq (steps : List Step) : mergedSet steps = ofList (steps.flatMap Step.given) := by
  rw [mergedSet, GroupSet.foldl_merge, List.flatMap_map]
  simp only [Step.groups_givenSet]

/-- The other steps of two lists of steps, one list after the other. -/
theorem otherSteps_append (steps more : List Step) :
    otherSteps (steps ++ more) = otherSteps steps ++ otherSteps more :=
  List.filter_append steps more

/-- Where all steps give groups, there are no others. -/
theorem otherSteps_map {α : Type} (give : α → Step) (h : ∀ a, (give a).givesGroups = true)
    (items : List α) : otherSteps (items.map give) = [] := by
  rw [otherSteps, List.filter_eq_nil_iff]
  simp [h]

/-- Other steps give nothing. -/
theorem flatMap_given_otherSteps (steps : List Step) :
    (otherSteps steps).flatMap Step.given = [] := by
  rw [List.flatMap_eq_nil_iff]
  intro s hs
  have hother := List.of_mem_filter hs
  cases s with
  | group | groups => simp [Step.givesGroups] at hother
  | supplementary | exclude => rfl

/-- The supplementary set is set by the other steps. -/
theorem lastSupplementary_otherSteps (steps : List Step) :
    lastSupplementary (otherSteps steps) = lastSupplementary steps := by
  rw [lastSupplementary, lastSupplementary, otherSteps, List.filterMap_filter]
  congr 1
  apply List.filterMap_congr
  intro s _
  cases s <;> rfl

/-- The exclusions are set by the other steps. -/
theorem lastExclude_otherSteps (steps : List Step) :
    lastExclude (otherSteps steps) = lastExclude steps := by
  rw [lastExclude, lastExclude, otherSteps, List.filterMap_filter]
  congr 2
  apply List.filterMap_congr
  intro s _
  cases s <;> rfl

/-! ## Guards from the same groups -/

/-- Steps come to the set of all groups that they give. -/
theorem groups_foldl_step (steps : List Step) :
    (steps.foldl Plan.step Plan.empty).groups = ofList (steps.flatMap Step.given) := by
  apply GroupSet.eq_of_groups
  rw [(Plan.follows_foldl steps).groups, GroupSet.groups_ofList]

/-- Steps that give the same set of groups and have the same other steps build the same guard. -/
theorem buildWithin_eq_of_given (limit : String → Bool) {steps more : List Step}
    (hgiven : ofList (steps.flatMap Step.given) = ofList (more.flatMap Step.given))
    (hother : otherSteps steps = otherSteps more) :
    buildWithin limit steps = buildWithin limit more := by
  have hgroups : (steps.foldl Plan.step Plan.empty).groups =
      (more.foldl Plan.step Plan.empty).groups := by
    rw [groups_foldl_step, groups_foldl_step, hgiven]
  have hsupplementary : lastSupplementary steps = lastSupplementary more := by
    rw [← lastSupplementary_otherSteps, hother, lastSupplementary_otherSteps]
  have hexclude : lastExclude steps = lastExclude more := by
    rw [← lastExclude_otherSteps, hother, lastExclude_otherSteps]
  rw [buildWithin, buildWithin, Plan.guardWithin, Plan.guardWithin, hgroups,
    (Plan.follows_foldl steps).supplementary, (Plan.follows_foldl more).supplementary,
    (Plan.follows_foldl steps).exclude, (Plan.follows_foldl more).exclude, hsupplementary, hexclude]

/-- Steps in the middle may be exchanged for steps that give the same set, if neither are other
steps. -/
theorem buildWithin_middle (limit : String → Bool) (before after : List Step) {steps more : List Step}
    (hgiven : ofList (steps.flatMap Step.given) = ofList (more.flatMap Step.given))
    (hsteps : otherSteps steps = []) (hmore : otherSteps more = []) :
    buildWithin limit (before ++ steps ++ after) = buildWithin limit (before ++ more ++ after) := by
  apply buildWithin_eq_of_given
  · simp only [List.flatMap_append, GroupSet.ofList_append, hgiven]
  · simp only [otherSteps_append, hsteps, hmore]

/-- Collecting two lists of groups at once is merging the sets of both.  Merging is associative, the
empty set changes nothing on either side, and neither does a set that is merged into itself.  So
groups that are given one by one, in batches, or as one set that the batches are merged into
beforehand build the same guard, whatever steps come before and after; and any steps build the guard
of one set that all their groups are merged into, followed by their other steps. -/
theorem batches_build_the_same :
    (∀ groups others : List Group,
      ofList (groups ++ others) = (ofList groups).merge (ofList others)) ∧
    (∀ a b c : GroupSet, (a.merge b).merge c = a.merge (b.merge c)) ∧
    (∀ a : GroupSet, (∅ : GroupSet).merge a = a ∧ a.merge ∅ = a ∧ a.merge a = a) ∧
    (∀ (limit : String → Bool) (before after : List Step) (batches : List (List Group)),
      let merged := (batches.map ofList).foldl GroupSet.merge ∅
      buildWithin limit (before ++ batches.flatten.map .group ++ after) =
          buildWithin limit (before ++ [.groups merged] ++ after) ∧
        buildWithin limit (before ++ batches.map (fun batch => .groups (ofList batch)) ++ after) =
          buildWithin limit (before ++ [.groups merged] ++ after)) ∧
    ∀ (limit : String → Bool) (steps : List Step),
      buildWithin limit (.groups (mergedSet steps) :: otherSteps steps) = buildWithin limit steps := by
  refine ⟨GroupSet.ofList_append, GroupSet.merge_merge, ?_, ?_, ?_⟩
  · intro a
    exact ⟨GroupSet.empty_merge a, GroupSet.merge_empty a, GroupSet.merge_self a⟩
  · intro limit before after batches merged
    have hmerged : ofList ([Step.groups merged].flatMap Step.given) = merged := by
      rw [List.flatMap_singleton]
      exact GroupSet.ofList_groups merged
    constructor
    · have hbatches : merged = ofList batches.flatten := GroupSet.foldl_merge_ofList batches
      apply buildWithin_middle
      · rw [hmerged, hbatches, List.flatMap_map]
        simp [Step.given]
      · exact otherSteps_map _ (fun _ => rfl) _
      · rfl
    · apply buildWithin_middle
      · rw [hmerged, ← mergedSet_eq, mergedSet, List.map_map]
        rfl
      · exact otherSteps_map _ (fun _ => rfl) _
      · rfl
  · intro limit steps
    apply buildWithin_eq_of_given
    · rw [List.flatMap_cons, flatMap_given_otherSteps, List.append_nil, ← mergedSet_eq]
      exact GroupSet.ofList_groups (mergedSet steps)
    · rw [otherSteps, List.filter_cons_of_neg (by simp [Step.givesGroups]), otherSteps,
        List.filter_filter]
      simp only [Bool.and_self]

end CallGuard.Guard
