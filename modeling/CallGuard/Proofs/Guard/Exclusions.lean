import CallGuard.Proofs.Exclusion.Reading
import CallGuard.Proofs.Guard.Pass

/-!
# Two ways to leave groups out

A group is left out either when a guard is built, so that it is not active, or when a guard with
active groups looks at a call.  Both ways take the same findings away, in any combination.  A guard
that has nothing left to check does not listen, and a guard that leaves all its active groups out
listens in vain; neither finds anything.

Main results:

- Theorem {lit}`inspect_activeGroups`: leaving groups out at one token, in both ways at once.
- Theorem {lit}`findings_activeGroups`: leaving groups out in a file.
- Theorem {lit}`findings_congr`: exclusions that agree on the active groups find the same.
- Theorem {lit}`buildExcept_eq`: what a guard with exclusions is made of.
- Theorem {lit}`exclusion_ways_agree`: the two ways agree.
-/

namespace CallGuard.Guard

/-! ## Leaving findings out -/

/-- Whether neither of two lists of exclusions names the group of a finding. -/
def isKept (x y : Exclusion) (f : Finding) : Bool :=
  !x.contains f.group && !y.contains f.group

/-- Groups that are left out beforehand, and groups that are left out at the call, take their
findings away. -/
theorem findingsAt_activeGroups (rule name : String) (location : Location) (groups : List Group)
    (x y : Exclusion) :
    findingsAt rule name location (activeGroups groups x) y =
      (findingsAt rule name location groups .none).filter (isKept x y) := by
  unfold findingsAt activeGroups
  simp only [List.filter_filter, List.filter_map]
  congr 1
  apply List.filter_congr
  intro g _
  simp only [Function.comp_apply, isKept, Group.finding, Exclusion.none, Exclusion.contains,
    List.contains_nil, Bool.not_false, Bool.true_and]
  cases x.ids.contains g.id <;> cases y.ids.contains g.id <;> simp

/-- What a guard finds at a token if groups are left out in both ways. -/
theorem inspect_activeGroups (groups : List Group) (x y : Exclusion) (file : String)
    (tokens : Tokens) (index : Nat) :
    inspect ⟨activeGroups groups x, y⟩ file tokens index =
      (inspect ⟨groups, .none⟩ file tokens index).filter (isKept x y) := by
  unfold inspect
  cases tokens[index]? with
  | none => rfl
  | some token =>
    simp only
    split
    · exact findingsAt_activeGroups _ _ _ _ _ _
    · rfl

/-- What is found in a file if groups are left out in both ways. -/
theorem findings_activeGroups (groups : List Group) (x y : Exclusion) (a : Analyzer) (file : String)
    (tokens : Tokens) :
    findings ⟨activeGroups groups x, y⟩ a file tokens =
      (findings ⟨groups, .none⟩ a file tokens).filter (isKept x y) := by
  have hadjust : isKept x y ∘ a.adjust = isKept x y := by
    funext f
    simp [isKept]
  have hinspect : inspect ⟨activeGroups groups x, y⟩ file tokens =
      fun index => (inspect ⟨groups, .none⟩ file tokens index).filter (isKept x y) := by
    funext index
    exact inspect_activeGroups groups x y file tokens index
  rw [findings_eq_flatMap, findings_eq_flatMap, List.filter_map, hadjust, List.filter_flatMap,
    hinspect]

/-- Leaving out nothing keeps all groups. -/
theorem activeGroups_none (groups : List Group) : activeGroups groups .none = groups := by
  simp [activeGroups, Exclusion.none, Exclusion.contains]

/-- What is found in a file if groups are left out at the call alone. -/
theorem findings_exclusions (groups : List Group) (y : Exclusion) (a : Analyzer) (file : String)
    (tokens : Tokens) :
    findings ⟨groups, y⟩ a file tokens =
      (findings ⟨groups, .none⟩ a file tokens).filter fun f => !y.contains f.group := by
  have hkept := findings_activeGroups groups .none y a file tokens
  rw [activeGroups_none] at hkept
  exact hkept

/-- Two lists of exclusions that agree on the active groups make no difference. -/
theorem findings_congr {active : List Group} {x y : Exclusion}
    (h : ∀ g ∈ active, x.contains g.id = y.contains g.id) (a : Analyzer) (file : String)
    (tokens : Tokens) :
    findings ⟨active, x⟩ a file tokens = findings ⟨active, y⟩ a file tokens := by
  have hfindings : ∀ rule name location,
      findingsAt rule name location active x = findingsAt rule name location active y := by
    intro rule name location
    have hkept : active.filter (fun g => !x.contains g.id && g.restricts (Text.lowercase name)) =
        active.filter fun g => !y.contains g.id && g.restricts (Text.lowercase name) := by
      apply List.filter_congr
      intro g hg
      rw [h g hg]
    simp only [findingsAt, hkept]
  have hinspect : inspect ⟨active, x⟩ file tokens = inspect ⟨active, y⟩ file tokens := by
    funext index
    simp only [inspect, hfindings]
  rw [findings_eq_flatMap, findings_eq_flatMap, hinspect]

/-! ## Guards with and without exclusions -/

/-- The guard of steps, without the groups that a text names. -/
def buildExcept (limit : String → Bool) (steps : List Step) (exclude : String) : Guard :=
  buildWithin limit (steps ++ [.exclude exclude])

/-- The usable groups of steps. -/
def usable (limit : String → Bool) (steps : List Step) : List Group :=
  let plan := steps.foldl Plan.step Plan.empty
  usableGroupsWithin limit plan.groups plan.supplementary

/-- The active groups of a guard with exclusions are the usable groups that the exclusions leave. -/
theorem buildExcept_eq (limit : String → Bool) (steps : List Step) (exclude : String) :
    buildExcept limit steps exclude =
      ⟨activeGroups (usable limit steps) (Exclusion.parse exclude), Exclusion.parse exclude⟩ := by
  rw [buildExcept, buildWithin, List.foldl_append]
  rfl

/-- All usable groups are active in a guard without exclusions. -/
theorem buildWithin_eq_usable (limit : String → Bool) {steps : List Step}
    (hsteps : ∀ value, Step.exclude value ∉ steps) :
    buildWithin limit steps = ⟨usable limit steps, .none⟩ := by
  have hnone : steps.filterMap Step.exclusion? = [] := by
    rw [List.filterMap_eq_nil_iff]
    intro s hs
    cases s with
    | exclude value => exact absurd hs (hsteps value)
    | _ => rfl
  have hexclude : (steps.foldl Plan.step Plan.empty).exclude = "" := by
    rw [(Plan.follows_foldl steps).exclude, lastExclude, hnone]
    rfl
  rw [buildWithin, Plan.guardWithin, hexclude, Exclusion.parse_empty]
  simp only [activeGroups_none]
  rfl

/-- A usable group is one of those that the steps give. -/
theorem mem_declared_of_mem_usable {limit : String → Bool} {steps : List Step} {g : Group}
    (h : g ∈ usable limit steps) : g ∈ declared steps := by
  rw [usable, usableGroupsWithin_eq limit (Plan.follows_foldl steps)] at h
  exact mem_of_mem_resolve (List.mem_of_mem_filter (List.mem_of_mem_filter h))

/-- The active groups that a guard gives are the ones that it has. -/
theorem eq_active_of_activeGroups? {g : Guard} {active : List Group}
    (h : g.activeGroups? = some active) : active = g.active := by
  unfold activeGroups? at h
  split at h
  · cases h
  · exact (Option.some.inj h).symm

/-! ## The two ways agree -/

/-- Leaving groups out when a guard is built and leaving them out at the call agree.  Let steps give
primary and supplementary groups and no exclusions.  A guard built without the groups that a text
names finds what the guard with all groups finds, less the findings of these groups and in the same
order; so does a guard that shares the active groups of the latter and leaves out at the call what
the text names.  A guard that shares the active groups of the former and leaves out at the call what
a second text names finds what a guard finds that is built without the groups of both texts.  Names
that no group has change nothing: if two texts name the same of all groups that the steps give, then
guards built with either have the same active groups and findings, and so have guards that leave out
at the call what either names. -/
theorem exclusion_ways_agree (limit : String → Bool) (steps : List Step)
    (hsteps : ∀ value, Step.exclude value ∉ steps) (e₁ e₂ : String) (a : Analyzer) (file : String)
    (tokens : Tokens) :
    (buildExcept limit steps e₁).findings a file tokens =
        ((buildWithin limit steps).findings a file tokens).filter
          (fun f => !(Exclusion.parse e₁).contains f.group) ∧
      (∀ active, (buildWithin limit steps).activeGroups? = some active →
        findings ⟨active, .parse e₁⟩ a file tokens =
          (buildExcept limit steps e₁).findings a file tokens) ∧
      (∀ active, (buildExcept limit steps e₁).activeGroups? = some active →
        findings ⟨active, .parse e₂⟩ a file tokens =
          (buildExcept limit steps (e₁ ++ "," ++ e₂)).findings a file tokens) ∧
      ∀ e e', (∀ g ∈ declared steps,
          (Exclusion.parse e).contains g.id = (Exclusion.parse e').contains g.id) →
        (buildExcept limit steps e).active = (buildExcept limit steps e').active ∧
          (buildExcept limit steps e).findings a file tokens =
            (buildExcept limit steps e').findings a file tokens ∧
          ∀ active, (buildWithin limit steps).activeGroups? = some active ∨
              (buildExcept limit steps e₁).activeGroups? = some active →
            findings ⟨active, .parse e⟩ a file tokens =
              findings ⟨active, .parse e'⟩ a file tokens := by
  have hplain := buildWithin_eq_usable limit hsteps
  have hfirst : (buildExcept limit steps e₁).findings a file tokens =
      (findings ⟨usable limit steps, .none⟩ a file tokens).filter
        fun f => !(Exclusion.parse e₁).contains f.group := by
    rw [buildExcept_eq, findings_activeGroups]
    apply List.filter_congr
    intro f _
    exact Bool.and_self _
  refine ⟨?_, ?_, ?_, ?_⟩
  · rw [hfirst, hplain]
  · intro active hactive
    rw [eq_active_of_activeGroups? hactive, hplain, findings_exclusions, hfirst]
  · intro active hactive
    rw [eq_active_of_activeGroups? hactive, buildExcept_eq, findings_activeGroups, buildExcept_eq,
      findings_activeGroups]
    apply List.filter_congr
    intro f _
    simp only [isKept, Exclusion.contains_parse_append, Bool.not_or, Bool.and_self]
  · intro e e' halike
    have husable : ∀ g ∈ usable limit steps,
        (Exclusion.parse e).contains g.id = (Exclusion.parse e').contains g.id :=
      fun g hg => halike g (mem_declared_of_mem_usable hg)
    have hactive : activeGroups (usable limit steps) (Exclusion.parse e) =
        activeGroups (usable limit steps) (Exclusion.parse e') := by
      apply List.filter_congr
      intro g hg
      rw [husable g hg]
    refine ⟨?_, ?_, ?_⟩
    · rw [buildExcept_eq, buildExcept_eq, hactive]
    · rw [buildExcept_eq, buildExcept_eq, hactive]
      exact findings_congr (fun g hg => husable g (List.mem_of_mem_filter hg)) a file tokens
    · intro active hshared
      apply findings_congr
      intro g hg
      rcases hshared with hshared | hshared
      · rw [eq_active_of_activeGroups? hshared, hplain] at hg
        exact husable g hg
      · rw [eq_active_of_activeGroups? hshared, buildExcept_eq] at hg
        exact husable g (List.mem_of_mem_filter hg)

/-- A group against another name. -/
def lambdas : Group :=
  .ofTexts "lambdas" .error "No %s()" ["create_function"] [] none

/-- Steps that give both groups. -/
def bothGroups : List Step := [.group dumps, .group lambdas]

/-- Leaving out one of the groups, in a text with blanks, a blank entry and a name that no group
has, and then the other one. -/
theorem exclusion_ways_agree_both :
    (∀ value, Step.exclude value ∉ bothGroups) ∧
      (buildWithin (Group.withinLimit 1000) bothGroups).activeGroups? = some [dumps, lambdas] ∧
      (buildExcept (Group.withinLimit 1000) bothGroups " dumps ,, x").activeGroups? =
        some [lambdas] ∧
      (∀ g ∈ declared bothGroups, (Exclusion.parse " dumps ,, x").contains g.id =
        (Exclusion.parse "dumps").contains g.id) ∧
      ∃ a, Analyzer.build "/" dumpPlan = .ok a ∧
        findings ⟨[dumps, lambdas], .parse " dumps ,, x"⟩ a "a.php" dumpCalls =
          (buildExcept (Group.withinLimit 1000) bothGroups " dumps ,, x").findings a "a.php"
            dumpCalls ∧
        findings ⟨[lambdas], .parse "lambdas"⟩ a "a.php" dumpCalls =
          (buildExcept (Group.withinLimit 1000) bothGroups " dumps ,, x,lambdas").findings a "a.php"
            dumpCalls ∧
        (buildExcept (Group.withinLimit 1000) bothGroups " dumps ,, x").active =
          (buildExcept (Group.withinLimit 1000) bothGroups "dumps").active := by
  have hsteps : ∀ value, Step.exclude value ∉ bothGroups := by simp [bothGroups]
  have hplain : (buildWithin (Group.withinLimit 1000) bothGroups).activeGroups? =
      some [dumps, lambdas] := by decide +kernel
  have hexcept : (buildExcept (Group.withinLimit 1000) bothGroups " dumps ,, x").activeGroups? =
      some [lambdas] := by decide +kernel
  have halike : ∀ g ∈ declared bothGroups, (Exclusion.parse " dumps ,, x").contains g.id =
      (Exclusion.parse "dumps").contains g.id := by decide +kernel
  obtain ⟨a, hbuild⟩ : ∃ a, Analyzer.build "/" dumpPlan = .ok a := ⟨_, rfl⟩
  obtain ⟨-, hshared, hboth, hnames⟩ := exclusion_ways_agree (Group.withinLimit 1000) bothGroups
    hsteps " dumps ,, x" "lambdas" a "a.php" dumpCalls
  exact ⟨hsteps, hplain, hexcept, halike, a, hbuild, hshared _ hplain, hboth _ hexcept,
    (hnames _ _ halike).1⟩

end CallGuard.Guard
