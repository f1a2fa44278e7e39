import CallGuard.CallSite
import CallGuard.Exclusion
import CallGuard.GroupSet
import CallGuard.Rule
import CallGuard.Template

/-!
# The guard against restricted calls

A guard watches bare calls with a list of active groups and reports one finding for every group
that restricts the called name.  It is prepared by steps that add groups, set groups that are added
last, and set the groups to leave out.  Which regular expressions are small enough to be used is
left to the engine that runs them, so its limit is a parameter.

Main definitions:

- {lit}`usableGroupsWithin`: the groups that remain of two sets.
- {lit}`activeGroups`: the groups that a list of exclusions leaves of them.
- {lit}`findingsAt`: the findings about one call.
- {lit}`Guard`: active groups with exclusions, and its rule {lit}`Guard.rule`.
- {lit}`Guard.buildWithin`: the guard that a list of steps prepares.
-/

namespace CallGuard

/-! ## Active groups -/

/-- The usable groups of a set with supplementary groups, which win: those that have a pattern and
whose regular expression is small enough for a limit. -/
def usableGroupsWithin (limit : String → Bool) (primary : GroupSet)
    (supplementary : Option GroupSet) : List Group :=
  let merged := match supplementary with
    | some extra => primary.merge extra
    | none => primary
  merged.dropEmpty.groups.filter (·.fitsIn limit)

/-- The usable groups that are not left out. -/
def activeGroups (usable : List Group) (exclusions : Exclusion) : List Group :=
  usable.filter fun g => !exclusions.contains g.id

/-! ## Findings about a call -/

/-- What a group finds about a call of a name. -/
def Group.finding (g : Group) (rule name : String) (location : Location) : Finding where
  rule := rule
  group := g.id
  severity := g.severity
  location := location
  message := Template.fill g.message name
  matched := name
  doc := g.doc

/-- The findings about a call of a name: one for each group, in order, that is not left out and
restricts the name in lower case. -/
def findingsAt (rule name : String) (location : Location) (groups : List Group)
    (exclusions : Exclusion) : List Finding :=
  let lower := Text.lowercase name
  (groups.filter fun g => !exclusions.contains g.id && g.restricts lower).map
    (·.finding rule name location)

/-! ## Guards -/

/-- Active groups and the groups that are left out. -/
structure Guard where
  active : List Group
  exclusions : Exclusion
deriving Repr, DecidableEq

namespace Guard

/-- The name of the guard's rule. -/
def ruleName : String := "function-restrictions"

/-- The active groups of a guard; none if there is nothing to check. -/
def activeGroups? (g : Guard) : Option (List Group) :=
  if g.active.isEmpty then none else some g.active

/-- The kinds of tokens that a guard wants to see; none if it has no active group. -/
def kinds (g : Guard) : List TokenKind :=
  if g.active.isEmpty then [] else [.identifier, .eval]

/-- The findings of a guard at a token. -/
def inspect (g : Guard) (file : String) (tokens : Tokens) (index : Nat) : List Finding :=
  match tokens[index]? with
  | none => []
  | some token =>
    if isBareCall tokens index then
      findingsAt ruleName token.content (.ofToken file token index) g.active g.exclusions
    else
      []

/-- A guard as a rule. -/
def rule (g : Guard) : Rule where
  name := ruleName
  description := "Flags bare calls to restricted functions"
  kinds := g.kinds
  inspect := g.inspect

/-! ## Preparing a guard -/

/-- A step in the preparation of a guard. -/
inductive Step where
  /-- Adds a group. -/
  | group (group : Group)
  /-- Adds the groups of a set. -/
  | groups (groups : GroupSet)
  /-- Sets the groups that are added last. -/
  | supplementary (groups : GroupSet)
  /-- Sets the comma-separated list of groups to leave out. -/
  | exclude (value : String)

/-- What a guard is built from. -/
structure Plan where
  groups : GroupSet
  supplementary : Option GroupSet
  exclude : String

namespace Plan

/-- The plan before the first step. -/
def empty : Plan := ⟨∅, none, ""⟩

/-- Takes one step. -/
def step (p : Plan) : Step → Plan
  | .group g => { p with groups := p.groups.insert g }
  | .groups gs => { p with groups := p.groups.merge gs }
  | .supplementary gs => { p with supplementary := some gs }
  | .exclude value => { p with exclude := value }

/-- The guard of a plan, under a limit for regular expressions. -/
def guardWithin (limit : String → Bool) (p : Plan) : Guard :=
  let exclusions := Exclusion.parse p.exclude
  ⟨activeGroups (usableGroupsWithin limit p.groups p.supplementary) exclusions, exclusions⟩

end Plan

/-- The guard that a list of steps prepares, under a limit for regular expressions. -/
def buildWithin (limit : String → Bool) (steps : List Step) : Guard :=
  (steps.foldl Plan.step Plan.empty).guardWithin limit

end Guard

end CallGuard
