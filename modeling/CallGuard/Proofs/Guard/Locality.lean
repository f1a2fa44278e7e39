import CallGuard.Proofs.Guard.Exclusions

/-!
# Groups do not interfere

Every group reports for itself.  Whatever other groups a guard has, the findings of one group are
those of a guard that has this group alone, even if the latter has nothing to check and does not
listen.  Names that are added to the exceptions of a group take away the findings of this group about
these names, in any case, and no others.

Main results:

- Theorem {lit}`Guard.findings_filter`: what is left out at every call is left out of a file.
- Theorem {lit}`Guard.buildWithin_groups`: what a guard of a set of groups is made of.
- Theorem {lit}`Guard.findingsAt_of_selected`, {lit}`Guard.findingsAt_allowing`: one call with some
  of the groups, and with more exceptions.
- Theorem {lit}`Guard.groups_do_not_interfere`: one group alone, and with more exceptions.
-/

namespace CallGuard

/-! ## More exceptions -/

namespace Group

/-- The group with more exceptions. -/
def allowing (g : Group) (names : List String) : Group :=
  { g with allow := g.allow ++ names.map Text.lowercase }

/-- These are the exceptions of a group that is given with them. -/
theorem allowing_ofTexts (id : String) (severity : Severity) (message : String)
    (patterns allow names : List String) (doc : Option String) :
    (ofTexts id severity message patterns allow doc).allowing names =
      ofTexts id severity message patterns (allow ++ names) doc := by
  simp [allowing, ofTexts]

/-- Whether a name is, in any case, one of a list of names. -/
def isAmong (names : List String) (name : String) : Bool :=
  names.any fun allowed => Text.lowercase allowed = Text.lowercase name

/-- With more exceptions, a group restricts the same names but these. -/
theorem restricts_allowing (g : Group) (names : List String) (name : String) :
    (g.allowing names).restricts (Text.lowercase name) =
      (g.restricts (Text.lowercase name) && !isAmong names name) := by
  have hallows : (g.allowing names).allows (Text.lowercase name) =
      (g.allows (Text.lowercase name) || isAmong names name) := by
    rw [Bool.eq_iff_iff]
    simp [allowing, allows, isAmong]
  have hcovers : (g.allowing names).covers (Text.lowercase name) =
      g.covers (Text.lowercase name) := rfl
  rw [restricts, restricts, hallows, hcovers]
  cases g.allows (Text.lowercase name) <;> cases g.covers (Text.lowercase name) <;> simp

end Group

namespace Guard

/-! ## Leaving out at every call -/

/-- What is left out of the findings at every call is left out of the findings in a file, unless it
depends on severities. -/
theorem findings_filter {groups others : List Group} {x : Exclusion} {kept : Finding → Bool}
    (hcall : ∀ name location, findingsAt ruleName name location others x =
      (findingsAt ruleName name location groups x).filter kept)
    {a : Analyzer} (hadjust : ∀ f, kept (a.adjust f) = kept f) (file : String) (tokens : Tokens) :
    findings ⟨others, x⟩ a file tokens = (findings ⟨groups, x⟩ a file tokens).filter kept := by
  have hinspect : ∀ index ∈ List.range tokens.size, inspect ⟨others, x⟩ file tokens index =
      (inspect ⟨groups, x⟩ file tokens index).filter kept := by
    intro index _
    unfold inspect
    cases tokens[index]? with
    | none => rfl
    | some token =>
      simp only [hcall]
      split <;> rfl
  have hkept : kept ∘ a.adjust = kept := funext hadjust
  rw [findings_eq_flatMap, findings_eq_flatMap, List.filter_map, hkept, List.filter_flatMap,
    List.flatMap_congr hinspect]

/-- Groups that are picked by their identifiers find at a call what is reported for these
identifiers. -/
theorem findingsAt_of_selected (q : String → Bool) (rule name : String) (location : Location)
    (groups : List Group) (x : Exclusion) :
    findingsAt rule name location (groups.filter (q ·.id)) x =
      (findingsAt rule name location groups x).filter (q ·.group) := by
  unfold findingsAt
  simp only [List.filter_map]
  rw [List.filter_comm]
  rfl

/-- Whether a finding stays if a group gets more exceptions. -/
def isKeptBy (id : String) (names : List String) (f : Finding) : Bool :=
  !(f.group = id && Group.isAmong names f.matched)

/-- More exceptions of a group take away its findings about these names. -/
theorem findingsAt_allowing (id : String) (names : List String) (rule name : String)
    (location : Location) (groups : List Group) (x : Exclusion) :
    findingsAt rule name location
        (groups.map fun g => if g.id = id then g.allowing names else g) x =
      (findingsAt rule name location groups x).filter (isKeptBy id names) := by
  have hreport : ∀ g : Group,
      (if g.id = id then g.allowing names else g).finding rule name location =
        g.finding rule name location := by
    intro g
    split <;> rfl
  have hkept : ∀ g : Group,
      (!x.contains (if g.id = id then g.allowing names else g).id &&
          (if g.id = id then g.allowing names else g).restricts (Text.lowercase name)) =
        (isKeptBy id names (g.finding rule name location) &&
          (!x.contains g.id && g.restricts (Text.lowercase name))) := by
    intro g
    by_cases heq : g.id = id
    · have hid : (g.allowing names).id = g.id := rfl
      have hkeptBy : isKeptBy id names (g.finding rule name location) =
          !Group.isAmong names name := by
        simp [isKeptBy, Group.finding, heq]
      rw [if_pos heq, hid, Group.restricts_allowing, hkeptBy, ← Bool.and_assoc,
        Bool.and_comm]
    · simp [isKeptBy, Group.finding, heq]
  unfold findingsAt
  simp only [List.filter_map, List.map_map, List.filter_filter]
  apply congrArg₂
  · funext g
    exact hreport g
  · exact List.filter_congr fun g _ => hkept g

/-! ## Guards of a set and of a group -/

/-- Whether a group has a pattern and its regular expression is small enough. -/
def isUsable (limit : String → Bool) (g : Group) : Bool :=
  !g.patterns.isEmpty && limit g.expression

/-- Without exclusions, a guard has the usable groups among those that the steps come to. -/
theorem buildWithin_eq_resolve (limit : String → Bool) {steps : List Step}
    (hsteps : ∀ value, Step.exclude value ∉ steps) :
    buildWithin limit steps = ⟨(resolve (declared steps)).filter (isUsable limit), .none⟩ := by
  rw [buildWithin_eq_usable limit hsteps, usable,
    usableGroupsWithin_eq limit (Plan.follows_foldl steps), List.filter_filter]
  congr 1
  exact List.filter_congr fun g _ => Bool.and_comm _ _

/-- The guard of a set has its usable groups. -/
theorem buildWithin_groups (limit : String → Bool) (s : GroupSet) :
    buildWithin limit [.groups s] = ⟨s.groups.filter (isUsable limit), .none⟩ := by
  have hdeclared : declared [.groups s] = s.groups := by
    simp [declared, Step.given, lastSupplementary, Step.supplement?]
  rw [buildWithin_eq_resolve limit (by simp), hdeclared, resolve_of_nodup s.distinct]

/-- The guard of a group has it if it is usable. -/
theorem buildWithin_group (limit : String → Bool) (g : Group) :
    buildWithin limit [.group g] = ⟨[g].filter (isUsable limit), .none⟩ := by
  have hdeclared : declared [.group g] = [g] := by
    simp [declared, Step.given, lastSupplementary, Step.supplement?]
  rw [buildWithin_eq_resolve limit (by simp), hdeclared, resolve_of_nodup (by simp)]

/-- Replacing a group of a set by itself with more exceptions. -/
theorem groups_insert_allowing {s : GroupSet} {g : Group} (hg : g ∈ s.groups)
    (names : List String) :
    (s.insert (g.allowing names)).groups =
      s.groups.map fun k => if k.id = g.id then k.allowing names else k := by
  have hid : (g.allowing names).id = g.id := rfl
  have hmem : (g.allowing names).id ∈ s.ids := List.mem_map_of_mem (f := (·.id)) hg
  rw [s.groups_insert_of_mem hmem]
  apply List.map_congr_left
  intro k hk
  rw [hid]
  split
  · rename_i heq
    rw [List.inj_on_of_nodup_map s.distinct hk hg heq]
  · rfl

/-! ## Groups are independent -/

/-- Groups do not interfere, and exceptions are local.  Let a guard be built from any set of groups.
For every group of the set and all tokens, the findings of this group are those of a guard that is
built from the group alone.  Any names that are added to the exceptions of the group take away its
findings about calls of these names, whatever case either is written in, and leave all other findings
in the same order. -/
theorem groups_do_not_interfere (limit : String → Bool) (s : GroupSet) (g : Group)
    (hg : g ∈ s.groups) (names : List String) (a : Analyzer) (file : String) (tokens : Tokens) :
    ((buildWithin limit [.groups s]).findings a file tokens).filter (·.group = g.id) =
        (buildWithin limit [.group g]).findings a file tokens ∧
      (buildWithin limit [.groups (s.insert (g.allowing names))]).findings a file tokens =
        ((buildWithin limit [.groups s]).findings a file tokens).filter fun f =>
          !(f.group = g.id &&
            names.any fun allowed => Text.lowercase allowed = Text.lowercase f.matched) := by
  constructor
  · rw [buildWithin_groups, buildWithin_group, ← s.filter_id_of_mem hg, List.filter_comm]
    refine (findings_filter (fun name location => ?_) (by simp) file tokens).symm
    exact findingsAt_of_selected (· = g.id) ruleName name location _ .none
  · have hactive : (s.insert (g.allowing names)).groups.filter (isUsable limit) =
        (s.groups.filter (isUsable limit)).map
          fun k => if k.id = g.id then k.allowing names else k := by
      rw [groups_insert_allowing hg, List.filter_map]
      congr 1
      apply List.filter_congr
      intro k _
      rw [Function.comp_apply]
      split <;> rfl
    rw [buildWithin_groups, buildWithin_groups, hactive]
    refine findings_filter (fun name location => ?_) (fun f => ?_) file tokens
    · exact findingsAt_allowing g.id names ruleName name location _ .none
    · simp

/-- A group against all names. -/
def everything : Group :=
  .ofTexts "everything" .error "No %s()" ["*"] [] none

/-- A set of two groups that may report the same call. -/
def twoGroups : GroupSet :=
  .ofList [everything, dumps]

/-- Of two groups that report the same call one no longer does so once it allows the name, in other
letters; the other one goes on. -/
theorem groups_do_not_interfere_dump :
    dumps ∈ twoGroups.groups ∧
      dumps.allowing ["VAR_DUMP"] =
        .ofTexts "dumps" .warning "%s() found" ["var_*"] ["Var_Export", "VAR_DUMP"]
          (some "dumps.html") ∧
      ∃ a, Analyzer.build "/" dumpPlan = .ok a ∧
        ((buildWithin (Group.withinLimit 1000) [.groups twoGroups]).findings a "a.php"
            dumpCalls).map (fun f => (f.location.token, f.group)) =
          [(0, "everything"), (0, "dumps"), (2, "everything")] ∧
        ((buildWithin (Group.withinLimit 1000) [.group dumps]).findings a "a.php" dumpCalls).map
            (fun f => (f.location.token, f.group)) = [(0, "dumps")] ∧
        ((buildWithin (Group.withinLimit 1000)
              [.groups (twoGroups.insert (dumps.allowing ["VAR_DUMP"]))]).findings a "a.php"
            dumpCalls).map (fun f => (f.location.token, f.group)) =
          [(0, "everything"), (2, "everything")] := by
  have hmem : dumps ∈ twoGroups.groups := by decide +kernel
  obtain ⟨a, hbuild⟩ : ∃ a, Analyzer.build "/" dumpPlan = .ok a := ⟨_, rfl⟩
  obtain ⟨halone, hallowed⟩ := groups_do_not_interfere (Group.withinLimit 1000) twoGroups dumps hmem
    ["VAR_DUMP"] a "a.php" dumpCalls
  refine ⟨hmem, Group.allowing_ofTexts _ _ _ _ _ _ _, a, hbuild, ?_, ?_, ?_⟩
  · cases hbuild
    decide +kernel
  · rw [← halone]
    cases hbuild
    decide +kernel
  · rw [hallowed]
    cases hbuild
    decide +kernel

end Guard

end CallGuard
