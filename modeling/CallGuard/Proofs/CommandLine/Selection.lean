import CallGuard.CommandLine.Check
import CallGuard.Proofs.Guard.Locality
import CallGuard.Proofs.Text.Case

/-!
# The groups of a check

A check takes its groups from presets that are named on the command line or in the settings, from the
configured groups, and from two lists of exclusions.  Presets share groups, names may be repeated,
and configured groups may have the identifiers of built-in ones.  What comes out of this is said here
without following the steps: the identifiers in order, and for each of them the group that counts.

Main results:

- Theorem {lit}`ofName?_eq_some_iff`: the preset of a name.
- Theorem {lit}`addPresets_of_named`, {lit}`addPresets_of_unknown`: adding presets one after the
  other.
- Theorem {lit}`exists_selectGroups`: the groups that presets come to.
- Theorem {lit}`lastNamed_eq_definition?`: the group that counts for an identifier.
- Theorem {lit}`map_id_active`: the identifiers of the active groups.
- Theorem {lit}`check_selects_groups`: the groups of a check.
-/

namespace CallGuard.CommandLine

/-! ## The names of presets -/

/-- A text names a preset, without regard to white space around it and to the case of the letters A
to Z. -/
def IsNameOf (name : String) (p : Preset) : Prop :=
  Text.sameIgnoringAsciiCase p.name (Text.trim name) = true

instance (name : String) (p : Preset) : Decidable (IsNameOf name p) :=
  inferInstanceAs (Decidable (Text.sameIgnoringAsciiCase p.name (Text.trim name) = true))

/-- Presets are told apart by their names in any case. -/
theorem eq_of_isNameOf {name : String} {p q : Preset} (hp : IsNameOf name p) (hq : IsNameOf name q) :
    p = q := by
  have hinjective : ∀ p q : Preset,
      p.name.toList.map Char.toLower = q.name.toList.map Char.toLower → p = q := by
    intro p q
    cases p <;> cases q <;> decide
  rw [IsNameOf, Text.sameIgnoringAsciiCase_iff] at hp hq
  exact hinjective p q (hp.trans hq.symm)

/-- Every preset is among those that are shown. -/
theorem preset_mem_all (p : Preset) : p ∈ Preset.all := by
  cases p <;> decide

/-- A preset that is found for a name is one that it names. -/
theorem isNameOf_of_ofName? {name : String} {p : Preset} (h : Preset.ofName? name = some p) :
    IsNameOf name p :=
  (List.find?_some h :)

/-- The preset that is found for a name is the one that it names. -/
theorem ofName?_eq_some_iff (name : String) (p : Preset) :
    Preset.ofName? name = some p ↔ IsNameOf name p := by
  refine ⟨isNameOf_of_ofName?, fun hname => ?_⟩
  have hsome : (Preset.ofName? name).isSome := by
    rw [Preset.ofName?, List.find?_isSome]
    exact ⟨p, preset_mem_all p, hname⟩
  obtain ⟨q, hq⟩ := Option.isSome_iff_exists.mp hsome
  rw [hq, eq_of_isNameOf (isNameOf_of_ofName? hq) hname]

/-- No preset is found for a name that names none. -/
theorem ofName?_eq_none {name : String} (h : ∀ p, ¬ IsNameOf name p) :
    Preset.ofName? name = none := by
  rw [Option.eq_none_iff_forall_ne_some]
  intro p hp
  exact h p ((ofName?_eq_some_iff name p).mp hp)

/-! ## Adding presets -/

/-- Presets that are named one after the other add their groups to what is there. -/
theorem addPresets_of_named (withNames : Bool) {names : List String} {presets : List Preset}
    (hnames : List.Forall₂ IsNameOf names presets) {groups : GroupSet} {before : List Group}
    (hgroups : groups.groups = resolve before) :
    ∃ merged, addPresets withNames groups names = .ok merged ∧
      merged.groups = resolve (before ++ presets.flatMap (·.groups.groups)) := by
  induction hnames generalizing groups before with
  | nil => exact ⟨groups, rfl, by simpa using hgroups⟩
  | @cons name p _ _ hname _ ih =>
    have hmerged := GroupSet.groups_insertAll hgroups p.groups.groups
    obtain ⟨merged, hadd, hresolve⟩ := ih hmerged
    refine ⟨merged, ?_, ?_⟩
    · rw [addPresets, (ofName?_eq_some_iff name p).mpr hname]
      exact hadd
    · rw [hresolve, List.flatMap_cons, List.append_assoc]

/-- The first name that names no preset ends the addition. -/
theorem addPresets_of_unknown (withNames : Bool) {before : List String} {name : String}
    (hbefore : ∀ known ∈ before, ∃ p, IsNameOf known p) (hname : ∀ p, ¬ IsNameOf name p)
    (after : List String) (groups : GroupSet) :
    addPresets withNames groups (before ++ name :: after) =
      .error (.unknownPreset name withNames) := by
  induction before generalizing groups with
  | nil => rw [List.nil_append, addPresets, ofName?_eq_none hname]
  | cons known before ih =>
    obtain ⟨p, hp⟩ := hbefore known (by simp)
    rw [List.cons_append, addPresets, (ofName?_eq_some_iff known p).mpr hp]
    exact ih (fun other hother => hbefore other (List.mem_cons_of_mem known hother)) _

/-- Among names of which one names no preset, there is a first one. -/
theorem exists_first_unknown {names : List String} (h : ∃ name ∈ names, ∀ p, ¬ IsNameOf name p) :
    ∃ before name after, names = before ++ name :: after ∧
      (∀ known ∈ before, ∃ p, IsNameOf known p) ∧ ∀ p, ¬ IsNameOf name p := by
  induction names with
  | nil => simp at h
  | cons first names ih =>
    by_cases hfirst : ∃ p, IsNameOf first p
    · obtain ⟨name, hmem, hname⟩ := h
      have hrest : name ∈ names := by
        rcases List.mem_cons.mp hmem with rfl | hrest
        · obtain ⟨p, hp⟩ := hfirst
          exact absurd hp (hname p)
        · exact hrest
      obtain ⟨before, name, after, rfl, hbefore, hname⟩ := ih ⟨name, hrest, hname⟩
      refine ⟨first :: before, name, after, rfl, ?_, hname⟩
      intro known hknown
      rcases List.mem_cons.mp hknown with rfl | hknown
      · exact hfirst
      · exact hbefore known hknown
    · exact ⟨[], first, names, rfl, by simp, fun p hp => hfirst ⟨p, hp⟩⟩

/-- Names that all name presets name a list of presets. -/
theorem exists_presets {names : List String} (h : ∀ name ∈ names, ∃ p, IsNameOf name p) :
    ∃ presets, List.Forall₂ IsNameOf names presets := by
  induction names with
  | nil => exact ⟨[], .nil⟩
  | cons name names ih =>
    obtain ⟨p, hp⟩ := h name (by simp)
    obtain ⟨presets, hpresets⟩ := ih fun other hother => h other (List.mem_cons_of_mem name hother)
    exact ⟨p :: presets, .cons hp hpresets⟩

/-! ## The groups of presets -/

/-- The names of presets of a check: those on the command line, or else those in the settings. -/
def presetNames (c : Configuration) (o : CheckOptions) : List String :=
  if o.presets.isEmpty then c.settings.restrictions.presets else o.presets

/-- The presets of a check: those that are named.  If none is named, these are the recommended ones
without configured groups, and none with configured groups. -/
def chosen (named : List Preset) (configured : GroupSet) : List Preset :=
  if named.isEmpty then (if configured.isEmpty then [.recommended] else []) else named

/-- All groups of presets, one preset after the other. -/
def groupsOf (presets : List Preset) : List Group :=
  presets.flatMap (·.groups.groups)

/-- Names of presets select the groups of the presets of the check. -/
theorem exists_selectGroups {names : List String} {named : List Preset}
    (hnames : List.Forall₂ IsNameOf names named) (configured : GroupSet) :
    ∃ primary, selectGroups names (!configured.isEmpty) = .ok primary ∧
      primary.groups = resolve (groupsOf (chosen named configured)) := by
  cases hnames with
  | nil =>
    rw [selectGroups, chosen, List.isEmpty_nil, List.isEmpty_nil]
    cases configured.isEmpty with
    | true =>
      refine ⟨Preset.recommended.groups, rfl, ?_⟩
      simp only [if_true, groupsOf, List.flatMap_singleton]
      exact (resolve_of_nodup Preset.recommended.groups.distinct).symm
    | false => exact ⟨∅, rfl, rfl⟩
  | cons hname hrest =>
    have hempty : GroupSet.groups ∅ = resolve [] := rfl
    obtain ⟨primary, hadd, hgroups⟩ := addPresets_of_named true (.cons hname hrest) hempty
    refine ⟨primary, ?_, ?_⟩
    · rw [selectGroups, List.isEmpty_cons, if_neg Bool.false_ne_true, hadd]
    · rw [hgroups, List.nil_append, chosen, List.isEmpty_cons, if_neg Bool.false_ne_true, groupsOf]

/-! ## The group that counts -/

/-- The group that counts for an identifier: the configured one, or else the built-in one. -/
def definition? (configured : GroupSet) (id : String) : Option Group :=
  (configured.get? id).or (Builtin.all.get? id)

/-- The identifiers of presets at their first occurrences, and then the new identifiers of the
configured groups. -/
def selectedIds (presets : List Preset) (configured : GroupSet) : List String :=
  (presets.flatMap (·.groups.ids)).eraseDups ++
    configured.ids.filter (· ∉ presets.flatMap (·.groups.ids))

/-- A preset has built-in groups only. -/
theorem mem_builtin_of_mem {p : Preset} {g : Group} (hg : g ∈ p.groups.groups) :
    g ∈ Builtin.lambda ++ Builtin.discouraged ++ Builtin.restricted := by
  cases p with
  | recommended => exact List.mem_append_left _ (GroupSet.mem_of_mem_ofList hg)
  | lambda => exact List.mem_append_left _ (List.mem_append_left _ (GroupSet.mem_of_mem_ofList hg))
  | discouraged =>
    exact List.mem_append_left _ (List.mem_append_right _ (GroupSet.mem_of_mem_ofList hg))
  | restricted => exact List.mem_append_right _ (GroupSet.mem_of_mem_ofList hg)

/-- Presets agree on the groups that they share, as built-in groups have distinct identifiers. -/
theorem get?_all_of_mem {p : Preset} {g : Group} (hg : g ∈ p.groups.groups) :
    Builtin.all.get? g.id = some g := by
  have hdistinct : ((Builtin.lambda ++ Builtin.discouraged ++ Builtin.restricted).map
      (·.id)).Nodup := by
    decide
  have hall : g ∈ Builtin.all.groups := by
    rw [Builtin.all, GroupSet.groups_ofList, resolve_of_nodup hdistinct]
    exact mem_builtin_of_mem hg
  exact (find?_id_eq_some_iff Builtin.all.distinct g.id g).mpr ⟨hall, rfl⟩

/-- The last group of an identifier among those of presets and the configured ones is the one that
counts. -/
theorem lastNamed_eq_definition? {presets : List Preset} {configured : GroupSet} {id : String}
    (hid : id ∈ (groupsOf presets ++ configured.groups).map (·.id)) :
    lastNamed (groupsOf presets ++ configured.groups) id = definition? configured id := by
  rw [lastNamed_append, configured.lastNamed_groups, definition?]
  cases hget : configured.get? id with
  | some g => rfl
  | none =>
    rw [List.map_append, List.mem_append] at hid
    rcases hid with hid | hid
    · obtain ⟨g, hlast, rfl⟩ := exists_lastNamed hid
      obtain ⟨p, -, hg⟩ := List.mem_flatMap.mp (mem_of_lastNamed hlast)
      rw [hlast, get?_all_of_mem hg]
    · -- A configured group with this identifier would have been found.
      obtain ⟨g, hg, rfl⟩ := List.mem_map.mp hid
      have hfound := (find?_id_eq_some_iff configured.distinct g.id g).mpr ⟨hg, rfl⟩
      rw [← GroupSet.get?, hget] at hfound
      cases hfound

/-! ## The active groups -/

/-- Whether a group that counts is active in a check: neither the settings nor the command line
exclude it, it has a pattern, and its regular expression is small enough for the limit. -/
def isActiveIn (limit : String → Bool) (c : Configuration) (o : CheckOptions) (g : Group) : Bool :=
  !(Exclusion.parse c.settings.restrictions.exclude).contains g.id &&
    !(o.excludeGroups.any fun names => (Exclusion.parse names).contains g.id) &&
    !g.patterns.isEmpty && g.fitsIn limit

/-- The guard of a check whose presets have the given groups. -/
def guardFrom (limit : String → Bool) (c : Configuration) (o : CheckOptions)
    (primary : GroupSet) : Guard :=
  Guard.buildWithin limit [.groups primary, .supplementary c.groups,
    .exclude (Exclusion.join c.settings.restrictions.exclude o.excludeGroups)]

/-- The guard of a check is made from the groups that the names of presets select. -/
theorem checkGuard_eq (limit : String → Bool) (c : Configuration) (o : CheckOptions) :
    checkGuard limit c o =
      (selectGroups (presetNames c o) (!c.groups.isEmpty)).map (guardFrom limit c o) :=
  rfl

/-- The active groups of a guard for the groups of presets and the configured ones. -/
theorem active_guardFrom (limit : String → Bool) (c : Configuration) (o : CheckOptions)
    {primary : GroupSet} {presets : List Preset}
    (hprimary : primary.groups = resolve (groupsOf presets)) :
    (guardFrom limit c o primary).active =
      (resolve (groupsOf presets ++ c.groups.groups)).filter (isActiveIn limit c o) := by
  have hreorder : ∀ empty fits configured extra : Bool,
      (!(configured || extra) && fits && !empty) = (!configured && !extra && !empty && fits) := by
    decide
  rw [guardFrom, Guard.active_buildWithin, Guard.survivors]
  simp only [Guard.declared, Guard.lastSupplementary, Guard.lastExclude, List.flatMap_cons,
    List.flatMap_nil, Guard.Step.given, List.filterMap_cons, List.filterMap_nil,
    Guard.Step.supplement?, Guard.Step.exclusion?, List.getLast?_singleton, Option.map_some,
    Option.getD_some, List.append_nil]
  rw [hprimary, resolve_resolve_append, List.filter_filter, List.filter_filter]
  apply List.filter_congr
  intro g _
  rw [Exclusion.contains_parse_join, isActiveIn]
  exact hreorder _ _ _ _

/-- The identifiers of the resolved groups that satisfy a condition: those of the presets and the new
ones of the configured groups whose group satisfies it. -/
theorem map_id_active (presets : List Preset) (configured : GroupSet) (p : Group → Bool) :
    ((resolve (groupsOf presets ++ configured.groups)).filter p).map (·.id) =
      (selectedIds presets configured).filter fun id => (definition? configured id).any p := by
  have hids : ((groupsOf presets ++ configured.groups).map (·.id)).eraseDups =
      selectedIds presets configured := by
    rw [List.map_append, groupsOf, List.map_flatMap, eraseDups_append_of_nodup _ configured.distinct]
    rfl
  rw [map_id_filter_resolve, ← hids]
  apply List.filter_congr
  intro id hid
  rw [lastNamed_eq_definition? (List.mem_eraseDups.mp hid)]

/-! ## Checks -/

/-- The outcome of a check once its configuration and its guard are known. -/
def outcomeWith (s : Surroundings) (c : Configuration) (o : CheckOptions) (guard : Guard) : Outcome :=
  match Analyzer.build s.folder
      ⟨some o.path, [guard.rule], some Php.tokenizer, o.exclude, some c.settings, o.strict⟩ with
  | .error _ => .failed "" .build
  | .ok analyzer =>
    match analyzer.analyze s.tree with
    | .error _ => .failed "" .analysis
    | .ok report => ⟨if report.hasErrors then 1 else 0, o.format.render report, none, none⟩

/-- A check without a guard fails as the guard does. -/
theorem check_of_error {limit : String → Bool} {s : Surroundings} {config : Option String}
    {o : CheckOptions} {c : Configuration} (hconfig : s.configuration o.path config = .ok c)
    {e : Failure} (hguard : checkGuard limit c o = .error e) :
    check limit s config o = .failed "" e := by
  simp only [check, hconfig, hguard]

/-- A check with a guard runs it. -/
theorem check_of_ok {limit : String → Bool} {s : Surroundings} {config : Option String}
    {o : CheckOptions} {c : Configuration} (hconfig : s.configuration o.path config = .ok c)
    {guard : Guard} (hguard : checkGuard limit c o = .ok guard) :
    check limit s config o = outcomeWith s c o guard := by
  simp only [check, hconfig, hguard]
  rfl

/-- What is said about an unknown name. -/
theorem message_unknownPreset (name : String) :
    (Failure.unknownPreset name true).message =
      "Unknown preset '" ++ name ++
        "' (expected one of: recommended, lambda, discouraged, restricted)" := by
  have hmessage : (Failure.unknownPreset name true).message =
      "Unknown preset '" ++ name ++ "' (expected one of: " ++
        String.intercalate ", " (Preset.all.map (·.name)) ++ ")" := rfl
  have hknown : String.intercalate ", " (Preset.all.map (·.name)) =
      "recommended, lambda, discouraged, restricted" := by
    decide +kernel
  rw [hmessage, hknown, String.append_assoc, String.append_assoc]
  rfl

/-- The groups of a check, under any limit for regular expressions.  Let the configuration be read,
and let the names of presets be those on the command line or, if there are none, those in the
settings.  If one of them names no preset, the check fails and says which is the first, and no file
is analyzed.  Otherwise the check runs a guard with these active groups: the groups of the named
presets at their first occurrences, or without a name the recommended ones if no group is
configured, and then the configured groups with new identifiers, in the order of the file.  For
every identifier the configured group takes the place of the built-in one.  Groups without a
pattern, groups whose regular expression is over the limit and groups that either list of exclusions
names are not active. -/
theorem check_selects_groups (limit : String → Bool) (s : Surroundings) (config : Option String)
    (o : CheckOptions) (c : Configuration) (hconfig : s.configuration o.path config = .ok c) :
    ((∃ name ∈ presetNames c o, ∀ p, ¬ IsNameOf name p) →
      ∃ before name after, presetNames c o = before ++ name :: after ∧
        (∀ known ∈ before, ∃ p, IsNameOf known p) ∧ (∀ p, ¬ IsNameOf name p) ∧
        check limit s config o = .failed "" (.unknownPreset name true) ∧
        (Failure.unknownPreset name true).message =
          "Unknown preset '" ++ name ++
            "' (expected one of: recommended, lambda, discouraged, restricted)") ∧
    ((∀ name ∈ presetNames c o, ∃ p, IsNameOf name p) →
      ∃ named guard, List.Forall₂ IsNameOf (presetNames c o) named ∧
        checkGuard limit c o = .ok guard ∧ check limit s config o = outcomeWith s c o guard ∧
        guard.active.map (·.id) = (selectedIds (chosen named c.groups) c.groups).filter
          (fun id => (definition? c.groups id).any (isActiveIn limit c o)) ∧
        ∀ g ∈ guard.active, definition? c.groups g.id = some g) := by
  constructor
  · intro hunknown
    obtain ⟨before, name, after, hnames, hbefore, hname⟩ := exists_first_unknown hunknown
    refine ⟨before, name, after, hnames, hbefore, hname, ?_, message_unknownPreset name⟩
    have hselect : selectGroups (presetNames c o) (!c.groups.isEmpty) =
        .error (.unknownPreset name true) := by
      rw [selectGroups, hnames, if_neg (by simp), addPresets_of_unknown true hbefore hname]
    apply check_of_error hconfig
    rw [checkGuard_eq, hselect, Except.map]
  · intro hknown
    obtain ⟨named, hnamed⟩ := exists_presets hknown
    obtain ⟨primary, hselect, hprimary⟩ := exists_selectGroups hnamed c.groups
    have hactive := active_guardFrom limit c o hprimary
    have hguard : checkGuard limit c o = .ok (guardFrom limit c o primary) := by
      rw [checkGuard_eq, hselect, Except.map]
    refine ⟨named, _, hnamed, hguard, check_of_ok hconfig hguard, ?_, ?_⟩
    · rw [hactive, map_id_active]
    · intro g hg
      rw [hactive] at hg
      have hmem := List.mem_of_mem_filter hg
      have hid := List.mem_map_of_mem (f := (·.id)) (mem_of_mem_resolve hmem)
      rw [← lastNamed_eq_definition? hid, lastNamed_of_mem_resolve hmem]

/-- A configuration that empties a built-in group and adds one of its own. -/
def ownConfig : String :=
  "restrictions.exclude=' serialize '\n" ++
    "groups=[\x7bname='debug',message=''\x7d,\x7bname='own',message='',functions=['own_*']\x7d]"

/-- A folder with this configuration. -/
def ownFolder : Surroundings where
  tree :=
    { files := [(["fn-restrict.toml"], .bytes ownConfig.toUTF8)]
      folders := []
      nodup := by decide
      named := by decide }
  folder := "/"
  environment := []

/-- A check of the folder with given names of presets. -/
def ownCheck (presets : List String) : CheckOptions :=
  ⟨".", .text, [], some "runtime_configuration,, x", presets, false⟩

/-- The groups of this configuration. -/
def ownGroups : GroupSet :=
  .ofList [.ofTexts "debug" .error "" [] [] none, .ofTexts "own" .error "" ["own_*"] [] none]

/-- The configuration is read. -/
theorem exists_configuration_ownFolder :
    ∃ c, ownFolder.configuration "." none = .ok c ∧
      c.settings.restrictions = ⟨[], " serialize "⟩ ∧ c.groups = ownGroups := by
  have hread : (ownFolder.configuration "." none).toOption.map
      (fun c => (c.settings.restrictions, c.groups)) =
        some (⟨[], " serialize "⟩, ownGroups) := by
    decide +kernel
  cases hconfig : ownFolder.configuration "." none with
  | error e =>
    rw [hconfig] at hread
    cases hread
  | ok c =>
    rw [hconfig] at hread
    obtain ⟨hrestrictions, hgroups⟩ := Prod.mk.inj (Option.some.inj hread)
    exact ⟨c, rfl, hrestrictions, hgroups⟩

/-- Names with blanks and capital letters that repeat a preset select each group once, the emptied
group and the excluded ones are not active, and the own group comes last; an unknown name is named
and ends the check. -/
theorem check_selects_groups_own :
    ∃ c, ownFolder.configuration "." none = .ok c ∧
      (∀ name ∈ presetNames c (ownCheck [" Lambda ", "recommended", "LAMBDA"]),
        ∃ p, IsNameOf name p) ∧
      (∃ guard, checkGuard (Group.withinLimit 1000) c
          (ownCheck [" Lambda ", "recommended", "LAMBDA"]) = .ok guard ∧
        guard.active.map (·.id) = ["lambda", "obfuscation", "own"]) ∧
      (∃ name ∈ presetNames c (ownCheck ["lambda", "nope", "none"]), ∀ p, ¬ IsNameOf name p) ∧
      check (Group.withinLimit 1000) ownFolder none (ownCheck ["lambda", "nope", "none"]) =
        .failed "" (.unknownPreset "nope" true) := by
  obtain ⟨c, hconfig, hrestrictions, hgroups⟩ := exists_configuration_ownFolder
  have hlambda : IsNameOf " Lambda " .lambda := by decide +kernel
  have hrecommended : IsNameOf "recommended" .recommended := by decide +kernel
  have hcapitals : IsNameOf "LAMBDA" .lambda := by decide +kernel
  have hplain : IsNameOf "lambda" .lambda := by decide +kernel
  have hnope : ∀ p, ¬ IsNameOf "nope" p := by
    intro p
    cases p <;> decide +kernel
  have hknown : ∀ name ∈ presetNames c (ownCheck [" Lambda ", "recommended", "LAMBDA"]),
      ∃ p, IsNameOf name p := by
    rintro name (_ | ⟨_, _ | ⟨_, _ | ⟨_, hnil⟩⟩⟩)
    · exact ⟨_, hlambda⟩
    · exact ⟨_, hrecommended⟩
    · exact ⟨_, hcapitals⟩
    · cases hnil
  have hunknown : ∃ name ∈ presetNames c (ownCheck ["lambda", "nope", "none"]),
      ∀ p, ¬ IsNameOf name p := ⟨"nope", .tail _ (.head _), hnope⟩
  refine ⟨c, hconfig, hknown, ?_, hunknown, ?_⟩
  · obtain ⟨named, guard, hnamed, hguard, -, hids, -⟩ := (check_selects_groups
      (Group.withinLimit 1000) ownFolder none (ownCheck [" Lambda ", "recommended", "LAMBDA"]) c
      hconfig).2 hknown
    have hpresets : List.Forall₂ IsNameOf [" Lambda ", "recommended", "LAMBDA"]
        [.lambda, .recommended, .lambda] :=
      .cons hlambda (.cons hrecommended (.cons hcapitals .nil))
    have hunique : Relator.RightUnique IsNameOf := fun _ _ _ => eq_of_isNameOf
    obtain rfl := List.right_unique_forall₂' hunique hnamed hpresets
    have hbuiltin : [Preset.lambda, .recommended, .lambda].flatMap (·.groups.ids) =
        ["lambda", "lambda", "runtime_configuration", "obfuscation", "serialize", "debug",
          "lambda"] := by
      decide +kernel
    refine ⟨guard, hguard, ?_⟩
    rw [hids, hgroups, chosen, List.isEmpty_cons, if_neg Bool.false_ne_true, selectedIds, hbuiltin]
    unfold isActiveIn
    rw [hrestrictions]
    decide +kernel
  · obtain ⟨before, name, after, hnames, hbefore, hname, hcheck, -⟩ :=
      (check_selects_groups (Group.withinLimit 1000) ownFolder none
        (ownCheck ["lambda", "nope", "none"]) c hconfig).1 hunknown
    have hlist : ["lambda", "nope", "none"] = before ++ name :: after := hnames
    rcases before with _ | ⟨first, _ | ⟨second, rest⟩⟩
    · obtain ⟨rfl, -⟩ := List.cons.inj hlist
      exact absurd hplain (hname .lambda)
    · obtain ⟨rfl, -⟩ := List.cons.inj (List.cons.inj hlist).2
      exact hcheck
    · obtain ⟨rfl, -⟩ := List.cons.inj (List.cons.inj hlist).2
      obtain ⟨p, hp⟩ := hbefore "nope" (by simp)
      exact absurd hp (hnope p)

end CallGuard.CommandLine
