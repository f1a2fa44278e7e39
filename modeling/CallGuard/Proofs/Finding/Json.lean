import CallGuard.Finding.Json
import CallGuard.Proofs.Json.Objects

/-!
# Reading findings back

What is written for a finding or a report is read back as the same finding or report, as long as
its numbers are words.  Conversely, the object that a finding is read from is written again as it
was, up to the order of its fields, without the fields that are not known and without a reference to
documentation that is null.  Only a place that was given as an array and a severity that was given
as an object are written in another way.

Main results:

- Theorem {lit}`Location.ofJson?_eq_some_iff`, {lit}`Finding.ofJson?_eq_some_iff`: what is read.
- Theorem {lit}`Finding.ofJson?_toJson`, {lit}`Report.ofJson?_toJson`: what is written is read back.
- Theorem {lit}`Location.reordered_restrict`, {lit}`Finding.reordered_restricted`: what is read is
  written again.
- Theorem {lit}`Finding.json_round_trips`: both directions.
-/

namespace CallGuard

/-! ## Reading -/

/-- The numbers of a place are words. -/
def Location.IsCounted (l : Location) : Prop :=
  ∀ n ∈ [l.line, l.column, l.offset, l.length, l.token], n < Json.wordBound

/-- The numbers of a finding are words. -/
def Finding.IsCounted (f : Finding) : Prop :=
  f.location.IsCounted

/-- The numbers of a report are words. -/
def Report.IsCounted (r : Report) : Prop :=
  (∀ f ∈ r.findings, f.IsCounted) ∧ r.filesChecked < Json.wordBound

/-- The fields of an object give a place. -/
structure Location.IsGivenBy (l : Location) (fields : List (String × Json)) : Prop where
  file : Json.field? fields "file" = some (.string l.file)
  line : Json.field? fields "line" = some (.natural l.line)
  column : Json.field? fields "column" = some (.natural l.column)
  offset : Json.field? fields "offset" = some (.natural l.offset)
  length : Json.field? fields "length" = some (.natural l.length)
  token : Json.field? fields "token" = some (.natural l.token)
  isCounted : l.IsCounted

/-- A place is read from the fields that give it. -/
theorem Location.ofJson?_eq_some_iff {value : Json} {l : Location} :
    Location.ofJson? value = some l ↔
      ∃ fields, labelled Location.fieldNames value = some fields ∧ l.IsGivenBy fields := by
  unfold ofJson?
  constructor
  · intro h
    obtain ⟨fields, hfields, h⟩ := Option.bind_eq_some_iff.mp h
    obtain ⟨file, hfile, h⟩ := Json.bind_text?_eq_some_iff.mp h
    obtain ⟨line, hline, hlineBound, h⟩ := Json.bind_word?_eq_some_iff.mp h
    obtain ⟨column, hcolumn, hcolumnBound, h⟩ := Json.bind_word?_eq_some_iff.mp h
    obtain ⟨offset, hoffset, hoffsetBound, h⟩ := Json.bind_word?_eq_some_iff.mp h
    obtain ⟨length, hlength, hlengthBound, h⟩ := Json.bind_word?_eq_some_iff.mp h
    obtain ⟨token, htoken, htokenBound, h⟩ := Json.bind_word?_eq_some_iff.mp h
    obtain rfl := Option.some.inj h
    refine ⟨fields, hfields, hfile, hline, hcolumn, hoffset, hlength, htoken, ?_⟩
    simp [IsCounted, hlineBound, hcolumnBound, hoffsetBound, hlengthBound, htokenBound]
  · rintro ⟨fields, hfields, h⟩
    have hcounted := h.isCounted
    simp only [IsCounted, List.mem_cons, List.not_mem_nil, or_false, forall_eq_or_imp,
      forall_eq] at hcounted
    obtain ⟨hline, hcolumn, hoffset, hlength, htoken⟩ := hcounted
    refine Option.bind_eq_some_iff.mpr ⟨fields, hfields, ?_⟩
    refine Json.bind_text?_eq_some_iff.mpr ⟨l.file, h.file, ?_⟩
    refine Json.bind_word?_eq_some_iff.mpr ⟨l.line, h.line, hline, ?_⟩
    refine Json.bind_word?_eq_some_iff.mpr ⟨l.column, h.column, hcolumn, ?_⟩
    refine Json.bind_word?_eq_some_iff.mpr ⟨l.offset, h.offset, hoffset, ?_⟩
    refine Json.bind_word?_eq_some_iff.mpr ⟨l.length, h.length, hlength, ?_⟩
    exact Json.bind_word?_eq_some_iff.mpr ⟨l.token, h.token, htoken, rfl⟩

/-- The fields of an object give a finding. -/
structure Finding.IsGivenBy (f : Finding) (fields : List (String × Json)) : Prop where
  rule : Json.field? fields "rule" = some (.string f.rule)
  group : Json.field? fields "group" = some (.string f.group)
  severity : ∃ word, Json.field? fields "severity" = some word ∧
    Severity.ofJson? word = some f.severity
  location : ∃ place, Json.field? fields "location" = some place ∧
    Location.ofJson? place = some f.location
  message : Json.field? fields "message" = some (.string f.message)
  matched : Json.field? fields "matched" = some (.string f.matched)
  doc : optionalText? (Json.field? fields "doc_ref") = some f.doc

/-- A finding is read from the fields that give it. -/
theorem Finding.ofJson?_eq_some_iff {value : Json} {f : Finding} :
    Finding.ofJson? value = some f ↔
      ∃ fields, labelled Finding.fieldNames value = some fields ∧ f.IsGivenBy fields := by
  unfold ofJson?
  constructor
  · intro h
    obtain ⟨fields, hfields, h⟩ := Option.bind_eq_some_iff.mp h
    obtain ⟨rule, hrule, h⟩ := Json.bind_text?_eq_some_iff.mp h
    obtain ⟨group, hgroup, h⟩ := Json.bind_text?_eq_some_iff.mp h
    obtain ⟨word, hword, h⟩ := Option.bind_eq_some_iff.mp h
    obtain ⟨severity, hseverity, h⟩ := Option.bind_eq_some_iff.mp h
    obtain ⟨place, hplace, h⟩ := Option.bind_eq_some_iff.mp h
    obtain ⟨location, hlocation, h⟩ := Option.bind_eq_some_iff.mp h
    obtain ⟨message, hmessage, h⟩ := Json.bind_text?_eq_some_iff.mp h
    obtain ⟨matched, hmatched, h⟩ := Json.bind_text?_eq_some_iff.mp h
    obtain ⟨doc, hdoc, h⟩ := Option.bind_eq_some_iff.mp h
    obtain rfl := Option.some.inj h
    exact ⟨fields, hfields, hrule, hgroup, ⟨word, hword, hseverity⟩, ⟨place, hplace, hlocation⟩,
      hmessage, hmatched, hdoc⟩
  · rintro ⟨fields, hfields, h⟩
    obtain ⟨word, hword, hseverity⟩ := h.severity
    obtain ⟨place, hplace, hlocation⟩ := h.location
    refine Option.bind_eq_some_iff.mpr ⟨fields, hfields, ?_⟩
    refine Json.bind_text?_eq_some_iff.mpr ⟨f.rule, h.rule, ?_⟩
    refine Json.bind_text?_eq_some_iff.mpr ⟨f.group, h.group, ?_⟩
    refine Option.bind_eq_some_iff.mpr ⟨word, hword, ?_⟩
    refine Option.bind_eq_some_iff.mpr ⟨f.severity, hseverity, ?_⟩
    refine Option.bind_eq_some_iff.mpr ⟨place, hplace, ?_⟩
    refine Option.bind_eq_some_iff.mpr ⟨f.location, hlocation, ?_⟩
    refine Json.bind_text?_eq_some_iff.mpr ⟨f.message, h.message, ?_⟩
    refine Json.bind_text?_eq_some_iff.mpr ⟨f.matched, h.matched, ?_⟩
    exact Option.bind_eq_some_iff.mpr ⟨f.doc, h.doc, rfl⟩

/-! ## Reading what was written -/

/-- A place is read back. -/
theorem Location.ofJson?_toJson {l : Location} (h : l.IsCounted) :
    Location.ofJson? l.toJson = some l :=
  ofJson?_eq_some_iff.mpr ⟨l.toJson.fields, rfl, rfl, rfl, rfl, rfl, rfl, rfl, h⟩

/-- A finding is read back, with or without a reference to documentation. -/
theorem Finding.ofJson?_toJson {f : Finding} (h : f.IsCounted) :
    Finding.ofJson? f.toJson = some f := by
  have hseverity : Severity.ofJson? (.string f.severity.name) = some f.severity :=
    Severity.ofName?_name f.severity
  have hlocation := Location.ofJson?_toJson h
  have hdoc : optionalText? (Json.field? f.toJson.fields "doc_ref") = some f.doc := by
    obtain ⟨rule, group, severity, location, message, matched, doc⟩ := f
    cases doc <;> rfl
  exact ofJson?_eq_some_iff.mpr ⟨f.toJson.fields, rfl, rfl, rfl, ⟨_, rfl, hseverity⟩,
    ⟨_, rfl, hlocation⟩, rfl, rfl, hdoc⟩

/-- A row of findings is read back. -/
theorem Finding.mapM_ofJson?_toJson {findings : List Finding} (h : ∀ f ∈ findings, f.IsCounted) :
    (findings.map Finding.toJson).mapM Finding.ofJson? = some findings := by
  induction findings with
  | nil => rfl
  | cons f findings ih =>
    rw [List.forall_mem_cons] at h
    simp [List.mapM_cons, ofJson?_toJson h.1, ih h.2]

/-- A report is read back. -/
theorem Report.ofJson?_toJson {r : Report} (h : r.IsCounted) :
    Report.ofJson? r.toJson = some r := by
  unfold ofJson?
  refine Option.bind_eq_some_iff.mpr ⟨r.toJson.fields, rfl, ?_⟩
  refine Option.bind_eq_some_iff.mpr ⟨.array (r.findings.map Finding.toJson), rfl, ?_⟩
  refine Option.bind_eq_some_iff.mpr ⟨r.findings.map Finding.toJson, rfl, ?_⟩
  refine Option.bind_eq_some_iff.mpr ⟨r.findings, Finding.mapM_ofJson?_toJson h.1, ?_⟩
  exact Json.bind_word?_eq_some_iff.mpr ⟨r.filesChecked, rfl, h.2, rfl⟩

/-! ## Writing what was read -/

/-- What a place is read from has its fields. -/
theorem Location.pick_of_ofJson? {value : Json} {l : Location}
    (h : Location.ofJson? value = some l) :
    ∃ fields, labelled Location.fieldNames value = some fields ∧
      Json.pick Location.fieldNames fields = l.toJson.fields := by
  obtain ⟨fields, hfields, h⟩ := ofJson?_eq_some_iff.mp h
  refine ⟨fields, hfields, ?_⟩
  rw [fieldNames, Json.pick_cons h.file, Json.pick_cons h.line, Json.pick_cons h.column,
    Json.pick_cons h.offset, Json.pick_cons h.length, Json.pick_cons h.token]
  rfl

/-- A place that is given as an array, as the object that it stands for. -/
def Location.spellOut : Json → Json
  | .array items => .object (Location.fieldNames.zip items)
  | value => value

/-- The fields of a place are those of the object that it stands for. -/
theorem Location.spellOut_eq {value : Json} {fields : List (String × Json)}
    (h : labelled Location.fieldNames value = some fields) : spellOut value = .object fields := by
  cases value with
  | object others => simpa [labelled, spellOut] using h
  | array items =>
    simp only [labelled, Option.ite_none_right_eq_some, Option.some_inj] at h
    rw [spellOut, h.2]
  | _ => cases h

/-- The place that is read from a value is written as the object that the value stands for, with the
known fields in their order. -/
theorem Location.reordered_restrict {value : Json} {l : Location}
    (h : Location.ofJson? value = some l)
    (hkeys : ∀ fields, value = .object fields → Json.DistinctKeys fields) :
    Json.Reordered l.toJson ((spellOut value).restrict Location.fieldNames) := by
  obtain ⟨fields, hfields, hpick⟩ := pick_of_ofJson? h
  have hdistinct : Json.DistinctKeys fields := by
    cases value with
    | object others =>
      obtain rfl : others = fields := by simpa [labelled] using hfields
      exact hkeys others rfl
    | array items =>
      simp only [labelled, Option.ite_none_right_eq_some, Option.some_inj] at hfields
      rw [← hfields.2]
      exact Json.distinctKeys_zip (by decide) items
    | _ => cases hfields
  have hnames : Location.fieldNames.Nodup := by decide
  have horder := Json.Reordered.fields (Json.pick_perm hnames hdistinct)
  rw [hpick] at horder
  rw [spellOut_eq hfields]
  exact horder

/-- A severity that is given as an object, as the word that it stands for. -/
def Severity.spellOut : Json → Json
  | .object [(word, .null)] => .string word
  | value => value

/-- Only its own word is read as a severity. -/
theorem Severity.eq_name_of_ofName? {word : String} {s : Severity}
    (h : Severity.ofName? word = some s) : word = s.name := by
  unfold ofName? at h
  split at h
  · rename_i hwarning
    rw [← Option.some.inj h]
    exact hwarning
  · split at h
    · rename_i herror
      rw [← Option.some.inj h]
      exact herror
    · cases h

/-- The severity that is read from a value is written as the word that the value stands for. -/
theorem Severity.spellOut_eq {value : Json} {s : Severity} (h : Severity.ofJson? value = some s) :
    spellOut value = .string s.name := by
  unfold Severity.ofJson? at h
  split at h
  · rw [spellOut, eq_name_of_ofName? h]
    simp
  · rw [spellOut, eq_name_of_ofName? h]
  · cases h

namespace Finding

/-- The value of a field of a finding, where a severity or a place is spelled out. -/
def spellOutField (key : String) (value : Json) : Json :=
  if key = "severity" then Severity.spellOut value
  else if key = "location" then Location.spellOut value
  else value

/-- Fields of a finding in which the severity and the place are spelled out. -/
def spellOut (fields : List (String × Json)) : List (String × Json) :=
  Json.mapFields spellOutField fields

/-- Whether a field says something: a reference to documentation that is null does not. -/
def saysSomething (field : String × Json) : Bool :=
  !(field.1 == "doc_ref" && field.2.isNull)

/-- The value of a field of a finding, where a place has only its known fields. -/
def restrictField (key : String) (value : Json) : Json :=
  if key = "location" then value.restrict Location.fieldNames else value

/-- The object with the known fields of a finding that say something, and with the known fields of
its place. -/
def restricted (fields : List (String × Json)) : Json :=
  .object (Json.mapFields restrictField
    ((Json.restrictFields Finding.fieldNames fields).filter saysSomething))

/-- The field of a reference to documentation, if there is one. -/
def docFields : Option String → List (String × Json)
  | some doc => [("doc_ref", .string doc)]
  | none => []

/-- The fields that are written for a finding, with a value for its place. -/
def fieldsWith (f : Finding) (place : Json) : List (String × Json) :=
  [("rule", Json.string f.rule), ("group", Json.string f.group),
      ("severity", Json.string f.severity.name)] ++
    ("location", place) ::
      ([("message", Json.string f.message), ("matched", Json.string f.matched)] ++ docFields f.doc)

/-- A finding is written with its own place. -/
theorem toJson_eq (f : Finding) : f.toJson = .object (f.fieldsWith f.location.toJson) := by
  obtain ⟨rule, group, severity, location, message, matched, doc⟩ := f
  cases doc <;> rfl

/-- Of these fields, only the place is restricted. -/
theorem mapFields_restrictField (f : Finding) (place : Json) :
    Json.mapFields restrictField (f.fieldsWith place) =
      f.fieldsWith (place.restrict Location.fieldNames) := by
  cases hdoc : f.doc <;> simp [fieldsWith, Json.mapFields, restrictField, docFields, hdoc]

/-- The reference to documentation that is read is what the field says. -/
theorem filter_saysSomething_of_optionalText? {given : Option Json} {doc : Option String}
    (h : optionalText? given = some doc) :
    (given.map ("doc_ref", ·)).toList.filter saysSomething = docFields doc := by
  unfold optionalText? at h
  split at h
  · rw [← Option.some.inj h]
    rfl
  · rw [← Option.some.inj h]
    rfl
  · rw [← Option.some.inj h]
    rfl
  · cases h

/-- The known fields of an object that a finding is read from, in the order in which they are
written, with the severity and the place spelled out. -/
theorem pick_of_ofJson? {fields : List (String × Json)} {f : Finding}
    (h : Finding.ofJson? (.object fields) = some f) :
    ∃ place, Json.field? fields "location" = some place ∧
      Location.ofJson? place = some f.location ∧
      (Json.pick Finding.fieldNames (spellOut fields)).filter saysSomething =
        f.fieldsWith (Location.spellOut place) := by
  obtain ⟨_, hfields, h⟩ := ofJson?_eq_some_iff.mp h
  obtain rfl := Option.some.inj hfields
  obtain ⟨word, hword, hseverity⟩ := h.severity
  obtain ⟨place, hplace, hlocation⟩ := h.location
  refine ⟨place, hplace, hlocation, ?_⟩
  have hfield (key : String) {value : Json} (hkey : Json.field? fields key = some value) :
      Json.field? (spellOut fields) key = some (spellOutField key value) := by
    rw [spellOut, Json.field?_mapFields, hkey, Option.map_some]
  have hlast : Json.pick ["doc_ref"] (spellOut fields) =
      ((Json.field? fields "doc_ref").map ("doc_ref", ·)).toList := by
    rw [Json.pick_singleton, spellOut, Json.field?_mapFields]
    cases Json.field? fields "doc_ref" <;> rfl
  rw [fieldNames, Json.pick_cons (hfield _ h.rule), Json.pick_cons (hfield _ h.group),
    Json.pick_cons (hfield _ hword), Json.pick_cons (hfield _ hplace),
    Json.pick_cons (hfield _ h.message), Json.pick_cons (hfield _ h.matched), hlast, fieldsWith,
    ← Severity.spellOut_eq hseverity, ← filter_saysSomething_of_optionalText? h.doc]
  rfl

/-- The finding that is read from an object is written as the object was, up to the order of the
fields, with the severity and the place spelled out and only the known fields. -/
theorem reordered_restricted {fields : List (String × Json)} {f : Finding}
    (hkeys : Json.DistinctKeys fields)
    (hplace : ∀ place, Json.field? fields "location" = some (.object place) →
      Json.DistinctKeys place)
    (h : Finding.ofJson? (.object fields) = some f) :
    Json.Reordered f.toJson (restricted (spellOut fields)) := by
  obtain ⟨place, hlocation, hread, hpick⟩ := pick_of_ofJson? h
  have hnames : Finding.fieldNames.Nodup := by decide
  have horder := (Json.pick_perm hnames (hkeys.mapFields spellOutField)).filter saysSomething
  rw [← spellOut, hpick] at horder
  have hinside : Json.Reordered f.location.toJson
      ((Location.spellOut place).restrict Location.fieldNames) := by
    apply Location.reordered_restrict hread
    rintro others rfl
    exact hplace others hlocation
  rw [toJson_eq]
  apply Json.Reordered.trans (.inField _ _ _ hinside)
  rw [← fieldsWith, ← mapFields_restrictField]
  exact .fields (horder.map _)

/-- The numbers of a finding that is read are words. -/
theorem isCounted_of_ofJson? {fields : List (String × Json)} {f : Finding}
    (h : Finding.ofJson? (.object fields) = some f) : f.IsCounted := by
  obtain ⟨place, -, hread, -⟩ := pick_of_ofJson? h
  obtain ⟨_, -, hgiven⟩ := Location.ofJson?_eq_some_iff.mp hread
  exact hgiven.isCounted

/-- Fields whose severity is a text and whose place is an object are spelled out already. -/
theorem spellOut_eq_self {fields place : List (String × Json)} {word : String}
    (hkeys : Json.DistinctKeys fields) (hword : Json.field? fields "severity" = some (.string word))
    (hplace : Json.field? fields "location" = some (.object place)) : spellOut fields = fields := by
  conv_rhs => rw [← List.map_id fields]
  apply List.map_congr_left
  rintro ⟨key, value⟩ hmem
  rw [← Json.field?_eq_some_iff hkeys] at hmem
  unfold spellOutField
  split
  · rename_i hkey
    obtain rfl : key = "severity" := hkey
    obtain rfl := Option.some.inj (hmem.symm.trans hword)
    rfl
  · split
    · rename_i hkey
      obtain rfl : key = "location" := hkey
      obtain rfl := Option.some.inj (hmem.symm.trans hplace)
      rfl
    · rfl

/-! ## Both directions -/

/-- A finding whose numbers are words is read back from what is written for it, with or without a
reference to documentation, and so is a report of such findings.  Conversely, let a finding be read
from an object whose keys are distinct, and whose place has distinct keys.  What is written for it
is the object, up to the order of the fields, with its known fields only and without a reference
that is null, if the severity is given as a text and the place as an object; a severity that is
given as an object and a place that is given as an array are spelled out.  What is written is read
back again.  So writing, reading and writing again changes nothing. -/
theorem json_round_trips :
    (∀ f : Finding, f.IsCounted → Finding.ofJson? f.toJson = some f) ∧
    (∀ r : Report, r.IsCounted → Report.ofJson? r.toJson = some r) ∧
    (∀ (fields : List (String × Json)) (f : Finding), Json.DistinctKeys fields →
      (∀ place, Json.field? fields "location" = some (.object place) → Json.DistinctKeys place) →
      Finding.ofJson? (.object fields) = some f →
        Json.Reordered f.toJson (restricted (spellOut fields)) ∧
        (∀ word place, Json.field? fields "severity" = some (.string word) →
          Json.field? fields "location" = some (.object place) →
          Json.Reordered f.toJson (restricted fields)) ∧
        Finding.ofJson? f.toJson = some f) ∧
    (∀ f : Finding, f.IsCounted →
      (Finding.ofJson? f.toJson).map Finding.toJson = some f.toJson) ∧
    ∀ r : Report, r.IsCounted → (Report.ofJson? r.toJson).map Report.toJson = some r.toJson := by
  refine ⟨fun f => ofJson?_toJson, fun r => Report.ofJson?_toJson, ?_, ?_, ?_⟩
  · intro fields f hkeys hplace hread
    have horder := reordered_restricted hkeys hplace hread
    refine ⟨horder, ?_, ofJson?_toJson (isCounted_of_ofJson? hread)⟩
    intro word place hword hlocation
    rwa [spellOut_eq_self hkeys hword hlocation] at horder
  · intro f hf
    rw [ofJson?_toJson hf, Option.map_some]
  · intro r hr
    rw [Report.ofJson?_toJson hr, Option.map_some]

/-- A finding with the largest numbers. -/
def largest : Finding :=
  ⟨"rule", "group", .warning, ⟨"ä b.php", Json.wordBound - 1, 1, 0, 0, Json.wordBound - 1⟩, "%\n",
    "Eval", some ""⟩

/-- Fields of a finding in another order, with unknown ones and a reference that is null. -/
def shuffledFields : List (String × Json) :=
  [("extra", .array [.null]), ("doc_ref", .null), ("matched", .string "eval"),
    ("location", .object [("token", .natural 4), ("file", .string "a.php"), ("more", .bool true),
      ("length", .natural 4), ("offset", .natural 12), ("column", .natural 7),
      ("line", .natural 2)]),
    ("severity", .string "error"), ("message", .string "m"), ("group", .string "g"),
    ("rule", .string "r")]

/-- The finding with the largest numbers and a report of it are read back, and a finding is read
from fields in another order. -/
theorem json_round_trips_shuffled :
    largest.IsCounted ∧ Finding.ofJson? largest.toJson = some largest ∧
      Report.ofJson? (Report.toJson ⟨[largest, largest], 2⟩) = some ⟨[largest, largest], 2⟩ ∧
      ∃ f, Finding.ofJson? (.object shuffledFields) = some f ∧ f.doc = none ∧
        Json.Reordered f.toJson (restricted shuffledFields) ∧
        Finding.ofJson? f.toJson = some f := by
  obtain ⟨hfinding, hreport, hread, -⟩ := json_round_trips
  have hlargest : largest.IsCounted := by
    rw [IsCounted, Location.IsCounted]
    decide
  have hfindings : ∀ f ∈ [largest, largest], f.IsCounted := by
    intro f hf
    rw [show f = largest by simpa using hf]
    exact hlargest
  have hfields : Finding.ofJson? (.object shuffledFields) =
      some ⟨"r", "g", .error, ⟨"a.php", 2, 7, 12, 4, 4⟩, "m", "eval", none⟩ := by decide +kernel
  have hkeys : Json.DistinctKeys shuffledFields := by decide
  have hplace : ∀ place, Json.field? shuffledFields "location" = some (.object place) →
      Json.DistinctKeys place := by
    intro place hplace
    obtain rfl := Json.object.inj (Option.some.inj hplace)
    decide
  obtain ⟨-, horder, hback⟩ := hread shuffledFields _ hkeys hplace hfields
  exact ⟨hlargest, hfinding largest hlargest, hreport _ ⟨hfindings, by decide⟩, _, hfields, rfl,
    horder _ _ rfl rfl, hback⟩

/-- A finding. -/
def plain : Finding :=
  ⟨"r", "g", .error, ⟨"a.php", 2, 7, 12, 4, 4⟩, "m", "eval", none⟩

/-- The fields of this finding, with values for its severity and its place. -/
def plainFields (severity place : Json) : List (String × Json) :=
  [("rule", .string "r"), ("group", .string "g"), ("severity", severity), ("location", place),
    ("message", .string "m"), ("matched", .string "eval")]

/-- The fields of this finding, with the severity as an object. -/
def severityAsObject : List (String × Json) :=
  plainFields (.object [("error", .null)]) plain.location.toJson

/-- The fields of this finding, with the place as an array. -/
def placeAsArray : List (String × Json) :=
  plainFields (.string "error")
    (.array [.string "a.php", .natural 2, .natural 7, .natural 12, .natural 4, .natural 4])

/-- A severity may be given as an object with its word as the only key, and a place as an array, but
they are not written in these forms again. -/
theorem short_forms_are_not_written :
    (Json.DistinctKeys severityAsObject ∧ Json.DistinctKeys plain.location.toJson.fields ∧
      Finding.ofJson? (.object severityAsObject) = some plain ∧
      ¬Json.Reordered plain.toJson (restricted severityAsObject)) ∧
    Json.DistinctKeys placeAsArray ∧ Finding.ofJson? (.object placeAsArray) = some plain ∧
      ¬Json.Reordered plain.toJson (restricted placeAsArray) := by
  refine ⟨⟨by decide, by decide, by decide +kernel, ?_⟩, by decide, by decide +kernel, ?_⟩
  · intro horder
    exact absurd horder.outlines_perm (by decide +kernel)
  · intro horder
    exact absurd horder.outlines_perm (by decide +kernel)

end Finding

end CallGuard
