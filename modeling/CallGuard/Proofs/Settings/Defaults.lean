import CallGuard.Proofs.Toml.Keys
import CallGuard.Settings.Toml

/-!
# Settings that are left out

A document may leave any setting out.  Which value the setting takes then depends on how much is
left out: a document without a table for scanning takes the default settings as a whole, while a
table that is there takes a default for each of its fields.  The two agree on the root, the
extensions and the ignore files, but not on the excluded paths, of which a table without them has
none.

Main results:

- Theorem {lit}`Slot.IsFilledBy.lookup_of_foldlM`: a field of a record holds what it is given.
- Theorem {lit}`ScanSettings.areRead_of_ofValue`: the settings of a table.
- Theorem {lit}`Settings.isRead_scan_of_foldlM`: the table that settings are read from.
- Theorem {lit}`Settings.omitted_settings_are_filled_in`: the settings of a document.
-/

namespace CallGuard

open Toml

namespace Toml

/-! ## Reading a record field by field -/

/-- What is read in two steps is read in each of them. -/
theorem bind_eq_ok {α β : Type} {x : Shaped α} {f : α → Shaped β} {b : β}
    (h : x >>= f = .ok b) : ∃ a, x = .ok a ∧ f a = .ok b := by
  cases x with
  | error problem => cases h
  | ok a => exact ⟨a, rfl, h⟩

/-- What is changed after it is read is read. -/
theorem map_eq_ok {α β : Type} {x : Shaped α} {f : α → β} {b : β} (h : x.map f = .ok b) :
    ∃ a, x = .ok a ∧ b = f a := by
  cases x with
  | error problem => cases h
  | ok a => exact ⟨a, rfl, (Except.ok.inj h).symm⟩

/-- A field is read into a draft once, and if it can be read. -/
theorem fill_eq_ok {α δ : Type} {old : Option α} {field : String} {item : Shaped α} {put : α → δ}
    {e : δ} (h : fill old field item put = .ok e) : old = none ∧ ∃ x, item = .ok x ∧ e = put x := by
  unfold fill at h
  split at h
  · cases h
  · rename_i hold
    exact ⟨by simpa using hold, map_eq_ok h⟩

/-- A field of a record that is read: its name, how it is read, and its value in a draft. -/
structure Slot (δ α : Type) where
  key : String
  read : Value → Shaped α
  value? : δ → Option α
  put : δ → α → δ
  value?_put : ∀ d x, value? (put d x) = some x

/-- Setting fields of a draft fills a slot with the field of its name, and no other field touches
it. -/
structure Slot.IsFilledBy {δ α : Type} (slot : Slot δ α) (set : δ → String → Value → Shaped δ) :
    Prop where
  own : ∀ d v, set d slot.key v = fill (slot.value? d) slot.key (slot.read v) (slot.put d)
  other : ∀ {d e : δ} {key : String} {v : Value}, key ≠ slot.key → set d key v = .ok e →
    slot.value? e = slot.value? d

section Reading

variable {δ α : Type} {slot : Slot δ α} {set : δ → String → Value → Shaped δ}

/-- A slot that is full stays as it is. -/
theorem Slot.IsFilledBy.value?_of_foldlM (h : slot.IsFilledBy set) {fields : List (String × Value)}
    {d e : δ} {x : α} (hd : slot.value? d = some x)
    (hfold : fields.foldlM (fun d field => set d field.1 field.2) d = .ok e) :
    slot.value? e = some x := by
  induction fields generalizing d with
  | nil =>
    obtain rfl := Except.ok.inj hfold
    exact hd
  | cons field fields ih =>
    rw [List.foldlM_cons] at hfold
    obtain ⟨next, hset, hfold⟩ := bind_eq_ok hfold
    by_cases hkey : field.1 = slot.key
    · rw [hkey, h.own] at hset
      rw [(fill_eq_ok hset).1] at hd
      cases hd
    · exact ih ((h.other hkey hset).trans hd) hfold

/-- A slot that is empty holds at the end what the fields give it. -/
theorem Slot.IsFilledBy.lookup_of_foldlM (h : slot.IsFilledBy set) {fields : List (String × Value)}
    {d e : δ} (hd : slot.value? d = none)
    (hfold : fields.foldlM (fun d field => set d field.1 field.2) d = .ok e) :
    (fields.lookup slot.key).map slot.read = (slot.value? e).map .ok := by
  induction fields generalizing d with
  | nil =>
    obtain rfl := Except.ok.inj hfold
    rw [hd]
    rfl
  | cons field fields ih =>
    obtain ⟨key, v⟩ := field
    rw [List.foldlM_cons] at hfold
    obtain ⟨next, hset, hfold⟩ := bind_eq_ok hfold
    by_cases hkey : key = slot.key
    · subst hkey
      rw [h.own] at hset
      obtain ⟨-, x, hread, rfl⟩ := fill_eq_ok hset
      rw [h.value?_of_foldlM (slot.value?_put d x) hfold, List.lookup_cons_self, Option.map_some,
        Option.map_some, hread]
    · rw [← ih ((h.other hkey hset).trans hd) hfold, List.lookup_cons,
        beq_eq_false_iff_ne.mpr (Ne.symm hkey)]

end Reading

/-- The fields that a value gives a record, under their names: those of a table, or the items of an
array in the order of the fields. -/
def RecordKind.fieldsIn? (kind : RecordKind) (value : Value) : Option (List (String × Value)) :=
  match value.items? with
  | some items => some (kind.fields.zip items)
  | none => value.entries?

/-- A record is read field by field. -/
theorem readRecord_eq_ok {δ : Type} {kind : RecordKind} {draft : δ}
    {set : δ → String → Value → Shaped δ} {value : Value} {result : δ × Layout}
    (h : readRecord kind draft set value = .ok result) :
    ∃ fields, kind.fieldsIn? value = some fields ∧
      fields.foldlM (fun d field => set d field.1 field.2) draft = .ok result.1 := by
  unfold readRecord at h
  unfold RecordKind.fieldsIn?
  split at h
  · rename_i items hitems
    obtain ⟨d, hfold, rfl⟩ := map_eq_ok h
    exact ⟨kind.fields.zip items, by rw [hitems], hfold⟩
  · rename_i entries hitems hentries
    obtain ⟨d, hfold, rfl⟩ := map_eq_ok h
    exact ⟨entries, by rw [hitems, hentries], hfold⟩
  · cases h

/-- A setting is read from the value that is given for it, and else it is the fallback. -/
def IsRead {α : Type} (given : Option Value) (read : Value → Shaped α) (fallback x : α) : Prop :=
  match given with
  | some value => read value = .ok x
  | none => x = fallback

/-- What a slot holds is read, and an empty slot stands for the fallback. -/
theorem isRead_getD {α : Type} {given : Option Value} {read : Value → Shaped α} {held : Option α}
    (h : given.map read = held.map .ok) (fallback : α) :
    IsRead given read fallback (held.getD fallback) := by
  cases given with
  | none =>
    cases held with
    | none => rfl
    | some x => cases h
  | some value =>
    cases held with
    | none => cases h
    | some x => exact Option.some.inj h

end Toml

/-! ## The table for scanning -/

namespace ScanDraft

/-- Setting a field of a draft leaves the other fields as they are. -/
theorem set_frame {d e : ScanDraft} {key : String} {v : Value} (h : d.set key v = .ok e) :
    (key ≠ "root" → e.root = d.root) ∧ (key ≠ "exclude" → e.exclude = d.exclude) ∧
      (key ≠ "extensions" → e.extensions = d.extensions) ∧
      (key ≠ "respect_gitignore" → e.respectIgnore = d.respectIgnore) := by
  unfold set at h
  split at h
  · obtain ⟨-, x, -, rfl⟩ := fill_eq_ok h
    simp
  · obtain ⟨-, x, -, rfl⟩ := fill_eq_ok h
    simp
  · obtain ⟨-, x, -, rfl⟩ := fill_eq_ok h
    simp
  · obtain ⟨-, x, -, rfl⟩ := fill_eq_ok h
    simp
  · obtain rfl := Except.ok.inj h
    simp

/-- The slot of the root. -/
def rootSlot : Slot ScanDraft String :=
  ⟨"root", asNamedText "path string", (·.root), fun d x => { d with root := some x },
    fun _ _ => rfl⟩

/-- The slot of the excluded paths. -/
def excludeSlot : Slot ScanDraft (List String) :=
  ⟨"exclude", asTexts, (·.exclude), fun d x => { d with exclude := some x }, fun _ _ => rfl⟩

/-- The slot of the extensions. -/
def extensionsSlot : Slot ScanDraft (List String) :=
  ⟨"extensions", asTexts, (·.extensions), fun d x => { d with extensions := some x },
    fun _ _ => rfl⟩

/-- The slot of the ignore files. -/
def respectIgnoreSlot : Slot ScanDraft Bool :=
  ⟨"respect_gitignore", asBoolean, (·.respectIgnore),
    fun d x => { d with respectIgnore := some x }, fun _ _ => rfl⟩

/-- Reading the table fills the slot of the root. -/
theorem isFilledBy_rootSlot : rootSlot.IsFilledBy set where
  own _ _ := rfl
  other hne h := (set_frame h).1 hne

/-- Reading the table fills the slot of the excluded paths. -/
theorem isFilledBy_excludeSlot : excludeSlot.IsFilledBy set where
  own _ _ := rfl
  other hne h := (set_frame h).2.1 hne

/-- Reading the table fills the slot of the extensions. -/
theorem isFilledBy_extensionsSlot : extensionsSlot.IsFilledBy set where
  own _ _ := rfl
  other hne h := (set_frame h).2.2.1 hne

/-- Reading the table fills the slot of the ignore files. -/
theorem isFilledBy_respectIgnoreSlot : respectIgnoreSlot.IsFilledBy set where
  own _ _ := rfl
  other hne h := (set_frame h).2.2.2 hne

end ScanDraft

/-- Settings for scanning are read from the values that are given for them, and else they are those
of the fallback. -/
structure ScanSettings.AreRead (given : String → Option Value) (fallback scan : ScanSettings) :
    Prop where
  root : IsRead (given "root") (asNamedText "path string") fallback.root scan.root
  exclude : IsRead (given "exclude") asTexts fallback.exclude scan.exclude
  extensions : IsRead (given "extensions") asTexts fallback.extensions scan.extensions
  respectIgnore :
    IsRead (given "respect_gitignore") asBoolean fallback.respectIgnore scan.respectIgnore

/-- A table takes the defaults, except that it excludes nothing unless it says so. -/
theorem ScanSettings.areRead_of_ofValue {v : Value} {scan : ScanSettings}
    (h : ScanSettings.ofValue v = .ok scan) :
    ∃ fields, ScanSettings.kind.fieldsIn? v = some fields ∧
      AreRead (fields.lookup ·) { ScanSettings.default with exclude := [] } scan := by
  obtain ⟨⟨d, layout⟩, hrecord, hscan⟩ := bind_eq_ok h
  obtain ⟨fields, hfields, hfold⟩ := readRecord_eq_ok hrecord
  obtain rfl := Except.ok.inj hscan
  exact ⟨fields, hfields,
    isRead_getD (ScanDraft.isFilledBy_rootSlot.lookup_of_foldlM rfl hfold) _,
    isRead_getD (ScanDraft.isFilledBy_excludeSlot.lookup_of_foldlM rfl hfold) _,
    isRead_getD (ScanDraft.isFilledBy_extensionsSlot.lookup_of_foldlM rfl hfold) _,
    isRead_getD (ScanDraft.isFilledBy_respectIgnoreSlot.lookup_of_foldlM rfl hfold) _⟩

/-! ## Documents -/

namespace Settings

/-- Only the table for scanning changes the settings for scanning. -/
theorem scan_of_set {s next : Settings} {key : String} {v : Value} (hkey : key ≠ "analyzer")
    (h : s.set key v = .ok next) : next.scan = s.scan := by
  unfold set at h
  split at h
  · exact absurd rfl hkey
  · obtain ⟨rules, -, rfl⟩ := map_eq_ok h
    rfl
  · obtain ⟨restrictions, -, rfl⟩ := map_eq_ok h
    rfl
  · obtain rfl := Except.ok.inj h
    rfl

/-- The settings for scanning are those of the table, and without one they stay as they are. -/
theorem isRead_scan_of_foldlM {entries : List (String × Value)} {s settings : Settings}
    (hkeys : (entries.map (·.1)).Nodup)
    (h : entries.foldlM (fun s entry => s.set entry.1 entry.2) s = .ok settings) :
    IsRead (entries.lookup "analyzer") ScanSettings.ofValue s.scan settings.scan := by
  induction entries generalizing s with
  | nil =>
    obtain rfl := Except.ok.inj h
    rfl
  | cons entry entries ih =>
    obtain ⟨key, v⟩ := entry
    rw [List.map_cons, List.nodup_cons] at hkeys
    rw [List.foldlM_cons] at h
    obtain ⟨next, hset, hfold⟩ := bind_eq_ok h
    have hrest := ih hkeys.2 hfold
    by_cases hkey : key = "analyzer"
    · -- The table does not come a second time.
      subst hkey
      obtain ⟨scan, hscan, rfl⟩ := map_eq_ok hset
      have hnone : entries.lookup "analyzer" = none := by
        rw [List.lookup_eq_none_iff]
        intro other hother
        rw [bne_iff_ne]
        rintro heq
        exact hkeys.1 (heq ▸ List.mem_map_of_mem (f := (·.1)) hother)
      rw [hnone] at hrest
      have hsame : settings.scan = scan := hrest
      rw [List.lookup_cons_self, hsame]
      exact hscan
    · rw [List.lookup_cons, beq_eq_false_iff_ne.mpr (Ne.symm hkey)]
      rwa [scan_of_set hkey hset] at hrest

/-- The value that a document gives a setting for scanning. -/
def scanValue? (entries : List (String × Value)) (key : String) : Option Value :=
  (entries.lookup "analyzer").bind fun table =>
    (ScanSettings.kind.fieldsIn? table).bind (·.lookup key)

/-- Let a document be accepted, whatever it holds.  Its settings for scanning are those that it
gives.  A root, extensions or a treatment of ignore files that it does not give is the default one.
Excluded paths that it does not give are the default ones only if it has no table for scanning at
all; a table that does not give them excludes nothing. -/
theorem omitted_settings_are_filled_in (source : String) (settings : Settings)
    (h : Settings.parse source = .ok settings) :
    ∃ entries, Toml.parse? source = some entries ∧
      IsRead (scanValue? entries "root") (asNamedText "path string")
        ScanSettings.default.root settings.scan.root ∧
      IsRead (scanValue? entries "extensions") asTexts
        ScanSettings.default.extensions settings.scan.extensions ∧
      IsRead (scanValue? entries "respect_gitignore") asBoolean
        ScanSettings.default.respectIgnore settings.scan.respectIgnore ∧
      IsRead (scanValue? entries "exclude") asTexts
        (if (entries.lookup "analyzer").isSome then [] else ScanSettings.default.exclude)
        settings.scan.exclude := by
  unfold Settings.parse at h
  split at h
  · cases h
  · rename_i entries hentries
    split at h
    · rename_i s hs
      obtain rfl := Except.ok.inj h
      refine ⟨entries, hentries, ?_⟩
      have hscan := isRead_scan_of_foldlM (nodup_parse? hentries) hs
      unfold scanValue?
      cases htable : entries.lookup "analyzer" with
      | none =>
        rw [htable] at hscan
        have hdefault : s.scan = ScanSettings.default := hscan
        rw [hdefault]
        exact ⟨rfl, rfl, rfl, rfl⟩
      | some table =>
        rw [htable] at hscan
        obtain ⟨fields, hfields, hread⟩ := ScanSettings.areRead_of_ofValue hscan
        simp only [Option.bind_some, hfields, Option.isSome_some, if_true]
        exact ⟨hread.root, hread.extensions, hread.respectIgnore, hread.exclude⟩
    · cases h

/-- A document that gives the root only. -/
def rootOnly : String := "[analyzer]\nroot = \"src\"\n"

/-- The settings of this document. -/
def rootOnlySettings : Settings :=
  ⟨⟨"src", [], [], true⟩, [], ⟨[], ""⟩⟩

/-- The extensions and the treatment of ignore files of this document are the default ones. -/
theorem omitted_settings_are_filled_in_root_only :
    Settings.parse rootOnly = .ok rootOnlySettings ∧
      ∃ entries, Toml.parse? rootOnly = some entries ∧
        (scanValue? entries "extensions" = none ∧
          rootOnlySettings.scan.extensions = ScanSettings.default.extensions) ∧
        scanValue? entries "respect_gitignore" = none ∧
          rootOnlySettings.scan.respectIgnore = ScanSettings.default.respectIgnore := by
  have hparse : Settings.parse rootOnly = .ok rootOnlySettings := by decide +kernel
  have hgiven : (Toml.parse? rootOnly).map (fun entries =>
      (scanValue? entries "extensions").isNone && (scanValue? entries "respect_gitignore").isNone) =
        some true := by decide +kernel
  obtain ⟨entries, hentries, -, hextensions, hrespect, -⟩ :=
    omitted_settings_are_filled_in _ _ hparse
  rw [hentries, Option.map_some, Option.some_inj, Bool.and_eq_true, Option.isNone_iff_eq_none,
    Option.isNone_iff_eq_none] at hgiven
  rw [hgiven.1] at hextensions
  rw [hgiven.2] at hrespect
  exact ⟨hparse, entries, hentries, ⟨hgiven.1, hextensions⟩, hgiven.2, hrespect⟩

/-- The excluded paths of this document are not the default ones, though it does not give any. -/
theorem omitted_excludes_are_not_default :
    Settings.parse rootOnly = .ok rootOnlySettings ∧
      (∃ entries, Toml.parse? rootOnly = some entries ∧ scanValue? entries "exclude" = none) ∧
      rootOnlySettings.scan.exclude ≠ ScanSettings.default.exclude := by
  have hgiven : (Toml.parse? rootOnly).map (fun entries => (scanValue? entries "exclude").isNone) =
      some true := by decide +kernel
  obtain ⟨entries, hentries, hnone⟩ := Option.map_eq_some_iff.mp hgiven
  exact ⟨by decide +kernel, ⟨entries, hentries, Option.isNone_iff_eq_none.mp hnone⟩, by decide⟩

end Settings

end CallGuard
