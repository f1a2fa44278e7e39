import CallGuard.Toml.Document
import Mathlib.Data.List.Nodup

/-!
# The keys of a document

A key is added to a table only if it is not there yet, and a table that moves to the end is removed
from its old place.  So whatever the lines of a document are, the keys of its root table are
distinct, and looking up a key finds the only value that the document gives it.

Main results:

- Theorem {lit}`nodup_updateAt`: a change of the table at a path keeps the keys distinct.
- Theorem {lit}`nodup_readLine`, {lit}`nodup_readLines`: so does a line, and so do all lines.
- Theorem {lit}`nodup_parse?`: the keys of a document are distinct.
-/

namespace CallGuard.Toml

/-! ## Tables -/

namespace Entries

/-- The keys of a table, in order. -/
def keys (entries : Entries) : List String :=
  List.map (·.1) entries

/-- A key stands for nothing if and only if it is not there. -/
theorem get?_eq_none_iff (entries : Entries) (key : String) :
    get? entries key = none ↔ key ∉ keys entries := by
  simp only [get?, keys, Option.map_eq_none_iff, List.find?_eq_none, List.mem_map, not_exists,
    not_and, decide_eq_true_eq]

/-- A key that is not there may be added. -/
theorem nodup_push {entries : Entries} (h : (keys entries).Nodup) {key : String}
    (hnew : get? entries key = none) (node : Node) : (keys (push entries key node)).Nodup := by
  have hkeys : keys (push entries key node) = (keys entries).concat key := by
    simp [keys, push]
  rw [hkeys]
  exact h.concat ((get?_eq_none_iff entries key).mp hnew)

/-- Changing what a key stands for changes no key. -/
theorem keys_replace (entries : Entries) (key : String) (node : Node) :
    keys (replace entries key node) = keys entries := by
  unfold keys replace
  rw [List.map_map]
  apply List.map_congr_left
  intro entry _
  by_cases hkey : entry.1 = key <;> simp [hkey]

/-- A key may move to the end. -/
theorem nodup_push_erase {entries : Entries} (h : (keys entries).Nodup) (key : String)
    (node : Node) : (keys (push (erase entries key) key node)).Nodup := by
  apply nodup_push
  · exact List.Nodup.sublist (List.Sublist.map _ List.filter_sublist) h
  · rw [get?_eq_none_iff]
    simp [keys, erase]

end Entries

open Entries

/-- A change of a table keeps its keys distinct. -/
def KeepsDistinct (change : Origin → Entries → Option Entries) : Prop :=
  ∀ origin entries changed, change origin entries = some changed →
    (keys entries).Nodup → (keys changed).Nodup

/-- A change of the table at a path keeps the keys distinct in the table that the path starts
from. -/
theorem nodup_updateAt {viaKey : Bool} {change : Origin → Entries → Option Entries}
    (hchange : KeepsDistinct change) {path : List String} {origin : Origin}
    {entries changed : Entries} (h : updateAt viaKey change path origin entries = some changed)
    (hkeys : (keys entries).Nodup) : (keys changed).Nodup := by
  -- Further down the path, only what the first key stands for changes.
  cases path with
  | nil => exact hchange origin entries changed h hkeys
  | cons key path =>
    unfold updateAt at h
    split at h
    · rename_i hnew
      obtain ⟨sub, -, rfl⟩ := Option.map_eq_some_iff.mp h
      exact nodup_push hkeys hnew _
    · cases h
    · split at h
      · cases h
      · obtain ⟨sub, -, rfl⟩ := Option.map_eq_some_iff.mp h
        rwa [keys_replace]
    · obtain ⟨sub, -, rfl⟩ := Option.map_eq_some_iff.mp h
      rwa [keys_replace]

/-- An assignment keeps the keys distinct. -/
theorem nodup_assign {path : List String} {key : String} {value : Value}
    {entries changed : Entries} (h : assign path key value entries = some changed)
    (hkeys : (keys entries).Nodup) : (keys changed).Nodup := by
  refine nodup_updateAt ?_ h hkeys
  intro origin entries changed hchange hdistinct
  dsimp only at hchange
  split at hchange
  · cases hchange
  · split at hchange
    · cases hchange
    · rename_i hnew
      rw [← Option.some.inj hchange]
      exact nodup_push hdistinct (by simpa using hnew) _

/-- The header of a table keeps the keys distinct. -/
theorem nodup_openTable {path : List String} {key : String} {entries changed : Entries}
    (h : openTable path key entries = some changed) (hkeys : (keys entries).Nodup) :
    (keys changed).Nodup := by
  refine nodup_updateAt ?_ h hkeys
  intro origin entries changed hchange hdistinct
  dsimp only at hchange
  split at hchange
  · rename_i hnew
    rw [← Option.some.inj hchange]
    exact nodup_push hdistinct hnew _
  · rw [← Option.some.inj hchange]
    exact nodup_push_erase hdistinct key _
  · cases hchange

/-- The header of an element keeps the keys distinct. -/
theorem nodup_openElement {path : List String} {key : String} {entries changed : Entries}
    (h : openElement path key entries = some changed) (hkeys : (keys entries).Nodup) :
    (keys changed).Nodup := by
  refine nodup_updateAt ?_ h hkeys
  intro origin entries changed hchange hdistinct
  dsimp only at hchange
  split at hchange
  · rename_i hnew
    rw [← Option.some.inj hchange]
    exact nodup_push hdistinct hnew _
  · rw [← Option.some.inj hchange, keys_replace]
    exact hdistinct
  · cases hchange

/-- An assignment in an open table keeps the keys distinct. -/
theorem nodup_assignIn {current path : List String} {key : String} {value : Value}
    {entries changed : Entries} (h : assignIn current path key value entries = some changed)
    (hkeys : (keys entries).Nodup) : (keys changed).Nodup := by
  refine nodup_updateAt ?_ h hkeys
  intro origin entries changed hchange hdistinct
  exact nodup_assign hchange hdistinct

/-! ## Lines -/

/-- A line keeps the keys of the root table distinct. -/
theorem nodup_readLine {fuel : Nat} {draft next : Draft} {cs rest : List Char}
    (h : readLine fuel draft cs = some (next, rest)) (hkeys : (keys draft.root).Nodup) :
    (keys next.root).Nodup := by
  unfold readLine at h
  split at h
  · split at h
    · split at h
      · rename_i hroot _
        obtain ⟨rfl, -⟩ := Prod.mk.inj (Option.some.inj h)
        exact nodup_openElement hroot hkeys
      · cases h
    · cases h
  · split at h
    · split at h
      · rename_i hroot _
        obtain ⟨rfl, -⟩ := Prod.mk.inj (Option.some.inj h)
        exact nodup_openTable hroot hkeys
      · cases h
    · cases h
  · split at h
    · split at h
      · split at h
        · rename_i hroot _
          obtain ⟨rfl, -⟩ := Prod.mk.inj (Option.some.inj h)
          exact nodup_assignIn hroot hkeys
        · cases h
      · cases h
    · cases h

/-- All lines keep the keys of the root table distinct. -/
theorem nodup_readLines {size fuel : Nat} {draft : Draft} {cs : List Char} {root : Entries}
    (h : readLines size fuel draft cs = some root) (hkeys : (keys draft.root).Nodup) :
    (keys root).Nodup := by
  induction fuel generalizing draft cs with
  | zero => cases h
  | succ fuel ih =>
    unfold readLines at h
    split at h
    · rwa [← Option.some.inj h]
    · split at h
      · split at h
        · exact ih h hkeys
        · cases h
      · split at h
        · rename_i hline
          exact ih h (nodup_readLine hline hkeys)
        · cases h

/-- The finished values of entries have the same keys. -/
theorem map_fst_entriesToValues (entries : Entries) :
    (entriesToValues entries).map (·.1) = keys entries := by
  induction entries with
  | nil => rfl
  | cons entry rest ih =>
    rw [entriesToValues, List.map_cons, ih]
    rfl

/-- The keys of a document are distinct. -/
theorem nodup_parse? {source : String} {entries : List (String × Value)}
    (h : parse? source = some entries) : (entries.map (·.1)).Nodup := by
  obtain ⟨root, hroot, rfl⟩ := Option.map_eq_some_iff.mp h
  rw [map_fst_entriesToValues]
  exact nodup_readLines hroot List.nodup_nil

end CallGuard.Toml
