import CallGuard.Proofs.NamePattern.Occurrence
import CallGuard.Proofs.Regex.WrittenForm

/-!
# The meaning of regular expressions

A branch reads a name from one position to another: a literal reads one character up to case, a dot
reads any character but a line feed, a boundary reads nothing, and so on.  A regular expression is
found in a name if one of its branches reads a part of it, wherever the part may stand.

For the written form of patterns this comes down to occurrences of the patterns.

Main results:

- Theorem {lit}`reads_literals_append_iff`: literal characters read a part that is equal to them up
  to case.
- Theorem {lit}`reads_anything_cons_iff`: any characters read a part without line feeds.
- Theorem {lit}`reads_branch_iff`: the branch of a pattern reads the parts that its segments spell.
- Theorem {lit}`finds_shape_iff`: the written form of patterns is found in a name exactly if one of
  the patterns occurs in it.
-/

namespace CallGuard.Regex

open Text

/-- A branch reads a name from one position to another. -/
inductive Reads (name : List Char) : List Node → Nat → Nat → Prop where
  | nil {i : Nat} : Reads name [] i i
  | literal {c d : Char} {rest : List Node} {i j : Nat} (hget : name[i]? = some d)
      (hsame : SameLetter c d) (hrest : Reads name rest (i + 1) j) :
      Reads name (.literal c :: rest) i j
  | dot {d : Char} {rest : List Node} {i j : Nat} (hget : name[i]? = some d) (hline : d ≠ '\n')
      (hrest : Reads name rest (i + 1) j) : Reads name (.dot :: rest) i j
  | boundary {rest : List Node} {i j : Nat} (hplace : IsWordBoundary name i)
      (hrest : Reads name rest i j) : Reads name (.boundary :: rest) i j
  | nonBoundary {rest : List Node} {i j : Nat} (hplace : ¬ IsWordBoundary name i)
      (hrest : Reads name rest i j) : Reads name (.nonBoundary :: rest) i j
  | textStart {rest : List Node} {j : Nat} (hrest : Reads name rest 0 j) :
      Reads name (.textStart :: rest) 0 j
  | textEnd {rest : List Node} {j : Nat} (hrest : Reads name rest name.length j) :
      Reads name (.textEnd :: rest) name.length j
  | skip {count : Count} {greedy : Bool} {node : Node} {rest : List Node} {i j : Nat}
      (hcount : count ≠ .atLeastOnce) (hrest : Reads name rest i j) :
      Reads name (.repeated count greedy node :: rest) i j
  | once {count : Count} {greedy : Bool} {node : Node} {rest : List Node} {i k j : Nat}
      (hnode : Reads name [node] i k) (hrest : Reads name rest k j) :
      Reads name (.repeated count greedy node :: rest) i j
  | again {count : Count} {greedy : Bool} {node : Node} {rest : List Node} {i k j : Nat}
      (hcount : count ≠ .atMostOnce) (hnode : Reads name [node] i k)
      (hrest : Reads name (.repeated count greedy node :: rest) k j) :
      Reads name (.repeated count greedy node :: rest) i j
  | group {capturing : Bool} {branches : List (List Node)} {branch rest : List Node} {i k j : Nat}
      (hmem : branch ∈ branches) (hbranch : Reads name branch i k) (hrest : Reads name rest k j) :
      Reads name (.group capturing branches :: rest) i j

/-- Some branch of a regular expression reads some part of a name. -/
def Finds (branches : List (List Node)) (name : List Char) : Prop :=
  ∃ branch ∈ branches, ∃ i j, i ≤ name.length ∧ Reads name branch i j

/-! ## The parts of a branch -/

variable {name : List Char}

/-- Literal characters read a part of the name that is equal to them up to case. -/
theorem reads_literals_append_iff {seg : List Char} {rest : List Node} {i j : Nat}
    (hi : i ≤ name.length) :
    Reads name (seg.map Node.literal ++ rest) i j ↔
      ∃ k, i ≤ k ∧ k ≤ name.length ∧ SameText seg (part name i k) ∧ Reads name rest k j := by
  induction seg generalizing i with
  | nil =>
    constructor
    · intro h
      exact ⟨i, Nat.le_refl i, hi, by simp [SameText], h⟩
    · rintro ⟨k, hik, hk, hsame, hrest⟩
      have hlen := hsame.length_eq
      rw [length_part hk, List.length_nil] at hlen
      have hki : k = i := by omega
      rwa [hki] at hrest
  | cons c seg ih =>
    constructor
    · intro h
      cases h with
      | literal hget hsame hrest =>
        obtain ⟨hlt, -⟩ := List.getElem?_eq_some_iff.mp hget
        obtain ⟨k, hik, hk, hseg, hmore⟩ := (ih (by omega)).mp hrest
        refine ⟨k, by omega, hk, ?_, hmore⟩
        rw [part_eq_cons hget (by omega)]
        exact List.Forall₂.cons hsame hseg
    · rintro ⟨k, hik, hk, hsame, hrest⟩
      have hlen := hsame.length_eq
      rw [length_part hk, List.length_cons] at hlen
      have hget : name[i]? = some (name.get ⟨i, by omega⟩) := by simp
      rw [part_eq_cons hget (by omega)] at hsame
      obtain ⟨hfirst, hseg⟩ := List.forall₂_cons.mp hsame
      exact .literal hget hfirst ((ih (by omega)).mpr ⟨k, by omega, hk, hseg, hrest⟩)

/-- A dot reads one character that is not a line feed. -/
theorem reads_dot_iff {i k : Nat} :
    Reads name [.dot] i k ↔ k = i + 1 ∧ ∃ d, name[i]? = some d ∧ d ≠ '\n' := by
  constructor
  · intro h
    cases h with
    | dot hget hline hrest =>
      cases hrest
      exact ⟨rfl, _, hget, hline⟩
  · rintro ⟨rfl, d, hget, hline⟩
    exact .dot hget hline .nil

/-- Any characters read a part of the name without line feeds. -/
theorem reads_anything_cons_iff {rest : List Node} {i j : Nat} (hi : i ≤ name.length) :
    Reads name (anything :: rest) i j ↔
      ∃ k, i ≤ k ∧ k ≤ name.length ∧ '\n' ∉ part name i k ∧ Reads name rest k j := by
  constructor
  · intro h
    -- The induction follows the repetitions; each of them reads one character.
    generalize hnodes : anything :: rest = nodes at h
    induction h with
    | skip hcount hrest =>
      obtain ⟨-, rfl⟩ := List.cons.inj hnodes
      exact ⟨_, Nat.le_refl _, hi, by simp, hrest⟩
    | once hnode hrest =>
      obtain ⟨hnode', rfl⟩ := List.cons.inj hnodes
      cases hnode'
      obtain ⟨rfl, d, hget, hline⟩ := reads_dot_iff.mp hnode
      obtain ⟨hlt, -⟩ := List.getElem?_eq_some_iff.mp hget
      refine ⟨_, Nat.le_succ _, hlt, ?_, hrest⟩
      rw [part_eq_cons hget (Nat.lt_succ_self _)]
      simpa using Ne.symm hline
    | again hcount hnode hrest _ ih =>
      obtain ⟨hnode', rfl⟩ := List.cons.inj hnodes
      cases hnode'
      obtain ⟨rfl, d, hget, hline⟩ := reads_dot_iff.mp hnode
      obtain ⟨hlt, -⟩ := List.getElem?_eq_some_iff.mp hget
      obtain ⟨k, hik, hk, hgap, hmore⟩ := ih hlt rfl
      refine ⟨k, by omega, hk, ?_, hmore⟩
      rw [part_eq_cons hget (by omega)]
      simp [Ne.symm hline, hgap]
    | _ => simp [anything] at hnodes
  · rintro ⟨k, hik, hk, hgap, hrest⟩
    induction hd : k - i generalizing i with
    | zero =>
      have hki : k = i := by omega
      rw [hki] at hrest
      exact .skip (by decide) hrest
    | succ d ih =>
      have hget : name[i]? = some (name.get ⟨i, by omega⟩) := by simp
      rw [part_eq_cons hget (by omega), List.mem_cons, not_or] at hgap
      have hnode : Reads name [.dot] i (i + 1) := reads_dot_iff.mpr ⟨rfl, _, hget, Ne.symm hgap.1⟩
      exact .again (by decide) hnode (ih (by omega) (by omega) hgap.2 (by omega))

/-- The branch of a pattern reads the parts of the name that its segments spell. -/
theorem reads_branch_iff {segs : List (List Char)} (hne : segs ≠ []) {i j : Nat}
    (hi : i ≤ name.length) :
    Reads name (branch segs) i j ↔
      i ≤ j ∧ j ≤ name.length ∧ Spells segs (part name i j) := by
  induction segs generalizing i with
  | nil => exact absurd rfl hne
  | cons seg segs ih =>
    cases segs with
    | nil =>
      have hbranch : branch [seg] = seg.map Node.literal ++ [] := by simp [branch]
      rw [hbranch, reads_literals_append_iff hi]
      constructor
      · rintro ⟨k, hik, hk, hsame, hrest⟩
        cases hrest
        exact ⟨hik, hk, hsame⟩
      · rintro ⟨hij, hj, hspells⟩
        exact ⟨j, hij, hj, hspells, .nil⟩
    | cons next segs =>
      rw [branch_cons_cons, reads_literals_append_iff hi]
      constructor
      · rintro ⟨k, hik, hk, hseg, hmore⟩
        obtain ⟨l, hkl, hl, hgap, hrest⟩ := (reads_anything_cons_iff hk).mp hmore
        obtain ⟨hlj, hj, hspells⟩ := (ih (by simp) hl).mp hrest
        have hij : i ≤ j := by omega
        exact ⟨hij, hj, (spells_part_iff hij hj).mpr ⟨k, l, hik, hkl, hlj, hseg, hgap, hspells⟩⟩
      · rintro ⟨hij, hj, hspells⟩
        obtain ⟨k, l, hik, hkl, hlj, hseg, hgap, hrest⟩ := (spells_part_iff hij hj).mp hspells
        have hl : l ≤ name.length := by omega
        have hmore := (ih (by simp) hl).mpr ⟨hlj, hj, hrest⟩
        exact ⟨k, hik, by omega, hseg,
          (reads_anything_cons_iff (by omega)).mpr ⟨l, hkl, hl, hgap, hmore⟩⟩

/-! ## The written form of patterns -/

/-- The written form of patterns is found in a name exactly if one of the patterns occurs in it. -/
theorem finds_shape_iff (patterns : List NamePattern) (name : List Char) :
    Finds (shape patterns) name ↔ ∃ p ∈ patterns, p.OccursIn name := by
  constructor
  · rintro ⟨nodes, hnodes, i, j, -, hreads⟩
    rw [shape, List.mem_singleton] at hnodes
    subst hnodes
    obtain ⟨hi, hgroup⟩ : IsWordBoundary name i ∧
        Reads name [.group false (patterns.map fun p => branch p.segments), .boundary] i j := by
      cases hreads with
      | boundary hi hgroup => exact ⟨hi, hgroup⟩
    cases hgroup with
    | group hmem hbranch hrest =>
      obtain ⟨p, hp, rfl⟩ := List.mem_map.mp hmem
      cases hrest with
      | boundary hk hend =>
        obtain ⟨hik, -, hspells⟩ :=
          (reads_branch_iff (segments_ne_nil p.text.toList) hi.le_length).mp hbranch
        exact ⟨p, hp, _, _, hik, hi, hk, hspells⟩
  · rintro ⟨p, hp, i, j, hij, hi, hj, hspells⟩
    have hbranch : Reads name (branch p.segments) i j :=
      (reads_branch_iff (segments_ne_nil p.text.toList) hi.le_length).mpr
        ⟨hij, hj.le_length, hspells⟩
    have hmem : branch p.segments ∈ patterns.map fun p => branch p.segments :=
      List.mem_map_of_mem hp
    refine ⟨_, List.mem_singleton.mpr rfl, i, j, hi.le_length, ?_⟩
    exact .boundary hi (.group hmem hbranch (.boundary hj .nil))

end CallGuard.Regex
