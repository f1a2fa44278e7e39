import Mathlib.Data.List.Lex
import Mathlib.Data.Prod.Lex
import Mathlib.Data.String.Basic
import CallGuard.Finding.Order

/-!
# Sorting findings

Findings are compared by their positions: the file, then the line, then the column.  This is a total
order of positions, so sorting is stable and leaves findings alone that are in order.

Main results:

- Theorem {lit}`precedes_iff`: findings are compared by their positions.
- Theorem {lit}`pairwise_sort`: sorted findings are in order.
- Theorem {lit}`sort_of_pairwise`: findings that are in order stay as they are.
- Theorem {lit}`sort_flatMap`: so do blocks of them, if the files of the blocks ascend.
- Theorem {lit}`sort_filter`, {lit}`sort_map`: sorting commutes with leaving findings out, and with
  changing them in their places.
- Theorem {lit}`isStableSort_sort`, {lit}`IsStableSort.eq_sort`: findings have one stable order, and
  sorting finds it.
- Theorem {lit}`sort_flatMap_sort`: it makes no difference whether blocks are sorted beforehand.
-/

namespace CallGuard.Finding

/-- The position of a finding: the key of its file, its line and its column. -/
def position (f : Finding) : List String ×ₗ ℕ ×ₗ ℕ :=
  toLex (Path.key f.location.file, toLex (f.location.line, f.location.column))

/-- The order of two findings is that of their positions. -/
theorem precedes_iff (f g : Finding) : f.precedes g = true ↔ f.position ≤ g.position := by
  rw [position, position, Prod.Lex.toLex_le_toLex, Prod.Lex.toLex_le_toLex, precedes]
  by_cases hfile : Path.key f.location.file = Path.key g.location.file
  · simp [hfile]
  · simp [hfile]

/-- The order is transitive. -/
theorem precedes_trans (f g h : Finding) (hfg : f.precedes g = true) (hgh : g.precedes h = true) :
    f.precedes h = true := by
  rw [precedes_iff] at hfg hgh ⊢
  exact hfg.trans hgh

/-- The order is total. -/
theorem precedes_total (f g : Finding) : (f.precedes g || g.precedes f) = true := by
  rw [Bool.or_eq_true, precedes_iff, precedes_iff]
  exact le_total f.position g.position

/-- Sorted findings are in order. -/
theorem pairwise_sort (findings : List Finding) :
    (sort findings).Pairwise fun f g => f.precedes g = true :=
  List.pairwise_mergeSort precedes_trans precedes_total findings

/-- Findings that are in order stay as they are. -/
theorem sort_of_pairwise {findings : List Finding}
    (h : findings.Pairwise fun f g => f.precedes g = true) : sort findings = findings :=
  List.mergeSort_of_pairwise h

/-- Sorting neither adds nor drops findings. -/
theorem mem_sort {findings : List Finding} {f : Finding} : f ∈ sort findings ↔ f ∈ findings :=
  List.mem_mergeSort

/-- A finding in an earlier file comes first. -/
theorem precedes_of_key_lt {f g : Finding}
    (h : Path.key f.location.file < Path.key g.location.file) : f.precedes g = true := by
  rw [precedes_iff, position, position, Prod.Lex.toLex_le_toLex]
  exact .inl h

/-- Blocks of findings that are in order stay as they are, one behind the other, if all findings of
a block are in one file and the files of the blocks ascend. -/
theorem sort_flatMap {α : Type} {blocks : List α} {file : α → String} {found : α → List Finding}
    (hfiles : blocks.Pairwise fun x y => Path.key (file x) < Path.key (file y))
    (hfound : ∀ x ∈ blocks, ∀ f ∈ found x, f.location.file = file x)
    (hsorted : ∀ x ∈ blocks, (found x).Pairwise fun f g => f.precedes g = true) :
    sort (blocks.flatMap found) = blocks.flatMap found := by
  apply sort_of_pairwise
  rw [List.pairwise_flatMap]
  refine ⟨hsorted, hfiles.imp_of_mem ?_⟩
  intro x y hx hy hlt f hf g hg
  apply precedes_of_key_lt
  rwa [hfound x hx f hf, hfound y hy g hg]

/-! ## Sorting and changing -/

/-- A further first finding cuts the sorted findings in two: those that it must not precede come
before it, and all others behind it. -/
theorem exists_cut_sort (f : Finding) (findings : List Finding) :
    ∃ before after, sort (f :: findings) = before ++ f :: after ∧
      sort findings = before ++ after ∧
      before = (sort findings).filter (fun g => !f.precedes g) ∧
      after = (sort findings).filter (fun g => f.precedes g) := by
  obtain ⟨before, after, hsort, hrest, hbefore⟩ :=
    List.mergeSort_cons precedes_trans precedes_total f findings
  have horder := pairwise_sort (f :: findings)
  rw [sort, hsort, List.pairwise_append, List.pairwise_cons] at horder
  have hafter : ∀ g ∈ after, f.precedes g = true := horder.2.1.1
  have hlater : before.filter (fun g => f.precedes g) = [] :=
    List.filter_eq_nil_iff.mpr fun g hg => by simpa using hbefore g hg
  have hearlier : after.filter (fun g => !f.precedes g) = [] :=
    List.filter_eq_nil_iff.mpr fun g hg => by simpa using hafter g hg
  refine ⟨before, after, hsort, hrest, ?_, ?_⟩
  · rw [sort, hrest, List.filter_append, hearlier, List.filter_eq_self.mpr hbefore,
      List.append_nil]
  · rw [sort, hrest, List.filter_append, hlater, List.filter_eq_self.mpr hafter, List.nil_append]

/-- Leaving findings out before sorting is leaving them out afterwards. -/
theorem sort_filter (p : Finding → Bool) (findings : List Finding) :
    sort (findings.filter p) = (sort findings).filter p := by
  induction findings with
  | nil => simp [sort]
  | cons f findings ih =>
    obtain ⟨before, after, hsort, hrest, hbefore, hafter⟩ := exists_cut_sort f findings
    by_cases hp : p f = true
    · obtain ⟨kept, later, hsort', -, hkept, hlater⟩ := exists_cut_sort f (findings.filter p)
      rw [ih, List.filter_comm, ← hbefore] at hkept
      rw [ih, List.filter_comm, ← hafter] at hlater
      rw [List.filter_cons_of_pos hp, hsort', hsort, hkept, hlater, List.filter_append,
        List.filter_cons_of_pos hp]
    · rw [List.filter_cons_of_neg hp, ih, hrest, hsort, List.filter_append, List.filter_append,
        List.filter_cons_of_neg hp]

/-- Changing findings in their places before sorting is changing them afterwards. -/
theorem sort_map {change : Finding → Finding} (h : ∀ f, (change f).position = f.position)
    (findings : List Finding) : sort (findings.map change) = (sort findings).map change := by
  symm
  apply List.map_mergeSort
  intro f _ g _
  rw [Bool.eq_iff_iff, precedes_iff, precedes_iff, h, h]

/-! ## Stability -/

/-- Two lists have the same ties: at every position, they have the same findings in the same order. -/
def SameTies (findings others : List Finding) : Prop :=
  ∀ position, findings.filter (·.position = position) = others.filter (·.position = position)

/-- A list of findings is sorted stably: no finding is lost or repeated, the positions do not descend,
and findings at one position keep their order. -/
structure IsStableSort (findings sorted : List Finding) : Prop where
  perm : sorted.Perm findings
  ordered : sorted.Pairwise fun f g => f.position ≤ g.position
  stable : SameTies sorted findings

/-- Having the same ties goes both ways. -/
theorem SameTies.symm {findings others : List Finding} (h : SameTies findings others) :
    SameTies others findings := fun position => (h position).symm

/-- Lists with the ties of a third have the same ties. -/
theorem SameTies.trans {findings others third : List Finding} (h : SameTies findings others)
    (hthird : SameTies others third) : SameTies findings third := fun position =>
  (h position).trans (hthird position)

/-- Blocks with the same ties, one behind the other, have the same ties. -/
theorem SameTies.flatMap {α : Type} {blocks : List α} {found others : α → List Finding}
    (h : ∀ x ∈ blocks, SameTies (found x) (others x)) :
    SameTies (blocks.flatMap found) (blocks.flatMap others) := by
  intro position
  rw [List.filter_flatMap, List.filter_flatMap]
  exact List.flatMap_congr fun x hx => h x hx position

/-- The same findings stand in lists with the same ties. -/
theorem SameTies.mem_iff {findings others : List Finding} (h : SameTies findings others)
    (f : Finding) : f ∈ findings ↔ f ∈ others := by
  have hmem : ∀ list : List Finding, f ∈ list ↔ f ∈ list.filter (·.position = f.position) := by simp
  rw [hmem findings, hmem others, h f.position]

/-- Lists of the same findings are compared at the positions of these only. -/
theorem sameTies_of_perm {findings others : List Finding} (hperm : findings.Perm others)
    (h : ∀ f ∈ findings, findings.filter (·.position = f.position) =
      others.filter (·.position = f.position)) : SameTies findings others := by
  intro position
  by_cases hfound : ∃ f ∈ findings, f.position = position
  · obtain ⟨f, hf, rfl⟩ := hfound
    exact h f hf
  · have hnone : ∀ list : List Finding, (∀ g ∈ list, g ∈ findings) →
        list.filter (·.position = position) = [] := fun list hlist =>
      List.filter_eq_nil_iff.mpr fun g hg => by simpa using fun heq => hfound ⟨g, hlist g hg, heq⟩
    rw [hnone findings fun _ hg => hg, hnone others fun _ hg => hperm.mem_iff.mpr hg]

/-- Sorting keeps ties, as findings at one position are in order. -/
theorem sameTies_sort (findings : List Finding) : SameTies (sort findings) findings := by
  intro position
  rw [← sort_filter]
  apply sort_of_pairwise
  apply List.pairwise_of_forall_mem_list
  intro f hf g hg
  rw [List.mem_filter, decide_eq_true_eq] at hf hg
  rw [precedes_iff, hf.2, hg.2]

/-- Lists in order with the same ties are the same. -/
theorem SameTies.eq_of_pairwise {findings others : List Finding} (h : SameTies findings others)
    (hfindings : findings.Pairwise fun f g => f.position ≤ g.position)
    (hothers : others.Pairwise fun f g => f.position ≤ g.position) : findings = others := by
  induction findings generalizing others with
  | nil =>
    cases others with
    | nil => rfl
    | cons g others => simpa using (h.mem_iff g).mpr (by simp)
  | cons f findings ih =>
    cases others with
    | nil => simpa using (h.mem_iff f).mp (by simp)
    | cons g others =>
      rw [List.pairwise_cons] at hfindings hothers
      -- Each of the two first findings stands in the other list as well.
      have hle : g.position ≤ f.position := by
        rcases List.mem_cons.mp ((h.mem_iff f).mp (by simp)) with rfl | hf
        · exact le_rfl
        · exact hothers.1 f hf
      have hge : f.position ≤ g.position := by
        rcases List.mem_cons.mp ((h.mem_iff g).mpr (by simp)) with rfl | hg
        · exact le_rfl
        · exact hfindings.1 g hg
      have hposition : f.position = g.position := le_antisymm hge hle
      have hfirst := h f.position
      simp only [List.filter_cons, hposition, decide_true, if_true, List.cons.injEq] at hfirst
      obtain ⟨rfl, -⟩ := hfirst
      have hrest : SameTies findings others := by
        intro position
        have hties := h position
        by_cases hf : f.position = position
        · simpa [List.filter_cons, hf] using hties
        · simpa [List.filter_cons, hf] using hties
      rw [ih hrest hfindings.2 hothers.2]

/-- The positions of sorted findings do not descend. -/
theorem pairwise_position_sort (findings : List Finding) :
    (sort findings).Pairwise fun f g => f.position ≤ g.position :=
  (pairwise_sort findings).imp fun hprecedes => (precedes_iff _ _).mp hprecedes

/-- Sorting is stable. -/
theorem isStableSort_sort (findings : List Finding) : IsStableSort findings (sort findings) where
  perm := List.mergeSort_perm findings precedes
  ordered := pairwise_position_sort findings
  stable := sameTies_sort findings

/-- There is no other stable order. -/
theorem IsStableSort.eq_sort {findings sorted : List Finding} (h : IsStableSort findings sorted) :
    sorted = sort findings :=
  (h.stable.trans (sameTies_sort findings).symm).eq_of_pairwise h.ordered
    (pairwise_position_sort findings)

/-- Sorting blocks before all findings are sorted makes no difference. -/
theorem sort_flatMap_sort {α : Type} (blocks : List α) (found : α → List Finding) :
    sort (blocks.flatMap fun x => sort (found x)) = sort (blocks.flatMap found) := by
  have hblocks : SameTies (blocks.flatMap fun x => sort (found x)) (blocks.flatMap found) :=
    .flatMap fun x _ => sameTies_sort (found x)
  have hties : SameTies (sort (blocks.flatMap fun x => sort (found x))) (sort (blocks.flatMap found)) :=
    ((sameTies_sort _).trans hblocks).trans (sameTies_sort _).symm
  exact hties.eq_of_pairwise (pairwise_position_sort _) (pairwise_position_sort _)

end CallGuard.Finding
