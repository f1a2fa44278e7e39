import CallGuard.Proofs.GroupSet.Resolution

/-!
# Group sets as ordered maps

A set of groups is a map from identifiers to groups with an order.  Whatever is done to a set can be
told as a history of single events: a group is put, the groups without patterns are dropped, or all
groups are.  A history says which group an identifier stands for, by the last event that matters to
it, and since when it has been there.  A set holds exactly what its history says, in the order in
which the identifiers came to stay.

Main results:

- Theorem {lit}`GroupSet.get?_insert`, {lit}`GroupSet.get?_dropEmpty`: what one event does to the
  group of an identifier.
- Theorem {lit}`GroupSet.lastNamed_of_mapAfter`: the group of an identifier is the last one put.
- Theorem {lit}`GroupSet.existsUnique_addedAt`: an identifier that is there was added at one event.
- Theorem {lit}`GroupSet.Records.happen`, {lit}`GroupSet.records_after`: sets record their histories,
  event by event and as a whole.
- Theorem {lit}`GroupSet.run_refines_ordered_map`: what holds for every set that can be reached.
-/

namespace CallGuard

/-- Looking for an identifier after a group is put finds the group, if it is its own identifier, and
else what was found before. -/
theorem find?_putGroup (g : Group) (groups : List Group) (id : String) :
    (putGroup g groups).find? (·.id = id) = redefine (fun id => groups.find? (·.id = id)) g id := by
  unfold redefine
  induction groups with
  | nil =>
    by_cases hid : id = g.id
    · simp [putGroup, hid]
    · simp [putGroup, hid, Ne.symm hid]
  | cons h rest ih =>
    by_cases heq : h.id = g.id
    · by_cases hid : id = g.id
      · simp [putGroup, heq, hid]
      · simp [putGroup, heq, hid, Ne.symm hid]
    · by_cases hhere : h.id = id
      · have hid : ¬id = g.id := fun hid => heq (hhere.trans hid)
        simp [putGroup, hid, hhere]
      · simpa [putGroup, heq, hhere] using ih

/-- A group whose identifier is present takes the place of the first group that has it, and nothing
else changes. -/
theorem exists_putGroup_of_mem {g : Group} {groups : List Group} (h : g.id ∈ groups.map (·.id)) :
    ∃ front old rest, groups = front ++ old :: rest ∧ old.id = g.id ∧
      putGroup g groups = front ++ g :: rest := by
  induction groups with
  | nil => cases h
  | cons k groups ih =>
    by_cases heq : k.id = g.id
    · exact ⟨[], k, groups, rfl, heq, by simp [putGroup, heq]⟩
    · have hrest : g.id ∈ groups.map (·.id) := by simpa [Ne.symm heq] using h
      obtain ⟨front, old, rest, hgroups, hid, hput⟩ := ih hrest
      exact ⟨k :: front, old, rest, by simp [hgroups], hid, by simp [putGroup, heq, hput]⟩

namespace GroupSet

/-! ## One event -/

/-- An identifier is in a set if it stands for a group. -/
theorem mem_ids_iff (s : GroupSet) (id : String) : id ∈ s.ids ↔ (s.get? id).isSome := by
  simp [ids, get?, List.find?_isSome]

/-- After a group is put, its identifier stands for it, and the others stand for what they did. -/
theorem get?_insert (s : GroupSet) (g : Group) (id : String) :
    (s.insert g).get? id = redefine s.get? g id :=
  find?_putGroup g s.groups id

/-- After the groups without patterns are dropped, the others are still there. -/
theorem get?_dropEmpty (s : GroupSet) (id : String) :
    s.dropEmpty.get? id = (s.get? id).filter (!·.isEmpty) := by
  ext g
  rw [Option.filter_eq_some_iff, get?, get?, find?_id_eq_some_iff s.dropEmpty.distinct,
    find?_id_eq_some_iff s.distinct, dropEmpty, filter, List.mem_filter]
  tauto

/-! ## Histories -/

/-- What happens to a set at a time. -/
inductive Event where
  /-- A group is put. -/
  | put (group : Group)
  /-- The groups without patterns are dropped. -/
  | dropEmpty
  /-- All groups are dropped. -/
  | clear

/-- The group that is put, if one is. -/
def Event.group? : Event → Option Group
  | put g => some g
  | dropEmpty | clear => none

/-- The groups that are put in the course of a history. -/
def groupsPut (events : List Event) : List Group :=
  events.filterMap Event.group?

/-- The group that each identifier stands for after one more event. -/
def mapNext (named : String → Option Group) : Event → String → Option Group
  | .put g => redefine named g
  | .dropEmpty => fun id => (named id).filter (!·.isEmpty)
  | .clear => fun _ => none

/-- The group that each identifier stands for after a history. -/
def mapAfter (events : List Event) : String → Option Group :=
  events.foldl mapNext fun _ => none

/-- An identifier is added at the event with a number, counted from zero: it stands for no group
before, and it stands for one ever after. -/
def AddedAt (events : List Event) (id : String) (n : Nat) : Prop :=
  n < events.length ∧ mapAfter (events.take n) id = none ∧
    ∀ m, n < m → m ≤ events.length → (mapAfter (events.take m) id).isSome

/-- One more event changes the map by itself. -/
theorem mapAfter_concat (events : List Event) (e : Event) :
    mapAfter (events ++ [e]) = mapNext (mapAfter events) e := by
  simp [mapAfter]

/-- One more put comes last among the groups that are put. -/
theorem groupsPut_concat (events : List Event) (e : Event) :
    groupsPut (events ++ [e]) = groupsPut events ++ e.group?.toList := by
  cases e <;> simp [groupsPut, Event.group?]

/-- What an identifier stands for is the last group of that identifier that was put. -/
theorem lastNamed_of_mapAfter {events : List Event} {id : String} {g : Group}
    (h : mapAfter events id = some g) : lastNamed (groupsPut events) id = some g := by
  induction events using List.reverseRecOn with
  | nil => simp [mapAfter] at h
  | append_singleton events e ih =>
    rw [mapAfter_concat] at h
    rw [groupsPut_concat]
    cases e with
    | put k =>
      rw [Event.group?, Option.toList_some, lastNamed_concat]
      by_cases hid : id = k.id
      · simpa [mapNext, redefine_of_eq _ hid] using h
      · rw [mapNext, redefine_of_ne _ hid] at h
        rw [redefine_of_ne _ hid]
        exact ih h
    | dropEmpty =>
      rw [mapNext, Option.filter_eq_some_iff] at h
      simpa [Event.group?] using ih h.1
    | clear => simp [mapNext] at h

/-- An identifier that is still there after one more event was added when it was. -/
theorem AddedAt.concat {events : List Event} {id : String} {n : Nat} (h : AddedAt events id n)
    (e : Event) (hthere : (mapAfter (events ++ [e]) id).isSome) : AddedAt (events ++ [e]) id n := by
  obtain ⟨hlt, hbefore, hafter⟩ := h
  refine ⟨?_, ?_, ?_⟩
  · rw [List.length_append]
    omega
  · rwa [List.take_append_of_le_length (by omega)]
  · intro m hnm hm
    by_cases hlast : m = (events ++ [e]).length
    · rwa [hlast, List.take_length]
    · rw [List.length_append, List.length_singleton] at hm hlast
      rw [List.take_append_of_le_length (by omega)]
      exact hafter m hnm (by omega)

/-- An identifier that was not there before the last event and is there after it was added at that
event. -/
theorem addedAt_length {events : List Event} {id : String} (hbefore : mapAfter events id = none)
    (e : Event) (hthere : (mapAfter (events ++ [e]) id).isSome) :
    AddedAt (events ++ [e]) id events.length := by
  refine ⟨by simp, by simpa using hbefore, ?_⟩
  intro m hm hle
  have hlast : m = (events ++ [e]).length := by
    rw [List.length_append, List.length_singleton] at hle ⊢
    omega
  rwa [hlast, List.take_length]

/-- An identifier cannot be added twice without being dropped in between. -/
theorem AddedAt.unique {events : List Event} {id : String} {m n : Nat} (hm : AddedAt events id m)
    (hn : AddedAt events id n) : m = n := by
  by_contra hne
  rcases Nat.lt_or_gt_of_ne hne with hlt | hlt
  · have hthere := hm.2.2 n hlt (Nat.le_of_lt hn.1)
    simp [hn.2.1] at hthere
  · have hthere := hn.2.2 m hlt (Nat.le_of_lt hm.1)
    simp [hm.2.1] at hthere

/-- An identifier that stands for a group was added at one event. -/
theorem existsUnique_addedAt {events : List Event} {id : String}
    (hthere : (mapAfter events id).isSome) : ∃! n, AddedAt events id n := by
  refine existsUnique_of_exists_of_unique ?_ fun m n hm hn => hm.unique hn
  induction events using List.reverseRecOn with
  | nil => simp [mapAfter] at hthere
  | append_singleton events e ih =>
    cases hbefore : mapAfter events id with
    | none => exact ⟨events.length, addedAt_length hbefore e hthere⟩
    | some g =>
      obtain ⟨n, hn⟩ := ih (by simp [hbefore])
      exact ⟨n, hn.concat e hthere⟩

/-! ## Sets and their histories -/

/-- One identifier was added before another one. -/
def AddedBefore (events : List Event) (id other : String) : Prop :=
  ∃ m n, AddedAt events id m ∧ AddedAt events other n ∧ m < n

/-- A set after one more event. -/
def happen (s : GroupSet) : Event → GroupSet
  | .put g => s.insert g
  | .dropEmpty => s.dropEmpty
  | .clear => ∅

/-- The set after a history. -/
def after (events : List Event) : GroupSet :=
  events.foldl happen ∅

/-- A set records a history: identifiers stand for the groups that the history says, and they come
in the order in which they were added. -/
structure Records (s : GroupSet) (events : List Event) : Prop where
  get : ∀ id, s.get? id = mapAfter events id
  order : s.ids.Pairwise (AddedBefore events)

/-- Identifiers that are still there after one more event are still in order. -/
theorem AddedBefore.concat {events : List Event} {id other : String}
    (h : AddedBefore events id other) (e : Event) (hid : (mapAfter (events ++ [e]) id).isSome)
    (hother : (mapAfter (events ++ [e]) other).isSome) : AddedBefore (events ++ [e]) id other := by
  obtain ⟨m, n, hm, hn, hlt⟩ := h
  exact ⟨m, n, hm.concat e hid, hn.concat e hother, hlt⟩

namespace Records

variable {s : GroupSet} {events : List Event}

/-- One more event changes the groups as the history says. -/
theorem get?_happen (h : Records s events) (e : Event) (id : String) :
    (s.happen e).get? id = mapAfter (events ++ [e]) id := by
  have hget : s.get? = mapAfter events := funext h.get
  rw [mapAfter_concat]
  cases e with
  | put g => rw [happen, get?_insert, hget, mapNext]
  | dropEmpty => rw [happen, get?_dropEmpty, hget, mapNext]
  | clear => rfl

/-- Identifiers that stay in their order, while some may go, come in the order in which they were
added. -/
theorem order_of_sublist (h : Records s events) {e : Event}
    (hids : (s.happen e).ids.Sublist s.ids) :
    (s.happen e).ids.Pairwise (AddedBefore (events ++ [e])) := by
  have hthere : ∀ id ∈ (s.happen e).ids, (mapAfter (events ++ [e]) id).isSome := by
    intro id hid
    rwa [← h.get?_happen, ← mem_ids_iff]
  apply (h.order.sublist hids).imp_of_mem
  intro id other hid hother hbefore
  exact hbefore.concat e (hthere id hid) (hthere other hother)

/-- A set that records a history records it with one more event. -/
theorem happen (h : Records s events) (e : Event) : Records (s.happen e) (events ++ [e]) := by
  refine ⟨h.get?_happen e, ?_⟩
  cases e with
  | put g =>
    have hput : (s.happen (.put g)).ids =
        if g.id ∈ s.ids then s.ids else s.ids ++ [g.id] := map_id_putGroup g s.groups
    by_cases hmem : g.id ∈ s.ids
    · rw [if_pos hmem] at hput
      exact h.order_of_sublist (hput ▸ List.Sublist.refl _)
    · -- A new identifier is added at this event, and all others were added before.
      rw [if_neg hmem] at hput
      have hthere : ∀ id ∈ s.ids ++ [g.id], (mapAfter (events ++ [.put g]) id).isSome := by
        intro id hid
        rwa [← h.get?_happen, ← mem_ids_iff, hput]
      have hnew : mapAfter events g.id = none := by
        rw [mem_ids_iff, h.get] at hmem
        simpa using hmem
      rw [hput, List.pairwise_append]
      refine ⟨?_, List.pairwise_singleton _ _, ?_⟩
      · apply h.order.imp_of_mem
        intro id other hid hother hbefore
        exact hbefore.concat _ (hthere id (by simp [hid])) (hthere other (by simp [hother]))
      · intro id hid other hother
        rw [List.mem_singleton] at hother
        rw [hother]
        rw [mem_ids_iff, h.get] at hid
        obtain ⟨n, hn, -⟩ := existsUnique_addedAt hid
        refine ⟨n, events.length, hn.concat _ (hthere id ?_),
          addedAt_length hnew _ (hthere g.id (by simp)), hn.1⟩
        simp [mem_ids_iff, h.get, hid]
  | dropEmpty => exact h.order_of_sublist (List.filter_sublist.map _)
  | clear => exact List.Pairwise.nil

end Records

/-- The set after a history records it. -/
theorem records_after (events : List Event) : Records (after events) events := by
  induction events using List.reverseRecOn with
  | nil => exact ⟨fun _ => rfl, List.Pairwise.nil⟩
  | append_singleton events e ih =>
    have hafter : after (events ++ [e]) = (after events).happen e := by simp [after]
    rw [hafter]
    exact ih.happen e

/-! ## Whatever is done to a set -/

/-- What can be done to a set. -/
inductive Operation where
  /-- Puts a group. -/
  | insert (group : Group)
  /-- Puts the groups of another set. -/
  | merge (other : GroupSet)
  /-- Starts anew with a list of groups. -/
  | collect (groups : List Group)
  /-- Drops the groups without patterns. -/
  | dropEmpty
  /-- Takes out all groups. -/
  | drain

/-- A set after an operation. -/
def perform (s : GroupSet) : Operation → GroupSet
  | .insert g => s.insert g
  | .merge other => s.merge other
  | .collect groups => ofList groups
  | .dropEmpty => s.dropEmpty
  | .drain => ∅

/-- The set that operations make of the empty set. -/
def run (operations : List Operation) : GroupSet :=
  operations.foldl perform ∅

/-- The events that an operation comes down to. -/
def Operation.events : Operation → List Event
  | insert g => [.put g]
  | merge other => other.groups.map .put
  | collect groups => .clear :: groups.map .put
  | dropEmpty => [.dropEmpty]
  | drain => [.clear]

/-- The history of operations. -/
def history (operations : List Operation) : List Event :=
  operations.flatMap Operation.events

/-- An operation is what its events come to. -/
theorem foldl_happen_events (s : GroupSet) (operation : Operation) :
    operation.events.foldl happen s = s.perform operation := by
  have hputs : ∀ (t : GroupSet) (groups : List Group),
      (groups.map Event.put).foldl happen t = t.insertAll groups := by
    intro t groups
    rw [List.foldl_map]
    rfl
  cases operation with
  | insert g => rfl
  | merge other => exact hputs s other.groups
  | collect groups => exact hputs ∅ groups
  | dropEmpty => rfl
  | drain => rfl

/-- The set that operations make is the one after their history. -/
theorem run_eq_after (operations : List Operation) : run operations = after (history operations) := by
  induction operations using List.reverseRecOn with
  | nil => rfl
  | append_singleton operations operation ih =>
    rw [run, after] at ih
    simp only [run, after, history, List.foldl_append, List.flatMap_append, List.flatMap_singleton,
      List.foldl_cons, List.foldl_nil] at ih ⊢
    rw [foldl_happen_events, ih]

/-- In every set that operations make of the empty set, identifiers are distinct.  An identifier
stands for the group that the history of the set says: the last one put, as long as the identifier is
there.  The identifiers come in the order of the events at which they were added after they had last
been absent.  A group whose identifier is there takes the place of the one that has it, and no other
place changes; a group whose identifier is not there comes last.  Exactly the groups without patterns
are dropped, and the others stay in order, so a group that is dropped and put again comes last. -/
theorem run_refines_ordered_map (operations : List Operation) :
    (run operations).ids.Nodup ∧
      (∀ id, (run operations).get? id = mapAfter (history operations) id ∧
        (run operations).get? id =
          if id ∈ (run operations).ids then lastNamed (groupsPut (history operations)) id
          else none) ∧
      ((∀ id ∈ (run operations).ids, ∃! n, AddedAt (history operations) id n) ∧
        (run operations).ids.Pairwise (AddedBefore (history operations))) ∧
      (∀ g : Group, g.id ∈ (run operations).ids → ∃ front old rest,
        (run operations).groups = front ++ old :: rest ∧ old.id = g.id ∧
          ((run operations).insert g).groups = front ++ g :: rest) ∧
      (∀ g : Group, g.id ∉ (run operations).ids →
        ((run operations).insert g).groups = (run operations).groups ++ [g]) ∧
      (run operations).dropEmpty.groups =
        (run operations).groups.filter (fun g => g.patterns ≠ []) ∧
      ∀ g old : Group, (run operations).get? g.id = some old → old.patterns = [] →
        ((run operations).dropEmpty.insert g).groups = (run operations).dropEmpty.groups ++ [g] := by
  have hrecords := records_after (history operations)
  rw [← run_eq_after] at hrecords
  refine ⟨(run operations).distinct, ?_, ⟨?_, hrecords.order⟩, ?_, ?_, ?_, ?_⟩
  · intro id
    refine ⟨hrecords.get id, ?_⟩
    cases hget : (run operations).get? id with
    | none => simp [mem_ids_iff, hget]
    | some g =>
      have hlast := lastNamed_of_mapAfter ((hrecords.get id).symm.trans hget)
      simp [mem_ids_iff, hget, hlast]
  · intro id hid
    rw [mem_ids_iff, hrecords.get] at hid
    exact existsUnique_addedAt hid
  · intro g hg
    exact exists_putGroup_of_mem hg
  · intro g hg
    exact putGroup_of_notMem hg
  · apply List.filter_congr
    intro g _
    cases hpatterns : g.patterns <;> simp [Group.isEmpty, hpatterns]
  · intro g old hget hold
    have hgone : g.id ∉ (run operations).dropEmpty.ids := by
      simp [mem_ids_iff, get?_dropEmpty, hget, Group.isEmpty, hold]
    exact putGroup_of_notMem hgone

/-- A group with an identifier and patterns. -/
def sample (id : String) (patterns : List String) : Group :=
  .ofTexts id .error "%s" patterns [] none

/-- Three groups, the second of which has no patterns. -/
def threeGroups : List Operation :=
  [.collect [sample "a" ["x"], sample "b" []], .merge (ofList [sample "c" ["y"]])]

/-- The first of the three groups is replaced in its place, a fourth one comes last, and so does the
second one when it is dropped and put again. -/
theorem run_refines_ordered_map_three :
    ((sample "a" ["z"]).id ∈ (run threeGroups).ids ∧
        ∃ front old rest, (run threeGroups).groups = front ++ old :: rest ∧ old.id = "a" ∧
          ((run threeGroups).insert (sample "a" ["z"])).groups =
            front ++ sample "a" ["z"] :: rest) ∧
      ((sample "d" []).id ∉ (run threeGroups).ids ∧
        ((run threeGroups).insert (sample "d" [])).groups =
          (run threeGroups).groups ++ [sample "d" []]) ∧
      (run threeGroups).get? "b" = some (sample "b" []) ∧ (sample "b" []).patterns = [] ∧
      ((run threeGroups).dropEmpty.insert (sample "b" ["z"])).groups =
        [sample "a" ["x"], sample "c" ["y"], sample "b" ["z"]] := by
  obtain ⟨-, -, -, hreplace, hadd, -, hagain⟩ := run_refines_ordered_map threeGroups
  have hold : (run threeGroups).get? "b" = some (sample "b" []) := by decide +kernel
  have hmem : (sample "a" ["z"]).id ∈ (run threeGroups).ids := by decide +kernel
  have hnew : (sample "d" []).id ∉ (run threeGroups).ids := by decide +kernel
  refine ⟨⟨hmem, hreplace _ hmem⟩, ⟨hnew, hadd _ hnew⟩, hold, rfl, ?_⟩
  rw [hagain (sample "b" ["z"]) (sample "b" []) hold rfl]
  decide +kernel

end GroupSet

end CallGuard
