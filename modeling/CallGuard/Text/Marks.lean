/-!
# Marks at the positions of a list

A list with {lit}`n` items has {lit}`n + 1` positions, from the one before its first item to the
one behind its last.  A list of marks says for each position whether the end of the list that starts
there is accepted.  A matcher that goes through its pattern from the back to the front turns the
marks for the rest of the pattern into the marks for the whole, with one pass over the list for
each item of the pattern.

Main definitions:

- {lit}`ends`: the ends of a list, one for each position.
- {lit}`markEnd`: only the position behind the last item.
- {lit}`markBefore`: the positions one item in front of a marked one.
- {lit}`markThrough`: the positions some items of a kind in front of a marked one.
- {lit}`markAhead`: the positions in front of a marked one that follows an item of a kind.

Main results:

- Theorems {lit}`markEnd_eq`, {lit}`markBefore_ends`, {lit}`markThrough_ends` and
  {lit}`markAhead_ends`: which ends the marks accept.
-/

namespace CallGuard.Text

/-- The ends of a list, the list itself first. -/
def ends {α : Type} : List α → List (List α)
  | [] => [[]]
  | c :: rest => (c :: rest) :: ends rest

/-- The ends of a list behind the items that satisfy a condition. -/
def endsBehind {α : Type} (p : α → Bool) : List α → List (List α)
  | [] => []
  | c :: rest => if p c then rest :: endsBehind p rest else endsBehind p rest

/-- The first of the ends of a list is the list. -/
theorem headD_map_ends {α : Type} (f : List α → Bool) (text : List α) :
    ((ends text).map f).headD false = f text := by
  cases text <;> rfl

/-! ## Marks -/

/-- The mark of the position behind the last item. -/
def markEnd {α : Type} : List α → List Bool
  | [] => [true]
  | _ :: rest => false :: markEnd rest

/-- No mark at all. -/
def markNone {α : Type} (text : List α) : List Bool :=
  List.replicate (text.length + 1) false

/-- The marks of two lists. -/
def markEither (marks others : List Bool) : List Bool :=
  List.zipWith (· || ·) marks others

/-- The positions in front of an item that satisfies a condition and is followed by a marked
position. -/
def markBefore {α : Type} (p : α → Bool) : List α → List Bool → List Bool
  | c :: rest, _ :: marks => (p c && marks.headD false) :: markBefore p rest marks
  | _, _ => [false]

/-- The marked positions, and those in front of them with only items in between that satisfy a
condition. -/
def markThrough {α : Type} (p : α → Bool) : List α → List Bool → List Bool
  | c :: rest, mark :: marks =>
    let more := markThrough p rest marks
    (mark || (p c && more.headD false)) :: more
  | _, marks => [marks.headD false]

/-- The positions in front of some marked position that follows an item that satisfies a
condition. -/
def markAhead {α : Type} (p : α → Bool) : List α → List Bool → List Bool
  | c :: rest, _ :: marks =>
    let more := markAhead p rest marks
    ((p c && marks.headD false) || more.headD false) :: more
  | _, _ => [false]

/-! ## What the marks accept -/

/-- The position behind the last item is where the empty end starts. -/
theorem markEnd_eq {α : Type} (text : List α) : markEnd text = (ends text).map List.isEmpty := by
  induction text with
  | nil => rfl
  | cons c rest ih => simp [markEnd, ends, ih]

/-- An end is accepted one item in front if that item satisfies the condition and the rest was
accepted. -/
theorem markBefore_ends {α : Type} (p : α → Bool) (f : List α → Bool) (text : List α) :
    markBefore p text ((ends text).map f) =
      (ends text).map fun
        | [] => false
        | c :: rest => p c && f rest := by
  induction text with
  | nil => rfl
  | cons c rest ih => simp only [ends, List.map_cons, markBefore, headD_map_ends, ih]

/-- Through any items, an end is accepted if one of its own ends was. -/
theorem markThrough_ends {α : Type} (f : List α → Bool) (text : List α) :
    markThrough (fun _ => true) text ((ends text).map f) =
      (ends text).map fun t => (ends t).any f := by
  induction text with
  | nil => simp [markThrough, ends]
  | cons c rest ih =>
    simp only [ends, List.map_cons, markThrough, ih, headD_map_ends, Bool.true_and, List.any_cons]

/-- An end is accepted ahead if one of its own ends behind an item of the kind was. -/
theorem markAhead_ends {α : Type} (p : α → Bool) (f : List α → Bool) (text : List α) :
    markAhead p text ((ends text).map f) = (ends text).map fun t => (endsBehind p t).any f := by
  induction text with
  | nil => rfl
  | cons c rest ih =>
    simp only [ends, List.map_cons, markAhead, ih, headD_map_ends, endsBehind]
    by_cases h : p c <;> simp [h]

/-- The marks of two conditions are the marks of either. -/
theorem markEither_map {α : Type} (f g : List α → Bool) (parts : List (List α)) :
    markEither (parts.map f) (parts.map g) = parts.map fun t => f t || g t := by
  simp [markEither, List.zipWith_map]

end CallGuard.Text
