import CallGuard.NamePattern.Basic

/-!
# The grammar of regular expressions

A regular expression is read in two steps.  First the text becomes a list of signs: a backslash and
the character behind it are one sign, so is the opening of a group that captures nothing, and every
other character is a sign of its own.  Then the signs are taken one after the other by a machine
that holds the groups that are still open.

Bracketed classes, counted repetitions, flags, named groups and escapes for classes or code points
are refused.  A text that is read without them is read in the same way by the whole grammar.

Main definitions:

- {lit}`Node`: the parts of a regular expression.
- {lit}`scan`: the signs of a text.
- {lit}`State.step`: what one sign does to the open groups.
- {lit}`parse`: the branches of a regular expression.
-/

namespace CallGuard.Regex

/-! ## Syntax trees -/

/-- How often a repeated part may occur. -/
inductive Count where
  /-- Any number of times. -/
  | any
  /-- At least once. -/
  | atLeastOnce
  /-- At most once. -/
  | atMostOnce
deriving Repr, DecidableEq

/-- A part of a regular expression.  A branch is a list of parts that follow each other, and a group
holds a list of branches. -/
inductive Node where
  /-- A character, up to case. -/
  | literal (c : Char)
  /-- Any character but a line feed. -/
  | dot
  /-- A word boundary. -/
  | boundary
  /-- A place that is no word boundary. -/
  | nonBoundary
  /-- The start of the text. -/
  | textStart
  /-- The end of the text. -/
  | textEnd
  /-- A part that is repeated, as often as possible if it is {lit}`greedy`. -/
  | repeated (count : Count) (greedy : Bool) (node : Node)
  /-- A choice between branches, which may be captured. -/
  | group (capturing : Bool) (branches : List (List Node))

/-! ## Signs -/

/-- A sign of a regular expression. -/
inductive Sign where
  /-- A part without parts of its own. -/
  | leaf (node : Node)
  /-- A repetition of the part before it. -/
  | times (count : Count)
  /-- The opening of a group. -/
  | opening (capturing : Bool)
  /-- The closing of a group. -/
  | closing
  /-- The bar between two branches. -/
  | bar

/-- The sign that a character is on its own. -/
def sign? : Char → Option Sign
  | '.' => some (.leaf .dot)
  | '^' => some (.leaf .textStart)
  | '$' => some (.leaf .textEnd)
  | '*' => some (.times .any)
  | '+' => some (.times .atLeastOnce)
  | '?' => some (.times .atMostOnce)
  | '(' => some (.opening true)
  | ')' => some .closing
  | '|' => some .bar
  | '[' | '{' | '\\' => none
  | c => some (.leaf (.literal c))

/-- The sign that a character is behind a backslash. -/
def escaped? (c : Char) : Option Sign :=
  if c = 'b' then some (.leaf .boundary)
  else if c = 'B' then some (.leaf .nonBoundary)
  else if metaCharacters.contains c then some (.leaf (.literal c))
  else none

/-- The signs of a text. -/
def scan : List Char → Option (List Sign)
  | [] => some []
  | '\\' :: c :: rest => (escaped? c).bind fun sign => (scan rest).map (sign :: ·)
  | '(' :: '?' :: ':' :: rest => (scan rest).map (.opening false :: ·)
  | c :: rest => (sign? c).bind fun sign => (scan rest).map (sign :: ·)

/-! ## The machine -/

/-- Repeats a part.  A question mark behind a repetition makes it reluctant. -/
def Node.times : Count → Node → Node
  | .atMostOnce, .repeated count true node => .repeated count false node
  | count, node => .repeated count true node

/-- Repeats the last part of a branch, if there is one. -/
def repeatLast (count : Count) : List Node → Option (List Node)
  | [] => none
  | [node] => some [node.times count]
  | node :: rest => (repeatLast count rest).map (node :: ·)

/-- What is kept of the surroundings of an open group: whether the group captures, and the complete
branches and the unfinished branch that it stands in. -/
structure Frame where
  capturing : Bool
  branches : List (List Node)
  current : List Node

/-- The open groups, innermost first, and the complete branches and the unfinished branch inside the
innermost one. -/
structure State where
  outer : List Frame
  branches : List (List Node)
  current : List Node

namespace State

/-- The state before the first sign. -/
def initial : State := ⟨[], [], []⟩

/-- All branches inside the innermost group. -/
def allBranches (s : State) : List (List Node) :=
  s.branches ++ [s.current]

/-- Takes one sign. -/
def step (s : State) : Sign → Option State
  | .leaf node => some { s with current := s.current ++ [node] }
  | .times count => (repeatLast count s.current).map fun items => { s with current := items }
  | .opening capturing => some ⟨⟨capturing, s.branches, s.current⟩ :: s.outer, [], []⟩
  | .bar => some { s with branches := s.allBranches, current := [] }
  | .closing =>
    match s.outer with
    | [] => none
    | frame :: outer =>
      some ⟨outer, frame.branches, frame.current ++ [.group frame.capturing s.allBranches]⟩

/-- Takes signs one after the other. -/
def run (s : State) : List Sign → Option State
  | [] => some s
  | sign :: rest => (s.step sign).bind (run · rest)

/-- The branches of a regular expression, unless a group is still open. -/
def finish (s : State) : Option (List (List Node)) :=
  if s.outer.isEmpty then some s.allBranches else none

end State

/-- The branches of a regular expression. -/
def parse (text : String) : Option (List (List Node)) :=
  (scan text.toList).bind fun signs => (State.initial.run signs).bind State.finish

/-! ## Running the machine -/

namespace State

@[simp]
theorem run_nil (s : State) : s.run [] = some s :=
  rfl

@[simp]
theorem run_cons (s : State) (sign : Sign) (rest : List Sign) :
    s.run (sign :: rest) = (s.step sign).bind (run · rest) :=
  rfl

/-- Signs in two parts are taken one part after the other. -/
theorem run_append (s : State) (signs rest : List Sign) :
    s.run (signs ++ rest) = (s.run signs).bind (run · rest) := by
  induction signs generalizing s with
  | nil => rfl
  | cons sign signs ih =>
    rw [List.cons_append, run_cons, run_cons, Option.bind_assoc]
    congr 1
    funext next
    exact ih next

/-- Parts without parts of their own are added to the unfinished branch. -/
theorem run_leaves (s : State) (nodes : List Node) :
    s.run (nodes.map Sign.leaf) = some { s with current := s.current ++ nodes } := by
  induction nodes generalizing s with
  | nil => simp
  | cons node nodes ih =>
    rw [List.map_cons, run_cons, step, Option.bind_some, ih]
    simp

end State

/-- Repeating the last part of a branch leaves the parts before it alone. -/
theorem repeatLast_append (count : Count) (before : List Node) (node : Node) :
    repeatLast count (before ++ [node]) = some (before ++ [node.times count]) := by
  induction before with
  | nil => rfl
  | cons first before ih =>
    cases before with
    | nil => rfl
    | cons second before =>
      rw [List.cons_append, List.cons_append, repeatLast]
      · rw [← List.cons_append, ih]
        rfl
      · simp

end CallGuard.Regex
