import CallGuard.Text.Basic

/-!
# Paths

A path is a text whose parts are separated by slashes.  Empty parts do not count, and neither do
single dots, except one that starts a relative path.  What counts are the components of the path:
paths are compared by them, and a path below another one starts with the components of that one.

Main definitions:

- {lit}`Path.Component`: the components.
- {lit}`Path.components`: the components of a path.
- {lit}`Path.relativeTo`: the rest of a path behind some components.
- {lit}`Path.join`: a path below another one.
- {lit}`Path.parent`: the path of the folder of a file.
- {lit}`Path.extension`: the extension of a file name, with its dot.
- {lit}`Path.key`: the key by which paths are ordered.
-/

namespace CallGuard.Path

/-! ## Components -/

/-- A component of a path. -/
inductive Component where
  /-- The slash that starts an absolute path. -/
  | root
  /-- The dot that starts a relative path. -/
  | here
  /-- Two dots. -/
  | up
  /-- A name. -/
  | name (text : String)
deriving Repr, DecidableEq

/-- A part of a path between two slashes, with the component that it is, if it counts. -/
structure Part where
  component : Option Component
  text : List Char
deriving Repr, DecidableEq

/-- A part behind the first one. -/
def laterPart (text : List Char) : Part :=
  if text = [] ∨ text = ['.'] then ⟨none, text⟩
  else if text = ['.', '.'] then ⟨some .up, text⟩
  else ⟨some (.name (String.ofList text)), text⟩

/-- The first part of a path, where {lit}`more` tells whether a slash follows. -/
def firstPart (text : List Char) (more : Bool) : Part :=
  if text = [] then ⟨if more then some .root else none, text⟩
  else if text = ['.'] then ⟨some .here, text⟩
  else laterPart text

/-- The parts of a path. -/
def parts (path : String) : List Part :=
  match Text.cut '/' path.toList with
  | [] => []
  | first :: rest => firstPart first (!rest.isEmpty) :: rest.map laterPart

/-- The components of a path. -/
def components (path : String) : List Component :=
  (parts path).filterMap (·.component)

/-- Whether a path is absolute. -/
def isAbsolute (path : String) : Bool :=
  path.toList.head? = some '/'

/-! ## Relative paths -/

/-- The parts behind those that make up some components. -/
def dropComponents : List Part → List Component → Option (List Part)
  | parts, [] => some parts
  | [], _ :: _ => none
  | part :: parts, c :: cs =>
    match part.component with
    | none => dropComponents parts (c :: cs)
    | some d => if c = d then dropComponents parts cs else none

/-- The text of parts, without those that do not count at the two ends. -/
def render (parts : List Part) : String :=
  let front := parts.dropWhile (·.component.isNone)
  let trimmed := (front.reverse.dropWhile (·.component.isNone)).reverse
  match trimmed with
  | [⟨some .root, _⟩] => "/"
  | trimmed => String.ofList (List.intercalate ['/'] (trimmed.map (·.text)))

/-- The rest of a path behind some components; a path that does not start with them is kept. -/
def relativeTo (base : List Component) (path : String) : String :=
  match dropComponents (parts path) base with
  | some rest => render rest
  | none => path

/-- A path below another one; an absolute path stays as it is. -/
def join (base path : String) : String :=
  if isAbsolute path then path
  else if base = "" then path
  else if base.toList.getLast? = some '/' then base ++ path
  else base ++ "/" ++ path

/-- The parts of a path without the last one that counts and what follows it. -/
def dropLastComponent (parts : List Part) : List Part :=
  (parts.reverse.dropWhile (·.component.isNone)).tail.reverse

/-- The path of the folder that a file lies in. -/
def parent (path : String) : String :=
  render (dropLastComponent (parts path))

/-! ## File names -/

/-- The extension of a file name, with its dot: what follows the last dot, unless that is the first
character. -/
def extension (name : String) : String :=
  let backwards := name.toList.reverse
  let behind := backwards.takeWhile (· != '.')
  let before := (backwards.dropWhile (· != '.')).tail
  if before.isEmpty then "" else String.ofList ('.' :: behind.reverse)

/-- The extension of the last name of a path. -/
def extensionOf (path : String) : String :=
  match (components path).getLast? with
  | some (.name text) => extension text
  | _ => ""

/-! ## Order -/

/-- The key of a component: the root comes first, then dots, then names in the order of their
characters. -/
def Component.key : Component → String
  | root => "0"
  | here => "1"
  | up => "2"
  | name text => "3" ++ text

/-- The key of a path.  Keys are compared component by component. -/
def key (path : String) : List String :=
  (components path).map Component.key

end CallGuard.Path
