/-!
# Paths

A `Path` is a path in normal form: where it starts, and its components.  `Path.ofString`
drops empty components and those that are a single dot, and keeps `..` as it is, since a
link may stand before it; exactly two leading slashes are kept apart from one.  `render`
spells a path, `name` is its last component, `child` appends one, and `relativeTo?` takes a
path off the front of another.
-/

namespace SourceLocator

/-- Where a path starts: at the working directory, at the root, or at the root written with
two slashes. -/
inductive Origin where
  | here
  | root
  | doubleRoot
deriving DecidableEq

/-- How an origin is written. -/
def Origin.render : Origin → String
  | .here => ""
  | .root => "/"
  | .doubleRoot => "//"

/-- A path in normal form. -/
structure Path where
  origin : Origin
  parts : List String
deriving DecidableEq

namespace Path

/-- Whether a piece between slashes is a component. -/
def isComponent (piece : List Char) : Bool :=
  piece != [] && piece != ['.']

/-- The origin that the leading slashes of a text stand for. -/
def originOf : List Char → Origin
  | '/' :: '/' :: '/' :: _ => .root
  | '/' :: '/' :: _ => .doubleRoot
  | '/' :: _ => .root
  | _ => .here

/-- The path that a text spells. -/
def ofString (s : String) : Path where
  origin := originOf s.toList
  parts := ((s.toList.splitOn '/').filter isComponent).map String.ofList

/-- The spelling of a path. -/
def render (p : Path) : String :=
  match p.origin, p.parts with
  | .here, [] => "."
  | a, parts => a.render ++ String.intercalate "/" parts

/-- The last component of a path; empty when it has none. -/
def name (p : Path) : String :=
  p.parts.getLastD ""

/-- The path of something inside a directory. -/
def child (p : Path) (name : String) : Path :=
  { p with parts := p.parts ++ [name] }

/-- The path without its last component. -/
def parent (p : Path) : Path :=
  { p with parts := p.parts.dropLast }

/-- What follows `root` in a path that begins with it. -/
def relativeTo? (p root : Path) : Option Path :=
  if p.origin = root.origin ∧ root.parts <+: p.parts then
    some ⟨.here, p.parts.drop root.parts.length⟩
  else none

/-- Whether a spelling holds the character that no path may hold. -/
def hasNul (p : Path) : Bool :=
  p.parts.any fun part => part.toList.any (· == '\x00')

@[simp]
theorem parts_child (p : Path) (name : String) :
  (p.child name).parts = p.parts ++ [name]
  := rfl

@[simp]
theorem name_child (p : Path) (name : String) :
  (p.child name).name = name
  := by
  simp [Path.name]

end Path

end SourceLocator
