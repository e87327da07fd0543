import SourceLocator.FileTree.Basic
import SourceLocator.Path

/-!
# Resolving paths

A path is resolved one `Step` at a time, from the working directory or from the root.  Every
step needs a directory to stand in; a step into a link continues with the steps of its
target, and at most `linkLimit` links are followed in one resolution.  `follow` does this
for any steps from any place and says how many links may still be followed, so that steps
can be taken in two goes; `resolve` does it for a path.
-/

namespace SourceLocator

/-- The greatest number of links that are followed in one resolution. -/
def linkLimit : Nat := 40

/-- A step of a path: to the directory around, to the directory itself, or to an entry. -/
inductive Step where
  | up
  | stay
  | down (name : String)
deriving DecidableEq

/-- The step that a component of a path stands for. -/
def Step.ofPart (part : String) : Step :=
  if part = ".." then .up else if part = "." ∨ part = "" then .stay else .down part

/-- The steps that the text of a link stands for. -/
def Step.ofTarget (target : String) : List Step :=
  (target.toList.splitOn '/').map fun piece => .ofPart (String.ofList piece)

/-- The steps of a path. -/
def Path.steps (p : Path) : List Step :=
  p.parts.map Step.ofPart

/-- A place that was reached, and the number of links that may still be followed. -/
structure Spot where
  place : Location
  links : Nat

namespace FileTree

/-- The place from which the target of a link in a directory is resolved. -/
def targetStart (around : Location) (target : String) : Location :=
  if target.toList.head? = some '/' then [] else around

/-- The entry of a directory that a component names. -/
def lookup (t : FileTree) (around : Location) (part : String) : Except Cause (Name × Entry) :=
  if longestName < part.utf8ByteSize then .error .nameTooLong
  else
    match Name.ofString? part with
    | none => .error .notFound
    | some name =>
      match t.entry? (name :: around) with
      | none => .error .notFound
      | some e => .ok (name, e)

/-- Takes steps from a place, leaving it to `jump` to go on from a link. -/
def advance (t : FileTree) (links : Nat)
    (jump : Location → List Step → Except Cause Spot) :
    Location → List Step → Except Cause Spot
  | place, [] => .ok ⟨place, links⟩
  | place, step :: rest =>
    match t.entry? place with
    | none => .error .notFound
    | some .directory =>
      match step with
      | .up => t.advance links jump place.tail rest
      | .stay => t.advance links jump place rest
      | .down part =>
        match t.lookup place part with
        | .error c => .error c
        | .ok (_, .link target) =>
          if target = "" then .error .notFound
          else jump (targetStart place target) (Step.ofTarget target ++ rest)
        | .ok (name, _) => t.advance links jump (name :: place) rest
    | some _ => .error .notDirectory

/-- Takes steps from a place, following at most `links` links. -/
def follow (t : FileTree) : Nat → Location → List Step → Except Cause Spot
  | 0 => t.advance 0 fun _ _ => .error .tooManyLinks
  | links + 1 => t.advance (links + 1) (t.follow links)

/-- The place from which a path is resolved. -/
def origin (t : FileTree) (p : Path) : Location :=
  match p.origin with
  | .here => t.here
  | .root | .doubleRoot => []

/-- The place that a path leads to. -/
def resolve (t : FileTree) (p : Path) : Except Cause Location :=
  (t.follow linkLimit (t.origin p) p.steps).map (·.place)

/-- What a path leads to. -/
def stat (t : FileTree) (p : Path) : Except Cause Entry :=
  match t.resolve p with
  | .error c => .error c
  | .ok place =>
    match t.entry? place with
    | none => .error .notFound
    | some e => .ok e

/-- Whether a path leads to a directory. -/
def isDirectory (t : FileTree) (p : Path) : Bool :=
  match t.stat p with
  | .ok .directory => true
  | _ => false

/-- Whether a path leads to a file.  The question is refused when the answer is neither yes
nor that nothing is there. -/
def isFile (t : FileTree) (p : Path) : Except Cause Bool :=
  match t.stat p with
  | .ok (.file _) => .ok true
  | .ok _ => .ok false
  | .error c => if c.meansAbsent then .ok false else .error c

/-- The bytes of the file that a path leads to.  A fifo has none to give. -/
def read (t : FileTree) (p : Path) : Except Cause (List UInt8) :=
  match t.stat p with
  | .ok (.file bytes) => .ok bytes
  | .ok .directory => .error .isDirectory
  | .ok _ => .ok []
  | .error c => .error c

end FileTree

end SourceLocator
