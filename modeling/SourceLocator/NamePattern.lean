import SourceLocator.NamePattern.Draft.Reading
import SourceLocator.NamePattern.Match
import SourceLocator.Path

/-!
# Name patterns

A `NamePattern` is a pattern for whole file names, kept as it was written together with the
expression it was read into.  `escape` writes a literal as a pattern: a backslash goes before every
character that could mean anything else, and before the spaces.  `NamePattern.resource` is the
pattern of resource-mapping files: `R.java`, or `R$` with a category of small letters, in any case
outside the category.  `matchesName` tests the last component of a path, and nothing else of it.
-/

namespace SourceLocator

open NamePattern

/-- A pattern for file names, with what it was read into. -/
structure NamePattern where
  written : String
  mode : Mode
  expr : Expr

namespace NamePattern

/-- Reads a pattern. -/
def ofString (written : String) : Except Rejection NamePattern :=
  (parse written.toList).map fun (mode, expr) => ⟨written, mode, expr⟩

/-- The characters that get a backslash. -/
def specialChars : List Char :=
  ['(', ')', '[', ']', '\x7b', '\x7d', '?', '*', '+', '-', '|', '^', '$', '\\', '.', '&', '~',
   '#', ' ', '\t', '\n', '\r', '\x0b', '\x0c']

/-- A character as it is written to stand for itself. -/
def escapeChar (c : Char) : List Char :=
  if c ∈ specialChars then ['\\', c] else [c]

/-- A literal as it is written to stand for itself. -/
def escape (literal : List Char) : List Char :=
  literal.flatMap escapeChar

/-- The pattern of resource-mapping files. -/
def resource : NamePattern where
  written := "R(?:\\$(?-i:[a-z]+))?\\.java"
  mode := ⟨true, false, false⟩
  expr := .ofSequence
    ([.point 'R'.toNat,
      .iterate 0 (some 1) .greedy
        (.scoped [] [] (.seq (.point '$'.toNat)
          (.scoped [] [.ignoreCase]
            (.iterate 1 none .greedy (.oneOf false [.range 'a'.toNat 'z'.toNat])))))]
      ++ ".java".toList.map fun c => .point c.toNat)

/-- The pattern of resource-mapping files is what its written form is read into. -/
theorem ofString_resource :
  ofString resource.written = .ok resource
  := rfl

/-- Whether a whole name fits the pattern. -/
def accepts (p : NamePattern) (name : String) : Bool :=
  p.expr.matchesAll p.mode name.toList

/-- Whether the name of a path fits the pattern. -/
def matchesName (p : NamePattern) (path : Path) : Bool :=
  p.accepts path.name

end NamePattern

end SourceLocator
