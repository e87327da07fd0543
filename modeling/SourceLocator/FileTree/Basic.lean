import SourceLocator.FileTree.Cause

/-!
# File trees

A `FileTree` gives an `Entry` to each of finitely many places: a directory, a file with its
bytes, a symbolic link with the text of its target, or a fifo.  A place is a `Location`, the
names that lead to it from the root with the innermost first, so that the directory around a
place is its tail.  `entry?` looks a place up, and `names` lists a directory in the order in
which its entries were made.
-/

namespace SourceLocator

/-- The greatest number of bytes in a name. -/
def longestName : Nat := 255

/-- Whether a text can be the name of an entry. -/
def isName (s : String) : Bool :=
  s != "" && s != "." && s != ".." && s.toList.all (fun c => c != '/' && c != '\x00') &&
    s.utf8ByteSize ≤ longestName

/-- The name of an entry of a directory. -/
abbrev Name := { s : String // isName s }

/-- A text as a name, if it can be one. -/
def Name.ofString? (s : String) : Option Name :=
  if h : isName s then some ⟨s, h⟩ else none

/-- A place in a file tree: the names that lead to it, innermost first. -/
abbrev Location := List Name

/-- What stands at a place. -/
inductive Entry where
  | directory
  | file (bytes : List UInt8)
  | link (target : String)
  | fifo
deriving DecidableEq

/-- A file tree: its entries apart from the root directory, and the working directory. -/
structure FileTree where
  entries : List (Location × Entry)
  here : Location

namespace FileTree

/-- What stands at a place; the root is a directory. -/
def entry? (t : FileTree) (place : Location) : Option Entry :=
  if place = [] then some .directory else t.entries.lookup place

/-- Whether a directory stands at a place. -/
def isDirectoryAt (t : FileTree) (place : Location) : Bool :=
  t.entry? place == some .directory

/-- The places that are directories, the root among them. -/
def directories (t : FileTree) : List Location :=
  [] :: (t.entries.map (·.1)).filter t.isDirectoryAt

/-- The names of the entries of a directory. -/
def names (t : FileTree) (place : Location) : List Name :=
  t.entries.filterMap fun (at', _) =>
    match at' with
    | [] => none
    | name :: around => if around = place then some name else none

/-- A directory lists exactly the names under which an entry stands. -/
theorem mem_names {t : FileTree} {place : Location} {name : Name} :
  name ∈ t.names place ↔ (t.entry? (name :: place)).isSome
  := by
  simp only [names, entry?, List.mem_filterMap, reduceCtorEq, if_false, List.lookup_isSome_iff]
  constructor
  · rintro ⟨⟨at', e⟩, he, h⟩
    refine ⟨(at', e), he, ?_⟩
    cases at' with
    | nil => simp at h
    | cons other around =>
      simp only [Option.ite_none_right_eq_some, Option.some.injEq] at h
      simp [h.1, h.2]
  · rintro ⟨⟨at', e⟩, he, h⟩
    refine ⟨(at', e), he, ?_⟩
    obtain rfl : name :: place = at' := by simpa using h
    simp

/-- Every directory is among the places that are directories. -/
theorem mem_directories {t : FileTree} {place : Location} (h : t.isDirectoryAt place) :
  place ∈ t.directories
  := by
  by_cases hp : place = []
  · simp [directories, hp]
  · have hl : (t.entries.lookup place).isSome := by
      simp only [isDirectoryAt, entry?, if_neg hp, beq_iff_eq] at h
      simp [h]
    obtain ⟨⟨at', e⟩, he, h'⟩ := List.lookup_isSome_iff.1 hl
    obtain rfl : place = at' := by simpa using h'
    simp only [directories, List.mem_cons, List.mem_filter, List.mem_map]
    exact .inr ⟨⟨_, he, rfl⟩, h⟩

end FileTree

end SourceLocator
