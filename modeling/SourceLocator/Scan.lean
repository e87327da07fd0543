import SourceLocator.FileSet
import SourceLocator.FileTree.Resolve
import SourceLocator.Log
import SourceLocator.Membership
import SourceLocator.Text.Lowercase

/-!
# Scanning a tree

A scan walks the directories below a root and collects the files whose lowered name ends
with a lowered extension.  Links to files count as files; links to directories are entered
only when asked for.  `walk` goes down one chain of directories, whose places are its
`lineage`: a directory that comes again in its own chain ends the whole scan as a loop, and
so every walk ends, because each chain can only hold the directories there are.  Without
links no directory comes again, since each one lies below the one before.

`Walk.below` hands down to each directory the places on the way to it.  A walk can instead note
the lineage of every directory under its spelling, and look that of the next one up under the
spelling of the directory it lies in; `Walk.tabled` does so, with a bound on how deep it goes.
-/

namespace SourceLocator

open Text

/-- The path of something below a directory. -/
def Path.descend (p : Path) (names : List Name) : Path :=
  { p with parts := p.parts ++ names.map (·.val) }

/-- The spelling of a path with a name put behind it. -/
def joinSpelling (path name : String) : String :=
  if path.toList.getLast? = some '/' then path ++ name else path ++ "/" ++ name

/-- The spelling of the directory in which something lies, given its own. -/
def parentSpelling (spelling : String) : String :=
  let front := (spelling.toList.reverse.dropWhile (· != '/')).reverse
  String.ofList
    (if front.all (· == '/') then front else (front.reverse.dropWhile (· == '/')).reverse)

/-- How a walk spells the directory that it reaches from a root by some names. -/
def walkSpelling (root : Path) (names : List Name) : String :=
  names.foldl (fun path name => joinSpelling path name.val) root.render

/-- The results of an operation for all members of a list, or its first failure. -/
def gather {α β ε : Type} (f : α → Except ε (List β)) : List α → Except ε (List β)
  | [] => .ok []
  | a :: as =>
    match f a with
    | .error e => .error e
    | .ok found =>
      match gather f as with
      | .error e => .error e
      | .ok more => .ok (found ++ more)

namespace FileTree

/-- The place of the directory that a path leads to. -/
def enter (t : FileTree) (p : Path) : Except Cause Location :=
  match t.resolve p with
  | .error c => .error c
  | .ok place =>
    match t.entry? place with
    | some .directory => .ok place
    | some _ => .error .notDirectory
    | none => .error .notFound

theorem isDirectoryAt_of_enter {t : FileTree} {p : Path} {place : Location}
    (h : t.enter p = .ok place) :
  t.isDirectoryAt place
  := by
  unfold enter at h
  split at h
  · cases h
  · split at h
    · obtain rfl := Except.ok.inj h
      simpa [isDirectoryAt]
    · cases h
    · cases h

/-- The directories that are not in a chain. -/
def unvisited (t : FileTree) (lineage : List Location) : List Location :=
  t.directories.filter (· ∉ lineage)

/-- A chain that goes on to a new directory leaves fewer of them. -/
theorem length_unvisited_lt {t : FileTree} {place : Location} {lineage : List Location}
    (hd : t.isDirectoryAt place) (hl : place ∉ lineage) :
  (t.unvisited (place :: lineage)).length < (t.unvisited lineage).length
  := by
  have e : t.unvisited (place :: lineage) = (t.unvisited lineage).filter (· ≠ place) := by
    simp [unvisited, List.filter_filter, not_or]
  rw [e, List.length_filter_lt_length_iff_exists]
  refine ⟨place, ?_, by simp⟩
  simp [unvisited, mem_directories hd, hl]

end FileTree

/-- What a walk looks for: files below a root whose lowered names end with a suffix, inside
linked directories or only beside them. -/
structure Walk where
  root : Path
  suffix : List Char
  followLinks : Bool

namespace Walk

/-- Whether the lowered name of an entry ends with the suffix. -/
def wants (w : Walk) (name : Name) : Bool :=
  w.suffix.isSuffixOf (lowercase name.val.toList)

/-- The file that an entry of a directory is, if it is one that is looked for. -/
def fileAt (w : Walk) (t : FileTree) (names : List Name) (name : Name) :
    Except FileError (List Path) :=
  let path := w.root.descend (names ++ [name])
  if w.wants name && !t.isDirectory path then
    match t.isFile path with
    | .error c => .error { cause := c, path := path.render }
    | .ok true => .ok [path]
    | .ok false => .ok []
  else .ok []

/-- Whether an entry of a directory is a directory that the walk enters. -/
def descends (w : Walk) (t : FileTree) (place : Location) (names : List Name)
    (name : Name) : Bool :=
  t.isDirectory (w.root.descend (names ++ [name])) &&
    (w.followLinks || t.isDirectoryAt (name :: place))

/-- The files below the directory that some names lead to from the root, `lineage` being the
places of the directories on the way. -/
def below (w : Walk) (t : FileTree) (names : List Name) (lineage : List Location) :
    Except FileError (List Path) :=
  match _h : t.enter (w.root.descend names) with
  | .error c => .error { cause := c, path := walkSpelling w.root names }
  | .ok place =>
    if _hl : place ∈ lineage then
      .error { cause := .tooManyLinks, path := walkSpelling w.root names }
    else
      match gather (w.fileAt t names) (t.names place) with
      | .error e => .error e
      | .ok files =>
        match gather (fun name => w.below t (names ++ [name]) (place :: lineage))
            ((t.names place).filter (w.descends t place names)) with
        | .error e => .error e
        | .ok more => .ok (files ++ more)
termination_by (t.unvisited lineage).length
decreasing_by exact FileTree.length_unvisited_lt (FileTree.isDirectoryAt_of_enter _h) _hl

/-- The lineages of the directories a walk has been in, under their spellings. -/
abbrev Lineages := List (String × List Location)

/-- The lineage that is noted for what a spelled directory lies in; none is noted above the
root. -/
def Lineages.above (table : Lineages) (spelling : String) : List Location :=
  (table.lookup (parentSpelling spelling)).getD []

/-- What a walk with a table comes to: nothing if it is too deep, or a failure, or what it
has found and the table it leaves. -/
abbrev Outcome := Option (Except FileError (List Path × Lineages))

/-- The outcomes for all members of a list, each with the table that those before it leave. -/
def gatherTabled {α : Type} (f : α → Lineages → Outcome) : List α → Lineages → Outcome
  | [], table => some (.ok ([], table))
  | a :: as, table =>
    match f a table with
    | none => none
    | some (.error e) => some (.error e)
    | some (.ok (found, table)) =>
      match gatherTabled f as table with
      | none => none
      | some (.error e) => some (.error e)
      | some (.ok (more, table)) => some (.ok (found ++ more, table))

/-- The files below the directory that some names lead to from the root, no deeper than so
many directories below it. -/
def tabled (w : Walk) (t : FileTree) : Nat → List Name → Lineages → Outcome
  | 0, _, _ => none
  | depth + 1, names, table =>
    match t.enter (w.root.descend names) with
    | .error c => some (.error { cause := c, path := walkSpelling w.root names })
    | .ok place =>
      let lineage := table.above (walkSpelling w.root names)
      if lineage.contains place then
        some (.error { cause := .tooManyLinks, path := walkSpelling w.root names })
      else
        match gather (w.fileAt t names) (t.names place) with
        | .error e => some (.error e)
        | .ok files =>
          match gatherTabled (fun name => w.tabled t depth (names ++ [name]))
              ((t.names place).filter (w.descends t place names))
              ((walkSpelling w.root names, place :: lineage) :: table) with
          | none => none
          | some (.error e) => some (.error e)
          | some (.ok (more, table)) => some (.ok (files ++ more, table))

end Walk

/-- The outcome of a scan: the files found, or none and the reason for which it failed. -/
structure ScanResult where
  root : Path
  files : FileSet
  error : Option FileError

namespace ScanResult

/-- Whether the scan did not fail. -/
def isOk (r : ScanResult) : Bool := r.error.isNone

/-- The record about a scan. -/
def record (r : ScanResult) (extension : String) : Record :=
  match r.error with
  | none => .found r.files.size extension r.root
  | some e => .cannotTraverse r.root e

end ScanResult

/-- Scans a tree, for a root that can be used. -/
def FileTree.scanFrom (t : FileTree) (root : Path) (extension : String) (followLinks : Bool) :
    ScanResult :=
  match Walk.below ⟨root, lowercase extension.toList, followLinks⟩ t [] [] with
  | .ok paths => ⟨root, .ofList paths, none⟩
  | .error e => ⟨root, .empty, some e⟩

/-- Scans a tree below a root for the files with an extension. -/
def FileTree.scan (t : FileTree) (root : Path) (extension : String) (followLinks : Bool) :
    Except NulInPath ScanResult :=
  if root.hasNul then .error .nulInPath else .ok (t.scanFrom root extension followLinks)

/-- A scan that follows links and keeps lineages in a table, no deeper below its root than so
many directories. -/
def FileTree.scanTabled (t : FileTree) (depth : Nat) (root : Path) (extension : String) :
    Option ScanResult :=
  match Walk.tabled ⟨root, lowercase extension.toList, true⟩ t depth [] [] with
  | none => none
  | some (.error e) => some ⟨root, .empty, some e⟩
  | some (.ok (paths, _)) => some ⟨root, .ofList paths, none⟩

end SourceLocator
