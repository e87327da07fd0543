import SourceLocator.FileTree.Resolve

/-!
# Changing a file tree

How entries are made, replaced, moved and removed.  `makeDirectory` makes one directory and
`makeParents` the missing ones around it as well, one component at a time from the outside
in; when a later one cannot be made the earlier ones stay, so that it gives a tree back even
if it fails.
-/

namespace SourceLocator.FileTree

/-- The tree with an entry at a place, where nothing or another entry stood. -/
def insert (t : FileTree) (place : Location) (e : Entry) : FileTree :=
  if (t.entries.lookup place).isSome then
    { t with entries := t.entries.map fun (at', old) => (at', if at' = place then e else old) }
  else { t with entries := t.entries ++ [(place, e)] }

/-- The tree without a place and all that lies below it. -/
def delete (t : FileTree) (place : Location) : FileTree :=
  { t with entries := t.entries.filter fun (at', _) => !place.isSuffixOf at' }

/-- The tree with a place and all that lies below it moved elsewhere. -/
def relocate (t : FileTree) (source target : Location) : FileTree :=
  { t with entries := t.entries.map fun (at', e) =>
      if source.isSuffixOf at' then (at'.take (at'.length - source.length) ++ target, e)
      else (at', e) }

/-- The directory around the entry that a path names, whether there is such an entry or
not. -/
def around (t : FileTree) (p : Path) : Except Cause Location :=
  match t.resolve p.parent with
  | .error c => .error c
  | .ok place => if t.isDirectoryAt place then .ok place else .error .notDirectory

/-- Makes a directory in an existing one. -/
def makeDirectory (t : FileTree) (p : Path) : Except Cause FileTree :=
  if p.parts = [] then .error .exists
  else
    match t.around p with
    | .error c => .error c
    | .ok place =>
      if p.name = ".." then .error .exists
      else
        match t.lookup place p.name with
        | .ok _ => .error .exists
        | .error .notFound =>
          match Name.ofString? p.name with
          | none => .error .notFound
          | some name => .ok (t.insert (name :: place) .directory)
        | .error c => .error c

/-- Makes the directory of the first `depth` components of a path and the missing ones
around it.  An existing directory is taken as made if `existing` says so, as it always is
for the ones around. -/
def makeParents (t : FileTree) (p : Path) (existing : Bool) :
    Nat → Except Cause Unit × FileTree
  | 0 => settle t 0 .exists
  | depth + 1 =>
    match t.makeDirectory (upTo (depth + 1)) with
    | .ok t' => (.ok (), t')
    | .error .notFound =>
      match makeParents t p true depth with
      | (.error c, t') => (.error c, t')
      | (.ok (), t') =>
        match t'.makeDirectory (upTo (depth + 1)) with
        | .ok t'' => (.ok (), t'')
        | .error .notFound => (.error .notFound, t')
        | .error c => settle t' (depth + 1) c
    | .error c => settle t (depth + 1) c
where
  /-- The path of the first components. -/
  upTo (depth : Nat) : Path := { p with parts := p.parts.take depth }
  /-- Takes an existing directory as made, if that is allowed. -/
  settle (t : FileTree) (depth : Nat) (c : Cause) : Except Cause Unit × FileTree :=
    if existing && t.isDirectory (upTo depth) then (.ok (), t) else (.error c, t)

/-- Makes the directory of a path and the missing ones around it. -/
def makeDirectories (t : FileTree) (p : Path) (existing : Bool) :
    Except Cause Unit × FileTree :=
  t.makeParents p existing p.parts.length

/-- The place at which steps from a place find or make a file, with at most `links` links
followed. -/
def filePlace (t : FileTree) : Nat → Location → List Step → Except Cause Location
  | links, start, steps =>
    match t.follow links start steps.dropLast, steps.getLast? with
    | .error c, _ => .error c
    | .ok spot, some (.down part) =>
      if t.isDirectoryAt spot.place then
        match t.lookup spot.place part, Name.ofString? part with
        | .ok (_, .link target), _ =>
          match links with
          | 0 => .error .tooManyLinks
          | links + 1 => t.filePlace links (targetStart spot.place target) (Step.ofTarget target)
        | .ok (_, .directory), _ => .error .isDirectory
        | .ok (name, _), _ | .error .notFound, some name => .ok (name :: spot.place)
        | .error c, _ => .error c
      else .error .notDirectory
    | .ok _, _ => .error .isDirectory

/-- Writes a file, making the directories around it. -/
def writeFile (t : FileTree) (p : Path) (bytes : List UInt8) : Except Cause FileTree :=
  match t.makeDirectories p.parent true with
  | (.error c, _) => .error c
  | (.ok (), t) =>
    (t.filePlace linkLimit (t.origin p) p.steps).map fun place => t.insert place (.file bytes)

/-- Makes a link or a fifo, and the directories around it. -/
def makeEntry (t : FileTree) (p : Path) (e : Entry) : Except Cause FileTree :=
  match t.makeDirectories p.parent true with
  | (.error c, _) => .error c
  | (.ok (), t) =>
    match t.around p, Name.ofString? p.name with
    | .error c, _ => .error c
    | .ok place, some name =>
      if (t.entry? (name :: place)).isSome then .error .exists
      else .ok (t.insert (name :: place) e)
    | .ok _, none => .error .exists

/-- The place of the entry that a path names, a link being an entry of its own. -/
def entryPlace (t : FileTree) (p : Path) : Except Cause (Location × Entry) :=
  if p.parts = [] ∨ p.name = ".." then
    match t.resolve p with
    | .error c => .error c
    | .ok place => .ok (place, .directory)
  else
    match t.around p with
    | .error c => .error c
    | .ok place => (t.lookup place p.name).map fun (name, e) => (name :: place, e)

/-- Removes an entry, a directory with all that lies in it. -/
def remove (t : FileTree) (p : Path) : Except Cause FileTree :=
  (t.entryPlace p).map fun (place, _) => t.delete place

/-- Moves an entry.  What stands at the target is replaced: a directory by a directory if it
is empty, and anything else by anything but a directory. -/
def move (t : FileTree) (source target : Path) : Except Cause FileTree := do
  let (from', e) ← t.entryPlace source
  let around ← t.around target
  match Name.ofString? target.name with
  | none => .error (if longestName < target.name.utf8ByteSize then .nameTooLong else .exists)
  | some name =>
    let goal := name :: around
    if from' = goal then .ok t
    else if from'.isSuffixOf goal then .error .invalidMove
    else
      match t.entry? goal, e with
      | some .directory, .directory =>
        if (t.names goal).isEmpty then .ok ((t.delete goal).relocate from' goal)
        else .error .notEmpty
      | some .directory, _ => .error .isDirectory
      | some _, .directory => .error .notDirectory
      | _, _ => .ok ((t.delete goal).relocate from' goal)

/-- The kind of an entry in a listing of a tree. -/
def kindWord : Entry → String
  | .directory => "dir"
  | .link _ => "symlink"
  | .file _ | .fifo => "file"

/-- Everything below the working directory, spelled from there, with its kind. -/
def below (t : FileTree) : List (String × String) :=
  t.entries.filterMap fun (place, e) =>
    if t.here.isSuffixOf place && place != t.here then
      let names := (place.take (place.length - t.here.length)).reverse
      some (String.intercalate "/" (names.map (·.val)), kindWord e)
    else none

end SourceLocator.FileTree
