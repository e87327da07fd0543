import SourceLocator.FileTree.Edit
import SourceLocator.Text.Ascii

/-!
# Written file trees

A file tree can be written down with one entry a line, whose fields are separated by tabs: the
kind of the entry, its path, and for a file its bytes in hexadecimal digits or for a link its
target.  `ofListing` makes the entries in their order, and the directories around them.
-/

namespace SourceLocator.FileTree

/-- The tree with no entries, seen from its root. -/
def bare : FileTree := ⟨[], []⟩

/-- The value of a hexadecimal digit. -/
def hexValue? (c : Char) : Option Nat :=
  if c.isDigit then some (c.toNat - '0'.toNat)
  else if 'a' ≤ c.toLower ∧ c.toLower ≤ 'f' then some (c.toLower.toNat - 'a'.toNat + 10)
  else none

/-- The bytes that pairs of hexadecimal digits stand for. -/
def bytesOfHex? : List Char → Option (List UInt8)
  | [] => some []
  | high :: low :: rest => do
    let h ← hexValue? high
    let l ← hexValue? low
    let bytes ← bytesOfHex? rest
    return (16 * h + l).toUInt8 :: bytes
  | [_] => none

/-- The tree with the entry of a line; `none` when the line describes none, or one that
cannot be made. -/
def addLine? (t : FileTree) (line : List Char) : Option FileTree :=
  match (line.splitOn '\t').map String.ofList with
  | ["dir", path] =>
    match t.makeDirectories (.ofString path) true with
    | (.ok (), t') => some t'
    | (.error _, _) => none
  | ["fifo", path] => (t.makeEntry (.ofString path) .fifo).toOption
  | ["link", path, target] => (t.makeEntry (.ofString path) (.link target)).toOption
  | ["file", path, hex] =>
    (bytesOfHex? hex.toList).bind fun bytes => (t.writeFile (.ofString path) bytes).toOption
  | _ => none

/-- The tree that lines describe, or the first line that cannot be used. -/
def ofLines (t : FileTree) : List (List Char) → Except String FileTree
  | [] => .ok t
  | line :: rest =>
    if line = [] then ofLines t rest
    else
      match t.addLine? line with
      | some t' => ofLines t' rest
      | none => .error (String.ofList line)

/-- The tree that a listing describes, or the first line that cannot be used. -/
def ofListing (listing : String) : Except String FileTree :=
  ofLines bare (listing.toList.splitOn '\n')

end SourceLocator.FileTree
