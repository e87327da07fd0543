import SourceLocator.Config
import SourceLocator.FileTree.Resolve
import SourceLocator.Log
import SourceLocator.Text.Lines

/-!
# Membership in a package

A file belongs to a package when one of its lines declares it.  `readLines` reads a file as
UTF-8 and splits it; `Config.check` tests the lines, and takes a file that cannot be read or
decoded for one outside the package, keeping the reason.  A path that holds the character no
path may hold is refused before anything is read.
-/

namespace SourceLocator

open Text

/-- A path was given that holds the character no path may hold. -/
inductive NulInPath where
  | nulInPath

namespace FileTree

/-- The text of the file that a path leads to. -/
def readText (t : FileTree) (p : Path) : Except ReadError (List Char) :=
  match t.read p with
  | .error c => .error (.file { cause := c, path := p.render })
  | .ok bytes => (Utf8.decode bytes).mapError .encoding

/-- The lines of the file that a path leads to. -/
def readLines (t : FileTree) (p : Path) : Except ReadError (List (List Char)) :=
  (t.readText p).map lines

end FileTree

/-- Whether a file belongs to a package, and why it could not be read if it could not. -/
structure Membership where
  path : Path
  package : String
  member : Bool
  error : Option ReadError

/-- The records about a test of membership: one when the file could not be read. -/
def Membership.records (m : Membership) : List Record :=
  match m.error with
  | none => []
  | some e => [.outside m.path m.package e]

namespace Config

/-- Tests whether a file declares a package, for a path that can be used. -/
def membership (config : Config) (t : FileTree) (p : Path) (package : String) : Membership :=
  match t.readLines p with
  | .error e => ⟨p, package, false, some e⟩
  | .ok lines => ⟨p, package, lines.any (config.declares package), none⟩

/-- Tests whether a file declares a package. -/
def check (config : Config) (t : FileTree) (p : Path) (package : String) :
    Except NulInPath Membership :=
  if p.hasNul then .error .nulInPath else .ok (config.membership t p package)

end Config

end SourceLocator
