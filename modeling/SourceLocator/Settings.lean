import SourceLocator.FileTree.Edit
import SourceLocator.Membership
import SourceLocator.Text.Blank
import SourceLocator.Validation

/-!
# Settings

`Settings` are a source directory and a package.  The directory is made when it is missing:
`ensureDirectory` gives back the tree as well, since a failure may leave directories behind
that were made on the way.  `Settings.ofFields` reads both values; each is looked at
whatever the other one is, so that the directory is made even for a package that is refused.
-/

namespace SourceLocator

open Text

/-- Why a path is no directory to work in. -/
inductive DirectoryFailure where
  | notWritable (p : Path)
  | cannotCreate (p : Path)
  | nulInPath
  | file (e : FileError)

/-- Makes sure that a path leads to a directory, making it if nothing is there. -/
def FileTree.ensureDirectory (t : FileTree) (p : Path) :
    Except DirectoryFailure Path × FileTree :=
  if p.hasNul then (.error .nulInPath, t)
  else
    match t.stat p with
    | .ok .directory => (.ok p, t)
    | .ok _ => (.error (.notWritable p), t)
    | .error c =>
      if c.meansAbsent then
        match t.makeDirectories p false with
        | (.ok (), t') => (.ok p, t')
        | (.error _, t') => (.error (.cannotCreate p), t')
      else (.error (.file { cause := c, path := p.render }), t)

/-- The wording of a directory failure. -/
def DirectoryFailure.message : DirectoryFailure → String
  | .notWritable p => p.render ++ " is not a writeable directory"
  | .cannotCreate p => "Failed to create directory at " ++ p.render
  | .nulInPath => embeddedNul
  | .file e => e.message

/-- A source directory and a package. -/
structure Settings where
  source : Path
  package : String

/-- Why no settings can be had. -/
inductive SettingsFailure where
  | invalid (details : List Detail)
  | file (e : FileError)

namespace Settings

/-- Reads the package, which is kept as it is but may not be blank. -/
def readPackage : Option FieldValue → Except Complaint String
  | none => .error .missing
  | some v =>
    v.asText.bind fun s =>
      if isAllBlank s.toList then .error (.refused "Package name must not be blank")
      else .ok s

/-- Reads the source directory, and makes it if it is missing.  What only the file tree can
refuse is left for the caller. -/
def readSource (t : FileTree) :
    Option FieldValue → Except FileError (Except Complaint Path) × FileTree
  | none => (.ok (.error .missing), t)
  | some (.text s) =>
    match t.ensureDirectory (.ofString s) with
    | (.ok p, t') => (.ok (.ok p), t')
    | (.error (.file e), t') => (.error e, t')
    | (.error failure, t') => (.ok (.error (.refused failure.message)), t')
  | some _ => (.ok (.error .notPath), t)

/-- Reads settings from given values. -/
def ofFields (t : FileTree) (fields : Fields) : Except SettingsFailure Settings × FileTree :=
  match readSource t (fields.lookup "source") with
  | (.error e, t') => (.error (.file e), t')
  | (.ok source, t') =>
    match source, readPackage (fields.lookup "package") with
    | .ok source, .ok package => (.ok ⟨source, package⟩, t')
    | source, package =>
      (.error (.invalid (detailsOf "source" source ++ detailsOf "package" package)), t')

end Settings

end SourceLocator
