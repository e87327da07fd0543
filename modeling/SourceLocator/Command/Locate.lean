import SourceLocator.Display.Table
import SourceLocator.Settings
import SourceLocator.SourceSet

/-!
# Listing the files of a package

The command lists the resource-mapping files of a package, or all its source files, below a
directory, which is made if it is missing.  A `Locate.Report` is what the command finds out:
the failure of the scan if it failed, and the paths of the files relative to the directory in
the order of their code points.  A file that does not lie below the directory would keep the
report from being had (`Locate.Failure`).
-/

namespace SourceLocator.Command

open Display Text

/-- A path was to be seen from a directory below which it does not lie. -/
structure NotBelow where
  path : Path
  directory : Path

/-- The wording of a path that does not lie below a directory. -/
def NotBelow.message (e : NotBelow) : String :=
  quoted e.path.render ++ " is not in the subpath of "
    ++ quoted (if e.directory = ⟨.here, []⟩ then "" else e.directory.render)
    ++ " OR one path is relative and the other is absolute."

/-- What is to be listed. -/
structure Locate where
  source : String
  package : String
  allSources : Bool
  exact : Bool
  followLinks : Bool

namespace Locate

/-- What the command finds out. -/
structure Report where
  source : Path
  failure : Option FileError
  rows : List String

/-- The default configuration with the two choices that the command leaves. -/
def config (q : Locate) : Config :=
  { Config.default with closing := Config.closingFor q.exact, followLinks := q.followLinks }

/-- The values of the settings. -/
def fields (q : Locate) : Fields :=
  [("source", .text q.source), ("package", .text q.package)]

/-- Why no report can be had. -/
inductive Failure where
  /-- A path held the character that no path may hold. -/
  | nulInPath
  /-- A file does not lie below the source; what was shown and recorded before stands. -/
  | notBelow (e : NotBelow) (before : Logged (List String))

/-- The path of a file relative to a directory. -/
def rowBelow (source p : Path) : Except NotBelow String :=
  match p.relativeTo? source with
  | none => .error ⟨p, source⟩
  | some q => .ok q.render

/-- The paths of files relative to a directory, in the order of their code points. -/
def rowsBelow (source : Path) (files : FileSet) : Except NotBelow (List String) :=
  (files.paths.mapM (rowBelow source)).map sortedTexts

/-- What is shown about a scan: why it failed if it failed. -/
def scanNotice (source : Path) : Option FileError → List String
  | none => []
  | some e =>
    message ("[yellow]Could not scan " ++ escape source.render ++ ": " ++ escape e.message
      ++ "[/yellow]")

/-- Looks for the files, with the settings read. -/
def report (q : Locate) (t : FileTree) (settings : Settings) :
    Except Failure (Logged Report) :=
  let set : SourceSet := ⟨settings.source, q.config⟩
  match set.scan t with
  | .error _ => .error .nulInPath
  | .ok scan =>
    let view := if q.allSources then set.sourceFiles else set.resourceFiles
    match view t (some settings.package) (some scan) with
    | .error _ => .error .nulInPath
    | .ok files =>
      let records := set.scanRecord scan :: files.records
      match rowsBelow settings.source files.value with
      | .error e => .error (.notBelow e ⟨scanNotice settings.source scan.error, records⟩)
      | .ok rows => .ok ⟨⟨settings.source, scan.error, rows⟩, records⟩

/-- The output of the command. -/
def Report.display (r : Report) : List String :=
  scanNotice r.source r.failure ++ table "file" (r.rows.map escape)
    ++ message ("(" ++ toString r.rows.length ++ " files)")

end Locate

end SourceLocator.Command
