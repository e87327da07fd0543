import SourceLocator.Scan

/-!
# Source sets

A `SourceSet` is a root with a configuration.  Its views are all source files, the
resource-mapping files among them, and of either kind those that declare a package; a view
walks the tree anew, or filters a scan that was made before.  Failures show as absent files
and in the records, which every view carries.  `NamePattern.filterFiles` picks the
resource-mapping files out of any paths.
-/

namespace SourceLocator

/-- The paths of a list whose names fit a pattern. -/
def NamePattern.filterFiles (pattern : NamePattern) (paths : List Path) : FileSet :=
  .ofList (paths.filter pattern.matchesName)

/-- The source files below a root, under a configuration. -/
structure SourceSet where
  root : Path
  config : Config

namespace SourceSet

/-- Scans the tree for the source files. -/
def scan (s : SourceSet) (t : FileTree) : Except NulInPath ScanResult :=
  t.scan s.root s.config.extension s.config.followLinks

/-- The record about a scan of the source files. -/
def scanRecord (s : SourceSet) (r : ScanResult) : Record :=
  r.record s.config.extension

/-- The files of an earlier scan, or those of a new one with its record. -/
def walked (s : SourceSet) (t : FileTree) (earlier : Option ScanResult) :
    Except NulInPath (Logged FileSet) :=
  match earlier with
  | some r => .ok ⟨r.files, []⟩
  | none => (s.scan t).map fun r => ⟨r.files, [s.scanRecord r]⟩

/-- Tests whether a file declares a package. -/
def check (s : SourceSet) (t : FileTree) (p : Path) (package : String) :
    Except NulInPath Membership :=
  s.config.check t p package

/-- The files that declare a package, with a record for each one that could not be read. -/
def inPackage (s : SourceSet) (t : FileTree) (files : FileSet) (package : String) :
    Except NulInPath (Logged FileSet) :=
  if files.paths.any Path.hasNul then .error .nulInPath
  else
    .ok ⟨files.filter fun p => (s.config.membership t p package).member,
      files.paths.flatMap fun p => (s.config.membership t p package).records⟩

/-- The files that declare a package if one is given, and else all files. -/
def restricted (s : SourceSet) (t : FileTree) (package : Option String)
    (files : Logged FileSet) : Except NulInPath (Logged FileSet) :=
  match package with
  | none => .ok files
  | some package =>
    (s.inPackage t files.value package).map fun found =>
      ⟨found.value, files.records ++ found.records⟩

/-- The source files, or those that declare a package. -/
def sourceFiles (s : SourceSet) (t : FileTree) (package : Option String)
    (earlier : Option ScanResult) : Except NulInPath (Logged FileSet) :=
  (s.walked t earlier).bind fun files => s.restricted t package files

/-- The files of a set whose names are those of resource-mapping files. -/
def resourceNamed (s : SourceSet) (files : FileSet) : FileSet :=
  files.filter s.config.resourceName.matchesName

/-- The resource-mapping files, or those that declare a package. -/
def resourceFiles (s : SourceSet) (t : FileTree) (package : Option String)
    (earlier : Option ScanResult) : Except NulInPath (Logged FileSet) :=
  (s.walked t earlier).bind fun files =>
    s.restricted t package ⟨s.resourceNamed files.value, files.records⟩

end SourceSet

end SourceLocator
