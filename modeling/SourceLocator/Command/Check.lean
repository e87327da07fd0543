import SourceLocator.Display.Table
import SourceLocator.Membership

/-!
# Testing a file

The command tells whether a file declares a package, and why the file could not be read if
it could not.
-/

namespace SourceLocator.Command

open Display

/-- What is to be tested. -/
structure Check where
  file : String
  package : String
  exact : Bool

namespace Check

/-- The default configuration with the choice that the command leaves. -/
def config (q : Check) : Config :=
  { Config.default with closing := Config.closingFor q.exact }

/-- Tests the file. -/
def report (q : Check) (t : FileTree) : Except NulInPath Membership :=
  q.config.check t (.ofString q.file) q.package

/-- The output of the command. -/
def display (m : Membership) : List String :=
  (match m.error with
    | none => []
    | some e =>
      message ("[yellow]Could not read " ++ escape m.path.render ++ ": " ++ escape e.message
        ++ "[/yellow]"))
  ++ message
    (if m.member then "[green]" ++ escape m.path.name ++ "[/green] is in " ++ escape m.package
      else "[red]" ++ escape m.path.name ++ "[/red] is not in " ++ escape m.package)

end Check

end SourceLocator.Command
