import SourceLocator.Command.Check
import SourceLocator.Command.Help
import SourceLocator.Command.Line
import SourceLocator.Command.Locate
import SourceLocator.Command.Verbosity

/-!
# The program

`run` takes a file tree, the value of the variable that asks for a level and the words of a
command line, and gives what the run shows, how it ends, which records it leaves and the tree
afterwards.  The options of the program are read first; then the level is settled, and only
then is the rest of the line read by the command.  What a command does is its `Deed`, which
the level has no part in.
-/

namespace SourceLocator.Command

open Display Text

/-- How a run ends. -/
inductive Ending where
  /-- The command was carried out, with an exit status. -/
  | status (n : Nat)
  /-- There is a mistake on the command line. -/
  | usage (e : UsageError)
  /-- The file tree refused an operation. -/
  | refused (e : FileError)
  /-- A path held the character that no path may hold. -/
  | nulInPath
  /-- A file that was to be listed does not lie below the source. -/
  | notBelow (e : NotBelow)

/-- What a command does. -/
structure Deed where
  ending : Ending
  output : List String
  records : List Record
  tree : FileTree

/-- What a run does: the deed of its command, and the least level of the records shown. -/
structure Run extends Deed where
  level : Level

/-- Leaves the tree as it is because of a mistake. -/
def Deed.mistake (t : FileTree) (problem : UsageProblem) : Deed :=
  ⟨.usage ⟨problem, []⟩, [], [], t⟩

/-- Shows a help page. -/
def Deed.help (t : FileTree) (verb : Option Verb) : Deed :=
  ⟨.status 0, page verb ++ [""], [], t⟩

namespace Locate

/-- The request that a command line makes. -/
def ofLine (l : Line) : Except UsageProblem Locate :=
  match l.value? .source with
  | none => .error (.missingOption .source)
  | some source =>
    if (Path.ofString source).hasNul then
      .error (.badValue Switch.source.spelling (Complaint.refused embeddedNul).message)
    else
      match l.value? .package with
      | none => .error (.missingOption .package)
      | some package =>
        if l.words = [] then
          .ok ⟨source, package, l.has .allSources, l.has .exact,
            l.last? [.followLinks, .keepLinks] == some .followLinks⟩
        else .error (.extraWords l.words)

/-- The option whose value the first of some complaints is about. -/
def optionOf (details : List Detail) : Switch :=
  if details.head?.any fun d => d.field == "source" then .source else .package

/-- Carries out the command. -/
def perform (q : Locate) (t : FileTree) : Deed :=
  match Settings.ofFields t q.fields with
  | (.error (.file e), t') => ⟨.refused e, [], [], t'⟩
  | (.error (.invalid details), t') =>
    .mistake t' (.badValue (optionOf details).spelling (firstReason details))
  | (.ok settings, t') =>
    match q.report t' settings with
    | .error .nulInPath => ⟨.nulInPath, [], [], t'⟩
    | .error (.notBelow e before) => ⟨.notBelow e, before.value, before.records, t'⟩
    | .ok report => ⟨.status 0, report.value.display, report.records, t'⟩

end Locate

namespace Check

/-- The request that a command line makes. -/
def ofLine (l : Line) : Except UsageProblem Check :=
  match l.words with
  | [] => .error .missingFile
  | file :: rest =>
    if (Path.ofString file).hasNul then
      .error (.badValue "file" (Complaint.refused embeddedNul).message)
    else
      match l.value? .package with
      | none => .error (.missingOption .package)
      | some package =>
        if rest = [] then .ok ⟨file, package, l.has .exact⟩ else .error (.extraWords rest)

/-- Carries out the command: the exit status tells whether the file belongs to the package. -/
def perform (q : Check) (t : FileTree) : Deed :=
  match q.report t with
  | .error _ => ⟨.nulInPath, [], [], t⟩
  | .ok m => ⟨.status (if m.member then 0 else 1), display m, m.records, t⟩

end Check

/-- Carries out a command with the words that follow its name. -/
def perform (t : FileTree) (verb : Verb) (words : List String) : Deed :=
  match readLine (Switch.available (some verb)) true words with
  | .error problem => .mistake t problem
  | .ok l =>
    if l.has .help then .help t (some verb)
    else
      match verb with
      | .locate =>
        match Locate.ofLine l with
        | .error problem => .mistake t problem
        | .ok q => q.perform t
      | .check =>
        match Check.ofLine l with
        | .error problem => .mistake t problem
        | .ok q => q.perform t

/-- What the options before a command lead to. -/
inductive Start where
  | help
  | command (verbose : Bool) (verb : Verb) (words : List String)

/-- Finds the command.  A name that no command has is itself read as an option first. -/
def start (words : List String) : Except UsageError Start :=
  if words = [] then .error ⟨.noArguments, []⟩
  else
    match readLine (Switch.available none) false words with
    | .error problem => .error ⟨problem, []⟩
    | .ok l =>
      if l.has .help then .ok .help
      else
        match l.words with
        | [] => .error ⟨.missingCommand, []⟩
        | name :: rest =>
          match Verb.ofName? name with
          | some verb => .ok (.command (l.has .verbose) verb rest)
          | none =>
            let similar := closeMatches name (Verb.all.map Verb.name)
            match readLine (Switch.available none) false l.words with
            | .error problem => .error ⟨problem, similar⟩
            | .ok again =>
              if again.has .help then .ok .help else .error ⟨.unknownCommand name, similar⟩

/-- What a mistake before any command shows: the help page if there was nothing to read. -/
def UsageError.output (e : UsageError) : List String :=
  match e.problem with
  | .noArguments => page none
  | _ => []

/-- Runs the program. -/
def run (t : FileTree) (asked : Option String) (words : List String) : Run :=
  match start words with
  | .error e => ⟨⟨.usage e, e.output, [], t⟩, .warning⟩
  | .ok .help => ⟨.help t none, .warning⟩
  | .ok (.command verbose verb rest) =>
    let least := leastLevel verbose asked
    let deed := perform t verb rest
    ⟨{ deed with records := shownRecords least (variableRecords asked ++ deed.records) },
      least⟩

/-- The exit status of a run. -/
def Ending.code : Ending → Nat
  | .status n => n
  | .usage _ => 2
  | .refused _ | .nulInPath | .notBelow _ => 1

/-- What is to be said about a run that did not carry out its command. -/
def Ending.notice? : Ending → Option String
  | .status _ => none
  | .usage e => some e.message
  | .refused e => some e.message
  | .nulInPath => some embeddedNul
  | .notBelow e => some e.message

end SourceLocator.Command
