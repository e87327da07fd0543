import SourceLocator.Command.Switch
import SourceLocator.Text.Quoted

/-!
# Mistakes on the command line

A `UsageProblem` is one mistake; its wording is `text`.  A mistake that is found while a
command is looked up also names the commands with similar names, and an unknown option the
options with similar spellings.
-/

namespace SourceLocator.Command

open Text

/-- What is wrong with a command line. -/
inductive UsageProblem where
  /-- Nothing was given at all. -/
  | noArguments
  /-- No command was given. -/
  | missingCommand
  /-- There is no command of that name. -/
  | unknownCommand (name : String)
  /-- There is no such option, but perhaps others with similar spellings. -/
  | unknownOption (spelling : String) (similar : List String)
  /-- The value of an option is missing. -/
  | missingValue (spelling : String)
  /-- A value was given to an option that takes none. -/
  | unwantedValue (spelling : String)
  /-- An option that is needed was not given. -/
  | missingOption (s : Switch)
  /-- The file was not given. -/
  | missingFile
  /-- The value of an option or argument is refused. -/
  | badValue (parameter reason : String)
  /-- Words were given for which there is no use. -/
  | extraWords (words : List String)

/-- The wording of a mistake, apart from similar options. -/
def UsageProblem.text : UsageProblem → String
  | .noArguments => ""
  | .missingCommand => "Missing command."
  | .unknownCommand name => "No such command " ++ quoted name ++ "."
  | .unknownOption spelling _ => "No such option: " ++ spelling
  | .missingValue spelling => "Option " ++ quoted spelling ++ " requires an argument."
  | .unwantedValue spelling => "Option " ++ quoted spelling ++ " does not take a value."
  | .missingOption s => "Missing option '" ++ s.spelling ++ "'."
  | .missingFile => "Missing argument 'file'."
  | .badValue parameter reason => "Invalid value for '" ++ parameter ++ "': " ++ reason
  | .extraWords words =>
    "Got unexpected extra argument" ++ (if words.length = 1 then "" else "s") ++ " (" ++
      String.intercalate " " words ++ ")"

/-- The options with spellings similar to the one that was given. -/
def UsageProblem.similarOptions : UsageProblem → List String
  | .unknownOption _ similar => similar
  | _ => []

/-- A mistake on the command line, with the commands that may have been meant. -/
structure UsageError where
  problem : UsageProblem
  similarCommands : List String

/-- A text without the full stops at its end. -/
def dropFullStops (s : String) : String :=
  String.ofList ((s.toList.reverse.dropWhile (· == '.')).reverse)

/-- The wording of a mistake. -/
def UsageError.message (e : UsageError) : String :=
  (if e.similarCommands.isEmpty then e.problem.text
    else
      dropFullStops e.problem.text ++ ". Did you mean " ++
        String.intercalate ", " (e.similarCommands.map quoted) ++ "?") ++
  (if e.problem.similarOptions.isEmpty then ""
    else " (Possible options: " ++ String.intercalate ", " e.problem.similarOptions ++ ")")

end SourceLocator.Command
