import SourceLocator.Command.UsageError
import SourceLocator.FileSet
import SourceLocator.Text.Similarity

/-!
# Reading a command line

`read` takes the options out of a command line.  An option is a word that begins with a dash
and has more than that; a value is the next word, whatever it looks like, or stands behind an
equals sign.  Options by letter can be written together.  Two dashes alone end the options.
Before a command the first word that is no option ends them too, while behind it words and
options may be mixed.
-/

namespace SourceLocator.Command

open Text

/-- The options and words of a command line, each in its order. -/
structure Line where
  options : List (Switch × String)
  words : List String

namespace Line

/-- Whether an option was given. -/
def has (l : Line) (s : Switch) : Bool :=
  l.options.any fun o => o.1 == s

/-- The value that was given last for an option. -/
def value? (l : Line) (s : Switch) : Option String :=
  l.options.reverse.lookup s

/-- The one among some options that was given last. -/
def last? (l : Line) (switches : List Switch) : Option Switch :=
  (l.options.reverse.map (·.1)).find? fun s => switches.contains s

end Line

/-- The options with spellings similar to a given one, sorted. -/
def similarSpellings (switches : List Switch) (spelling : String) : List String :=
  sortedTexts (closeMatches spelling (switches.map Switch.spelling))

/-- What a word that is an option gives. -/
inductive Given where
  /-- Options that are complete. -/
  | complete (options : List (Switch × String))
  /-- An option whose value is the next word. -/
  | awaiting (s : Switch)

/-- The options that letters stand for. -/
def readLetters (switches : List Switch) : List Char → Except UsageProblem (List Switch)
  | [] => .ok []
  | c :: rest =>
    match switches.find? fun s => s.letter? == some c with
    | none => .error (.unknownOption (String.ofList ['-', c]) [])
    | some s => (readLetters switches rest).map (s :: ·)

/-- The part of a word before its first equals sign, and the part behind it if there is
one. -/
def splitValue (word : List Char) : String × Option String :=
  match word.dropWhile (· != '=') with
  | [] => (String.ofList word, none)
  | _ :: value => (String.ofList (word.takeWhile (· != '=')), some (String.ofList value))

/-- What a word that is an option gives. -/
def readOption (switches : List Switch) (word : String) : Except UsageProblem Given :=
  let (spelling, value) := splitValue word.toList
  match switches.find? fun s => s.spelling == spelling, value with
  | some s, some value =>
    if s.takesValue then .ok (.complete [(s, value)]) else .error (.unwantedValue spelling)
  | some s, none => .ok (if s.takesValue then .awaiting s else .complete [(s, "")])
  | none, _ =>
    match word.toList with
    | '-' :: '-' :: _ =>
      .error (.unknownOption spelling (similarSpellings switches spelling))
    | _ =>
      (readLetters switches (word.toList.drop 1)).map fun found =>
        .complete (found.map fun s => (s, ""))

/-- Whether a word is an option. -/
def isOption (word : String) : Bool :=
  match word.toList with
  | '-' :: _ :: _ => true
  | _ => false

/-- Reads a command line; `mixed` says whether options may follow words. -/
def readLine (switches : List Switch) (mixed : Bool) :
    List String → Except UsageProblem Line
  | [] => .ok ⟨[], []⟩
  | [word] =>
    if word = "--" then .ok ⟨[], []⟩
    else if isOption word then
      match readOption switches word with
      | .error e => .error e
      | .ok (.complete options) => .ok ⟨options, []⟩
      | .ok (.awaiting s) => .error (.missingValue s.spelling)
    else .ok ⟨[], [word]⟩
  | word :: next :: rest =>
    if word = "--" then .ok ⟨[], next :: rest⟩
    else if isOption word then
      match readOption switches word with
      | .error e => .error e
      | .ok (.complete options) =>
        (readLine switches mixed (next :: rest)).map fun l =>
          { l with options := options ++ l.options }
      | .ok (.awaiting s) =>
        (readLine switches mixed rest).map fun l =>
          { l with options := (s, next) :: l.options }
    else if mixed then
      (readLine switches mixed (next :: rest)).map fun l => { l with words := word :: l.words }
    else .ok ⟨[], word :: next :: rest⟩

end SourceLocator.Command
