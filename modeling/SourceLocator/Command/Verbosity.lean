import SourceLocator.Log
import SourceLocator.Text.Blank

/-!
# Which records are shown

A variable of the environment asks for the least level of the records that are shown, by the
name of a level in any case; `requested?` reads it, and what is no name of a level is itself
recorded.  Asking for debug output on the command line comes before the variable.
-/

namespace SourceLocator.Command

open Text

/-- The capitals of a character as far as they are letters of ASCII; every other character
stands for itself, since no name of a level holds it. -/
def capitals (c : Char) : List Char :=
  match c with
  | 'ß' => ['S', 'S']
  | 'ı' => ['I']
  | 'ſ' => ['S']
  | 'ﬀ' => ['F', 'F']
  | 'ﬁ' => ['F', 'I']
  | 'ﬂ' => ['F', 'L']
  | 'ﬃ' => ['F', 'F', 'I']
  | 'ﬄ' => ['F', 'F', 'L']
  | 'ﬅ' | 'ﬆ' => ['S', 'T']
  | c => [c.toUpper]

/-- The level that a text names, if there is one: blanks around it and its case do not
matter. -/
def requested? (value : String) : Option Level :=
  Level.named.lookup (String.ofList ((strip value.toList).flatMap capitals))

/-- The least level of the records that are shown, given whether debug output is asked for
and the value of the variable. -/
def leastLevel (verbose : Bool) (asked : Option String) : Level :=
  if verbose then .debug
  else
    match asked with
    | none => .warning
    | some value => (requested? value).getD .warning

/-- The record about a value of the variable that names no level. -/
def variableRecords : Option String → List Record
  | none => []
  | some value =>
    match requested? value with
    | some _ => []
    | none => [.unknownLevel value]

/-- The records that are shown when `least` is the least level. -/
def shownRecords (least : Level) (records : List Record) : List Record :=
  records.filter fun r => least.rank ≤ r.level.rank

end SourceLocator.Command
