/-!
# Lines

A text is split at line feeds, carriage returns and pairs of the two, and at nothing else.
`lines` has one more member than the text has terminators, so that it is never empty and a
text that ends in a terminator has an empty last line.
-/

namespace SourceLocator.Text

/-- Puts a character in front of the first line. -/
def consFirst (c : Char) : List (List Char) → List (List Char)
  | [] => [[c]]
  | line :: rest => (c :: line) :: rest

/-- The lines of a text; a line feed just after a carriage return ends no line of its own. -/
def linesAfter : Bool → List Char → List (List Char)
  | _, [] => [[]]
  | afterReturn, c :: cs =>
    if c = '\n' then
      if afterReturn then linesAfter false cs else [] :: linesAfter false cs
    else if c = '\r' then [] :: linesAfter true cs
    else consFirst c (linesAfter false cs)

/-- The lines of a text. -/
def lines (cs : List Char) : List (List Char) :=
  linesAfter false cs

end SourceLocator.Text
