import SourceLocator.Display.Cells
import SourceLocator.Text.Blank

/-!
# Breaking text into rows

`wrap` breaks a text into rows of a given number of cells.  The text is split at line feeds
and tabs are filled up to the next stop; then each word, with the blanks behind it, goes into
the current row if the word itself still fits, and else into a new one.  A word that is wider
than a whole row is cut into pieces, or stays whole and is cut off with an ellipsis, as the
`Overflow` says.  Blanks at the end of a row go only as far as the row is too long.
-/

namespace SourceLocator.Display

open Text

/-- What is done about a word that is wider than a row. -/
inductive Overflow where
  | fold
  | ellipsis
deriving DecidableEq

/-- The number of cells from one tab stop to the next. -/
def tabDistance : Nat := 8

/-- The parts between tabs put together, each one filled up with spaces to the next stop;
`column` cells stand before them. -/
def joinAtStops : Nat → List (List Char) → List Char
  | _, [] => []
  | _, [part] => part
  | column, part :: next :: rest =>
    let reached := column + cellLength (part ++ [' '])
    let stop := (reached + tabDistance - 1) / tabDistance * tabDistance
    part ++ List.replicate (stop - reached + 1) ' ' ++ joinAtStops stop (next :: rest)

/-- A line with spaces in place of its tabs. -/
def expandTabs (line : List Char) : List Char :=
  joinAtStops 0 (line.splitOn '\t')

/-- The words of a line, each with the blanks behind it and the first one also with those
before it; a blank line has none. -/
def words (line : List Char) : List (List Char) :=
  match line.splitBy fun c d => !isBlank c || isBlank d with
  | [] => []
  | [run] => if isAllBlank run then [] else [run]
  | run :: next :: rest => if isAllBlank run then (run ++ next) :: rest else run :: next :: rest

/-- Rows that are being filled: the finished ones, the last one first, and the current one
with the number of cells used in it. -/
structure Filling where
  finished : List (List Char)
  row : List Char
  used : Nat

namespace Filling

/-- A new row, unless the current one is empty. -/
def newRow (f : Filling) : Filling :=
  if f.row.isEmpty then f else ⟨f.row :: f.finished, [], 0⟩

/-- Puts a part of the line into the current row. -/
def put (f : Filling) (part : List Char) : Filling :=
  { f with row := f.row ++ part, used := f.used + cellLength part }

/-- Finds a place for a word. -/
def place (width : Nat) (overflow : Overflow) (f : Filling) (word : List Char) : Filling :=
  let needed := cellLength (stripEnd word)
  if f.used + needed ≤ width then f.put word
  else if width < needed ∧ overflow = .fold then
    (pieces width word).foldl (fun f piece => f.newRow.put piece) f
  else f.newRow.put word

/-- All rows in their order. -/
def rows (f : Filling) : List (List Char) :=
  f.finished.reverse ++ [f.row]

end Filling

/-- The rows of a line, with all their characters. -/
def breakLine (width : Nat) (overflow : Overflow) (line : List Char) : List (List Char) :=
  match words line with
  | [] => [line]
  | ws => (ws.foldl (Filling.place width overflow) ⟨[], [], 0⟩).rows

/-- A row without the blanks at its end, as far as it has too many characters. -/
def trimExcess (width : Nat) (row : List Char) : List Char :=
  row.take (row.length - min (row.length - (stripEnd row).length) (row.length - width))

/-- A row that takes at most `width` cells. -/
def fit (width : Nat) (overflow : Overflow) (row : List Char) : List Char :=
  if cellLength row ≤ width then row
  else
    match overflow with
    | .fold => crop width row
    | .ellipsis => crop (width - 1) row ++ ['…']

/-- The rows of a text. -/
def wrap (width : Nat) (overflow : Overflow) (text : List Char) : List (List Char) :=
  (text.splitOn '\n').flatMap fun line =>
    (breakLine width overflow (expandTabs line)).map fun row =>
      fit width overflow (trimExcess width row)

end SourceLocator.Display
