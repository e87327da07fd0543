import SourceLocator.Display.Markup
import SourceLocator.Display.Wrap

/-!
# Tables and messages

`message` lays a message out over the whole width of the output.  `table` draws a table with
one column, which is as wide as its widest entry needs, at most the width of the output less
the frame; longer entries are broken at blanks or cut off.
-/

namespace SourceLocator.Display

/-- The number of cells in a row of the output. -/
def outputWidth : Nat := 80

/-- The rows in which a message is shown. -/
def message (s : String) : List String :=
  (wrap outputWidth .fold (plain s)).map String.ofList

/-- Whether a line ends at the character when the width of a text is measured. -/
def endsMeasuredLine (c : Char) : Bool :=
  c == '\n' || (0x1C ≤ c.toNat && c.toNat ≤ 0x1E) || c.toNat == 0x85 || c.toNat == 0x2028 ||
    c.toNat == 0x2029

/-- The number of cells that the longest line of a text takes. -/
def textWidth (cs : List Char) : Nat :=
  ((cs.splitOnP endsMeasuredLine).map cellLength).foldl max 0

/-- The number of cells in a column with a heading and entries. -/
def columnWidth (heading : List Char) (entries : List (List Char)) : Nat :=
  min (outputWidth - 4) ((entries.map textWidth).foldl max (textWidth heading))

/-- A line of the frame. -/
def frameLine (left line right : Char) (width : Nat) : String :=
  String.ofList (left :: List.replicate (width + 2) line ++ [right])

/-- A row between the sides of the frame. -/
def framedRow (side : Char) (width : Nat) (row : List Char) : String :=
  String.ofList (side :: ' ' :: pad width row ++ [' ', side])

/-- A table with a heading and entries, both written in markup. -/
def table (heading : String) (entries : List String) : List String :=
  let head := plain heading
  let shown := entries.map plain
  let width := columnWidth head shown
  let rows (side : Char) (text : List Char) :=
    (wrap width .ellipsis text).map (framedRow side width)
  frameLine '┏' '━' '┓' width :: rows '┃' head
    ++ frameLine '┡' '━' '┩' width :: shown.flatMap (rows '│')
    ++ [frameLine '└' '─' '┘' width]

end SourceLocator.Display
