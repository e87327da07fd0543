import SourceLocator.Display.CellTable

/-!
# Cells

Terminal output is measured in cells.  A character takes no cell, one or two; `clusters`
groups the characters that are shown as one sign, a sign being widened by an emoji
presentation selector or extended by a joiner.  `cellLength` is the number of cells of a
text, `crop` cuts a text down to a number of cells, and `pieces` cuts it into parts.
-/

namespace SourceLocator.Display

/-- Whether a code point lies in one of the ranges. -/
def liesIn (ranges : List (Nat × Nat)) (point : Nat) : Bool :=
  ranges.any fun r => r.1 ≤ point && point ≤ r.2

/-- The number of cells that a character takes. -/
def cells (c : Char) : Nat :=
  if c.toNat < 0x20 then 0
  else if c.toNat < 0x7F then 1
  else if c.toNat < 0xA0 || liesIn zeroCellRanges c.toNat then 0
  else if liesIn twoCellRanges c.toNat then 2
  else 1

/-- The character that joins the next one to the sign before it. -/
def joiner : Char := '\u200D'

/-- The character that asks for the emoji form of the sign before it. -/
def emojiSelector : Char := '\uFE0F'

/-- The character that asks for the text form of the sign before it. -/
def textSelector : Char := '\uFE0E'

/-- Whether the emoji form of a character takes one more cell than its text form. -/
def isWidened (c : Char) : Bool :=
  liesIn widenedRanges c.toNat

/-- The cells that a text takes behind the character `base`, the last one that took cells and
can still be widened. -/
def cellsAfter (base : Option Char) : List Char → Nat
  | [] => 0
  | [c] =>
    if c = joiner then 0
    else if c = emojiSelector then (if base.any isWidened then 1 else 0)
    else cells c
  | c :: d :: rest =>
    if c = joiner then cellsAfter base rest
    else if c = emojiSelector then
      (if base.any isWidened then 1 else 0) + cellsAfter none (d :: rest)
    else if cells c = 0 then cellsAfter base (d :: rest)
    else cells c + cellsAfter (some c) (d :: rest)

/-- The number of cells that a text takes. -/
def cellLength (cs : List Char) : Nat :=
  cellsAfter none cs

/-- Characters that are shown as one sign, and the number of its cells. -/
structure Cluster where
  chars : List Char
  cells : Nat

/-- Puts a character at the end of a cluster. -/
def Cluster.add (k : Cluster) (c : Char) : Cluster :=
  { k with chars := k.chars ++ [c] }

/-- The clusters of a text behind those of `before`, the last of which comes first; `base` is
the last character that took cells and can still be widened. -/
def clustersAfter : List Cluster → Option Char → List Char → List Cluster
  | before, _, [] => before.reverse
  | [], base, c :: rest =>
    if c = joiner ∨ c = emojiSelector ∨ cells c = 0 then clustersAfter [⟨[c], 0⟩] base rest
    else clustersAfter [⟨[c], cells c⟩] (some c) rest
  | k :: before, base, [c] =>
    if c = emojiSelector ∧ base.any isWidened then
      ({ k.add c with cells := k.cells + 1 } :: before).reverse
    else if c = joiner ∨ cells c = 0 then (k.add c :: before).reverse
    else (⟨[c], cells c⟩ :: k :: before).reverse
  | k :: before, base, c :: d :: rest =>
    if c = joiner then clustersAfter ((k.add c).add d :: before) base rest
    else if c = emojiSelector ∧ base.any isWidened then
      clustersAfter ({ k.add c with cells := k.cells + 1 } :: before) none (d :: rest)
    else if cells c = 0 then clustersAfter (k.add c :: before) base (d :: rest)
    else clustersAfter (⟨[c], cells c⟩ :: k :: before) (some c) (d :: rest)

/-- The clusters of a text. -/
def clusters (cs : List Char) : List Cluster :=
  clustersAfter [] none cs

/-- The clusters that fit into a number of cells; a cluster that is cut becomes a space. -/
def cropClusters : Nat → List Cluster → List Char
  | 0, _ => []
  | _, [] => []
  | room, k :: ks =>
    if room < k.cells then [' '] else k.chars ++ cropClusters (room - k.cells) ks

/-- A text cut down to a number of cells. -/
def crop (room : Nat) (cs : List Char) : List Char :=
  if cellLength cs ≤ room then cs else cropClusters room (clusters cs)

/-- A text filled up with spaces to a number of cells. -/
def pad (room : Nat) (cs : List Char) : List Char :=
  cs ++ List.replicate (room - cellLength cs) ' '

/-- The clusters put together as long as they fit into `width` cells; `piece` is what the
current part holds, in `used` cells. -/
def piecesAfter (width : Nat) : List Char → Nat → List Cluster → List (List Char)
  | piece, _, [] => [piece]
  | piece, used, k :: ks =>
    if width < used + k.cells then piece :: piecesAfter width k.chars k.cells ks
    else piecesAfter width (piece ++ k.chars) (used + k.cells) ks

/-- A text cut into parts that each take at most `width` cells. -/
def pieces (width : Nat) (cs : List Char) : List (List Char) :=
  piecesAfter width [] 0 (clusters cs)

end SourceLocator.Display
