/-!
# Blank characters

`isBlank` is the set of characters that count as white space around a value: those with
Unicode's `White_Space` property and the four separators U+001C–U+001F.  `strip` takes
them off both ends of a text, and a text is blank when nothing is left of it.
-/

namespace SourceLocator.Text

/-- The code points that count as white space. -/
def blankPoints : List (Nat × Nat) :=
  [(0x09, 0x0D), (0x1C, 0x20), (0x85, 0x85), (0xA0, 0xA0), (0x1680, 0x1680), (0x2000, 0x200A),
   (0x2028, 0x2029), (0x202F, 0x202F), (0x205F, 0x205F), (0x3000, 0x3000)]

/-- A character that counts as white space. -/
def isBlank (c : Char) : Bool :=
  blankPoints.any fun r => r.1 ≤ c.toNat && c.toNat ≤ r.2

/-- The text without the blanks at its end. -/
def stripEnd (cs : List Char) : List Char :=
  (cs.reverse.dropWhile isBlank).reverse

/-- The text without the blanks at either end. -/
def strip (cs : List Char) : List Char :=
  stripEnd (cs.dropWhile isBlank)

/-- Whether the text holds blanks only. -/
def isAllBlank (cs : List Char) : Bool :=
  cs.all isBlank

end SourceLocator.Text
