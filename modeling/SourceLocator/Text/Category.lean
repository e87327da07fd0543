import SourceLocator.Text.CategoryTable

/-!
# Properties of characters

The general category of a character, read off the table of runs, and the properties that
are defined from it: `isPrintable` decides what a quoted text shows as it is, `isLetter`
what counts as a letter, `isIdentifierStart` and `isIdentifierPart` how a group name is
spelled, and `isCased` and `isCaseIgnorable` in which context a final sigma stands.  ASCII
characters are settled by a rule of their own and never reach the table.
-/

namespace SourceLocator.Text

/-- The general category of a character, by its two letters: `major` is one of the letters
`L M N P S Z C`, `minor` the subdivision. -/
structure Category where
  major : Char
  minor : Char
deriving DecidableEq, Inhabited

/-- The runs of a table line: each category letter pair and the number after it. -/
private def readRuns : List Char → List (Category × Nat)
  | [] => []
  | c :: rest =>
    if c.isDigit then readRuns rest
    else
      match rest with
      | [] => []
      | m :: tail => (⟨c, m⟩, (tail.takeWhile Char.isDigit).foldl digit 0) :: readRuns tail
where
  digit (n : Nat) (d : Char) : Nat := 10 * n + (d.toNat - '0'.toNat)

/-- The first code point of every run, with the category of the run. -/
private def runStarts : Array (Nat × Category) :=
  ((categoryRuns.flatMap fun line => readRuns line.toList).foldl
    (fun (acc : Nat × Array (Nat × Category)) run =>
      (acc.1 + run.2, acc.2.push (acc.1, run.1))) (0, #[])).2

/-- The last run that starts at or before `point`, among those numbered from `low` up to
`high`; each round halves the distance. -/
private def findRun (point : Nat) : Nat → Nat → Nat → Nat
  | 0, low, _ => low
  | rounds + 1, low, high =>
    if high ≤ low + 1 then low
    else
      let middle := (low + high) / 2
      if (runStarts[middle]?.map (·.1)).any (· ≤ point) then findRun point rounds middle high
      else findRun point rounds low middle

/-- The general category of a character. -/
def category (c : Char) : Category :=
  (runStarts[findRun c.toNat 16 0 runStarts.size]?.map (·.2)).getD ⟨'C', 'n'⟩

/-- Whether the character is a decimal digit of any script. -/
def isDecimalDigit (c : Char) : Bool := category c == ⟨'N', 'd'⟩

/-- The number of decimal digits that stand in a row right before a code point. -/
def digitsBefore : Nat → Nat
  | 0 => 0
  | n + 1 => if isDecimalDigit (Char.ofNat n) then digitsBefore n + 1 else 0

/-- The value of a decimal digit: the digits of a script stand in a row from nought to nine. -/
def decimalDigit? (c : Char) : Option Nat :=
  if isDecimalDigit c then some (digitsBefore c.toNat % 10) else none

/-- Whether a code point lies in one of the ranges. -/
def inRanges (ranges : List (Nat × Nat)) (c : Char) : Bool :=
  ranges.any fun r => r.1 ≤ c.toNat && c.toNat ≤ r.2

/-- Whether a quoted text may show the character as it is: no control, format, private,
unassigned or separator character, apart from the space. -/
def isPrintable (c : Char) : Bool :=
  if c.toNat < 0x80 then 0x20 ≤ c.toNat && c.toNat < 0x7F
  else (category c).major != 'C' && (category c).major != 'Z'

/-- Whether the character is a letter of any script. -/
def isLetter (c : Char) : Bool :=
  if c.toNat < 0x80 then c.isAlpha else (category c).major == 'L'

/-- Letters that do not begin an identifier, since their compatibility forms do not. -/
private def notIdentifierStart : List (Nat × Nat) :=
  [(0x37A, 0x37A), (0xE33, 0xE33), (0xEB3, 0xEB3), (0x2E2F, 0x2E2F), (0xFC5E, 0xFC63),
   (0xFDFA, 0xFDFB), (0xFE70, 0xFE70), (0xFE72, 0xFE72), (0xFE74, 0xFE74), (0xFE76, 0xFE76),
   (0xFE78, 0xFE78), (0xFE7A, 0xFE7A), (0xFE7C, 0xFE7C), (0xFE7E, 0xFE7E), (0xFF9E, 0xFF9F)]

/-- Further characters that begin an identifier. -/
private def alsoIdentifierStart : List (Nat × Nat) :=
  [(0x1885, 0x1886), (0x2118, 0x2118), (0x212E, 0x212E)]

/-- Further characters that continue an identifier. -/
private def alsoIdentifierPart : List (Nat × Nat) :=
  [(0xB7, 0xB7), (0x387, 0x387), (0xE33, 0xE33), (0xEB3, 0xEB3), (0x1369, 0x1371),
   (0x19DA, 0x19DA), (0xFF9E, 0xFF9F)]

/-- Whether the character may begin an identifier: a letter, a letter number or the
underscore. -/
def isIdentifierStart (c : Char) : Bool :=
  if c.toNat < 0x80 then c.isAlpha || c == '_'
  else
    inRanges alsoIdentifierStart c ||
      (((category c).major == 'L' || category c == ⟨'N', 'l'⟩) &&
        !inRanges notIdentifierStart c)

/-- Whether the character may continue an identifier: one that begins it, a mark, a decimal
digit or a connector. -/
def isIdentifierPart (c : Char) : Bool :=
  if c.toNat < 0x80 then c.isAlphanum || c == '_'
  else
    isIdentifierStart c || inRanges alsoIdentifierPart c ||
      category c ∈ ([⟨'M', 'n'⟩, ⟨'M', 'c'⟩, ⟨'N', 'd'⟩, ⟨'P', 'c'⟩] : List Category)

/-- Whether a text is an identifier. -/
def isIdentifier : List Char → Bool
  | [] => false
  | c :: cs => isIdentifierStart c && cs.all isIdentifierPart

/-- Cased characters that are no letters. -/
private def alsoCased : List (Nat × Nat) :=
  [(0xAA, 0xAA), (0xBA, 0xBA), (0x2160, 0x217F), (0x24B6, 0x24E9), (0x1F130, 0x1F149),
   (0x1F150, 0x1F169), (0x1F170, 0x1F189)]

/-- Whether the character has a case: an upper-case, lower-case or title-case letter, or a
symbol made of one. -/
def isCased (c : Char) : Bool :=
  if c.toNat < 0x80 then c.isAlpha
  else
    inRanges alsoCased c ||
      category c ∈ ([⟨'L', 'u'⟩, ⟨'L', 'l'⟩, ⟨'L', 't'⟩] : List Category)

/-- Punctuation that stands inside words. -/
private def alsoCaseIgnorable : List (Nat × Nat) :=
  [(0xB7, 0xB7), (0x387, 0x387), (0x55F, 0x55F), (0x5F4, 0x5F4), (0x2018, 0x2019),
   (0x2024, 0x2024), (0x2027, 0x2027), (0xFE13, 0xFE13), (0xFE52, 0xFE52), (0xFE55, 0xFE55),
   (0xFF07, 0xFF07), (0xFF0E, 0xFF0E), (0xFF1A, 0xFF1A)]

/-- Whether the character is skipped when the letters around a sigma are looked for: marks,
format characters, modifiers and the punctuation that stands inside words. -/
def isCaseIgnorable (c : Char) : Bool :=
  if c.toNat < 0x80 then c == '\'' || c == '.' || c == ':' || c == '^' || c.toNat == 0x60
  else
    inRanges alsoCaseIgnorable c ||
      category c ∈ ([⟨'M', 'n'⟩, ⟨'M', 'e'⟩, ⟨'C', 'f'⟩, ⟨'L', 'm'⟩, ⟨'S', 'k'⟩] : List Category)

end SourceLocator.Text
