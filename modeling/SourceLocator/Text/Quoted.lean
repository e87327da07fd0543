import SourceLocator.Text.Category

/-!
# Quoted text

`quoted` writes a text between quotes for a message: single quotes, or double quotes when
the text has single ones and no double ones.  The backslash, the quote in use, line feed,
carriage return and tab are escaped by a letter, and every other character that cannot be
printed by its code point in lower-case hexadecimal, of two, four or eight digits.
-/

namespace SourceLocator.Text

/-- The lower-case hexadecimal digits of `n`, the last `width` of them. -/
def hexDigits : Nat → Nat → List Char
  | 0, _ => []
  | width + 1, n => hexDigits width (n / 16) ++ [Nat.digitChar (n % 16)]

/-- The quote a text is written with. -/
def quoteFor (cs : List Char) : Char :=
  if '\'' ∈ cs ∧ '"' ∉ cs then '"' else '\''

/-- One character of a text that stands between `quote`s. -/
def escapedIn (quote c : Char) : List Char :=
  if c = quote ∨ c = '\\' then ['\\', c]
  else if c = '\n' then ['\\', 'n']
  else if c = '\r' then ['\\', 'r']
  else if c = '\t' then ['\\', 't']
  else if isPrintable c then [c]
  else if c.toNat < 0x100 then '\\' :: 'x' :: hexDigits 2 c.toNat
  else if c.toNat < 0x10000 then '\\' :: 'u' :: hexDigits 4 c.toNat
  else '\\' :: 'U' :: hexDigits 8 c.toNat

/-- The text between quotes, with what cannot stand there escaped. -/
def quotedChars (cs : List Char) : List Char :=
  quoteFor cs :: (cs.flatMap (escapedIn (quoteFor cs)) ++ [quoteFor cs])

/-- The text between quotes. -/
def quoted (s : String) : String :=
  String.ofList (quotedChars s.toList)

end SourceLocator.Text
