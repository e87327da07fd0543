/-!
# ASCII letters, spaces and words

The character classes that declarations and name patterns are read with: spaces, digits
and word characters, all within ASCII, and comparison up to the case of the ASCII letters.
`Char.toLower` moves exactly the letters `A`–`Z`, so `c.toLower = d.toLower` is that
comparison; `dropFolded? ps cs` takes a folded copy of `ps` off the front of `cs`.
-/

namespace SourceLocator.Text

/-- A space of ASCII: space, tab, line feed, carriage return, form feed or vertical tab. -/
def isAsciiSpace (c : Char) : Bool :=
  c == ' ' || c == '\t' || c == '\n' || c == '\r' || c == '\x0c' || c == '\x0b'

/-- A word character of ASCII: a letter, a digit or the underscore. -/
def isAsciiWord (c : Char) : Bool :=
  c.isAlphanum || c == '_'

/-- Two characters are equal up to the case of ASCII letters. -/
def sameFolded (c d : Char) : Bool :=
  c.toLower == d.toLower

/-- What follows `ps` in `cs`, if `cs` begins with `ps` up to the case of ASCII letters. -/
def dropFolded? : List Char → List Char → Option (List Char)
  | [], cs => some cs
  | _ :: _, [] => none
  | p :: ps, c :: cs => if sameFolded p c then dropFolded? ps cs else none

@[simp]
theorem dropFolded?_nil (cs : List Char) :
  dropFolded? [] cs = some cs
  := by
  cases cs <;> rfl

end SourceLocator.Text
