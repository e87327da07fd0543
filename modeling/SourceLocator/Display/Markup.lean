import SourceLocator.Display.Shortcode

/-!
# Markup

Messages are written in a markup in which tags in brackets, as in `[green]…[/green]`, say how
the text between them is shown.  Backslashes before a tag protect it: each two of them stand
for one, and one that is left over makes the tag a text.  `escape` protects the tags of a text
that is to be shown as it is, and `plain` is what a message shows: no tags, emoji in the place
of their shortcodes, and no control characters that move the cursor.
-/

namespace SourceLocator.Display

/-- A part of a message: a text, or a tag with the number of backslashes before it. -/
inductive Piece where
  | text (cs : List Char)
  | tag (backslashes : Nat) (inner : List Char)

/-- Whether a tag may begin with the character. -/
def beginsTag (c : Char) : Bool :=
  ('a' ≤ c && c ≤ 'z') || c == '#' || c == '/' || c == '@'

/-- The inner text of the tag that a text begins with, behind its opening bracket. -/
def innerTag? (cs : List Char) : Option (List Char) :=
  let inner := cs.takeWhile fun c => c != '[' && c != ']'
  if (inner.head?.any beginsTag) && (cs.drop inner.length).head? == some ']' then some inner
  else none

/-- The tag that a text begins with: the number of backslashes, the inner text, and the
number of characters of the whole. -/
def tagAt? (cs : List Char) : Option (Nat × List Char × Nat) :=
  let backslashes := (cs.takeWhile (· == '\\')).length
  match cs.drop backslashes with
  | '[' :: rest => (innerTag? rest).map fun inner => (backslashes, inner, backslashes + inner.length + 2)
  | _ => none

/-- Puts a character in front of the parts of a message. -/
def consText (c : Char) : List Piece → List Piece
  | .text cs :: rest => .text (c :: cs) :: rest
  | rest => .text [c] :: rest

/-- The parts of a message; of it, `skip` characters belong to a tag that has been dealt
with. -/
def piecesFrom : Nat → List Char → List Piece
  | _, [] => []
  | skip + 1, _ :: rest => piecesFrom skip rest
  | 0, c :: rest =>
    match tagAt? (c :: rest) with
    | some (backslashes, inner, size) => .tag backslashes inner :: piecesFrom (size - 1) rest
    | none => consText c (piecesFrom 0 rest)

/-- The parts of a message. -/
def markupPieces (cs : List Char) : List Piece :=
  piecesFrom 0 cs

/-- How a part is written so that it is shown as it is. -/
def Piece.escaped : Piece → List Char
  | .text cs => cs
  | .tag backslashes inner =>
    List.replicate (2 * backslashes + 1) '\\' ++ '[' :: inner ++ [']']

/-- A text with one more backslash if it ends in exactly one. -/
def closeBackslash (cs : List Char) : List Char :=
  match cs.reverse with
  | '\\' :: '\\' :: _ => cs
  | '\\' :: _ => cs ++ ['\\']
  | _ => cs

/-- A text written so that a message shows it as it is. -/
def escape (s : String) : String :=
  String.ofList (closeBackslash ((markupPieces s.toList).flatMap Piece.escaped))

/-- A text without the backslashes before its brackets. -/
def dropBracketEscapes : List Char → List Char
  | '\\' :: '[' :: rest => '[' :: dropBracketEscapes rest
  | c :: rest => c :: dropBracketEscapes rest
  | [] => []

/-- Whether a character would move the cursor or ring: bell, backspace, vertical tab, form
feed and carriage return. -/
def isCursorControl (c : Char) : Bool :=
  c == '\x07' || c == '\x08' || c == '\x0b' || c == '\x0c' || c == '\x0d'

/-- What a text within a message shows. -/
def shownText (cs : List Char) : List Char :=
  (expandShortcodes (dropBracketEscapes cs)).filter fun c => !isCursorControl c

/-- What a part of a message shows. -/
def Piece.shown : Piece → List Char
  | .text cs => shownText cs
  | .tag backslashes inner =>
    List.replicate (backslashes / 2) '\\' ++
      (if backslashes % 2 = 1 then shownText ('[' :: inner ++ [']']) else [])

/-- What a message shows. -/
def plain (s : String) : List Char :=
  (markupPieces s.toList).flatMap Piece.shown

end SourceLocator.Display
