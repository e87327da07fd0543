import SourceLocator.Display.Cells
import SourceLocator.Display.ShortcodeTable
import SourceLocator.Text.Blank
import SourceLocator.Text.Lowercase

/-!
# Emoji written by name

A shortcode is the name of an emoji between colons, in letters of any case; `-emoji` or
`-text` behind the name asks for one of the two forms.  `expandShortcodes` puts the emoji
in the place of every shortcode whose name it knows; colons around other texts are left
alone, and the text between them is not looked at again.
-/

namespace SourceLocator.Display

open Text

/-- The pairs of neighbours in a list. -/
private def pairUp : List (List Char) → List (List Char × List Char)
  | a :: b :: rest => (a, b) :: pairUp rest
  | _ => []

/-- The emoji by name. -/
def emojiByName : List (List Char × List Char) :=
  emojiNames.flatMap fun line => pairUp (line.toList.splitOn ' ')

/-- What stands between the colons of a shortcode: a name, and the character that selects a
form if one is asked for. -/
structure Shortcode where
  name : List Char
  form : List Char

/-- The forms that can be asked for, each with its closing colon and the character that
selects it. -/
def forms : List (List Char × Char) :=
  [("-emoji:".toList, emojiSelector), ("-text:".toList, textSelector)]

/-- The form that a text begins with, as it is written and with the character that selects
it. -/
def formAt? (cs : List Char) : Option (List Char × Char) :=
  forms.find? fun (written, _) => written.isPrefixOf cs

/-- Reads a shortcode behind its first colon, where `name` is what has been read of the name,
last character first; gives the text that was read as well. -/
def readShortcode? (name : List Char) : List Char → Option (Shortcode × List Char)
  | [] => none
  | c :: rest =>
    match formAt? (c :: rest) with
    | some (written, selector) =>
      some (⟨name.reverse, [selector]⟩, name.reverse ++ written)
    | none =>
      if c = ':' then some (⟨name.reverse, []⟩, name.reverse ++ [':'])
      else if isBlank c then none
      else readShortcode? (c :: name) rest

/-- What a shortcode stands for: its emoji, or itself if there is none of that name. -/
def Shortcode.expanded (s : Shortcode) (written : List Char) : List Char :=
  match emojiByName.lookup (lowercase s.name) with
  | some emoji => emoji ++ s.form
  | none => written

/-- A text with the emoji in the place of their shortcodes; of the text, `skip` characters
belong to a shortcode that has been dealt with. -/
def expandFrom : Nat → List Char → List Char
  | _, [] => []
  | skip + 1, _ :: rest => expandFrom skip rest
  | 0, c :: rest =>
    if c = ':' then
      match readShortcode? [] rest with
      | some (code, written) => code.expanded (c :: written) ++ expandFrom written.length rest
      | none => c :: expandFrom 0 rest
    else c :: expandFrom 0 rest

/-- A text with the emoji in the place of their shortcodes. -/
def expandShortcodes (cs : List Char) : List Char :=
  expandFrom 0 cs

end SourceLocator.Display
