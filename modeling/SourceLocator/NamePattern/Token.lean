/-!
# Tokens of a pattern

A pattern is read token by token: a token is one character, or a backslash with the
character after it.  `tokens` cuts a pattern up.  A backslash that ends the pattern belongs
to no token; the token before it is marked, since that is where it gets noticed.
-/

namespace SourceLocator.NamePattern

/-- One character, or a backslash and a character, with its place in the pattern. -/
structure Token where
  text : List Char
  start : Nat
  /-- A lone backslash follows and ends the pattern. -/
  beforeLoneBackslash : Bool

namespace Token

/-- The place behind the token. -/
def stop (t : Token) : Nat := t.start + t.text.length

/-- Whether the token is a given character on its own. -/
def is (t : Token) (c : Char) : Bool := t.text == [c]

/-- The character of a token that is a character on its own. -/
def char? (t : Token) : Option Char :=
  match t.text with
  | [c] => some c
  | _ => none

/-- The character of a token that has a backslash before it. -/
def escaped? (t : Token) : Option Char :=
  match t.text with
  | [b, c] => if b == '\\' then some c else none
  | _ => none

/-- The character of a token if it is on its own and passes a test. -/
def charIf? (t : Token) (test : Char → Bool) : Option Char :=
  t.char?.filter test

end Token

/-- Cuts the rest of a pattern, which starts at a place, into tokens. -/
def tokens : List Char → Nat → List Token
  | [], _ => []
  | ['\\'], _ => []
  | '\\' :: c :: rest, start => ⟨['\\', c], start, rest == ['\\']⟩ :: tokens rest (start + 2)
  | c :: rest, start => ⟨[c], start, rest == ['\\']⟩ :: tokens rest (start + 1)

end SourceLocator.NamePattern
