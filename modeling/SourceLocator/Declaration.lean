import SourceLocator.Text.Ascii

/-!
# Declarations

A line declares a package when it consists of the keyword, at least one space, the package
and a closing part.  Keyword and package are taken literally and compared up to the case of
ASCII letters.  Under `Closing.anything` the closing part is any text without a line feed
that ends in a semicolon, so that a package is declared along with all that it is a prefix
of; under `Closing.exact` it is a semicolon after nothing but spaces.
-/

namespace SourceLocator

open Text

/-- What may stand between the package and the end of a declaration. -/
inductive Closing where
  | anything
  | exact
deriving DecidableEq

/-- Whether a text closes a declaration. -/
def Closing.accepts : Closing → List Char → Bool
  | .anything, tail => tail.getLast? == some ';' && tail.all (· != '\n')
  | .exact, tail => tail.dropWhile isAsciiSpace == [';']

/-- What may follow the spaces at the front of a text, of which at least one is taken. -/
def afterSpaces : List Char → List (List Char)
  | [] => []
  | c :: cs => if isAsciiSpace c then cs :: afterSpaces cs else []

/-- Whether a line declares a package. -/
def declares (closing : Closing) (keyword package line : List Char) : Bool :=
  match dropFolded? keyword line with
  | none => false
  | some rest =>
    (afterSpaces rest).any fun rest =>
      match dropFolded? package rest with
      | none => false
      | some tail => closing.accepts tail

end SourceLocator
