import SourceLocator.Text.Quoted

/-!
# Why a path cannot be used

A `Cause` is the reason for which a file tree refuses an operation on a path, and a
`FileError` a cause with the path it is about.  `Cause.meansAbsent` singles out the causes
that a question about a path takes for the answer no.
-/

namespace SourceLocator

open Text

/-- The reasons for which an operation on a path is refused. -/
inductive Cause where
  | notFound
  | exists
  | notDirectory
  | isDirectory
  | invalidMove
  | nameTooLong
  | notEmpty
  | tooManyLinks
deriving DecidableEq

namespace Cause

/-- The number of a cause. -/
def number : Cause → Nat
  | .notFound => 2
  | .exists => 17
  | .notDirectory => 20
  | .isDirectory => 21
  | .invalidMove => 22
  | .nameTooLong => 36
  | .notEmpty => 39
  | .tooManyLinks => 40

/-- The wording of a cause. -/
def text : Cause → String
  | .notFound => "No such file or directory"
  | .exists => "File exists"
  | .notDirectory => "Not a directory"
  | .isDirectory => "Is a directory"
  | .invalidMove => "Invalid argument"
  | .nameTooLong => "File name too long"
  | .notEmpty => "Directory not empty"
  | .tooManyLinks => "Too many levels of symbolic links"

/-- Whether nothing is to be found at the path: a question whether something is there, or is
of some kind, is then answered by no instead of refused. -/
def meansAbsent : Cause → Bool
  | .notFound | .notDirectory | .tooManyLinks => true
  | _ => false

end Cause

/-- A cause with the path it is about, and the second path of a move. -/
structure FileError where
  cause : Cause
  path : String
  target : Option String := none
deriving DecidableEq

/-- The wording of a file error. -/
def FileError.message (e : FileError) : String :=
  "[Errno " ++ toString e.cause.number ++ "] " ++ e.cause.text ++ ": " ++ quoted e.path
    ++ (e.target.map fun target => " -> " ++ quoted target).getD ""

/-- What is said of a path that holds the character no path may hold. -/
def embeddedNul : String := "embedded null byte"

end SourceLocator
