import SourceLocator.Text.Quoted

/-!
# Flaws of a pattern

What can be wrong with a written pattern.  A `Flaw` is the cause and `Malformed` a cause with
the place where it was noticed; `Malformed.message` words it, with line and column when the
pattern has more than one line.  `Rejection` adds the three reasons that have no place: two
character sets asked for at once, a count with too many digits to be read, and one too large
to be kept.
-/

namespace SourceLocator.NamePattern

open Text

/-- The causes for which a pattern is malformed. -/
inductive Flaw where
  | unterminatedGroup
  | unbalancedParenthesis
  | unterminatedClass
  | unterminatedComment
  | unterminatedName (terminator : Char)
  | nothingToRepeat
  | multipleRepeat
  | boundsReversed
  | badRange (low high : List Char)
  | loneBackslash
  | badEscape (text : List Char)
  | incompleteEscape (text : List Char)
  | octalTooLarge (text : List Char)
  | missing (what : String)
  | unknownCharacter (name : List Char)
  | badGroupName (name : List Char)
  | unknownGroup (name : List Char)
  | redefinedGroup (name : List Char) (index earlier : Nat)
  | badGroupNumber
  | noSuchGroup (index : Nat)
  | openGroup
  | groupOfSameLookbehind
  | threeBranches
  | unknownExtension (text : List Char)
  | unexpectedEnd
  | unknownFlag
  | lateGlobalFlags
  | localeFlag
  | incompatibleFlags
  | characterSetTurnedOff
  | globalFlagTurnedOn
  | globalFlagTurnedOff
  | flagOnAndOff
  | lookbehindWidth
  | tooFarBehind
  | repeatInTemplate (operator : String)

/-- The wording of a cause. -/
def Flaw.message : Flaw → String
  | .unterminatedGroup => "missing ), unterminated subpattern"
  | .unbalancedParenthesis => "unbalanced parenthesis"
  | .unterminatedClass => "unterminated character set"
  | .unterminatedComment => "missing ), unterminated comment"
  | .unterminatedName t => "missing " ++ t.toString ++ ", unterminated name"
  | .nothingToRepeat => "nothing to repeat"
  | .multipleRepeat => "multiple repeat"
  | .boundsReversed => "min repeat greater than max repeat"
  | .badRange low high =>
    "bad character range " ++ String.ofList low ++ "-" ++ String.ofList high
  | .loneBackslash => "bad escape (end of pattern)"
  | .badEscape text => "bad escape " ++ String.ofList text
  | .incompleteEscape text => "incomplete escape " ++ String.ofList text
  | .octalTooLarge text =>
    "octal escape value " ++ String.ofList text ++ " outside of range 0-0o377"
  | .missing what => "missing " ++ what
  | .unknownCharacter name =>
    "undefined character name " ++ String.ofList (quotedChars name)
  | .badGroupName name =>
    "bad character in group name " ++ String.ofList (quotedChars name)
  | .unknownGroup name => "unknown group name " ++ String.ofList (quotedChars name)
  | .redefinedGroup name index earlier =>
    "redefinition of group name " ++ String.ofList (quotedChars name) ++ " as group "
      ++ toString index ++ "; was group " ++ toString earlier
  | .badGroupNumber => "bad group number"
  | .noSuchGroup index => "invalid group reference " ++ toString index
  | .openGroup => "cannot refer to an open group"
  | .groupOfSameLookbehind =>
    "cannot refer to group defined in the same lookbehind subpattern"
  | .threeBranches => "conditional backref with more than two branches"
  | .unknownExtension text => "unknown extension ?" ++ String.ofList text
  | .unexpectedEnd => "unexpected end of pattern"
  | .unknownFlag => "unknown flag"
  | .lateGlobalFlags => "global flags not at the start of the expression"
  | .localeFlag => "bad inline flags: cannot use 'L' flag with a str pattern"
  | .incompatibleFlags => "bad inline flags: flags 'a', 'u' and 'L' are incompatible"
  | .characterSetTurnedOff => "bad inline flags: cannot turn off flags 'a', 'u' and 'L'"
  | .globalFlagTurnedOn => "bad inline flags: cannot turn on global flag"
  | .globalFlagTurnedOff => "bad inline flags: cannot turn off global flag"
  | .flagOnAndOff => "bad inline flags: flag turned on and off"
  | .lookbehindWidth => "look-behind requires fixed-width pattern"
  | .tooFarBehind => "looks too much behind"
  | .repeatInTemplate operator => "internal: unsupported template operator " ++ operator

/-- A cause with the index of the character at which it was noticed, if it has one. -/
structure Malformed where
  flaw : Flaw
  position : Option Nat

/-- The line of a position, counted from one, and its column, counted from one as well. -/
def lineAndColumn (pattern : List Char) (position : Nat) : Nat × Nat :=
  let before := pattern.take position
  (before.count '\n' + 1, (before.reverse.takeWhile (· != '\n')).length + 1)

/-- The wording of what is wrong with a pattern, and where. -/
def Malformed.message (pattern : List Char) (m : Malformed) : String :=
  match m.position with
  | none => m.flaw.message
  | some position =>
    let place := m.flaw.message ++ " at position " ++ toString position
    if '\n' ∈ pattern then
      let (line, column) := lineAndColumn pattern position
      place ++ " (line " ++ toString line ++ ", column " ++ toString column ++ ")"
    else place

/-- Why a pattern is not accepted. -/
inductive Rejection where
  | malformed (m : Malformed)
  | twoCharacterSets
  /-- A count is written with that many digits. -/
  | countTooLong (digits : Nat)
  | countTooLarge

end SourceLocator.NamePattern
