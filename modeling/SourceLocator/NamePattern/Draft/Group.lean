import SourceLocator.NamePattern.Draft.Escape
import SourceLocator.Text.Ascii
import SourceLocator.Text.Blank

/-!
# Groups and flags

What follows an opening parenthesis: the kinds of groups, the names of groups and of
characters, the flags of a group or of the whole pattern, and the closing parenthesis that
turns the frame of a group into an item.
-/

namespace SourceLocator.NamePattern

open Text

/-- A character of a number as it is written in ASCII: digits of any script stand for digits,
and blanks for spaces. -/
def numeral (c : Char) : Char :=
  if c.toNat < 0x80 then c
  else if isBlank c then ' '
  else ((decimalDigit? c).map fun d => Char.ofNat ('0'.toNat + d)).getD c

/-- The number a text writes in decimal digits, with blanks around it, a sign and single
underscores between digits allowed; `none` when it writes none or a negative one, or has too
many digits. -/
def groupNumber? (name : List Char) : Option Nat :=
  match (name.map numeral).dropWhile isAsciiSpace with
  | '-' :: rest => (digits? rest).filter (· == 0)
  | '+' :: rest => digits? rest
  | rest => digits? rest
where
  digits? (rest : List Char) : Option Nat :=
    let body := (rest.reverse.dropWhile isAsciiSpace).reverse
    let parts := body.splitOn '_'
    if parts.all (fun part => !part.isEmpty && part.all Char.isDigit)
        && parts.flatten.length ≤ longestNumber then
      some (numberIn 10 parts.flatten)
    else none

/-- One more than the greatest number a group can have. -/
private def groupBound : Nat := 1073741823

/-- The greatest number of characters that a test of what lies behind can go back. -/
private def farthestBehind : Nat := 4294967295

/-- The flag of a letter. -/
def flagOf? : Char → Option Flag
  | 'i' => some .ignoreCase
  | 'm' => some .multiline
  | 's' => some .dotAll
  | 'x' => some .verbose
  | 'a' => some .ascii
  | 'u' => some .unicode
  | 't' => some .template
  | _ => none

/-- Whether a flag chooses the set of characters that letters are taken from. -/
def Flag.isCharacterSet : Flag → Bool
  | .ascii | .unicode => true
  | _ => false

/-- The character that ends a name. -/
def NameUse.terminator : NameUse → Char
  | .character _ _ => '}'
  | .group _ => '>'
  | .again | .choice _ => ')'

/-- What a name is called when it is missing. -/
def NameUse.what : NameUse → String
  | .character _ _ => "character name"
  | _ => "group name"

namespace Draft

/-- Whether nothing of the pattern has been read but flags and blanks. -/
def atStart (s : Draft) : Bool :=
  s.outer.isEmpty && s.frame.alternatives.isEmpty && s.frame.items.isEmpty

/-- Opens a group that is no capture, inside which blanks are skipped as around it. -/
def enterPlain (s : Draft) (opening : Opening) (start : Nat) : Draft :=
  s.enter opening start s.frame.verbose

/-- Opens a test of what lies behind. -/
def enterBehind (s : Draft) (negated : Bool) (start : Nat) : Draft :=
  let s' := s.enterPlain (.behind negated s.behindFrom.isNone) start
  { s' with behindFrom := s.behindFrom <|> some s.nextGroup }

/-- Opens a group that adjusts the flags. -/
def enterScoped (s : Draft) (on off : List Flag) (start : Nat) : Draft :=
  s.enter (.scoped on off) start ((s.frame.verbose || .verbose ∈ on) && .verbose ∉ off)

/-- Turns a flag on, of which at most one may choose a set of characters. -/
def turnOn (s : Draft) (start : Nat) (on : List Flag) (flag : Flag) (position : Nat) :
    Except Rejection Draft :=
  if flag.isCharacterSet && on.any (fun other => other.isCharacterSet && other != flag) then
    flawed .incompatibleFlags position
  else .ok (s.await (.flagsOn start (flag :: on)))

/-- Turns a flag off, which may not choose a set of characters. -/
def turnOff (s : Draft) (start : Nat) (on off : List Flag) (flag : Flag) (position : Nat) :
    Except Rejection Draft :=
  if flag.isCharacterSet then flawed .characterSetTurnedOff position
  else .ok (s.await (.flagsOff start on (flag :: off)))

/-- Sets flags for the whole pattern. -/
def setGlobal (s : Draft) (start : Nat) (on : List Flag) : Except Rejection Draft :=
  if !s.atStart then flawed .lateGlobalFlags start
  else
    let flags := on ++ s.flags
    .ok { s with
      flags := flags
      frame := { s.frame with verbose := .verbose ∈ flags }
      pending := .item }

/-- Reads a token after the first flag of a group. -/
def readFlagOn (s : Draft) (start : Nat) (on : List Flag) (t : Token) :
    Except Rejection Draft :=
  if t.is ')' then s.setGlobal start on
  else if t.is ':' then
    if .template ∈ on then flawed .globalFlagTurnedOn t.start
    else .ok (s.enterScoped on [] start)
  else if t.is '-' then
    if .template ∈ on then flawed .globalFlagTurnedOn t.start
    else .ok (s.await (.flagsOff start on []))
  else if t.is 'L' then flawed .localeFlag t.stop
  else
    match t.char?.bind flagOf? with
    | some flag => s.turnOn start on flag t.stop
    | none =>
      if (t.charIf? isLetter).isSome then flawed .unknownFlag t.start
      else flawed (.missing "-, : or )") t.start

/-- Reads a token after the dash among the flags of a group. -/
def readFlagOff (s : Draft) (start : Nat) (on off : List Flag) (t : Token) :
    Except Rejection Draft :=
  if t.is ':' && !off.isEmpty then
    if .template ∈ off then flawed .globalFlagTurnedOff t.start
    else if on.any (· ∈ off) then flawed .flagOnAndOff t.start
    else .ok (s.enterScoped on off start)
  else if t.is 'L' then flawed .characterSetTurnedOff t.stop
  else
    match t.char?.bind flagOf? with
    | some flag => s.turnOff start on off flag t.stop
    | none =>
      if (t.charIf? isLetter).isSome then flawed .unknownFlag t.start
      else flawed (.missing (if off.isEmpty then "flag" else ":")) t.start

/-- Reads the token after a parenthesis and a question mark. -/
def readGroupKind (s : Draft) (start : Nat) (t : Token) : Except Rejection Draft :=
  match t.char? with
  | some 'P' => .ok (s.await (.groupNamed start))
  | some ':' => .ok (s.enterScoped [] [] start)
  | some '#' => .ok (s.await (.comment start))
  | some '=' => .ok (s.enterPlain (.ahead false) start)
  | some '!' => .ok (s.enterPlain (.ahead true) start)
  | some '<' => .ok (s.await (.groupBehind start))
  | some '(' => .ok (s.await (.name (.choice start) t.stop []))
  | some '>' => .ok (s.enterPlain .atomic start)
  | some '-' => .ok (s.await (.flagsOff start [] []))
  | some 'L' => flawed .localeFlag t.stop
  | c =>
    match c.bind flagOf? with
    | some flag => s.turnOn start [] flag t.stop
    | none => flawed (.unknownExtension t.text) (start + 1)

/-- Reads the token after the letter of groups that have to do with names. -/
def readGroupNamed (s : Draft) (start : Nat) (t : Token) : Except Rejection Draft :=
  if t.is '<' then .ok (s.await (.name (.group start) t.stop []))
  else if t.is '=' then .ok (s.await (.name .again t.stop []))
  else flawed (.unknownExtension ('P' :: t.text)) (start + 1)

/-- Reads the token that tells what is tested to lie behind. -/
def readGroupBehind (s : Draft) (start : Nat) (t : Token) : Except Rejection Draft :=
  if t.is '=' then .ok (s.enterBehind false start)
  else if t.is '!' then .ok (s.enterBehind true start)
  else flawed (.unknownExtension ('<' :: t.text)) (start + 1)

/-- Opens a choice by a group, which is told by its name or its number. -/
def enterChoice (s : Draft) (start : Nat) (name : List Char) (nameStart position : Nat) :
    Except Rejection Draft := do
  let (index, s) ←
    if isIdentifier name then
      match s.names.lookup name with
      | some index => .ok (index, s)
      | none => flawed (.unknownGroup name) nameStart
    else
      match groupNumber? name with
      | none => flawed (.badGroupName name) nameStart
      | some 0 => flawed .badGroupNumber nameStart
      | some index =>
        if groupBound ≤ index then flawed (.noSuchGroup index) nameStart
        else if (s.choices.lookup index).isSome then .ok (index, s)
        else .ok (index, { s with choices := s.choices ++ [(index, nameStart)] })
  s.checkBehind index position
  .ok (s.enterPlain (.choice index none) start)

/-- Ends a name, whose first character is at `nameStart`. -/
def closeName (s : Draft) (use : NameUse) (nameStart : Nat) (name : List Char)
    (position : Nat) : Except Rejection Draft :=
  match use with
  | .character start p =>
    match namedPoint? name with
    | some n => s.place p (.point n) ['\\', 'N'] position
    | none => flawed (.unknownCharacter name) start
  | .group start =>
    if !isIdentifier name then flawed (.badGroupName name) nameStart
    else s.enterCapture (some name) start nameStart
  | .again =>
    if !isIdentifier name then flawed (.badGroupName name) nameStart
    else
      match s.names.lookup name with
      | none => flawed (.unknownGroup name) nameStart
      | some index =>
        if !s.isClosed index then flawed .openGroup nameStart
        else (s.checkBehind index position).map fun _ => s.push (.again index)
  | .choice start => s.enterChoice start name nameStart position

/-- Reads a token of a name, which is collected backwards. -/
def readName (s : Draft) (use : NameUse) (nameStart : Nat) (read : List Char) (t : Token) :
    Except Rejection Draft :=
  if t.is use.terminator then
    if read.isEmpty then flawed (.missing use.what) t.start
    else s.closeName use nameStart read.reverse t.stop
  else .ok (s.await (.name use nameStart (t.text.reverse ++ read)))

/-- The flaw of a test of what lies behind, which has to know how many characters to go back:
it cannot go back further than `farthestBehind`, nor by one number or another. -/
def widthFlaw? (least greatest : Nat) : Option Flaw :=
  if farthestBehind < least then some .tooFarBehind
  else if least = greatest then none
  else some .lookbehindWidth

/-- The flaw of the first test of what lies behind, once one that begins at `start` has been
read.  Tests inside it began later and were read before. -/
def behindFlawWith (s : Draft) (start : Nat) : Option Flaw → Option (Nat × Flaw)
  | none => s.behindFlaw
  | some flaw => if s.behindFlaw.any (·.1 < start) then s.behindFlaw else some (start, flaw)

/-- The width of what a frame holds. -/
def bodyWidth (s : Draft) (p : Expr) : Nat × Nat :=
  p.width fun index => (s.closed.lookup index).getD (0, 0)

/-- Ends the open group as an item of the group around it. -/
def leave (s : Draft) (around : Frame) (outer : List Frame) : Draft :=
  let f := s.frame
  let s' := { s with frame := around, outer := outer }
  match f.opening with
  | .pattern => s'
  | .capture index =>
    { s' with closed := (index, s.bodyWidth f.body) :: s.closed }.push (.capture index f.body)
  | .scoped on off => s'.push (.scoped on off f.body)
  | .atomic => s'.push (.atomic f.body)
  | .ahead negated => s'.push (.ahead negated f.body)
  | .behind negated outermost =>
    let (least, greatest) := s.bodyWidth f.body
    { s' with
      behindFrom := if outermost then none else s.behindFrom
      behindFlaw := s.behindFlawWith f.start (widthFlaw? least greatest) }.push
        (.behind negated least f.body)
  | .choice index none => s'.push (.given index f.current .empty)
  | .choice index (some yes) => s'.push (.given index yes f.current)

/-- Ends an alternative of the open group. -/
def branch (s : Draft) (position : Nat) : Except Rejection Draft :=
  let f := s.frame
  match f.opening with
  | .choice index none =>
    .ok { s with
      frame := { f with opening := .choice index (some f.current), items := [] }
      pending := .item }
  | .choice _ (some _) => flawed .threeBranches position
  | _ =>
    .ok { s with
      frame := { f with alternatives := f.current :: f.alternatives, items := [] }
      pending := .item }

end Draft

end SourceLocator.NamePattern
