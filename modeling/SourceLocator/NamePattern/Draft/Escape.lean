import SourceLocator.NamePattern.Draft.Basic
import SourceLocator.NamePattern.Token
import SourceLocator.Text.CharacterName

/-!
# Escapes and classes

What a backslash means between the items of a pattern and inside a class, and how a class is
put together from single members and ranges.  `Draft.place` puts a finished character where
its escape stood; a range is closed by `Draft.closeRange`, which refuses ends that are no
single characters or that stand in the wrong order.
-/

namespace SourceLocator.NamePattern

open Text

/-- The code points of the control characters that have a letter of their own. -/
def controlPoint? : Char → Option Nat
  | 'a' => some 7
  | 'b' => some 8
  | 't' => some 9
  | 'n' => some 10
  | 'v' => some 11
  | 'f' => some 12
  | 'r' => some 13
  | _ => none

/-- The kinds of characters that have a letter of their own; a capital means the others. -/
def escapedKind? : Char → Option ClassItem
  | 'd' => some (.kind .digit false)
  | 'D' => some (.kind .digit true)
  | 's' => some (.kind .space false)
  | 'S' => some (.kind .space true)
  | 'w' => some (.kind .word false)
  | 'W' => some (.kind .word true)
  | _ => none

/-- The anchors that have a letter of their own. -/
def escapedAnchor? : Char → Option Anchor
  | 'A' => some .textStart
  | 'b' => some .boundary
  | 'B' => some .notBoundary
  | 'Z' => some .textEnd
  | _ => none

/-- The number of hexadecimal digits that a letter asks for. -/
def hexDigitsWanted? : Char → Option Nat
  | 'x' => some 2
  | 'u' => some 4
  | 'U' => some 8
  | _ => none

/-- Whether a character is an octal digit. -/
def isOctal (c : Char) : Bool := '0' ≤ c && c ≤ '7'

/-- Whether a character is a hexadecimal digit. -/
def isHex (c : Char) : Bool :=
  c.isDigit || ('a' ≤ c && c ≤ 'f') || ('A' ≤ c && c ≤ 'F')

/-- The value of a digit of any base up to sixteen. -/
def digitValue (c : Char) : Nat :=
  if c.isDigit then c.toNat - '0'.toNat else c.toLower.toNat - 'a'.toNat + 10

/-- The number written by digits in a base. -/
def numberIn (base : Nat) (digits : List Char) : Nat :=
  digits.foldl (fun n d => base * n + digitValue d) 0

/-- The most digits with which a number may be written. -/
def longestNumber : Nat := 4300

namespace Draft

/-- Ends a range at a second member; `position` is behind it. -/
def closeRange (s : Draft) (d : ClassDraft) (first last : ClassItem)
    (firstText lastText : List Char) (position : Nat) : Except Rejection Draft :=
  let refused : Except Rejection Draft :=
    flawed (.badRange firstText lastText)
      (position - (firstText.length + 1 + lastText.length))
  match first, last with
  | .point low, .point high =>
    if high < low then refused
    else .ok (s.await (.classMember { d with items := .range low high :: d.items }))
  | _, _ => refused

/-- Puts what an escape means where the escape stood. -/
def place (s : Draft) (place : Place) (code : ClassItem) (text : List Char) (position : Nat) :
    Except Rejection Draft :=
  match place with
  | .item =>
    match code with
    | .point n => .ok (s.push (.point n))
    | code => .ok (s.push (.oneOf false [code]))
  | .member d => .ok (s.await (.rangeStart d code text))
  | .rangeEnd d first firstText => s.closeRange d first code firstText text position

/-- Begins an escape that is written the same way everywhere: a control character, a kind
of characters, hexadecimal digits or a name; a letter without a meaning is refused, and
anything else stands for itself. -/
def escapeAnywhere (s : Draft) (p : Place) (t : Token) (c : Char) : Except Rejection Draft :=
  match controlPoint? c, escapedKind? c, hexDigitsWanted? c with
  | some n, _, _ => s.place p (.point n) t.text t.stop
  | _, some code, _ => s.place p code t.text t.stop
  | _, _, some wanted => .ok (s.await (.hex t.start p c [] wanted))
  | none, none, none =>
    if c == 'N' then .ok (s.await (.named t.start p))
    else if c.isAlphanum then flawed (.badEscape t.text) t.start
    else s.place p (.point c.toNat) t.text t.stop

/-- Begins the escape of a token between items. -/
def escapeItem (s : Draft) (t : Token) (c : Char) : Except Rejection Draft :=
  match escapedAnchor? c with
  | some a => .ok (s.push (.anchor a))
  | none =>
    if c == '0' then .ok (s.await (.octal t.start .item ['0'] 2))
    else if c.isDigit then .ok (s.await (.number t.start [c]))
    else s.escapeAnywhere .item t c

/-- Begins the escape of a token inside a class. -/
def escapeMember (s : Draft) (p : Place) (t : Token) (c : Char) : Except Rejection Draft :=
  if isOctal c then .ok (s.await (.octal t.start p [c] 2))
  else s.escapeAnywhere p t c

/-- Ends an escape by hexadecimal digits.  No character has a code point beyond U+10FFFF. -/
def closeHex (s : Draft) (start : Nat) (p : Place) (letter : Char) (digits : List Char)
    (position : Nat) : Except Rejection Draft :=
  let n := numberIn 16 digits
  if 0x10FFFF < n then flawed (.badEscape ('\\' :: letter :: digits)) start
  else s.place p (.point n) ['\\', letter] position

/-- Ends an escape by octal digits, which reach up to 377. -/
def closeOctal (s : Draft) (start : Nat) (p : Place) (digits : List Char) (position : Nat) :
    Except Rejection Draft :=
  let n := numberIn 8 digits
  if 0o377 < n then flawed (.octalTooLarge ('\\' :: digits)) start
  else s.place p (.point n) ('\\' :: digits.take 1) position

/-- Ends a number after a backslash as a reference to a closed group. -/
def closeNumber (s : Draft) (start : Nat) (digits : List Char) (position : Nat) :
    Except Rejection Draft :=
  let index := numberIn 10 digits
  if s.nextGroup ≤ index then flawed (.noSuchGroup index) (start + 1)
  else if !s.isClosed index then flawed .openGroup start
  else (s.checkBehind index position).map fun _ => s.push (.again index)

/-- Adds a member to a class. -/
def addMember (s : Draft) (d : ClassDraft) (code : ClassItem) : Draft :=
  s.await (.classMember { d with items := code :: d.items })

/-- Ends a class. -/
def closeClass (s : Draft) (d : ClassDraft) : Draft :=
  s.push (.oneOf d.negated d.items.reverse)

/-- Reads a token where a member of a class stands. -/
def readMember (s : Draft) (d : ClassDraft) (t : Token) : Except Rejection Draft :=
  match t.escaped?, t.char? with
  | some c, _ => s.escapeMember (.member d) t c
  | none, some c =>
    if c == ']' && !d.items.isEmpty then .ok (s.closeClass d)
    else .ok (s.await (.rangeStart d (.point c.toNat) t.text))
  | none, none => .ok s

/-- Reads the token after the dash of a range; at a closing bracket the dash was a member. -/
def readRangeEnd (s : Draft) (d : ClassDraft) (first : ClassItem) (firstText : List Char)
    (t : Token) : Except Rejection Draft :=
  match t.escaped?, t.char? with
  | some c, _ => s.escapeMember (.rangeEnd d first firstText) t c
  | none, some c =>
    if c == ']' then
      .ok (s.closeClass { d with items := .point '-'.toNat :: first :: d.items })
    else s.closeRange d first (.point c.toNat) firstText t.text t.stop
  | none, none => .ok s

end Draft

end SourceLocator.NamePattern
