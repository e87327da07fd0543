import SourceLocator.NamePattern.Draft.Group

/-!
# Reading a pattern token by token

`Draft.settle` ends a pending construct that the next token does not continue, and
`Draft.read` reads the token itself; `Draft.step` does the one and then the other.
`Draft.finish` ends the reading at the end of the pattern.
-/

namespace SourceLocator.NamePattern

open Text

/-- The greatest count an iteration can have is one less than this. -/
def countBound : Nat := 4294967295

/-- The count that digits write, if they can be read and it can be kept. -/
def count (digits : List Char) : Except Rejection Nat :=
  if longestNumber < digits.length then .error (.countTooLong digits.length)
  else if countBound ≤ numberIn 10 digits then .error .countTooLarge
  else .ok (numberIn 10 digits)

namespace Draft

/-- Iterates the last item; an anchor cannot be repeated, nor can an iteration. -/
def iterate (s : Draft) (min : Nat) (max : Option Nat) (position : Nat) :
    Except Rejection Draft :=
  match s.frame.items with
  | [] | .anchor _ :: _ => flawed .nothingToRepeat position
  | .iterate _ _ _ _ :: _ => flawed .multipleRepeat position
  | _ => .ok (s.await (.iterated min max))

/-- Replaces the last item by an iteration of it. -/
def closeIterated (s : Draft) (min : Nat) (max : Option Nat) (greed : Greed) : Draft :=
  match s.frame.items with
  | [] => s.await .item
  | p :: items =>
    { s with frame := { s.frame with items := items } }.push (.iterate min max greed p)

/-- The characters of bounds that turned out to be none stand for themselves. -/
def spillBounds (s : Draft) (low : List Char) (high : Option (List Char)) : Draft :=
  let written := '{' :: (low.reverse ++ (high.map fun h => ',' :: h.reverse).getD [])
  written.foldl (fun s c => s.push (.point c.toNat)) s

/-- Ends the bounds of an iteration, which were written backwards. -/
def closeBounds (s : Draft) (start : Nat) (low : List Char) (high : Option (List Char)) :
    Except Rejection Draft :=
  match count low.reverse with
  | .error r => .error r
  | .ok least =>
    if (high.getD low).isEmpty then s.iterate least none start
    else
      match count (high.getD low).reverse with
      | .error r => .error r
      | .ok greatest =>
        if greatest < least then flawed .boundsReversed (start + 1)
        else s.iterate least (some greatest) start

/-- Whether a token continues the bounds of an iteration. -/
def continuesBounds (low : List Char) (high : Option (List Char)) (t : Token) : Bool :=
  (t.charIf? Char.isDigit).isSome || (t.is ',' && high.isNone) ||
    (t.is '}' && (!low.isEmpty || high.isSome))

/-- Ends a pending construct that cannot be continued by the next token, which is absent at
the end of the pattern and starts at `position`. -/
def settleOnce (s : Draft) (t : Option Token) (position : Nat) : Except Rejection Draft :=
  let continuedBy (test : Char → Bool) : Bool := (t.bind (·.charIf? test)).isSome
  match s.pending with
  | .iterated min max =>
    if continuedBy (fun c => c == '?' || c == '+') then .ok s
    else .ok (s.closeIterated min max .greedy)
  | .bounds _ low high =>
    if t.any (continuesBounds low high) then .ok s else .ok (s.spillBounds low high)
  | .hex start _ letter digits _ =>
    if continuedBy isHex then .ok s
    else flawed (.incompleteEscape ('\\' :: letter :: digits)) start
  | .octal start p digits _ =>
    if continuedBy isOctal then .ok s else s.closeOctal start p digits position
  | .number start digits =>
    if continuedBy (if digits.length = 1 then Char.isDigit
        else fun c => digits.all isOctal && isOctal c) then .ok s
    else s.closeNumber start digits position
  | .named _ _ =>
    if continuedBy (· == '{') then .ok s else flawed (.missing "\x7b") position
  | .classOpen start =>
    if continuedBy (· == '^') then .ok s
    else .ok (s.await (.classMember ⟨start, false, []⟩))
  | .rangeStart d first _ =>
    if continuedBy (· == '-') then .ok s else .ok (s.addMember d first)
  | .groupOpen start =>
    if continuedBy (· == '?') then .ok s else s.enterCapture none start start
  | _ => .ok s

/-- Ends the pending constructs that the next token does not continue.  An escape in a class
leaves a member, which may be pending in turn. -/
def settle (s : Draft) (t : Option Token) (position : Nat) : Except Rejection Draft := do
  (← s.settleOnce t position).settleOnce t position

/-- Reads a token that begins an item. -/
def readItem (s : Draft) (t : Token) : Except Rejection Draft :=
  match t.escaped?, t.char? with
  | some c, _ => s.escapeItem t c
  | none, some c =>
    if c == '|' then s.branch t.start
    else if c == ')' then
      match s.outer with
      | [] => flawed .unbalancedParenthesis t.start
      | around :: outer => .ok (s.leave around outer)
    else if s.frame.verbose && isAsciiSpace c then .ok s
    else if s.frame.verbose && c == '#' then .ok (s.await .remark)
    else if c == '[' then .ok (s.await (.classOpen t.start))
    else if c == '(' then .ok (s.await (.groupOpen t.start))
    else if c == '{' then .ok (s.await (.bounds t.start [] none))
    else if c == '*' then s.iterate 0 none t.start
    else if c == '+' then s.iterate 1 none t.start
    else if c == '?' then s.iterate 0 (some 1) t.start
    else if c == '.' then .ok (s.push .any)
    else if c == '^' then .ok (s.push (.anchor .lineStart))
    else if c == '$' then .ok (s.push (.anchor .lineEnd))
    else .ok (s.push (.point c.toNat))
  | none, none => .ok s

/-- Reads a token that continues the bounds of an iteration. -/
def readBounds (s : Draft) (start : Nat) (low : List Char) (high : Option (List Char))
    (t : Token) : Except Rejection Draft :=
  if t.is '}' then s.closeBounds start low high
  else if t.is ',' then .ok (s.await (.bounds start low (some [])))
  else
    match high with
    | none => .ok (s.await (.bounds start (t.text ++ low) none))
    | some h => .ok (s.await (.bounds start low (some (t.text ++ h))))

/-- Reads a digit of a hexadecimal escape. -/
def readHex (s : Draft) (start : Nat) (p : Place) (letter : Char) (digits : List Char)
    (wanted : Nat) (t : Token) : Except Rejection Draft :=
  let digits := digits ++ t.text
  if digits.length = wanted then s.closeHex start p letter digits t.stop
  else .ok (s.await (.hex start p letter digits wanted))

/-- Reads a digit of an octal escape. -/
def readOctal (s : Draft) (start : Nat) (p : Place) (digits : List Char) (more : Nat)
    (t : Token) : Except Rejection Draft :=
  if more ≤ 1 then s.closeOctal start p (digits ++ t.text) t.stop
  else .ok (s.await (.octal start p (digits ++ t.text) (more - 1)))

/-- Reads a further digit of a number after a backslash; the third one makes it octal. -/
def readNumber (s : Draft) (start : Nat) (digits : List Char) (t : Token) :
    Except Rejection Draft :=
  if digits.length = 2 then s.closeOctal start .item (digits ++ t.text) t.stop
  else .ok (s.await (.number start (digits ++ t.text)))

/-- Reads a token that the pending construct takes. -/
def read (s : Draft) (t : Token) : Except Rejection Draft :=
  match s.pending with
  | .item => s.readItem t
  | .iterated min max =>
    .ok (s.closeIterated min max (if t.is '?' then .frugal else .possessive))
  | .bounds start low high => s.readBounds start low high t
  | .hex start p letter digits wanted => s.readHex start p letter digits wanted t
  | .octal start p digits more => s.readOctal start p digits more t
  | .number start digits => s.readNumber start digits t
  | .named start p => .ok (s.await (.name (.character start p) t.stop []))
  | .name use nameStart read => s.readName use nameStart read t
  | .classOpen start => .ok (s.await (.classMember ⟨start, true, []⟩))
  | .classMember d => s.readMember d t
  | .rangeStart d first text => .ok (s.await (.rangeEnd d first text))
  | .rangeEnd d first text => s.readRangeEnd d first text t
  | .groupOpen start => .ok (s.await (.groupKind start))
  | .groupKind start => s.readGroupKind start t
  | .groupNamed start => s.readGroupNamed start t
  | .groupBehind start => s.readGroupBehind start t
  | .comment _ => .ok (if t.is ')' then s.await .item else s)
  | .remark => .ok (if t.is '\n' then s.await .item else s)
  | .flagsOn start on => s.readFlagOn start on t
  | .flagsOff start on off => s.readFlagOff start on off t

/-- Whether a token closes a parenthesis that was never opened. -/
def isUnbalanced (s : Draft) (t : Token) : Bool :=
  match s.pending with
  | .item => s.outer.isEmpty && t.is ')'
  | _ => false

/-- Whether a token would begin a third branch of a choice by a group. -/
def isThirdBranch (s : Draft) (t : Token) : Bool :=
  match s.pending, s.frame.opening with
  | .item, .choice _ (some _) => t.is '|'
  | _, _ => false

/-- Refuses flags that ask for two sets of characters at once. -/
def checkFlags (s : Draft) : Except Rejection Unit :=
  if .ascii ∈ s.flags ∧ .unicode ∈ s.flags then .error .twoCharacterSets else .ok ()

/-- Reads the next token, after ending what it does not continue.  Some tokens are refused
before what follows them is looked at. -/
def step (s : Draft) (t : Token) : Except Rejection Draft := do
  let s ← s.settle (some t) t.start
  if s.isUnbalanced t then
    s.checkFlags
    flawed .unbalancedParenthesis t.start
  else if t.beforeLoneBackslash && !s.isThirdBranch t then flawed .loneBackslash t.stop
  else s.read t

/-- Refuses constructs that the end of the pattern, at `position`, cuts off. -/
def checkEnd (s : Draft) (position : Nat) : Except Rejection Unit :=
  match s.pending with
  | .classMember d | .rangeEnd d _ _ => flawed .unterminatedClass d.start
  | .name use nameStart read =>
    if read.isEmpty then flawed (.missing use.what) position
    else flawed (.unterminatedName use.terminator) nameStart
  | .groupKind _ | .groupNamed _ | .groupBehind _ => flawed .unexpectedEnd position
  | .comment start => flawed .unterminatedComment start
  | .flagsOn _ _ => flawed (.missing "-, : or )") position
  | .flagsOff _ _ off => flawed (.missing (if off.isEmpty then "flag" else ":")) position
  | _ => if s.outer.isEmpty then .ok () else flawed .unterminatedGroup s.frame.start

/-- Refuses a choice by a group that the pattern does not have. -/
def checkChoices (s : Draft) : Except Rejection Unit :=
  match s.choices.find? (s.nextGroup ≤ ·.1) with
  | some (index, position) => flawed (.noSuchGroup index) position
  | none => .ok ()

/-- The word for an iteration that templates do not allow. -/
def operatorName : Greed → String
  | .greedy => "MAX_REPEAT"
  | .frugal => "MIN_REPEAT"
  | .possessive => "POSSESSIVE_REPEAT"

/-- Refuses what can be read but not be searched for. -/
def checkSearchable (s : Draft) (p : Expr) : Except Rejection Unit :=
  match if .template ∈ s.flags then p.firstGreed? else none with
  | some greed => .error (.malformed ⟨.repeatInTemplate (operatorName greed), none⟩)
  | none =>
    match s.behindFlaw with
    | some (_, flaw) => .error (.malformed ⟨flaw, none⟩)
    | none => .ok ()

/-- Ends the reading at the end of the pattern. -/
def finish (s : Draft) (position : Nat) : Except Rejection (Mode × Expr) := do
  let s ← s.settle none position
  s.checkEnd position
  s.checkFlags
  s.checkChoices
  s.checkSearchable s.frame.body
  .ok (⟨.ignoreCase ∈ s.flags, .multiline ∈ s.flags, .dotAll ∈ s.flags⟩, s.frame.body)

end Draft

/-- Reads a pattern, with the case of ASCII letters ignored. -/
def parse (pattern : List Char) : Except Rejection (Mode × Expr) := do
  if pattern = ['\\'] then flawed .loneBackslash 0
  else
    let s ← (tokens pattern 0).foldlM Draft.step (Draft.start [.ignoreCase, .ascii])
    s.finish pattern.length

end SourceLocator.NamePattern
