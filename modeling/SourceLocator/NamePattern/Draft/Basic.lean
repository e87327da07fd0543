import SourceLocator.NamePattern.Expr
import SourceLocator.NamePattern.Flaw

/-!
# Drafts of an expression

While a pattern is read, a `Draft` holds what has been read: the group that is open now and
the ones around it, each a `Frame` with its finished alternatives and the items of the
current one, and the `Pending` construct that the next token may continue.  The operations
here extend a draft by an item, an alternative or a group.
-/

namespace SourceLocator.NamePattern

/-- What the parenthesis of a frame opened. -/
inductive Opening where
  | pattern
  | capture (index : Nat)
  | scoped (on off : List Flag)
  | atomic
  | ahead (negated : Bool)
  /-- `outermost` when no other test of what lies behind is around it. -/
  | behind (negated outermost : Bool)
  /-- A choice by a group, with the first branch once it is read. -/
  | choice (index : Nat) (yes : Option Expr)

/-- An open group: where it starts, whether blanks are skipped inside, its finished
alternatives and the items of the current one, each list with the last first. -/
structure Frame where
  opening : Opening
  start : Nat
  verbose : Bool
  alternatives : List Expr
  items : List Expr

/-- The expression of the alternative that is being read. -/
def Frame.current (f : Frame) : Expr :=
  Expr.ofSequence f.items.reverse

/-- The expression of all alternatives. -/
def Frame.body (f : Frame) : Expr :=
  match f.alternatives.reverse with
  | [] => f.current
  | p :: ps => Expr.ofAlternatives p (ps ++ [f.current])

/-- A class that is being read, its items with the last first. -/
structure ClassDraft where
  start : Nat
  negated : Bool
  items : List ClassItem

/-- Where an escape stands: between the items of a pattern, as a member of a class, or as
the end of a range that starts with the given member. -/
inductive Place where
  | item
  | member (d : ClassDraft)
  | rangeEnd (d : ClassDraft) (first : ClassItem) (text : List Char)

/-- What a name in a pattern is for. -/
inductive NameUse where
  /-- The name of a character. -/
  | character (start : Nat) (place : Place)
  /-- The name of a group that opens at `start`. -/
  | group (start : Nat)
  /-- A group to be matched once more. -/
  | again
  /-- The group that a choice at `start` depends on. -/
  | choice (start : Nat)

/-- The construct that the next token may continue.  A `start` is where it begins. -/
inductive Pending where
  /-- Nothing: the next token begins an item. -/
  | item
  /-- An iteration of the last item, whose greed the next token may tell. -/
  | iterated (min : Nat) (max : Option Nat)
  /-- The bounds of an iteration: digits and, after a comma, more digits. -/
  | bounds (start : Nat) (low : List Char) (high : Option (List Char))
  /-- An escape by a fixed number of hexadecimal digits. -/
  | hex (start : Nat) (place : Place) (letter : Char) (digits : List Char) (wanted : Nat)
  /-- An escape by octal digits, of which `more` may follow. -/
  | octal (start : Nat) (place : Place) (digits : List Char) (more : Nat)
  /-- A number after a backslash: the number of a group, unless it has three octal digits. -/
  | number (start : Nat) (digits : List Char)
  /-- The name of a character is to follow in braces. -/
  | named (start : Nat) (place : Place)
  /-- A name, up to the character that ends it. -/
  | name (use : NameUse) (start : Nat) (read : List Char)
  /-- A bracket, which a circumflex may follow. -/
  | classOpen (start : Nat)
  /-- A class in which a member is to follow. -/
  | classMember (d : ClassDraft)
  /-- A member, which a dash may make the start of a range. -/
  | rangeStart (d : ClassDraft) (first : ClassItem) (text : List Char)
  /-- The dash of a range. -/
  | rangeEnd (d : ClassDraft) (first : ClassItem) (text : List Char)
  /-- A parenthesis, which a question mark may follow. -/
  | groupOpen (start : Nat)
  /-- A parenthesis with a question mark. -/
  | groupKind (start : Nat)
  /-- A group that has to do with a name. -/
  | groupNamed (start : Nat)
  /-- A test of what lies behind. -/
  | groupBehind (start : Nat)
  /-- A comment in parentheses. -/
  | comment (start : Nat)
  /-- A comment up to the end of the line. -/
  | remark
  /-- Flags that are turned on. -/
  | flagsOn (start : Nat) (on : List Flag)
  /-- Flags that are turned off, after those turned on. -/
  | flagsOff (start : Nat) (on off : List Flag)

/-- What has been read of a pattern. -/
structure Draft where
  pending : Pending
  /-- The open group. -/
  frame : Frame
  /-- The groups around it, innermost first. -/
  outer : List Frame
  /-- The number of the next group. -/
  nextGroup : Nat
  /-- The groups that are closed, with their widths. -/
  closed : List (Nat × Nat × Nat)
  /-- The groups that have names. -/
  names : List (List Char × Nat)
  /-- The numbers of groups that choices depend on, with their first places. -/
  choices : List (Nat × Nat)
  /-- The number of the next group when the outermost open test of what lies behind began. -/
  behindFrom : Option Nat
  /-- The flags set for the whole pattern. -/
  flags : List Flag
  /-- The flaw of the first test of what lies behind that has one, with the place where the
  test begins. -/
  behindFlaw : Option (Nat × Flaw)

/-- Ends the reading with a flaw at a place. -/
def flawed {α : Type} (flaw : Flaw) (position : Nat) : Except Rejection α :=
  .error (.malformed ⟨flaw, some position⟩)

namespace Draft

/-- The draft of a pattern of which nothing has been read, with flags set from outside. -/
def start (flags : List Flag) : Draft where
  pending := .item
  frame := ⟨.pattern, 0, .verbose ∈ flags, [], []⟩
  outer := []
  nextGroup := 1
  closed := []
  names := []
  choices := []
  behindFrom := none
  flags := flags
  behindFlaw := none

/-- Waits for the next token in a given construct. -/
def await (s : Draft) (pending : Pending) : Draft :=
  { s with pending := pending }

/-- Adds an item to the current alternative. -/
def push (s : Draft) (p : Expr) : Draft :=
  { s with frame := { s.frame with items := p :: s.frame.items }, pending := .item }

/-- Opens a group inside the current one. -/
def enter (s : Draft) (opening : Opening) (start : Nat) (verbose : Bool) : Draft :=
  { s with
    frame := ⟨opening, start, verbose, [], []⟩
    outer := s.frame :: s.outer
    pending := .item }

/-- Whether a group is closed, so that it can be referred to. -/
def isClosed (s : Draft) (index : Nat) : Bool :=
  (s.closed.lookup index).isSome

/-- Refuses a reference from inside a test of what lies behind to a group that is not
closed or that began inside the test. -/
def checkBehind (s : Draft) (index position : Nat) : Except Rejection Unit :=
  match s.behindFrom with
  | none => .ok ()
  | some first =>
    if !s.isClosed index then flawed .openGroup position
    else if first ≤ index then flawed .groupOfSameLookbehind position
    else .ok ()

/-- Opens a group that remembers what it matches, under a name if it has one, which starts
at `nameStart`. -/
def enterCapture (s : Draft) (name : Option (List Char)) (start nameStart : Nat) :
    Except Rejection Draft :=
  let index := s.nextGroup
  let opened := { s.enter (.capture index) start s.frame.verbose with nextGroup := index + 1 }
  match name with
  | none => .ok opened
  | some name =>
    match s.names.lookup name with
    | some earlier => flawed (.redefinedGroup name index earlier) nameStart
    | none => .ok { opened with names := (name, index) :: opened.names }

end Draft

end SourceLocator.NamePattern
