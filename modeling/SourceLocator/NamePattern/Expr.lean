/-!
# Pattern expressions

A name pattern is read into an `Expr`: single characters, classes, anchors, sequences and
alternatives, groups, iterations, and tests of what lies ahead or behind.  Characters are
code points, so that a pattern may name one that no text holds.  Letters are compared
under a `Mode`, which a scoped group adjusts for its body by the `Flag`s it turns on and off.
-/

namespace SourceLocator.NamePattern

/-- The switches a pattern can set, globally or for one group. -/
inductive Flag where
  | ignoreCase
  | multiline
  | dotAll
  | verbose
  | ascii
  | unicode
  | template
deriving DecidableEq

/-- How an expression is compared with a text: whether the case of ASCII letters counts,
whether lines have ends of their own, and whether the dot takes a line feed. -/
structure Mode where
  ignoreCase : Bool
  multiline : Bool
  dotAll : Bool
deriving DecidableEq

/-- The mode inside a group that turns some flags on and others off. -/
def Mode.adjust (m : Mode) (on off : List Flag) : Mode where
  ignoreCase := (m.ignoreCase || .ignoreCase ∈ on) && .ignoreCase ∉ off
  multiline := (m.multiline || .multiline ∈ on) && .multiline ∉ off
  dotAll := (m.dotAll || .dotAll ∈ on) && .dotAll ∉ off

/-- The kinds of characters that have an escape of their own. -/
inductive CharKind where
  | digit
  | space
  | word
deriving DecidableEq

/-- A member of a character class. -/
inductive ClassItem where
  | point (n : Nat)
  | range (low high : Nat)
  | kind (k : CharKind) (negated : Bool)
deriving DecidableEq

/-- Tests of a position that take no character. -/
inductive Anchor where
  | textStart
  | textEnd
  | lineStart
  | lineEnd
  | boundary
  | notBoundary
deriving DecidableEq

/-- How an iteration chooses among its counts: the most first, the fewest first, or the
most without ever giving one back. -/
inductive Greed where
  | greedy
  | frugal
  | possessive
deriving DecidableEq

/-- The expressions of name patterns. -/
inductive Expr where
  /-- The empty text. -/
  | empty
  /-- The character of a code point. -/
  | point (n : Nat)
  /-- Any character; a line feed only when the dot takes all. -/
  | any
  /-- A character inside a class, or outside it when `negated`. -/
  | oneOf (negated : Bool) (items : List ClassItem)
  /-- A test of the position. -/
  | anchor (a : Anchor)
  /-- One expression after the other. -/
  | seq (p q : Expr)
  /-- The first expression or, failing it, the second. -/
  | alt (p q : Expr)
  /-- A group that remembers what it matched under its number. -/
  | capture (index : Nat) (p : Expr)
  /-- A group that only adjusts the mode. -/
  | scoped (on off : List Flag) (p : Expr)
  /-- From `min` to `max` copies; `max` is absent when there is no bound. -/
  | iterate (min : Nat) (max : Option Nat) (greed : Greed) (p : Expr)
  /-- The first match of the body, for good. -/
  | atomic (p : Expr)
  /-- The body matches from here on, or does not when `negated`. -/
  | ahead (negated : Bool) (p : Expr)
  /-- The body matches the `width` characters before, or does not when `negated`. -/
  | behind (negated : Bool) (width : Nat) (p : Expr)
  /-- The text that a group matched, once more. -/
  | again (index : Nat)
  /-- The first expression if a group has matched, else the second. -/
  | given (index : Nat) (yes no : Expr)

namespace Expr

/-- The expressions of a list one after the other. -/
def ofSequence : List Expr → Expr
  | [] => .empty
  | [p] => p
  | p :: ps => .seq p (ofSequence ps)

/-- The first that matches of a first expression and those of a list. -/
def ofAlternatives (p : Expr) : List Expr → Expr
  | [] => p
  | q :: qs => .alt p (ofAlternatives q qs)

/-- The bound that stands for an unbounded count when widths are added up. -/
private def unboundedCount : Nat := 4294967295

/-- No width is counted beyond this one. -/
private def widestWidth : Nat := 18446744073709551616

/-- The least and the greatest number of characters an expression takes, given those of the
groups it refers to. -/
def width (groups : Nat → Nat × Nat) : Expr → Nat × Nat
  | .empty | .anchor _ | .ahead _ _ | .behind _ _ _ => (0, 0)
  | .point _ | .any | .oneOf _ _ => (1, 1)
  | .seq p q =>
    let (a, b) := p.width groups
    let (c, d) := q.width groups
    (min (a + c) widestWidth, min (b + d) widestWidth)
  | .alt p q =>
    let (a, b) := p.width groups
    let (c, d) := q.width groups
    (min a c, max b d)
  | .capture _ p | .scoped _ _ p | .atomic p => p.width groups
  | .iterate least most _ p =>
    let (a, b) := p.width groups
    (min (a * least) widestWidth, min (b * most.getD unboundedCount) widestWidth)
  | .again i => groups i
  | .given _ p q =>
    let (a, b) := p.width groups
    let (c, d) := q.width groups
    (min a c, max b d)

/-- The iteration that is written first, by its greed. -/
def firstGreed? : Expr → Option Greed
  | .empty | .anchor _ | .point _ | .any | .oneOf _ _ | .again _ => none
  | .seq p q | .alt p q | .given _ p q => p.firstGreed? <|> q.firstGreed?
  | .capture _ p | .scoped _ _ p | .atomic p | .ahead _ p | .behind _ _ p => p.firstGreed?
  | .iterate _ _ g _ => some g

end Expr

end SourceLocator.NamePattern
