import SourceLocator.NamePattern.Expr
import SourceLocator.Text.Ascii

/-!
# Matching a text against an expression

`Expr.run` searches for a match by backtracking: it is given what has to match after the
expression, as a continuation, and tries the ways in which the expression itself can match
in order of preference until the continuation succeeds.  Iterations are `times`, for the
copies that are required, followed by `most`, `fewest` or `allAtOnce` for the optional ones;
an optional copy that takes no character is the last one.  `Expr.matchesAll` asks for a
match of the whole text.
-/

namespace SourceLocator.NamePattern

open Text

/-- The lower-case code point of an ASCII capital, and any other code point itself. -/
def lowerPoint (n : Nat) : Nat :=
  if 65 ≤ n ∧ n ≤ 90 then n + 32 else n

/-- The upper-case code point of an ASCII small letter, and any other code point itself. -/
def upperPoint (n : Nat) : Nat :=
  if 97 ≤ n ∧ n ≤ 122 then n - 32 else n

/-- Whether a character is of a kind. -/
def CharKind.holds : CharKind → Char → Bool
  | .digit, c => c.isDigit
  | .space, c => isAsciiSpace c
  | .word, c => isAsciiWord c

/-- Whether a code point stands for a character under a mode. -/
def Mode.samePoint (m : Mode) (n : Nat) (c : Char) : Bool :=
  if m.ignoreCase then lowerPoint n == lowerPoint c.toNat else n == c.toNat

/-- Whether a character lies in a range; without regard to case, whether either of its
two cases does. -/
def Mode.inRange (m : Mode) (low high : Nat) (c : Char) : Bool :=
  if m.ignoreCase then within (lowerPoint c.toNat) || within (upperPoint (lowerPoint c.toNat))
  else within c.toNat
where
  within (n : Nat) : Bool := low ≤ n && n ≤ high

/-- Whether a class item holds a character. -/
def ClassItem.holds (m : Mode) (c : Char) : ClassItem → Bool
  | .point n => m.samePoint n c
  | .range low high => m.inRange low high c
  | .kind k negated => k.holds c != negated

/-- Whether a class holds a character. -/
def classHolds (m : Mode) (negated : Bool) (items : List ClassItem) (c : Char) : Bool :=
  items.any (·.holds m c) != negated

/-- Whether a word character stands at a position. -/
def isWordAt (text : Array Char) (i : Nat) : Bool :=
  text[i]?.any isAsciiWord

/-- Whether exactly one of the neighbours of a position is a word character. -/
def isBoundary (text : Array Char) (i : Nat) : Bool :=
  (0 < i && isWordAt text (i - 1)) != isWordAt text i

/-- Whether an anchor holds at a position.  The empty text has neither a word boundary nor
a place that is none. -/
def Anchor.holds (m : Mode) (text : Array Char) (i : Nat) : Anchor → Bool
  | .textStart => i == 0
  | .textEnd => i == text.size
  | .lineStart => i == 0 || (m.multiline && text[i - 1]? == some '\n')
  | .lineEnd =>
    i == text.size || (text[i]? == some '\n' && (m.multiline || i + 1 == text.size))
  | .boundary => text.size != 0 && isBoundary text i
  | .notBoundary => text.size != 0 && !isBoundary text i

/-- Where a match stands: the position reached, and the spans of the groups passed so far
with the latest first. -/
structure Cursor where
  pos : Nat
  groups : List (Nat × Nat × Nat)

/-- The span that a group matched last. -/
def Cursor.span? (s : Cursor) (index : Nat) : Option (Nat × Nat) :=
  s.groups.lookup index

/-- What a match goes on with. -/
abbrev Continuation := Cursor → Option Cursor

/-- An expression as a search: from a cursor, with what has to match after it. -/
abbrev Search := Cursor → Continuation → Option Cursor

/-- A search for one character that passes a test. -/
def takeOne (text : Array Char) (test : Char → Bool) : Search := fun s k =>
  match text[s.pos]? with
  | some c => if test c then k { s with pos := s.pos + 1 } else none
  | none => none

/-- Exactly `n` copies. -/
def times (copy : Search) : Nat → Search
  | 0, s, k => k s
  | n + 1, s, k => copy s fun s' => times copy n s' k

/-- At most `left` more copies, the most first; `room` bounds the copies that can still
take a character. -/
def most (copy : Search) (room : Nat) (left : Option Nat) : Search := fun s k =>
  if left = some 0 then k s
  else
    (copy s fun s' =>
      if s'.pos = s.pos then k s'
      else
        match room with
        | 0 => none
        | room + 1 => most copy room (left.map (· - 1)) s' k).orElse
    fun _ => k s

/-- At most `left` more copies, the fewest first. -/
def fewest (copy : Search) (room : Nat) (left : Option Nat) : Search := fun s k =>
  (k s).orElse fun _ =>
    if left = some 0 then none
    else
      copy s fun s' =>
        if s'.pos = s.pos then k s'
        else
          match room with
          | 0 => none
          | room + 1 => fewest copy room (left.map (· - 1)) s' k

/-- As many of at most `left` more copies as there are, each by its first match. -/
def allAtOnce (copy : Search) (room : Nat) (left : Option Nat) (s : Cursor) : Cursor :=
  if left = some 0 then s
  else
    match copy s some with
    | none => s
    | some s' =>
      if s'.pos = s.pos then s'
      else
        match room with
        | 0 => s'
        | room + 1 => allAtOnce copy room (left.map (· - 1)) s'

/-- Exactly `n` copies, each by its first match. -/
def timesAtOnce (copy : Search) : Nat → Cursor → Option Cursor
  | 0, s => some s
  | n + 1, s => (copy s some).bind (timesAtOnce copy n)

/-- The copies beyond the required ones. -/
def optional (min : Nat) (max : Option Nat) : Option Nat :=
  max.map (· - min)

/-- Whether the text at a position repeats an earlier span. -/
def repeatsAt (m : Mode) (text : Array Char) (start stop i : Nat) : Bool :=
  (List.range (stop - start)).all fun d =>
    match text[start + d]?, text[i + d]? with
    | some a, some b => m.samePoint a.toNat b
    | _, _ => false

/-- Searches for a match of an expression under a mode. -/
def Expr.run (text : Array Char) : Expr → Mode → Search
  | .empty, _, s, k => k s
  | .point n, m, s, k => takeOne text (m.samePoint n) s k
  | .any, m, s, k => takeOne text (fun c => m.dotAll || c != '\n') s k
  | .oneOf negated items, m, s, k => takeOne text (classHolds m negated items) s k
  | .anchor a, m, s, k => if a.holds m text s.pos then k s else none
  | .seq p q, m, s, k => p.run text m s fun s' => q.run text m s' k
  | .alt p q, m, s, k => (p.run text m s k).orElse fun _ => q.run text m s k
  | .capture index p, m, s, k =>
    p.run text m s fun s' => k { s' with groups := (index, s.pos, s'.pos) :: s'.groups }
  | .scoped on off p, m, s, k => p.run text (m.adjust on off) s k
  | .iterate min max .greedy p, m, s, k =>
    times (p.run text m) min s fun s' =>
      most (p.run text m) (text.size - s'.pos) (optional min max) s' k
  | .iterate min max .frugal p, m, s, k =>
    times (p.run text m) min s fun s' =>
      fewest (p.run text m) (text.size - s'.pos) (optional min max) s' k
  | .iterate min max .possessive p, m, s, k =>
    (timesAtOnce (p.run text m) min s).bind fun s' =>
      k (allAtOnce (p.run text m) (text.size - s'.pos) (optional min max) s')
  | .atomic p, m, s, k => (p.run text m s some).bind k
  | .ahead negated p, m, s, k =>
    match p.run text m s some with
    | some s' => if negated then none else k { s' with pos := s.pos }
    | none => if negated then k s else none
  | .behind negated width p, m, s, k =>
    match if width ≤ s.pos then p.run text m { s with pos := s.pos - width } some else none with
    | some s' => if negated then none else k { s' with pos := s.pos }
    | none => if negated then k s else none
  | .again index, m, s, k =>
    match s.span? index with
    | some (start, stop) =>
      if repeatsAt m text start stop s.pos then k { s with pos := s.pos + (stop - start) }
      else none
    | none => none
  | .given index p q, m, s, k =>
    if (s.span? index).isSome then p.run text m s k else q.run text m s k

/-- Whether the expression matches the whole text. -/
def Expr.matchesAll (p : Expr) (m : Mode) (text : List Char) : Bool :=
  let chars := text.toArray
  (p.run chars m ⟨0, []⟩ fun s => if s.pos = chars.size then some s else none).isSome

end SourceLocator.NamePattern
