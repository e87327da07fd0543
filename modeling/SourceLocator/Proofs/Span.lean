import Mathlib.Data.Set.Defs
import SourceLocator.NamePattern.Match

/-!
# The spans of an expression

What an expression matches, said without a search: `Expr.Spans` relates the position at
which a match begins to the one at which it ends.  A sequence composes two relations and an
alternative unites them; an iteration is so many copies of a relation, and a test of what
lies ahead spans nothing.  Letters are compared up to their case where the mode says so.
`Expr.isPlain` singles out the expressions whose meaning is given by their spans alone:
those that neither hold on to a first match nor look back at an earlier one.
-/

namespace SourceLocator.NamePattern

open Text

/-! ### Characters -/

/-- A code point stands for another one: it is the same or, when the case of letters does
not count, the other case of an ASCII letter. -/
def Mode.StandsFor (m : Mode) (n n' : Nat) : Prop :=
  n = n' ∨ m.ignoreCase ∧
    ((65 ≤ n ∧ n ≤ 90 ∧ n' = n + 32) ∨ (65 ≤ n' ∧ n' ≤ 90 ∧ n = n' + 32))

/-- A class item has a character. -/
def ClassItem.Has (m : Mode) (c : Char) : ClassItem → Prop
  | .point n => m.StandsFor n c.toNat
  | .range low high => ∃ n, low ≤ n ∧ n ≤ high ∧ m.StandsFor n c.toNat
  | .kind k negated => k.holds c ↔ ¬ negated

theorem Mode.samePoint_iff (m : Mode) (n : Nat) (c : Char) :
  m.samePoint n c ↔ m.StandsFor n c.toNat
  := by
  unfold samePoint StandsFor lowerPoint
  split
  · rename_i h
    simp only [h, true_and, beq_iff_eq]
    split <;> split <;> omega
  · rename_i h
    simp [h]

/-- Without regard to case, it is the two cases of a code point that stand for it. -/
theorem Mode.standsFor_iff {m : Mode} (h : m.ignoreCase) (n n' : Nat) :
  m.StandsFor n n' ↔ n = lowerPoint n' ∨ n = upperPoint (lowerPoint n')
  := by
  simp only [StandsFor, h, true_and]
  by_cases hcapital : 65 ≤ n' ∧ n' ≤ 90
  · have hlower : lowerPoint n' = n' + 32 := if_pos hcapital
    have hupper : upperPoint (n' + 32) = n' := if_pos (by omega)
    rw [hlower, hupper]
    omega
  · have hlower : lowerPoint n' = n' := if_neg hcapital
    rw [hlower, upperPoint]
    split <;> omega

/-- Either case of a character lies in a range exactly when a code point in the range stands
for the character. -/
theorem Mode.inRange_iff (m : Mode) (low high : Nat) (c : Char) :
  m.inRange low high c ↔ ∃ n, low ≤ n ∧ n ≤ high ∧ m.StandsFor n c.toNat
  := by
  unfold inRange inRange.within
  split
  · rename_i h
    simp only [standsFor_iff h, Bool.or_eq_true, Bool.and_eq_true, decide_eq_true_eq]
    constructor
    · rintro (⟨hlow, hhigh⟩ | ⟨hlow, hhigh⟩)
      · exact ⟨_, hlow, hhigh, .inl rfl⟩
      · exact ⟨_, hlow, hhigh, .inr rfl⟩
    · rintro ⟨n, hlow, hhigh, rfl | rfl⟩
      · exact .inl ⟨hlow, hhigh⟩
      · exact .inr ⟨hlow, hhigh⟩
  · rename_i h
    simp only [StandsFor, h, Bool.and_eq_true, decide_eq_true_eq]
    constructor
    · rintro ⟨hlow, hhigh⟩
      exact ⟨_, hlow, hhigh, .inl rfl⟩
    · rintro ⟨n, hlow, hhigh, rfl | ⟨⟨⟩, -⟩⟩
      exact ⟨hlow, hhigh⟩

theorem ClassItem.holds_iff (m : Mode) (c : Char) (item : ClassItem) :
  item.holds m c ↔ item.Has m c
  := by
  cases item with
  | point n => exact m.samePoint_iff n c
  | range low high => exact m.inRange_iff low high c
  | kind k negated =>
    simp only [holds, Has]
    cases k.holds c <;> cases negated <;> simp

theorem classHolds_iff (m : Mode) (negated : Bool) (items : List ClassItem) (c : Char) :
  classHolds m negated items c ↔ ((∃ item ∈ items, item.Has m c) ↔ ¬ negated)
  := by
  have h : items.any (·.holds m c) = true ↔ ∃ item ∈ items, item.Has m c := by
    simp [ClassItem.holds_iff]
  rw [← h, classHolds]
  cases items.any (·.holds m c) <;> cases negated <;> simp

/-! ### Positions -/

/-- A word character stands at a position. -/
def IsWordAt (text : Array Char) (i : Nat) : Prop :=
  ∃ c, text[i]? = some c ∧ CharKind.word.holds c

/-- A word character stands before a position. -/
def IsWordBefore (text : Array Char) (i : Nat) : Prop :=
  ∃ j, i = j + 1 ∧ IsWordAt text j

/-- An anchor stands at a position.  An empty text has neither a word boundary nor a place
that is none. -/
def Anchor.StandsAt (m : Mode) (text : Array Char) (i : Nat) : Anchor → Prop
  | .textStart => i = 0
  | .textEnd => i = text.size
  | .lineStart => i = 0 ∨ m.multiline ∧ ∃ j, i = j + 1 ∧ text[j]? = some '\n'
  | .lineEnd =>
    i = text.size ∨ text[i]? = some '\n' ∧ (m.multiline ∨ i + 1 = text.size)
  | .boundary => text.size ≠ 0 ∧ ¬ (IsWordBefore text i ↔ IsWordAt text i)
  | .notBoundary => text.size ≠ 0 ∧ (IsWordBefore text i ↔ IsWordAt text i)

theorem isWordAt_iff (text : Array Char) (i : Nat) :
  isWordAt text i ↔ IsWordAt text i
  := by
  simp [isWordAt, IsWordAt, CharKind.holds, Option.any_eq_true]

theorem isBoundary_iff (text : Array Char) (i : Nat) :
  isBoundary text i ↔ ¬ (IsWordBefore text i ↔ IsWordAt text i)
  := by
  have hbefore : (decide (0 < i) && isWordAt text (i - 1)) = true ↔ IsWordBefore text i := by
    cases i with
    | zero => simp [IsWordBefore]
    | succ i => simp [IsWordBefore, isWordAt_iff]
  rw [← hbefore, ← isWordAt_iff, isBoundary]
  cases decide (0 < i) && isWordAt text (i - 1) <;> cases isWordAt text i <;> simp

theorem Anchor.holds_iff (m : Mode) (text : Array Char) (i : Nat) (a : Anchor) :
  a.holds m text i ↔ a.StandsAt m text i
  := by
  cases a with
  | textStart => simp [holds, StandsAt]
  | textEnd => simp [holds, StandsAt]
  | lineStart =>
    cases i with
    | zero => simp [holds, StandsAt]
    | succ i => simp [holds, StandsAt]
  | lineEnd => simp [holds, StandsAt]
  | boundary => simp [holds, StandsAt, ← isBoundary_iff]
  | notBoundary =>
    have h : isBoundary text i = false ↔ (IsWordBefore text i ↔ IsWordAt text i) := by
      rw [Bool.eq_false_iff, ne_eq, isBoundary_iff, Classical.not_not]
    simp [holds, StandsAt, h]

/-! ### Spans -/

/-- So many spans of a relation, one after the other. -/
def Copies (R : Nat → Nat → Prop) : Nat → Nat → Nat → Prop
  | 0, i, j => i = j
  | n + 1, i, j => ∃ k, R i k ∧ Copies R n k j

/-- An expression matches the part of a text between two positions.  What is not plain has
no spans here. -/
def Expr.Spans (text : Array Char) : Expr → Mode → Nat → Nat → Prop
  | .empty, _, i, j => i = j
  | .point n, m, i, j => ∃ c, text[i]? = some c ∧ m.StandsFor n c.toNat ∧ j = i + 1
  | .any, m, i, j => ∃ c, text[i]? = some c ∧ (m.dotAll ∨ c ≠ '\n') ∧ j = i + 1
  | .oneOf negated items, m, i, j =>
    ∃ c, text[i]? = some c ∧ ((∃ item ∈ items, item.Has m c) ↔ ¬ negated) ∧ j = i + 1
  | .anchor a, m, i, j => a.StandsAt m text i ∧ i = j
  | .seq p q, m, i, j => ∃ k, p.Spans text m i k ∧ q.Spans text m k j
  | .alt p q, m, i, j => p.Spans text m i j ∨ q.Spans text m i j
  | .capture _ p, m, i, j => p.Spans text m i j
  | .scoped on off p, m, i, j => p.Spans text (m.adjust on off) i j
  | .iterate min max _ p, m, i, j =>
    ∃ n, min ≤ n ∧ (∀ bound ∈ max, n ≤ bound) ∧ Copies (p.Spans text m) n i j
  | .ahead negated p, m, i, j => ((∃ k, p.Spans text m i k) ↔ ¬ negated) ∧ i = j
  | .atomic _, _, _, _ | .behind _ _ _, _, _, _ | .again _, _, _, _ | .given _ _ _, _, _, _ => False

/-- The texts that an expression matches as a whole. -/
def Expr.language (p : Expr) (m : Mode) : Set (List Char) :=
  { text | p.Spans text.toArray m 0 text.length }

/-- An expression has no group or iteration that holds on to its first match, looks at
nothing behind, and refers to no group. -/
def Expr.isPlain : Expr → Bool
  | .empty | .point _ | .any | .oneOf _ _ | .anchor _ => true
  | .seq p q | .alt p q => p.isPlain && q.isPlain
  | .capture _ p | .scoped _ _ p | .ahead _ p => p.isPlain
  | .iterate _ _ greed p => greed != .possessive && p.isPlain
  | .atomic _ | .behind _ _ _ | .again _ | .given _ _ _ => false

/-- No iteration in an expression asks for more copies than it allows. -/
def Expr.IsBounded : Expr → Prop
  | .empty | .point _ | .any | .oneOf _ _ | .anchor _ | .again _ => True
  | .seq p q | .alt p q | .given _ p q => p.IsBounded ∧ q.IsBounded
  | .capture _ p | .scoped _ _ p | .ahead _ p | .behind _ _ p | .atomic p => p.IsBounded
  | .iterate min max _ p => (∀ bound ∈ max, min ≤ bound) ∧ p.IsBounded

section Copies

variable {R : Nat → Nat → Prop}

theorem copies_add {a b i j : Nat} :
  Copies R (a + b) i j ↔ ∃ k, Copies R a i k ∧ Copies R b k j
  := by
  induction a generalizing i with
  | zero => simp [Copies]
  | succ a ih =>
    rw [Nat.succ_add]
    simp only [Copies, ih]
    constructor
    · rintro ⟨k, hk, l, hl, hj⟩
      exact ⟨l, ⟨k, hk, hl⟩, hj⟩
    · rintro ⟨l, ⟨k, hk, hl⟩, hj⟩
      exact ⟨k, hk, l, hl, hj⟩

/-- Spans of a relation end where they begin, or later but within a text of a size. -/
def Advances (size : Nat) (R : Nat → Nat → Prop) : Prop :=
  ∀ ⦃i j⦄, R i j → i = j ∨ i < j ∧ j ≤ size

theorem Advances.copies {size n : Nat} (h : Advances size R) :
  Advances size (Copies R n)
  := by
  induction n with
  | zero => exact fun i j hij => .inl hij
  | succ n ih =>
    rintro i j ⟨k, hik, hkj⟩
    have := h hik
    have := ih hkj
    omega

end Copies

theorem advances_one {text : Array Char} {P : Char → Prop} :
  Advances text.size fun i j => ∃ c, text[i]? = some c ∧ P c ∧ j = i + 1
  := by
  rintro i j ⟨c, hc, -, rfl⟩
  obtain ⟨hi, -⟩ := Array.getElem?_eq_some_iff.mp hc
  exact .inr ⟨Nat.lt_succ_self i, hi⟩

/-- The spans of an expression end within the text. -/
theorem Expr.advances_spans (text : Array Char) (p : Expr) (m : Mode) :
  Advances text.size (p.Spans text m)
  := by
  induction p generalizing m with
  | empty => exact fun i j h => .inl h
  | point n => exact advances_one
  | any => exact advances_one
  | oneOf negated items => exact advances_one
  | anchor a => exact fun i j h => .inl h.2
  | seq p q ihp ihq =>
    rintro i j ⟨k, hik, hkj⟩
    have := ihp m hik
    have := ihq m hkj
    omega
  | alt p q ihp ihq =>
    rintro i j (h | h)
    · apply ihp m h
    · apply ihq m h
  | capture index p ih => exact ih m
  | «scoped» on off p ih => exact ih (m.adjust on off)
  | iterate min max greed p ih =>
    rintro i j ⟨n, -, -, h⟩
    exact (ih m).copies h
  | ahead negated p ih => exact fun i j h => .inl h.2
  | atomic p ih => exact fun i j h => h.elim
  | behind negated width p ih => exact fun i j h => h.elim
  | again index => exact fun i j h => h.elim
  | given index p q ihp ihq => exact fun i j h => h.elim

end SourceLocator.NamePattern
