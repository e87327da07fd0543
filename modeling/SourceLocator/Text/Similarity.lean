/-!
# Similar texts

How much two texts have in common is measured by blocks: the longest block that both share
is taken out, and what lies before it and behind it is compared in the same way.  `shared`
counts the characters of all blocks; two texts are similar when at least three fifths of
their characters lie in blocks, and `closeMatches` picks the texts most similar to a word.
-/

namespace SourceLocator.Text

/-- A run of characters that two texts share: where it starts in either, and its length. -/
structure Block where
  left : Nat
  right : Nat
  size : Nat

/-- The longer one of two blocks, and the first one if they are equally long. -/
def Block.orLonger (b c : Block) : Block :=
  if b.size < c.size then c else b

/-- The length of the common beginning of two texts. -/
def commonLength : List Char → List Char → Nat
  | c :: cs, d :: ds => if c = d then commonLength cs ds + 1 else 0
  | _, _ => 0

theorem commonLength_le (a b : List Char) :
  commonLength a b ≤ a.length
  := by
  induction a generalizing b with
  | nil => cases b <;> simp [commonLength]
  | cons c cs ih =>
    cases b with
    | nil => simp [commonLength]
    | cons d ds =>
      have := ih ds
      simp only [commonLength, List.length_cons]
      split <;> omega

/-- The longest block among `best` and those that start at place `i` of one text, where `a`
follows, and at place `j` or later in the other, where `b` follows. -/
def longestAt (i : Nat) (a : List Char) : Nat → List Char → Block → Block
  | _, [], best => best
  | j, d :: ds, best =>
    longestAt i a (j + 1) ds (best.orLonger ⟨i, j, commonLength a (d :: ds)⟩)

/-- The longest block among `best` and those that start at place `i` of one text or later,
where the given text follows, and anywhere in `b`. -/
def longestFrom (b : List Char) : Nat → List Char → Block → Block
  | _, [], best => best
  | i, c :: cs, best => longestFrom b (i + 1) cs (longestAt i (c :: cs) 0 b best)

/-- The longest block that two texts share; of several the one that starts first in `a`, and
of these the one that starts first in `b`. -/
def longestBlock (a b : List Char) : Block :=
  longestFrom b 0 a ⟨0, 0, 0⟩

theorem longestAt_within {n i j : Nat} {a b : List Char} {best : Block}
    (ha : i + a.length ≤ n) (h : best.left + best.size ≤ n) :
  (longestAt i a j b best).left + (longestAt i a j b best).size ≤ n
  := by
  induction b generalizing j best with
  | nil => exact h
  | cons d ds ih =>
    apply ih
    have := commonLength_le a (d :: ds)
    unfold Block.orLonger
    split
    · show i + commonLength a (d :: ds) ≤ n
      omega
    · exact h

theorem longestFrom_within {n i : Nat} {a b : List Char} {best : Block}
    (ha : i + a.length ≤ n) (h : best.left + best.size ≤ n) :
  (longestFrom b i a best).left + (longestFrom b i a best).size ≤ n
  := by
  induction a generalizing i best with
  | nil => exact h
  | cons c cs ih =>
    simp only [List.length_cons] at ha
    exact ih (by omega) (longestAt_within (by simp only [List.length_cons]; omega) h)

/-- A block lies within the text. -/
theorem longestBlock_within (a b : List Char) :
  (longestBlock a b).left + (longestBlock a b).size ≤ a.length
  := longestFrom_within (by simp) (by simp)

/-- The number of characters in the blocks that two texts share. -/
def shared (a b : List Char) : Nat :=
  let block := longestBlock a b
  if _h : (longestBlock a b).size = 0 then 0
  else
    shared (a.take block.left) (b.take block.right) + block.size
      + shared (a.drop (block.left + block.size)) (b.drop (block.right + block.size))
termination_by a.length
decreasing_by
  all_goals
    have := longestBlock_within a b
    simp only [List.length_take, List.length_drop]
    omega

/-- A text with how many of its characters, and of a word's, lie in blocks that both share,
and how many there are. -/
structure Likeness where
  text : String
  inBlocks : Nat
  total : Nat

namespace Likeness

/-- How alike a text and a word are. -/
def of (word text : String) : Likeness where
  text := text
  inBlocks := 2 * shared text.toList word.toList
  total := text.length + word.length

/-- Whether at least three fifths of the characters lie in blocks. -/
def isClose (l : Likeness) : Bool :=
  3 * l.total ≤ 5 * l.inBlocks

/-- Whether `k` may stand behind `l`: it is less alike, or as much and not greater by code
points. -/
def atLeast (l k : Likeness) : Bool :=
  k.inBlocks * l.total < l.inBlocks * k.total ||
    (k.inBlocks * l.total == l.inBlocks * k.total && k.text ≤ l.text)

end Likeness

/-- The texts most similar to a word, at most three, the most similar one first. -/
def closeMatches (word : String) (texts : List String) : List String :=
  ((((texts.map (Likeness.of word)).filter Likeness.isClose).mergeSort
    Likeness.atLeast).take 3).map (·.text)

end SourceLocator.Text
