import Mathlib.Data.List.Chain
import SourceLocator.Text.Lines

/-!
# Lines and their ends

A text is written from its lines by putting ends between them (`joined`), each a line feed, a
carriage return or the pair of both.  `lines` splits it at line feeds, once every end of a
line is one (`lines_eq_splitOn`), and gives the lines back unless an empty one stands between
a carriage return and a line feed, which would be taken for a pair (`lines_joined_iff`).  At
every end a text falls into two, and except for empty lines it has those of the two parts
(`mem_lines_append_iff`).
-/

namespace SourceLocator.Text

/-- What ends a line. -/
inductive LineEnd where
  | lineFeed
  | carriageReturn
  | pair
deriving DecidableEq

/-- The characters that end a line. -/
def LineEnd.chars : LineEnd → List Char
  | .lineFeed => ['\n']
  | .carriageReturn => ['\r']
  | .pair => ['\r', '\n']

/-- The bytes that end a line. -/
def LineEnd.bytes : LineEnd → List UInt8
  | .lineFeed => [0x0A]
  | .carriageReturn => [0x0D]
  | .pair => [0x0D, 0x0A]

/-- A text that holds no end of a line. -/
def IsLine (line : List Char) : Prop :=
  '\n' ∉ line ∧ '\r' ∉ line

instance (line : List Char) : Decidable (IsLine line) :=
  inferInstanceAs (Decidable (_ ∧ _))

/-- The text of a first line and further ones, each behind the end of the one before. -/
def joined (first : List Char) (rest : List (LineEnd × List Char)) : List Char :=
  first ++ rest.flatMap fun (e, line) => e.chars ++ line

/-- No empty line stands between a carriage return and a line feed. -/
def NoSplitPair (rest : List (LineEnd × List Char)) : Prop :=
  rest.IsChain fun x y => ¬ (x = (.carriageReturn, []) ∧ y.1 = .lineFeed)

instance (rest : List (LineEnd × List Char)) : Decidable (NoSplitPair rest) :=
  inferInstanceAs (Decidable (List.IsChain _ _))

@[simp]
theorem isLine_nil :
  IsLine []
  := by
  simp [IsLine]

theorem isLine_cons_iff {c : Char} {line : List Char} :
  IsLine (c :: line) ↔ c ≠ '\n' ∧ c ≠ '\r' ∧ IsLine line
  := by
  simp only [IsLine, List.mem_cons, not_or, ne_comm (a := c)]
  tauto

/-- A line ends in no carriage return. -/
theorem IsLine.getLast?_ne {line : List Char} (h : IsLine line) :
  line.getLast? ≠ some '\r'
  := by
  intro hlast
  apply h.2 (List.mem_of_getLast? hlast)

@[simp]
theorem joined_nil (first : List Char) :
  joined first [] = first
  := List.append_nil first

@[simp]
theorem joined_cons (first : List Char) (e : LineEnd) (line : List Char)
    (rest : List (LineEnd × List Char)) :
  joined first ((e, line) :: rest) = first ++ (e.chars ++ joined line rest)
  := by
  simp [joined]

/-! ### The lines of a text -/

@[simp]
theorem linesAfter_nil (afterReturn : Bool) :
  linesAfter afterReturn [] = [[]]
  := by
  cases afterReturn <;> rfl

/-- A character that ends no line belongs to the first line of what it stands before. -/
theorem linesAfter_cons {c : Char} (hfeed : c ≠ '\n') (hreturn : c ≠ '\r') (afterReturn : Bool)
    (cs : List Char) :
  linesAfter afterReturn (c :: cs) = consFirst c (linesAfter false cs)
  := by
  rw [linesAfter, if_neg hfeed, if_neg hreturn]

@[simp]
theorem linesAfter_return (afterReturn : Bool) (cs : List Char) :
  linesAfter afterReturn ('\r' :: cs) = [] :: linesAfter true cs
  := rfl

@[simp]
theorem linesAfter_false_feed (cs : List Char) :
  linesAfter false ('\n' :: cs) = [] :: linesAfter false cs
  := rfl

@[simp]
theorem linesAfter_true_feed (cs : List Char) :
  linesAfter true ('\n' :: cs) = linesAfter false cs
  := rfl

/-- Only before a line feed does it matter whether a carriage return came before. -/
theorem linesAfter_true_eq {cs : List Char} (h : cs.head? ≠ some '\n') :
  linesAfter true cs = linesAfter false cs
  := by
  cases cs with
  | nil => rfl
  | cons c cs =>
    have hc : c ≠ '\n' := by simpa using h
    simp only [linesAfter, if_neg hc]

/-- A text has a line at least. -/
theorem linesAfter_ne_nil (afterReturn : Bool) (cs : List Char) :
  linesAfter afterReturn cs ≠ []
  := by
  induction cs generalizing afterReturn with
  | nil => simp
  | cons c cs ih =>
    rw [linesAfter]
    split
    · split
      · apply ih
      · simp
    · split
      · simp
      · obtain ⟨line, rest, hlines⟩ := List.exists_cons_of_ne_nil (ih false)
        simp [hlines, consFirst]

/-- No line holds an end of a line. -/
theorem isLine_of_mem_linesAfter {afterReturn : Bool} {cs line : List Char}
    (h : line ∈ linesAfter afterReturn cs) :
  IsLine line
  := by
  induction cs generalizing afterReturn line with
  | nil =>
    obtain rfl : line = [] := by simpa using h
    apply isLine_nil
  | cons c cs ih =>
    have hnext : ∀ {r}, line ∈ [] :: linesAfter r cs → IsLine line := by
      intro r h
      obtain rfl | h := List.mem_cons.mp h
      · apply isLine_nil
      · apply ih h
    rw [linesAfter] at h
    split at h
    · split at h
      · apply ih h
      · apply hnext h
    · rename_i hfeed
      split at h
      · apply hnext h
      · rename_i hreturn
        obtain ⟨first, rest, hlines⟩ := List.exists_cons_of_ne_nil (linesAfter_ne_nil false cs)
        rw [hlines] at h
        have hall : ∀ line ∈ first :: rest, IsLine line := by
          intro line hline
          rw [← hlines] at hline
          apply ih hline
        obtain rfl | h := List.mem_cons.mp h
        · apply isLine_cons_iff.mpr ⟨hfeed, hreturn, hall first List.mem_cons_self⟩
        · apply hall line (List.mem_cons_of_mem _ h)

/-- A text with a line feed for every end of a line. -/
def translated : List Char → List Char
  | [] => []
  | '\r' :: '\n' :: cs => '\n' :: translated cs
  | '\r' :: cs => '\n' :: translated cs
  | c :: cs => c :: translated cs

theorem consFirst_eq_modifyHead {c : Char} {ls : List (List Char)} (h : ls ≠ []) :
  consFirst c ls = ls.modifyHead (c :: ·)
  := by
  obtain ⟨line, rest, rfl⟩ := List.exists_cons_of_ne_nil h
  rfl

/-- The lines are what lies between the line feeds, once every end of a line is one. -/
theorem lines_eq_splitOn (text : List Char) :
  lines text = (translated text).splitOn '\n'
  := by
  rw [lines]
  induction text using translated.induct with
  | case1 => simp [translated]
  | case2 cs ih => simp [translated, List.splitOn_cons_eq_if_modifyHead, ih]
  | case3 cs hcs ih =>
    have hhead : cs.head? ≠ some '\n' := by
      intro hhead
      obtain ⟨rest, rfl⟩ := List.head?_eq_some_iff.mp hhead
      apply hcs rest rfl
    rw [linesAfter_return, linesAfter_true_eq hhead, ih]
    simp [translated, List.splitOn_cons_eq_if_modifyHead]
  | case4 c cs hpair hreturn ih =>
    rw [translated, linesAfter, List.splitOn_cons_eq_if_modifyHead, ← ih]
    · by_cases hfeed : c = '\n'
      · simp [hfeed]
      · rw [if_neg hfeed, if_neg hreturn, if_neg (by simpa using hfeed),
          consFirst_eq_modifyHead (linesAfter_ne_nil false cs)]
    · exact hpair
    · exact hreturn

/-- A text without an end of a line is one line. -/
theorem linesAfter_of_isLine {line : List Char} (h : IsLine line) (afterReturn : Bool) :
  linesAfter afterReturn line = [line]
  := by
  induction line generalizing afterReturn with
  | nil => simp
  | cons c line ih =>
    obtain ⟨hfeed, hreturn, h⟩ := isLine_cons_iff.mp h
    rw [linesAfter_cons hfeed hreturn, ih h]
    rfl

/-- What holds of the lines behind a character holds with the character in front. -/
theorem linesAfter_cons_append {c : Char} {before after : List Char} {ls : List (List Char)}
    (h : linesAfter (c = '\r') (before ++ after) = linesAfter (c = '\r') before ++ ls)
    (afterReturn : Bool) :
  linesAfter afterReturn (c :: (before ++ after)) = linesAfter afterReturn (c :: before) ++ ls
  := by
  by_cases hreturn : c = '\r'
  · subst hreturn
    simpa using h
  · rw [decide_eq_false hreturn] at h
    by_cases hfeed : c = '\n'
    · subst hfeed
      cases afterReturn with
      | false => simpa using h
      | true => exact h
    · rw [linesAfter_cons hfeed hreturn, linesAfter_cons hfeed hreturn, h]
      obtain ⟨line, rest, hlines⟩ := List.exists_cons_of_ne_nil (linesAfter_ne_nil false before)
      rw [hlines]
      rfl

/-- At a character that ends a line, unless it ends a pair, a text falls into two, which have
the lines of the whole between them. -/
theorem linesAfter_append {before : List Char} {d : Char} (hd : d = '\n' ∨ d = '\r')
    {afterReturn : Bool} (hlast : d = '\n' → before.getLast? ≠ some '\r')
    (hempty : d = '\n' → before = [] → afterReturn = false) (after : List Char) :
  linesAfter afterReturn (before ++ d :: after)
    = linesAfter afterReturn before ++ linesAfter (d = '\r') after
  := by
  induction before generalizing afterReturn with
  | nil =>
    obtain rfl | rfl := hd
    · obtain rfl := hempty rfl rfl
      rfl
    · simp
  | cons c before ih =>
    apply linesAfter_cons_append
    apply ih
    · intro hd' h
      apply hlast hd'
      rw [List.getLast?_cons, h]
      rfl
    · rintro hd' rfl
      simpa using hlast hd'

/-- At a carriage return a text always falls into two. -/
theorem linesAfter_append_return (afterReturn : Bool) (before after : List Char) :
  linesAfter afterReturn (before ++ '\r' :: after)
    = linesAfter afterReturn before ++ linesAfter true after
  := linesAfter_append (.inr rfl) (fun h => absurd h (by decide))
    (fun h => absurd h (by decide)) after

/-- At a line feed that ends no pair, a text falls into two. -/
theorem linesAfter_append_feed {before : List Char} (h : before.getLast? ≠ some '\r')
    (after : List Char) :
  linesAfter false (before ++ '\n' :: after) = linesAfter false before ++ linesAfter false after
  := linesAfter_append (.inl rfl) (fun _ => h) (fun _ _ => rfl) after

/-- A line with its end stands in front of the lines of what follows. -/
theorem linesAfter_line_append {line : List Char} (h : IsLine line) (e : LineEnd)
    (after : List Char) :
  linesAfter false (line ++ (e.chars ++ after))
    = line :: linesAfter (e = .carriageReturn) after
  := by
  have hline := linesAfter_of_isLine h false
  cases e with
  | lineFeed =>
    apply Eq.trans (linesAfter_append_feed h.getLast?_ne after)
    rw [hline]
    rfl
  | carriageReturn =>
    apply Eq.trans (linesAfter_append_return false line after)
    rw [hline]
    rfl
  | pair =>
    apply Eq.trans (linesAfter_append_return false line ('\n' :: after))
    rw [hline]
    rfl

/-! ### Texts from lines -/

theorem length_linesAfter_le (afterReturn : Bool) (cs : List Char) :
  (linesAfter afterReturn cs).length ≤ (linesAfter false cs).length
  := by
  by_cases hfeed : cs.head? = some '\n'
  · obtain ⟨cs, rfl⟩ := List.head?_eq_some_iff.mp hfeed
    cases afterReturn <;> simp
  · cases afterReturn with
    | false => apply Nat.le_refl
    | true => exact Nat.le_of_eq (congrArg List.length (linesAfter_true_eq hfeed))

/-- A text has no more lines than it was joined from. -/
theorem length_linesAfter_joined_le {first : List Char} (hfirst : IsLine first)
    {rest : List (LineEnd × List Char)} (hrest : ∀ x ∈ rest, IsLine x.2) :
  (linesAfter false (joined first rest)).length ≤ rest.length + 1
  := by
  induction rest generalizing first with
  | nil => simp [linesAfter_of_isLine hfirst]
  | cons x rest ih =>
    obtain ⟨hline, hrest⟩ := List.forall_mem_cons.mp hrest
    rw [joined_cons, linesAfter_line_append hfirst, List.length_cons, List.length_cons]
    apply Nat.succ_le_succ
    exact Nat.le_trans (length_linesAfter_le _ _) (ih hline hrest)

/-- A text begins with a line feed when its first line is empty and ended by one. -/
theorem head?_joined_iff {first : List Char} (hfirst : IsLine first)
    {rest : List (LineEnd × List Char)} :
  (joined first rest).head? = some '\n' ↔ first = [] ∧ ∃ x ∈ rest.head?, x.1 = .lineFeed
  := by
  cases first with
  | cons c first =>
    simpa [joined] using (isLine_cons_iff.mp hfirst).1
  | nil =>
    cases rest with
    | nil => simp
    | cons x rest =>
      obtain ⟨e, line⟩ := x
      cases e <;> simp [LineEnd.chars]

/-- The lines that a text was joined from are its lines exactly when no empty one stands
between a carriage return and a line feed. -/
theorem lines_joined_iff {first : List Char} (hfirst : IsLine first)
    {rest : List (LineEnd × List Char)} (hrest : ∀ x ∈ rest, IsLine x.2) :
  lines (joined first rest) = first :: rest.map (·.2) ↔ NoSplitPair rest
  := by
  rw [lines]
  induction rest generalizing first with
  | nil => simp [linesAfter_of_isLine hfirst, NoSplitPair]
  | cons x rest ih =>
    obtain ⟨e, line⟩ := x
    have hline : IsLine line := (List.forall_mem_cons.mp hrest).1
    have hothers : ∀ x ∈ rest, IsLine x.2 := (List.forall_mem_cons.mp hrest).2
    rw [joined_cons, linesAfter_line_append hfirst, List.map_cons, List.cons.injEq,
      NoSplitPair, List.isChain_cons, ← NoSplitPair, ← ih hline hothers]
    by_cases hsplit : e = .carriageReturn ∧ (joined line rest).head? = some '\n'
    · -- the two ends are read as a pair, and so one line is missing
      obtain ⟨rfl, hfeed⟩ := hsplit
      obtain ⟨rfl, y, hy, hylf⟩ := (head?_joined_iff hline).mp hfeed
      obtain ⟨cs, hcs⟩ := List.head?_eq_some_iff.mp hfeed
      have hlength := length_linesAfter_joined_le hline hothers
      rw [hcs, linesAfter_false_feed, List.length_cons] at hlength
      have hfewer : linesAfter true (joined [] rest) ≠ [] :: rest.map (·.2) := by
        intro h
        have h := congrArg List.length h
        rw [hcs, linesAfter_true_feed, List.length_cons, List.length_map] at h
        omega
      constructor
      · intro h
        apply absurd h.2 hfewer
      · intro h
        apply absurd ⟨rfl, hylf⟩ (h.1 y hy)
    · have hlines : linesAfter (e = .carriageReturn) (joined line rest)
          = linesAfter false (joined line rest) := by
        by_cases he : e = .carriageReturn
        · rw [decide_eq_true he]
          apply linesAfter_true_eq
          intro hfeed
          apply hsplit ⟨he, hfeed⟩
        · rw [decide_eq_false he]
      have hchain : ∀ y ∈ rest.head?, ¬ ((e, line) = (.carriageReturn, []) ∧ y.1 = .lineFeed) := by
        rintro y hy ⟨hx, hylf⟩
        obtain ⟨rfl, rfl⟩ := Prod.mk.inj hx
        apply hsplit ⟨rfl, (head?_joined_iff hline).mpr ⟨rfl, y, hy, hylf⟩⟩
      rw [hlines]
      exact ⟨fun h => ⟨hchain, h.2⟩, fun h => ⟨rfl, h.2⟩⟩

/-! ### Lines on either side of an end -/

/-- Every line but an empty one is there with or without a carriage return before. -/
theorem mem_linesAfter_iff {line : List Char} (h : line ≠ []) (afterReturn : Bool)
    (cs : List Char) :
  line ∈ linesAfter afterReturn cs ↔ line ∈ lines cs
  := by
  cases afterReturn with
  | false => rfl
  | true =>
    by_cases hfeed : cs.head? = some '\n'
    · obtain ⟨cs, rfl⟩ := List.head?_eq_some_iff.mp hfeed
      simp [lines, h]
    · rw [linesAfter_true_eq hfeed, lines]

/-- Except for empty ones, the lines of a text are those before an end and those behind it. -/
theorem mem_lines_append_iff {line : List Char} (h : line ≠ []) (before : List Char)
    (e : LineEnd) (after : List Char) :
  line ∈ lines (before ++ (e.chars ++ after)) ↔ line ∈ lines before ∨ line ∈ lines after
  := by
  have hreturn : ∀ before after, line ∈ lines (before ++ '\r' :: after)
      ↔ line ∈ lines before ∨ line ∈ lines after := by
    intro before after
    rw [lines, linesAfter_append_return, List.mem_append, mem_linesAfter_iff h,
      mem_linesAfter_iff h]
  have hfeed : line ∈ lines ('\n' :: after) ↔ line ∈ lines after := by
    simp [lines, h]
  cases e with
  | lineFeed =>
    change line ∈ lines (before ++ '\n' :: after) ↔ _
    by_cases hlast : before.getLast? = some '\r'
    · -- the line feed ends a pair, and there is an empty line before it when it stands alone
      obtain ⟨before, rfl⟩ := List.getLast?_eq_some_iff.mp hlast
      have hempty : ¬ line ∈ lines [] := by simp [lines, h]
      rw [List.append_assoc, List.singleton_append, hreturn, hreturn, hfeed]
      simp [hempty]
    · rw [lines, linesAfter_append_feed hlast, List.mem_append]
      rfl
  | carriageReturn => exact hreturn before after
  | pair =>
    apply Iff.trans (hreturn before ('\n' :: after))
    rw [hfeed]

end SourceLocator.Text
