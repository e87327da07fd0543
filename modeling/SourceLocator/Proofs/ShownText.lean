import Mathlib.Data.List.SplitBy
import SourceLocator.Display.Table

/-!
# Text that is shown as it is

A text of printable characters of ASCII without tags and colons takes as many cells as it has
characters (`cellLength_of_isPlain`) and has nothing in it that a message would show in another
way (`plain_of_isPlain`).  If it fits into the width of the output then it is shown in one row
(`message_of_isPlain`).
-/

namespace SourceLocator.Display

open Text

/-- A printable character of ASCII that begins no tag and no emoji. -/
def IsPlain (c : Char) : Prop :=
  0x20 ≤ c.toNat ∧ c.toNat < 0x7F ∧ c ≠ '[' ∧ c ≠ ':'

instance : DecidablePred IsPlain :=
  fun _ => inferInstanceAs (Decidable (_ ∧ _))

variable {cs : List Char}

/-! ### Cells -/

theorem cellsAfter_of_isPlain (base : Option Char) (h : ∀ c ∈ cs, IsPlain c) :
  cellsAfter base cs = cs.length
  := by
  induction cs generalizing base with
  | nil => rfl
  | cons c cs ih =>
    obtain ⟨hlow, hhigh, -, -⟩ := h c List.mem_cons_self
    have hcells : cells c = 1 := by
      simp [cells, Nat.not_lt.mpr hlow, hhigh]
    have hjoiner : c ≠ joiner := by
      rintro rfl
      contradiction
    have hselector : c ≠ emojiSelector := by
      rintro rfl
      contradiction
    cases cs with
    | nil => simp [cellsAfter, hjoiner, hselector, hcells]
    | cons d rest =>
      have hrest := ih (some c) fun e he => h e (List.mem_cons_of_mem _ he)
      simp [cellsAfter, hjoiner, hselector, hcells, hrest, Nat.add_comm]

/-- Each character takes a cell. -/
theorem cellLength_of_isPlain (h : ∀ c ∈ cs, IsPlain c) :
  cellLength cs = cs.length
  := cellsAfter_of_isPlain none h

/-! ### Markup -/

/-- Without an opening bracket a text begins with no tag. -/
theorem tagAt?_of_not_mem (h : '[' ∉ cs) :
  tagAt? cs = none
  := by
  unfold tagAt?
  dsimp only
  split
  · rename_i rest hrest
    have hmem : '[' ∈ cs := by
      apply List.mem_of_mem_drop
      rw [hrest]
      apply List.mem_cons_self
    apply absurd hmem h
  · rfl

/-- Without an opening bracket a message is all text. -/
theorem markupPieces_of_not_mem (h : '[' ∉ cs) :
  markupPieces cs = if cs = [] then [] else [.text cs]
  := by
  unfold markupPieces
  induction cs with
  | nil => rfl
  | cons c cs ih =>
    rw [piecesFrom, tagAt?_of_not_mem h]
    dsimp only
    rw [ih fun hmem => h (List.mem_cons_of_mem _ hmem)]
    cases cs <;> rfl

theorem dropBracketEscapes_of_not_mem (h : '[' ∉ cs) :
  dropBracketEscapes cs = cs
  := by
  induction cs using dropBracketEscapes.induct with
  | case1 rest => simp at h
  | case2 c rest hno ih =>
    rw [dropBracketEscapes.eq_2 _ _ hno, ih fun hmem => h (List.mem_cons_of_mem _ hmem)]
  | case3 => rfl

/-- Without a colon there is no shortcode. -/
theorem expandShortcodes_of_not_mem (h : ':' ∉ cs) :
  expandShortcodes cs = cs
  := by
  unfold expandShortcodes
  induction cs with
  | nil => rfl
  | cons c cs ih =>
    have hc : c ≠ ':' := by
      rintro rfl
      apply h List.mem_cons_self
    rw [expandFrom, if_neg hc, ih fun hmem => h (List.mem_cons_of_mem _ hmem)]

/-- A plain text is shown as it is. -/
theorem plain_of_isPlain {s : String} (h : ∀ c ∈ s.toList, IsPlain c) :
  plain s = s.toList
  := by
  have hbracket : '[' ∉ s.toList := fun hmem => (h _ hmem).2.2.1 rfl
  have hcolon : ':' ∉ s.toList := fun hmem => (h _ hmem).2.2.2 rfl
  have hshown : shownText s.toList = s.toList := by
    rw [shownText, dropBracketEscapes_of_not_mem hbracket, expandShortcodes_of_not_mem hcolon]
    apply List.filter_eq_self.mpr
    intro c hc
    obtain ⟨hlow, -⟩ := h c hc
    simp only [isCursorControl, Bool.not_eq_true', Bool.or_eq_false_iff, beq_eq_false_iff_ne]
    refine ⟨⟨⟨⟨?_, ?_⟩, ?_⟩, ?_⟩, ?_⟩ <;> rintro rfl <;> contradiction
  rw [plain, markupPieces_of_not_mem hbracket]
  split
  · rename_i hnil
    rw [hnil]
    rfl
  · simp [Piece.shown, hshown]

/-! ### Rows -/

/-- The words of a line, put together, are the line. -/
theorem flatten_words (line : List Char) :
  words line = [] ∨ (words line).flatten = line
  := by
  have hflatten := List.flatten_splitBy (fun c d => !isBlank c || isBlank d) line
  unfold words
  split
  · exact .inl rfl
  · rename_i run hrun
    rw [hrun] at hflatten
    split
    · exact .inl rfl
    · exact .inr hflatten
  · rename_i run next rest hrun
    rw [hrun] at hflatten
    right
    split
    · rw [← hflatten]
      simp
    · exact hflatten

/-- Words that fit into the current row are put into it. -/
theorem foldl_place_of_fits {width : Nat} {overflow : Overflow} {ws : List (List Char)}
    {f : Filling} (h : ∀ c ∈ ws.flatten, IsPlain c)
    (hfits : f.used + ws.flatten.length ≤ width) :
  (ws.foldl (Filling.place width overflow) f).rows
    = f.finished.reverse ++ [f.row ++ ws.flatten]
  := by
  induction ws generalizing f with
  | nil => simp [Filling.rows]
  | cons word ws ih =>
    rw [List.flatten_cons, List.length_append] at hfits
    have hword : ∀ c ∈ word, IsPlain c := fun c hc => h c (by simp [hc])
    have hstrip : cellLength (stripEnd word) ≤ word.length := by
      have hsub : ∀ c ∈ stripEnd word, c ∈ word := by
        intro c hc
        rw [stripEnd, List.mem_reverse] at hc
        apply List.mem_reverse.mp (List.dropWhile_subset _ hc)
      rw [cellLength_of_isPlain fun c hc => hword c (hsub c hc), stripEnd, List.length_reverse,
        ← word.length_reverse]
      apply (List.dropWhile_suffix isBlank).length_le
    have hplace : f.place width overflow word = f.put word := by
      rw [Filling.place, if_pos (by omega)]
    rw [List.foldl_cons, hplace, ih fun c hc => h c (by simp [hc])]
    · simp [Filling.put]
    · simp only [Filling.put, cellLength_of_isPlain hword]
      omega

/-- A plain text that fits into a row is one row. -/
theorem wrap_of_isPlain {width : Nat} {overflow : Overflow} (h : ∀ c ∈ cs, IsPlain c)
    (hfits : cs.length ≤ width) :
  wrap width overflow cs = [cs]
  := by
  have hfeed : '\n' ∉ cs := fun hmem => absurd (h _ hmem).1 (by decide)
  have htab : '\t' ∉ cs := fun hmem => absurd (h _ hmem).1 (by decide)
  have htabs : expandTabs cs = cs := by
    rw [expandTabs, List.splitOn_eq_singleton htab]
    rfl
  have hrows : breakLine width overflow cs = [cs] := by
    unfold breakLine
    split
    · rfl
    · obtain hnil | hflatten := flatten_words cs
      · contradiction
      · rw [foldl_place_of_fits]
        · rw [hflatten]
          rfl
        · rw [hflatten]
          exact h
        · simpa [hflatten] using hfits
  have htrim : trimExcess width cs = cs := by
    rw [trimExcess, Nat.sub_eq_zero_of_le hfits]
    simp
  have hfit : fit width overflow cs = cs := by
    unfold fit
    rw [if_pos]
    rw [cellLength_of_isPlain h]
    exact hfits
  rw [wrap, List.splitOn_eq_singleton hfeed]
  simp [htabs, hrows, htrim, hfit]

/-- A plain message that fits into the output is shown in one row. -/
theorem message_of_isPlain {s : String} (h : ∀ c ∈ s.toList, IsPlain c)
    (hfits : s.length ≤ outputWidth) :
  message s = [s]
  := by
  rw [message, plain_of_isPlain h, wrap_of_isPlain h hfits]
  simp

/-- Digits are plain. -/
theorem isPlain_of_isDigit {c : Char} (h : c.isDigit) :
  IsPlain c
  := by
  simp only [Char.isDigit, Bool.and_eq_true, decide_eq_true_eq] at h
  have hlow : 48 ≤ c.toNat := h.1
  have hhigh : c.toNat ≤ 57 := h.2
  refine ⟨by omega, by omega, ?_, ?_⟩ <;> rintro rfl <;> contradiction

/-- A number of files is shown in one row, as long as it has at most 72 digits. -/
theorem message_count {n : Nat} (h : (toString n).length ≤ 72) :
  message ("(" ++ toString n ++ " files)") = ["(" ++ toString n ++ " files)"]
  := by
  have haround : "( files)".toList.all fun c => decide (IsPlain c) := by decide
  apply message_of_isPlain
  · intro c hc
    simp only [String.toList_append, List.mem_append, Nat.toString_eq_repr, Nat.toList_repr] at hc
    obtain (hc | hc) | hc := hc
    · apply of_decide_eq_true (List.all_eq_true.mp haround c _)
      apply List.mem_cons.mpr (.inl (List.mem_singleton.mp hc))
    · apply isPlain_of_isDigit (Nat.isDigit_of_mem_toDigits (by decide) (by decide) hc)
    · apply of_decide_eq_true (List.all_eq_true.mp haround c _)
      apply List.mem_cons_of_mem _ hc
  · have hfront : "(".length = 1 := rfl
    have hback : " files)".length = 7 := rfl
    simp only [String.length_append, outputWidth]
    omega

end SourceLocator.Display
