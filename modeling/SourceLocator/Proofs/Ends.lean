import Mathlib.Data.List.DropRight
import SourceLocator.Text.Blank

/-!
# The ends of a text

Taking the characters that pass a test off both ends of a text leaves the one text between
such characters that has none of them at its own ends (`trimmed_eq_iff`).  Blanks are taken
off in this way.
-/

namespace SourceLocator.Text

variable {p : Char → Bool} {text before middle after : List Char}

/-- Neither end of a text passes a test. -/
def EndsOutside (p : Char → Bool) (text : List Char) : Prop :=
  (∀ c ∈ text.head?, ¬ p c) ∧ ∀ c ∈ text.getLast?, ¬ p c

/-- A text without the characters at its ends that pass a test. -/
def trimmed (p : Char → Bool) (text : List Char) : List Char :=
  (text.dropWhile p).rdropWhile p

theorem strip_eq_trimmed (text : List Char) :
  strip text = trimmed isBlank text
  := rfl

theorem dropWhile_append_of_head? (hbefore : ∀ c ∈ before, p c)
    (hhead : ∀ c ∈ text.head?, ¬ p c) :
  (before ++ text).dropWhile p = text
  := by
  rw [List.dropWhile_append_of_pos hbefore]
  cases text with
  | nil => rfl
  | cons c text => exact List.dropWhile_cons_of_neg (hhead c rfl)

/-- What stands between characters that pass the test is had back. -/
theorem trimmed_append (hbefore : ∀ c ∈ before, p c) (hmiddle : EndsOutside p middle)
    (hafter : ∀ c ∈ after, p c) :
  trimmed p (before ++ (middle ++ after)) = middle
  := by
  obtain ⟨hhead, hlast⟩ := hmiddle
  cases middle with
  | nil =>
    have hall : ∀ c ∈ before ++ after, p c :=
      fun c hc => (List.mem_append.mp hc).elim (hbefore c) (hafter c)
    rw [trimmed, List.nil_append, List.dropWhile_eq_nil_iff.mpr hall]
    rfl
  | cons c middle =>
    have hfront : (before ++ (c :: middle ++ after)).dropWhile p = c :: middle ++ after :=
      dropWhile_append_of_head? hbefore hhead
    have hback : (after.reverse ++ (c :: middle).reverse).dropWhile p
        = (c :: middle).reverse := by
      apply dropWhile_append_of_head?
      · simpa using hafter
      · rwa [List.head?_reverse]
    rw [trimmed, hfront, List.rdropWhile, List.reverse_append, hback, List.reverse_reverse]

theorem head?_dropWhile_not (text : List Char) :
  ∀ c ∈ (text.dropWhile p).head?, ¬ p c
  := by
  induction text with
  | nil => simp
  | cons d text ih =>
    rw [List.dropWhile_cons]
    split
    · apply ih
    · rename_i hd
      rintro c ⟨⟩
      apply hd

/-- What is left after the characters have been taken off has none of them at its ends. -/
theorem endsOutside_trimmed (text : List Char) :
  EndsOutside p (trimmed p text)
  := by
  constructor
  · intro c hc
    obtain ⟨after, hafter⟩ : trimmed p text <+: text.dropWhile p := List.rdropWhile_prefix ..
    apply head?_dropWhile_not text
    rw [← hafter, List.head?_append, Option.mem_def.mp hc]
    rfl
  · rw [trimmed, List.rdropWhile, List.getLast?_reverse]
    apply head?_dropWhile_not

/-- The characters that have been taken off pass the test. -/
theorem exists_eq_append_trimmed (text : List Char) :
  ∃ before after, text = before ++ (trimmed p text ++ after) ∧ (∀ c ∈ before, p c) ∧
    ∀ c ∈ after, p c
  := by
  refine ⟨text.takeWhile p, (text.dropWhile p).rtakeWhile p, ?_, ?_, ?_⟩
  · rw [trimmed, List.rdropWhile_append_rtakeWhile, List.takeWhile_append_dropWhile]
  · intro c hc
    exact List.mem_takeWhile_imp hc
  · intro c hc
    exact List.mem_rtakeWhile_imp hc

theorem trimmed_eq_iff :
  trimmed p text = middle ↔
    EndsOutside p middle ∧ ∃ before after, text = before ++ (middle ++ after) ∧
      (∀ c ∈ before, p c) ∧ ∀ c ∈ after, p c
  := by
  constructor
  · rintro rfl
    exact ⟨endsOutside_trimmed text, exists_eq_append_trimmed text⟩
  · rintro ⟨hmiddle, before, after, rfl, hbefore, hafter⟩
    apply trimmed_append hbefore hmiddle hafter

end SourceLocator.Text
