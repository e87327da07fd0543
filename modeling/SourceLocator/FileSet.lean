import SourceLocator.Path

/-!
# Sets of files

A `FileSet` holds paths, each of them once.  `FileSet.ofList` forgets repetitions, `filter`
keeps the members that pass a test, and `listing` spells the members in the order of their
code points, in which `sortedTexts` puts texts without leaving any out.  Membership is the view
through which the sets are compared.
-/

namespace SourceLocator

/-- The members of a list without repetitions. -/
def distinct {α : Type} [DecidableEq α] : List α → List α
  | [] => []
  | a :: as => if a ∈ as then distinct as else a :: distinct as

section Distinct

variable {α : Type} [DecidableEq α]

@[simp]
theorem mem_distinct {a : α} {as : List α} :
  a ∈ distinct as ↔ a ∈ as
  := by
  induction as with
  | nil => simp [distinct]
  | cons b as ih =>
    by_cases h : b ∈ as
    · simp only [distinct, if_pos h, ih, List.mem_cons]
      exact ⟨.inr, fun h' => h'.elim (fun e => e ▸ h) id⟩
    · simp [distinct, if_neg h, ih]

theorem nodup_distinct (as : List α) :
  (distinct as).Nodup
  := by
  induction as with
  | nil => simp [distinct]
  | cons b as ih =>
    by_cases h : b ∈ as
    · simpa [distinct, h] using ih
    · simp [distinct, h, ih]

end Distinct

/-- A finite set of paths. -/
structure FileSet where
  paths : List Path
  nodup : paths.Nodup

/-- Texts in the order of their code points. -/
def sortedTexts (texts : List String) : List String :=
  texts.mergeSort fun s t => s ≤ t

theorem sortedTexts_perm (texts : List String) :
  (sortedTexts texts).Perm texts
  := List.mergeSort_perm texts _

theorem pairwise_sortedTexts (texts : List String) :
  (sortedTexts texts).Pairwise (· ≤ ·)
  := by
  have hsorted : (sortedTexts texts).Pairwise fun s t => decide (s ≤ t) := by
    apply List.pairwise_mergeSort
    · intro s t u hst htu
      rw [decide_eq_true_iff] at hst htu ⊢
      apply String.le_trans hst htu
    · intro s t
      simpa using String.le_total s t
  exact hsorted.imp of_decide_eq_true

namespace FileSet

instance : Membership Path FileSet where
  mem s p := p ∈ s.paths

/-- The set of the paths in a list. -/
def ofList (paths : List Path) : FileSet :=
  ⟨distinct paths, nodup_distinct paths⟩

/-- The set without members. -/
def empty : FileSet := ofList []

/-- The number of members. -/
def size (s : FileSet) : Nat := s.paths.length

/-- The members that pass a test. -/
def filter (s : FileSet) (test : Path → Bool) : FileSet :=
  ⟨s.paths.filter test, s.nodup.sublist List.filter_sublist⟩

/-- The spellings of the members in the order of their code points. -/
def listing (s : FileSet) : List String :=
  sortedTexts (s.paths.map Path.render)

@[simp]
theorem mem_ofList {p : Path} {paths : List Path} :
  p ∈ ofList paths ↔ p ∈ paths
  := mem_distinct

@[simp]
theorem mem_filter {p : Path} {s : FileSet} {test : Path → Bool} :
  p ∈ s.filter test ↔ p ∈ s ∧ test p
  := List.mem_filter

@[simp]
theorem not_mem_empty (p : Path) :
  ¬ p ∈ empty
  := by
  simp [empty]

end FileSet

end SourceLocator
