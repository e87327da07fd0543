import SourceLocator.FileTree.Listing
import SourceLocator.Proofs.MadeDirectories

/-!
# Written trees have no gaps

Every tree that a listing describes has each of its entries in a directory
(`isClosed_of_ofListing`): the directories around an entry are made before it, and no file is
put in the place of a directory (`takesFile_of_filePlace`).
-/

namespace SourceLocator.FileTree

variable {t t' : FileTree} {p : Path}

/-! ### Where files are put -/

/-- Where a file can be put: into a directory, and not in the place of one. -/
def TakesFile (t : FileTree) (place : Location) : Prop :=
  ∃ name around, place = name :: around ∧ t.entry? around = some .directory ∧
    t.entry? place ≠ some .directory

/-- A file is put where the steps lead, or where they go on from a link. -/
theorem filePlace_cases {links : Nat} {start place : Location} {steps : List Step}
    (h : t.filePlace links start steps = .ok place) :
  t.TakesFile place ∨
    ∃ less start' steps', links = less + 1 ∧ t.filePlace less start' steps' = .ok place
  := by
  unfold filePlace at h
  split at h
  · cases h
  · split at h
    · rename_i hdir
      rw [isDirectoryAt_iff] at hdir
      split at h
      · split at h
        · cases h
        · exact .inr ⟨_, _, _, rfl, h⟩
      · cases h
      · rename_i name e hlink hother hlook
        cases h
        left
        refine ⟨name, _, rfl, hdir, ?_⟩
        rw [(lookup_eq_ok_iff.mp hlook).2]
        rintro ⟨⟩
        apply hother rfl
      · rename_i name hlook hname
        cases h
        left
        refine ⟨name, _, rfl, hdir, ?_⟩
        rw [entry?_of_lookup_error hname hlook]
        rintro ⟨⟩
      · cases h
    · cases h
  · cases h

/-- A file is put into a directory, and not in the place of one. -/
theorem takesFile_of_filePlace {links : Nat} {start place : Location} {steps : List Step}
    (h : t.filePlace links start steps = .ok place) :
  t.TakesFile place
  := by
  induction links generalizing start steps with
  | zero =>
    obtain hplace | ⟨_, _, _, hlinks, -⟩ := filePlace_cases h
    · exact hplace
    · cases hlinks
  | succ links ih =>
    obtain hplace | ⟨less, start', steps', hlinks, hless⟩ := filePlace_cases h
    · exact hplace
    · cases hlinks
      apply ih hless

/-! ### Lines of a listing -/

theorem IsClosed.makeDirectories (ht : t.IsClosed) {existing : Bool}
    {outcome : Except Cause Unit} (h : t.makeDirectories p existing = (outcome, t')) :
  t'.IsClosed
  := by
  obtain ⟨made, hgains, -⟩ := (makes_of_makeParents h).exists_gains
  apply hgains.closed ht

theorem IsClosed.writeFile (ht : t.IsClosed) {bytes : List UInt8}
    (h : t.writeFile p bytes = .ok t') :
  t'.IsClosed
  := by
  unfold FileTree.writeFile at h
  split at h
  · cases h
  · rename_i t₁ hmake
    cases hplace : t₁.filePlace linkLimit (t₁.origin p) p.steps with
    | error c =>
      rw [hplace] at h
      cases h
    | ok place =>
      rw [hplace] at h
      cases h
      obtain ⟨name, around, rfl, haround, hother⟩ := takesFile_of_filePlace hplace
      apply (ht.makeDirectories hmake).insert _ haround hother

theorem IsClosed.makeEntry (ht : t.IsClosed) {e : Entry} (h : t.makeEntry p e = .ok t') :
  t'.IsClosed
  := by
  unfold FileTree.makeEntry at h
  split at h
  · cases h
  · rename_i t₁ hmake
    split at h
    · cases h
    · rename_i around name haround _
      split at h
      · cases h
      · rename_i hnone
        cases h
        apply (ht.makeDirectories hmake).insert _ (around_eq_ok_iff.mp haround).2
        intro hdir
        rw [hdir] at hnone
        contradiction
    · cases h

theorem IsClosed.addLine (ht : t.IsClosed) {line : List Char} (h : t.addLine? line = some t') :
  t'.IsClosed
  := by
  have hok : ∀ {made : Except Cause FileTree}, made.toOption = some t' → made = .ok t' := by
    intro made hmade
    cases made with
    | error c => cases hmade
    | ok t'' =>
      cases hmade
      rfl
  unfold addLine? at h
  split at h
  · split at h
    · rename_i hmake
      cases h
      apply ht.makeDirectories hmake
    · cases h
  · apply ht.makeEntry (hok h)
  · apply ht.makeEntry (hok h)
  · obtain ⟨bytes, -, hwrite⟩ := Option.bind_eq_some_iff.mp h
    apply ht.writeFile (hok hwrite)
  · cases h

theorem IsClosed.ofLines (ht : t.IsClosed) {lines : List (List Char)}
    (h : t.ofLines lines = .ok t') :
  t'.IsClosed
  := by
  induction lines generalizing t with
  | nil =>
    cases h
    exact ht
  | cons line lines ih =>
    rw [FileTree.ofLines] at h
    split at h
    · apply ih ht h
    · split at h
      · rename_i hline
        apply ih (ht.addLine hline) h
      · cases h

/-- A tree that a listing describes has no gaps. -/
theorem isClosed_of_ofListing {listing : String} (h : ofListing listing = .ok t) :
  t.IsClosed
  := by
  have hbare : bare.IsClosed := ⟨rfl, by simp [bare]⟩
  apply hbare.ofLines h

end SourceLocator.FileTree
