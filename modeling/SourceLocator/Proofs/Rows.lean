import Mathlib.Data.List.Forall2
import Mathlib.Data.List.Nodup
import Mathlib.Data.String.Basic
import SourceLocator.Command.Locate
import SourceLocator.Proofs.PathReading
import SourceLocator.Proofs.Walk

/-!
# Rows

What a walk finds it finds below its root (`Walk.isFoundBelow_of_mem`): its path is the one of
a directory, as the walk spells it, with a name behind it, and the root can be taken off the
front.  What is left then are the rows that are listed.  They can all be had
(`exists_rowsBelow_eq`), each leads from the root to a file of its own (`rows_perm`), and so they
are strictly in order (`pairwise_rows`).
-/

namespace SourceLocator

/-! ### All members of a list -/

section Members

variable {α β ε : Type} {f : α → Except ε β} {as : List α}

/-- An operation succeeds for a list if it does for each of its members. -/
theorem exists_mapM_eq_ok (h : ∀ a ∈ as, ∃ b, f a = .ok b) :
  ∃ bs, as.mapM f = .ok bs
  := by
  induction as with
  | nil => exact ⟨[], rfl⟩
  | cons a as ih =>
    obtain ⟨b, hb⟩ := h a List.mem_cons_self
    obtain ⟨bs, hbs⟩ := ih fun a ha => h a (List.mem_cons_of_mem _ ha)
    use b :: bs
    rw [List.mapM_cons, hb, hbs]
    rfl

/-- It then gives the results for the members one by one. -/
theorem mapM_eq_ok_iff {bs : List β} :
  as.mapM f = .ok bs ↔ List.Forall₂ (fun a b => f a = .ok b) as bs
  := by
  induction as generalizing bs with
  | nil =>
    rw [List.mapM_nil, List.forall₂_nil_left_iff]
    exact ⟨fun h => (Except.ok.inj h).symm, fun h => congrArg Except.ok h.symm⟩
  | cons a as ih =>
    rw [List.mapM_cons, List.forall₂_cons_left_iff]
    simp only [← ih]
    constructor
    · intro h
      cases ha : f a with
      | error e =>
        rw [ha] at h
        cases h
      | ok b =>
        cases has : as.mapM f with
        | error e =>
          rw [ha, has] at h
          cases h
        | ok rest =>
          rw [ha, has] at h
          exact ⟨b, rest, rfl, rfl, (Except.ok.inj h).symm⟩
    · rintro ⟨b, rest, ha, has, rfl⟩
      rw [ha, has]
      rfl

/-- The results are those for some member. -/
theorem mem_of_mapM {bs : List β} (h : as.mapM f = .ok bs) {b : β} :
  b ∈ bs ↔ ∃ a ∈ as, f a = .ok b
  := by
  have hmap : as.map f = bs.map .ok := by
    rw [← List.forall₂_eq_eq_eq, List.forall₂_map_left_iff, List.forall₂_map_right_iff]
    apply mapM_eq_ok_iff.mp h
  rw [← List.mem_map, hmap, List.mem_map_of_injective fun _ _ => Except.ok.inj]

end Members

/-! ### What a walk finds -/

/-- A path leads from a root through names to a name. -/
def Path.IsFoundBelow (p root : Path) : Prop :=
  ∃ names name, p = root.descend (names ++ [name])

/-- Whatever a walk finds it finds below its root. -/
theorem Walk.isFoundBelow_of_mem {w : Walk} {t : FileTree} {found : List Path}
    (h : w.below t [] [] = .ok found) {p : Path} (hp : p ∈ found) :
  p.IsFoundBelow w.root
  := by
  obtain ⟨-, hmem⟩ := Walk.below_eq_ok h
  obtain ⟨names, name, -, files, hfiles, hp⟩ := (hmem p).mp hp
  exact ⟨names, name, ((mem_fileAt_iff hfiles).mp hp).1⟩

/-- What a scan finds lies below its root. -/
theorem FileTree.isFoundBelow_of_mem_scanFrom {t : FileTree} {root p : Path} {extension : String}
    {followLinks : Bool} (hp : p ∈ (t.scanFrom root extension followLinks).files) :
  p.IsFoundBelow root
  := by
  unfold scanFrom at hp
  split at hp
  · rename_i hfound
    apply Walk.isFoundBelow_of_mem hfound (FileSet.mem_ofList.mp hp)
  · apply absurd hp (FileSet.not_mem_empty p)

theorem Path.relativeTo?_descend (root : Path) (names : List Name) :
  (root.descend names).relativeTo? root = some ⟨.here, names.map (·.val)⟩
  := by
  rw [relativeTo?_eq_some_iff]
  exact ⟨rfl, rfl⟩

namespace Path.IsFoundBelow

variable {p root : Path}

theorem isNormal (h : p.IsFoundBelow root) (hroot : root.IsNormal) :
  p.IsNormal
  := by
  obtain ⟨names, name, rfl⟩ := h
  apply hroot.descend

/-- The path is the one of a directory as a walk spells it, with a name behind it. -/
theorem eq_child (h : p.IsFoundBelow root) (hroot : root.IsNormal) :
  ∃ names name, p = (ofString (walkSpelling root names)).child name
  := by
  obtain ⟨names, name, rfl⟩ := h
  use names, name.val
  rw [ofString_walkSpelling hroot]
  simp [descend, child]

/-- The root can be taken off the front. -/
theorem exists_relativeTo?_eq (h : p.IsFoundBelow root) :
  ∃ q, p.relativeTo? root = some q
  := by
  obtain ⟨names, name, rfl⟩ := h
  exact ⟨_, relativeTo?_descend root _⟩

end Path.IsFoundBelow

/-- What follows a root in a normal path can be spelled and read again. -/
theorem Path.join_ofString_render {p root q : Path} (hp : p.IsNormal)
    (h : p.relativeTo? root = some q) :
  root.join (.ofString q.render) = p
  := by
  obtain ⟨horigin, rfl⟩ := relativeTo?_eq_some_iff.mp h
  have hq : q.IsNormal := by
    intro part hpart
    apply hp part
    simp [join, horigin, hpart]
  rw [ofString_render hq]

/-! ### What is listed -/

namespace Command.Locate

variable {source : Path} {files : FileSet} {rows : List String}

theorem rowBelow_eq_ok_iff {p : Path} {row : String} :
  rowBelow source p = .ok row ↔ ∃ q, p.relativeTo? source = some q ∧ q.render = row
  := by
  rw [rowBelow]
  cases p.relativeTo? source with
  | none => simp
  | some q => simp

/-- The rows are those of the files, in order. -/
theorem rowsBelow_eq_ok_iff :
  rowsBelow source files = .ok rows ↔
    ∃ found, files.paths.mapM (rowBelow source) = .ok found ∧ sortedTexts found = rows
  := by
  rw [rowsBelow]
  cases files.paths.mapM (rowBelow source) with
  | error e => simp [Except.map]
  | ok found => simp [Except.map]

theorem mem_rows_iff (h : rowsBelow source files = .ok rows) {row : String} :
  row ∈ rows ↔ ∃ p ∈ files, ∃ q, p.relativeTo? source = some q ∧ q.render = row
  := by
  obtain ⟨found, hfound, rfl⟩ := rowsBelow_eq_ok_iff.mp h
  simp only [← rowBelow_eq_ok_iff]
  apply (sortedTexts_perm found).mem_iff.trans
  apply mem_of_mapM hfound

/-- Files that lie below the source all have rows. -/
theorem exists_rowsBelow_eq (hfound : ∀ p ∈ files, p.IsFoundBelow source) :
  ∃ rows, rowsBelow source files = .ok rows
  := by
  obtain ⟨found, hrows⟩ : ∃ found, files.paths.mapM (rowBelow source) = .ok found := by
    apply exists_mapM_eq_ok
    intro p hp
    obtain ⟨q, hq⟩ := (hfound p hp).exists_relativeTo?_eq
    exact ⟨_, rowBelow_eq_ok_iff.mpr ⟨q, hq, rfl⟩⟩
  exact ⟨_, rowsBelow_eq_ok_iff.mpr ⟨found, hrows, rfl⟩⟩

section Found

variable (hsource : source.IsNormal) (hfound : ∀ p ∈ files, p.IsFoundBelow source)
  (h : rowsBelow source files = .ok rows)
include hsource hfound h

/-- Behind the source the rows lead to the files, one to each of them. -/
theorem rows_perm :
  (rows.map fun row => source.join (.ofString row)).Perm files.paths
  := by
  obtain ⟨found, hrows, rfl⟩ := rowsBelow_eq_ok_iff.mp h
  have hlead : found.map (fun row => source.join (.ofString row)) = files.paths := by
    rw [← List.forall₂_eq_eq_eq, List.forall₂_map_left_iff]
    apply ((List.forall₂_and_left _ _).mpr ⟨hfound, mapM_eq_ok_iff.mp hrows⟩).flip.imp
    rintro row p ⟨hp, hrow⟩
    obtain ⟨q, hq, rfl⟩ := rowBelow_eq_ok_iff.mp hrow
    apply Path.join_ofString_render (hp.isNormal hsource) hq
  rw [← hlead]
  apply (sortedTexts_perm found).map

theorem mem_iff_exists_row {p : Path} :
  p ∈ files ↔ ∃ row ∈ rows, source.join (.ofString row) = p
  := by
  apply (rows_perm hsource hfound h).mem_iff.symm.trans
  rw [List.mem_map]

theorem length_rows :
  rows.length = files.size
  := by
  rw [FileSet.size, ← (rows_perm hsource hfound h).length_eq, List.length_map]

/-- No row comes twice, since no file does. -/
theorem pairwise_rows :
  rows.Pairwise (· < ·)
  := by
  have hnodup : rows.Nodup :=
    ((rows_perm hsource hfound h).nodup_iff.mpr files.nodup).of_map
  obtain ⟨found, -, rfl⟩ := rowsBelow_eq_ok_iff.mp h
  apply (pairwise_sortedTexts found).imp₂ _ hnodup
  intro row row' hle hne
  apply lt_of_le_of_ne hle hne

end Found

end Command.Locate

end SourceLocator
