import SourceLocator.Proofs.GrownTrees
import SourceLocator.Proofs.WalkOutcomes

/-!
# What files hold

Two trees are the same but for the bytes of files when the same entries stand in both, files
with whatever bytes.  Every path then leads to the same place in both (`SameButBytes.resolve_eq`),
and a scan, which reads no file, has one outcome (`SameButBytes.scanFrom_eq`).  Writing over a
file makes no other difference (`sameButBytes_insert`).  In a tree without gaps no path leads to a
link, since links are gone on from (`IsClosed.stat_ne_link`).
-/

namespace SourceLocator

/-- An entry without the bytes of a file. -/
def Entry.hollow : Entry → Entry
  | .file _ => .file []
  | e => e

/-- Without their bytes only files can be mistaken for each other. -/
theorem Entry.eq_of_hollow_eq {e e' : Entry} (h : e'.hollow = e.hollow)
    (hfile : ∀ bytes, e ≠ .file bytes) :
  e' = e
  := by
  cases e with
  | file bytes => exact absurd rfl (hfile bytes)
  | link target =>
    cases e' with
    | link target' => exact h
    | _ => cases h
  | _ => cases e' <;> first | rfl | cases h

namespace FileTree

/-! ### Trees that differ in bytes alone -/

/-- Two trees are the same but for the bytes of files. -/
structure SameButBytes (t t' : FileTree) : Prop where
  here : t'.here = t.here
  names (place : Location) : t'.names place = t.names place
  entry (place : Location) : (t'.entry? place).map Entry.hollow = (t.entry? place).map Entry.hollow

namespace SameButBytes

variable {t t' : FileTree}

theorem symm (h : t.SameButBytes t') :
  t'.SameButBytes t
  := ⟨h.here.symm, fun place => (h.names place).symm, fun place => (h.entry place).symm⟩

theorem entry_eq_none (h : t.SameButBytes t') {place : Location} (hplace : t.entry? place = none) :
  t'.entry? place = none
  := by
  have hentry := h.entry place
  rwa [hplace, Option.map_none, Option.map_eq_none_iff] at hentry

theorem exists_entry (h : t.SameButBytes t') {place : Location} {e : Entry}
    (hplace : t.entry? place = some e) :
  ∃ e', t'.entry? place = some e' ∧ e'.hollow = e.hollow
  := by
  have hentry := h.entry place
  rwa [hplace, Option.map_some, Option.map_eq_some_iff] at hentry

/-- What is no file stands in both trees. -/
theorem entry_eq_some (h : t.SameButBytes t') {place : Location} {e : Entry}
    (hplace : t.entry? place = some e) (hfile : ∀ bytes, e ≠ .file bytes) :
  t'.entry? place = some e
  := by
  obtain ⟨e', he', hhollow⟩ := h.exists_entry hplace
  rw [he', Entry.eq_of_hollow_eq hhollow hfile]

theorem lookup_error (h : t.SameButBytes t') {around : Location} {part : String} {c : Cause}
    (hlook : t.lookup around part = .error c) :
  t'.lookup around part = .error c
  := by
  unfold FileTree.lookup at hlook ⊢
  by_cases hlong : longestName < part.utf8ByteSize
  · rwa [if_pos hlong] at hlook ⊢
  · rw [if_neg hlong] at hlook ⊢
    cases hname : Name.ofString? part with
    | none => rwa [hname] at hlook
    | some name =>
      cases hentry : t.entry? (name :: around) with
      | none => simpa only [hname, hentry, h.entry_eq_none hentry] using hlook
      | some e =>
        simp only [hname, hentry] at hlook
        cases hlook

/-- The same comes of a step in both trees. -/
theorem turns (h : t.SameButBytes t') {place : Location} {step : Step} {turn : Except Cause Turn}
    (hturn : t.Turns place step turn) :
  t'.Turns place step turn
  := by
  have hdirectory : t.entry? place = some .directory → t'.entry? place = some .directory :=
    fun hdir => h.entry_eq_some hdir (by simp)
  cases hturn with
  | missing hentry => exact .missing (h.entry_eq_none hentry)
  | blocked hentry hother =>
    obtain ⟨e', he', hhollow⟩ := h.exists_entry hentry
    refine .blocked he' ?_
    rintro rfl
    apply hother
    apply Entry.eq_of_hollow_eq hhollow.symm (by simp)
  | up hdir => exact .up (hdirectory hdir)
  | stay hdir => exact .stay (hdirectory hdir)
  | lost hdir hlook => exact .lost (hdirectory hdir) (h.lookup_error hlook)
  | empty hdir hlink => exact .empty (hdirectory hdir) (h.entry_eq_some hlink (by simp))
  | along hdir hlink htarget =>
    exact .along (hdirectory hdir) (h.entry_eq_some hlink (by simp)) htarget
  | down hdir hentry hother =>
    obtain ⟨e', he', hhollow⟩ := h.exists_entry hentry
    refine .down (hdirectory hdir) he' ?_
    rintro target rfl
    apply hother target
    apply Entry.eq_of_hollow_eq hhollow.symm (by simp)

/-- So do steps end the same way, as going on from links does. -/
theorem advance_eq (h : t.SameButBytes t') (links : Nat)
    (jump : Location → List Step → Except Cause Spot) (place : Location) (steps : List Step) :
  t'.advance links jump place steps = t.advance links jump place steps
  := by
  induction steps generalizing place with
  | nil => rfl
  | cons step steps ih =>
    obtain ⟨turn, hturn⟩ := t.exists_turns place step
    rw [hturn.advance_cons, (h.turns hturn).advance_cons]
    cases turn with
    | error c => rfl
    | ok turn =>
      cases turn with
      | arrives place' => exact ih place'
      | along start target => rfl

theorem follow_eq (h : t.SameButBytes t') (links : Nat) :
  t'.follow links = t.follow links
  := by
  induction links with
  | zero =>
    funext place steps
    apply h.advance_eq
  | succ links ih =>
    funext place steps
    rw [follow, follow, ih]
    apply h.advance_eq

/-- A path leads to the same place in both trees. -/
theorem resolve_eq (h : t.SameButBytes t') (p : Path) :
  t'.resolve p = t.resolve p
  := by
  have horigin : t'.origin p = t.origin p := by simp only [origin, h.here]
  rw [resolve, resolve, h.follow_eq, horigin]

theorem stat_error (h : t.SameButBytes t') {p : Path} {c : Cause} (hp : t.stat p = .error c) :
  t'.stat p = .error c
  := by
  cases hplace : t.resolve p with
  | error c' =>
    rw [FileTree.stat, hplace] at hp
    rw [FileTree.stat, h.resolve_eq, hplace]
    exact hp
  | ok place =>
    rw [stat_of_resolve hplace] at hp
    rw [stat_of_resolve ((h.resolve_eq p).trans hplace)]
    cases hentry : t.entry? place with
    | none =>
      rw [hentry] at hp
      rw [h.entry_eq_none hentry]
      exact hp
    | some e =>
      rw [hentry] at hp
      cases hp

/-- What a path leads to is the same but for the bytes of a file. -/
theorem exists_stat (h : t.SameButBytes t') {p : Path} {e : Entry} (hp : t.stat p = .ok e) :
  ∃ e', t'.stat p = .ok e' ∧ e'.hollow = e.hollow
  := by
  obtain ⟨place, hplace, hentry⟩ := stat_eq_ok_iff.mp hp
  obtain ⟨e', he', hhollow⟩ := h.exists_entry hentry
  exact ⟨e', stat_eq_ok_iff.mpr ⟨place, (h.resolve_eq p).trans hplace, he'⟩, hhollow⟩

theorem leadsToDirectory_iff (h : t.SameButBytes t') {p : Path} {place : Location} :
  t'.LeadsToDirectory p place ↔ t.LeadsToDirectory p place
  := by
  rw [LeadsToDirectory, LeadsToDirectory, h.resolve_eq]
  constructor
  · exact fun hp => ⟨hp.1, h.symm.entry_eq_some hp.2 (by simp)⟩
  · exact fun hp => ⟨hp.1, h.entry_eq_some hp.2 (by simp)⟩

theorem isDirectory_eq (h : t.SameButBytes t') (p : Path) :
  t'.isDirectory p = t.isDirectory p
  := by
  rw [Bool.eq_iff_iff, isDirectory_iff, isDirectory_iff]
  simp only [h.leadsToDirectory_iff]

theorem isDirectoryAt_eq (h : t.SameButBytes t') (place : Location) :
  t'.isDirectoryAt place = t.isDirectoryAt place
  := by
  rw [Bool.eq_iff_iff, isDirectoryAt_iff, isDirectoryAt_iff]
  exact ⟨fun hp => h.symm.entry_eq_some hp (by simp), fun hp => h.entry_eq_some hp (by simp)⟩

theorem isFile_eq (h : t.SameButBytes t') (p : Path) :
  t'.isFile p = t.isFile p
  := by
  unfold isFile
  cases hp : t.stat p with
  | error c => rw [h.stat_error hp]
  | ok e =>
    obtain ⟨e', he', hhollow⟩ := h.exists_stat hp
    rw [he']
    cases e <;> cases e' <;> first | rfl | cases hhollow

/-! ### Scans of such trees -/

theorem fileAt_eq (h : t.SameButBytes t') (w : Walk) (names : List Name) :
  w.fileAt t' names = w.fileAt t names
  := by
  funext name
  simp only [Walk.fileAt, h.isDirectory_eq, h.isFile_eq]

theorem descends_eq (h : t.SameButBytes t') (w : Walk) (place : Location) (names : List Name) :
  w.descends t' place names = w.descends t place names
  := by
  funext name
  simp only [Walk.descends, h.isDirectory_eq, h.isDirectoryAt_eq]

theorem enter_eq (h : t.SameButBytes t') (p : Path) :
  t'.enter p = t.enter p
  := by
  unfold enter
  rw [h.resolve_eq]
  cases t.resolve p with
  | error c => rfl
  | ok place =>
    cases hplace : t.entry? place with
    | none => simp only [hplace, h.entry_eq_none hplace]
    | some e =>
      obtain ⟨e', he', hhollow⟩ := h.exists_entry hplace
      simp only [hplace, he']
      cases e <;> cases e' <;> first | rfl | cases hhollow

/-- A walk has one outcome in both trees. -/
theorem below_eq (h : t.SameButBytes t') (w : Walk) (names : List Name) (lineage : List Location) :
  w.below t' names lineage = w.below t names lineage
  := by
  induction hn : (t.unvisited lineage).length using Nat.strongRecOn generalizing names lineage with
  | ind n ih =>
    subst hn
    cases henter : t.enter (w.root.descend names) with
    | error c =>
      rw [Walk.below_of_error henter, Walk.below_of_error ((h.enter_eq _).trans henter)]
    | ok place =>
      have hplace := enter_eq_ok.mp henter
      have hplace' := h.leadsToDirectory_iff.mpr hplace
      by_cases hl : place ∈ lineage
      · rw [Walk.below_of_mem hplace hl, Walk.below_of_mem hplace' hl]
      · have hfewer := length_unvisited_lt (isDirectoryAt_iff.mpr hplace.2) hl
        rw [Walk.below_of_not_mem hplace hl, Walk.below_of_not_mem hplace' hl, h.fileAt_eq,
          h.descends_eq, h.names]
        simp only [ih _ hfewer _ _ rfl]

theorem scanFrom_eq (h : t.SameButBytes t') (root : Path) (extension : String)
    (followLinks : Bool) :
  t'.scanFrom root extension followLinks = t.scanFrom root extension followLinks
  := by
  rw [scanFrom, scanFrom, h.below_eq]

end SameButBytes

/-- A tree in which a file is written over is the same but for bytes. -/
theorem sameButBytes_insert {t : FileTree} {place : Location} {old : List UInt8}
    (hold : t.entry? place = some (.file old)) (bytes : List UInt8) :
  t.SameButBytes (t.insert place (.file bytes))
  := by
  have hplace : place ≠ [] := by
    rintro rfl
    cases hold
  have hsome : (t.entries.lookup place).isSome := by
    rw [ entry?, if_neg hplace] at hold
    rw [hold]
    rfl
  refine ⟨here_insert t place _, fun around => ?_, fun other => ?_⟩
  · rw [FileTree.insert, if_pos hsome, FileTree.names, FileTree.names, List.filterMap_map]
    rfl
  · rw [entry?_insert hplace]
    split
    · rename_i hother
      rw [hother, hold]
      rfl
    · rfl

/-! ### Links are gone on from -/

theorem ne_link_of_directory {t : FileTree} {place : Location}
    (hdir : t.entry? place = some .directory) (target : String) :
  t.entry? place ≠ some (.link target)
  := by
  rw [hdir]
  rintro ⟨⟩

/-- Steps from what is no link do not end at one, if going on from a link does not. -/
theorem IsClosed.advance_ne_link {t : FileTree} (ht : t.IsClosed) {links : Nat}
    {jump : Location → List Step → Except Cause Spot}
    (hjump : ∀ {start steps spot}, t.entry? start = some .directory →
      jump start steps = .ok spot → ∀ target, t.entry? spot.place ≠ some (.link target))
    {place : Location} {steps : List Step} {spot : Spot}
    (hplace : ∀ target, t.entry? place ≠ some (.link target))
    (h : t.advance links jump place steps = .ok spot) :
  ∀ target, t.entry? spot.place ≠ some (.link target)
  := by
  induction steps generalizing place with
  | nil =>
    cases h
    exact hplace
  | cons step steps ih =>
    obtain ⟨turn, hturn⟩ := t.exists_turns place step
    rw [hturn.advance_cons] at h
    cases hturn with
    | up hdir =>
      refine ih ?_ h
      -- the directory around a directory is one
      cases place with
      | nil => exact hplace
      | cons name around =>
        have haround : t.entry? around = some .directory :=
          isDirectoryAt_iff.mp (ht.around _ (mem_entries_of_eq_some (List.cons_ne_nil _ _) hdir))
        exact ne_link_of_directory haround
    | stay hdir => exact ih hplace h
    | along hdir hlink htarget =>
      refine hjump ?_ h
      rw [targetStart]
      split
      · rfl
      · exact hdir
    | @down name e hdir hentry hother =>
      refine ih ?_ h
      intro target
      rw [hentry, ne_eq, Option.some.injEq]
      apply hother
    | _ => cases h

theorem IsClosed.follow_ne_link {t : FileTree} (ht : t.IsClosed) {links : Nat} {place : Location}
    {steps : List Step} {spot : Spot} (hplace : ∀ target, t.entry? place ≠ some (.link target))
    (h : t.follow links place steps = .ok spot) :
  ∀ target, t.entry? spot.place ≠ some (.link target)
  := by
  induction links generalizing place steps spot with
  | zero => exact ht.advance_ne_link (fun _ hjump => by cases hjump) hplace h
  | succ links ih =>
    exact ht.advance_ne_link (fun hstart hjump => ih (ne_link_of_directory hstart) hjump) hplace h

/-- No path leads to a link. -/
theorem IsClosed.stat_ne_link {t : FileTree} (ht : t.IsClosed) (p : Path) (target : String) :
  t.stat p ≠ .ok (.link target)
  := by
  intro hp
  obtain ⟨place, hresolve, hlink⟩ := stat_eq_ok_iff.mp hp
  obtain ⟨links, hreach⟩ := exists_reach hresolve
  have hstart : t.entry? (t.origin p) = some .directory := by
    rw [origin]
    split
    · exact isDirectoryAt_iff.mp ht.here
    · rfl
    · rfl
  apply ht.follow_ne_link (ne_link_of_directory hstart) hreach target hlink

end FileTree

end SourceLocator
