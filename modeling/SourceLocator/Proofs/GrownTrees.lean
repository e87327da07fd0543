import SourceLocator.FileTree.Edit
import SourceLocator.Proofs.Resolution

/-!
# Trees that hold more

A tree `Keeps` what stands in another one when every entry of that one stands in it too; then
whatever leads somewhere leads there still (`Keeps.leadsToDirectory`).  `withDirectories` is
the tree with directories at places where nothing stands.  A tree `IsClosed` when every entry
lies in a directory, so that nothing stands below what is no directory
(`IsClosed.entry?_cons`), and stays so with an entry more (`IsClosed.insert`).
-/

namespace SourceLocator

namespace FileTree

variable {t t' t'' : FileTree} {p : Path}

/-! ### Trees that keep what stands in another -/

/-- A tree keeps what stands in another one, and is seen from the same place. -/
structure Keeps (t t' : FileTree) : Prop where
  here : t'.here = t.here
  entry {place e} : t.entry? place = some e → t'.entry? place = some e

namespace Keeps

theorem refl (t : FileTree) :
  t.Keeps t
  := ⟨rfl, id⟩

theorem trans (h : t.Keeps t') (h' : t'.Keeps t'') :
  t.Keeps t''
  := ⟨h'.here.trans h.here, fun he => h'.entry (h.entry he)⟩

theorem mem_names (h : t.Keeps t') {place : Location} {name : Name} (hname : name ∈ t.names place) :
  name ∈ t'.names place
  := by
  rw [FileTree.mem_names] at hname ⊢
  obtain ⟨e, he⟩ := Option.isSome_iff_exists.mp hname
  rw [h.entry he]
  rfl

/-- The same comes of a step in a tree that keeps what stands in another one, unless something was
missing there. -/
theorem turns (h : t.Keeps t') {place : Location} {step : Step} {turn : Except Cause Turn}
    (hturn : t.Turns place step turn) (hfound : turn ≠ .error .notFound) :
  t'.Turns place step turn
  := by
  cases hturn with
  | missing hentry => apply absurd rfl hfound
  | blocked hentry hother => exact .blocked (h.entry hentry) hother
  | up hdir => exact .up (h.entry hdir)
  | stay hdir => exact .stay (h.entry hdir)
  | lost hdir hlook =>
    obtain rfl | ⟨rfl, hlong⟩ := lookup_error hlook
    · apply absurd rfl hfound
    · apply turns_of_long (h.entry hdir) hlong
  | empty hdir hlink => apply absurd rfl hfound
  | along hdir hlink htarget => exact .along (h.entry hdir) (h.entry hlink) htarget
  | down hdir hentry hother => exact .down (h.entry hdir) (h.entry hentry) hother

/-- So do steps end the same way, if going on from a link does. -/
theorem advance (h : t.Keeps t') {links : Nat}
    {jump jump' : Location → List Step → Except Cause Spot}
    (hjump : ∀ {place steps}, jump place steps ≠ .error .notFound →
      jump' place steps = jump place steps)
    {place : Location} {steps : List Step}
    (hsteps : t.advance links jump place steps ≠ .error .notFound) :
  t'.advance links jump' place steps = t.advance links jump place steps
  := by
  induction steps generalizing place with
  | nil => rfl
  | cons step steps ih =>
    obtain ⟨turn, hturn⟩ := t.exists_turns place step
    rw [hturn.advance_cons] at hsteps ⊢
    have hfound : turn ≠ .error .notFound := by
      rintro rfl
      apply hsteps rfl
    rw [(h.turns hturn hfound).advance_cons]
    cases turn with
    | error c => rfl
    | ok turn =>
      cases turn with
      | arrives place' => exact ih hsteps
      | along start target => exact hjump hsteps

/-- And so they do with a number of links to follow. -/
theorem follow_eq (h : t.Keeps t') {links : Nat} {place : Location} {steps : List Step}
    (hsteps : t.follow links place steps ≠ .error .notFound) :
  t'.follow links place steps = t.follow links place steps
  := by
  induction links generalizing place steps with
  | zero => exact h.advance (fun _ => rfl) hsteps
  | succ links ih => exact h.advance ih hsteps

/-- Steps that lead somewhere lead there in every tree that keeps what stands there. -/
theorem follow (h : t.Keeps t') {links : Nat} {place : Location} {steps : List Step} {spot : Spot}
    (hsteps : t.follow links place steps = .ok spot) :
  t'.follow links place steps = .ok spot
  := by
  rw [h.follow_eq (by rw [hsteps]; rintro ⟨⟩), hsteps]

theorem origin (h : t.Keeps t') (p : Path) :
  t'.origin p = t.origin p
  := by
  simp only [FileTree.origin, h.here]

theorem reach (h : t.Keeps t') {spot : Spot} (hp : t.reach p = .ok spot) :
  t'.reach p = .ok spot
  := by
  rw [FileTree.reach, h.origin]
  apply h.follow hp

theorem resolve (h : t.Keeps t') {place : Location} (hp : t.resolve p = .ok place) :
  t'.resolve p = .ok place
  := by
  obtain ⟨links, hreach⟩ := exists_reach hp
  rw [resolve_eq_reach, h.reach hreach]
  rfl

/-- What a path leads to, or why it leads nowhere, is the same unless something was missing. -/
theorem stat_eq (h : t.Keeps t') (hp : t.stat p ≠ .error .notFound) :
  t'.stat p = t.stat p
  := by
  cases hreach : t.reach p with
  | error c =>
    rw [stat, resolve_eq_reach, hreach] at hp
    have hreach' : t'.reach p = t.reach p := by
      rw [FileTree.reach, h.origin]
      apply h.follow_eq
      rw [← FileTree.reach, hreach]
      rintro ⟨⟩
      apply hp rfl
    rw [stat, stat, resolve_eq_reach, resolve_eq_reach, hreach', hreach]
    rfl
  | ok spot =>
    have hresolve : t.resolve p = .ok spot.place := by
      rw [resolve_eq_reach, hreach]
      rfl
    rw [stat_of_resolve hresolve] at hp ⊢
    rw [stat_of_resolve (h.resolve hresolve)]
    cases hentry : t.entry? spot.place with
    | none =>
      rw [hentry] at hp
      apply absurd rfl hp
    | some e => rw [h.entry hentry]

theorem leadsToDirectory (h : t.Keeps t') {place : Location} (hp : t.LeadsToDirectory p place) :
  t'.LeadsToDirectory p place
  := ⟨h.resolve hp.1, h.entry hp.2⟩

end Keeps

/-! ### Trees with more directories -/

/-- The tree with directories at places as well. -/
def withDirectories (t : FileTree) (made : List Location) : FileTree :=
  { t with entries := t.entries ++ made.map fun place => (place, .directory) }

@[simp]
theorem withDirectories_nil (t : FileTree) :
  t.withDirectories [] = t
  := by
  simp [withDirectories]

theorem withDirectories_append (made more : List Location) :
  (t.withDirectories made).withDirectories more = t.withDirectories (made ++ more)
  := by
  simp [withDirectories]

/-- The directories stand where nothing else does. -/
theorem entry?_withDirectories (made : List Location) (place : Location) :
  FileTree.entry? (t.withDirectories made) place
    = (t.entry? place).or (if place ∈ made then some .directory else none)
  := by
  by_cases hplace : place = []
  · simp [ entry?, hplace]
  · have hmade : (made.map fun place => (place, Entry.directory)).lookup place
        = if place ∈ made then some .directory else none := by
      induction made with
      | nil => rfl
      | cons other made ih =>
        rw [List.map_cons, List.lookup_cons, ih]
        by_cases hother : place = other
        · simp [hother]
        · simp [hother, beq_eq_false_iff_ne.mpr hother]
    simp [ entry?, withDirectories, hplace, List.lookup_append, hmade]

theorem keeps_withDirectories (t : FileTree) (made : List Location) :
  t.Keeps (t.withDirectories made)
  := by
  refine ⟨rfl, ?_⟩
  intro place e h
  rw [entry?_withDirectories, h]
  rfl

/-- A directory is inserted where nothing stands. -/
theorem insert_eq_withDirectories {place : Location} (h : t.entry? place = none) :
  t.insert place .directory = t.withDirectories [place]
  := by
  have hlookup : t.entries.lookup place = none := by
    by_cases hplace : place = []
    · simp [ entry?, hplace] at h
    · simpa [ entry?, hplace] using h
  simp [insert, hlookup, withDirectories]

/-! ### Trees without gaps -/

/-- Every entry of a tree lies in a directory, and the tree is seen from a directory. -/
structure IsClosed (t : FileTree) : Prop where
  here : t.isDirectoryAt t.here
  around : ∀ entry ∈ t.entries, t.isDirectoryAt entry.1.tail

instance (t : FileTree) : Decidable t.IsClosed :=
  decidable_of_iff (t.isDirectoryAt t.here ∧ ∀ entry ∈ t.entries, t.isDirectoryAt entry.1.tail)
    ⟨fun h => ⟨h.1, h.2⟩, fun h => ⟨h.here, h.around⟩⟩

theorem isDirectoryAt_iff {place : Location} :
  t.isDirectoryAt place ↔ t.entry? place = some .directory
  := by
  simp [isDirectoryAt]

theorem IsClosed.entry?_cons (ht : t.IsClosed) {place : Location}
    (h : t.entry? place ≠ some .directory) (name : Name) :
  t.entry? (name :: place) = none
  := by
  rw [← Option.not_isSome_iff_eq_none]
  intro hsome
  obtain ⟨e, he⟩ := Option.isSome_iff_exists.mp hsome
  have hmem := mem_entries_of_eq_some (List.cons_ne_nil _ _) he
  apply h
  apply isDirectoryAt_iff.mp (ht.around _ hmem)

/-- Where an entry is inserted it stands, and everywhere else what stood there. -/
theorem entry?_insert {place : Location} (hplace : place ≠ []) (e : Entry) (other : Location) :
  FileTree.entry? (t.insert place e) other = if other = place then some e else t.entry? other
  := by
  have hmap : ∀ (f : Location × Entry → Location × Entry) (entries : List (Location × Entry)),
      (∀ entry, f entry = (entry.1, if entry.1 = place then e else entry.2)) →
        (entries.map f).lookup other
          = (entries.lookup other).map fun old => if other = place then e else old := by
    intro f entries hf
    induction entries with
    | nil => rfl
    | cons entry entries ih =>
      rw [List.map_cons, List.lookup_cons, List.lookup_cons, ih, hf]
      by_cases hat : other = entry.1
      · simp [hat]
      · simp [beq_eq_false_iff_ne.mpr hat]
  by_cases hroot : other = []
  · rw [hroot, if_neg (Ne.symm hplace)]
    rfl
  · unfold FileTree.insert
    split
    · rename_i hsome
      simp only [ entry?, hroot, if_false]
      rw [hmap _ _ fun _ => rfl]
      by_cases hother : other = place
      · obtain ⟨old, hold⟩ := Option.isSome_iff_exists.mp hsome
        simp [hother, hold]
      · simp [hother]
    · rename_i hnone
      have hnone := Option.not_isSome_iff_eq_none.mp hnone
      simp only [ entry?, hroot, if_false, List.lookup_append, List.lookup_cons, List.lookup_nil]
      by_cases hother : other = place
      · simp [hother, hnone]
      · simp [hother, beq_eq_false_iff_ne.mpr hother]

theorem here_insert (t : FileTree) (place : Location) (e : Entry) :
  FileTree.here (t.insert place e) = t.here
  := by
  unfold FileTree.insert
  split <;> rfl

/-- A tree without gaps has none with an entry more in a directory, or with another one in the
place of one that is no directory. -/
theorem IsClosed.insert (ht : t.IsClosed) {around : Location} {name : Name} (e : Entry)
    (haround : t.entry? around = some .directory)
    (hplace : t.entry? (name :: around) ≠ some .directory) :
  (t.insert (name :: around) e).IsClosed
  := by
  have hkeeps : ∀ place, t.isDirectoryAt place →
      (t.insert (name :: around) e).isDirectoryAt place := by
    intro place hdir
    rw [isDirectoryAt_iff] at hdir ⊢
    rw [entry?_insert (List.cons_ne_nil _ _), if_neg, hdir]
    rintro rfl
    apply hplace hdir
  constructor
  · rw [here_insert]
    apply hkeeps _ ht.here
  · intro entry hentry
    apply hkeeps
    unfold FileTree.insert at hentry
    split at hentry
    · obtain ⟨old, hold, rfl⟩ := List.mem_map.mp hentry
      apply ht.around old hold
    · obtain hentry | hentry := List.mem_append.mp hentry
      · apply ht.around entry hentry
      · obtain rfl := List.mem_singleton.mp hentry
        apply isDirectoryAt_iff.mpr haround

end FileTree

end SourceLocator
