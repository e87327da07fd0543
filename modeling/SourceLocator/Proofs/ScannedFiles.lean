import Mathlib.Data.List.Perm.Subperm
import SourceLocator.Proofs.Lineage

/-!
# The files of a scan

What a scan finds, said without the walk.  With links followed, the directories are the ends
of the chains of names that lead through directories from the root, and a directory that
comes twice in one chain ends the scan (`scan_followLinks`).  Without, they are the
directories that lie below that of the root in the tree itself (`scan_withoutLinks`).  In
both cases the files are the entries of those directories that lead to files and are named
as asked for, each under the path by which it was found.
-/

namespace SourceLocator

open Text

namespace FileTree

variable {t : FileTree} {root : Path}

/-- The lowered name of an entry ends with a lowered extension. -/
def HasExtension (name : Name) (extension : String) : Prop :=
  lowercase extension.toList <:+ lowercase name.val.toList

instance (name : Name) (extension : String) : Decidable (HasExtension name extension) :=
  inferInstanceAs (Decidable (_ <:+ _))

/-- A walk looks for the lowered extension. -/
theorem wants_iff {extension : String} {followLinks : Bool} {name : Name} :
  Walk.wants ⟨root, lowercase extension.toList, followLinks⟩ name ↔ HasExtension name extension
  := List.isSuffixOf_iff_suffix

/-- What can be scanned is what holds no forbidden character. -/
theorem scan_of_hasNul_eq_false (hnul : root.hasNul = false) (extension : String)
    (followLinks : Bool) :
  t.scan root extension followLinks = .ok (t.scanFrom root extension followLinks)
  := by
  simp [scan, hnul]

theorem scanFrom_of_ok {extension : String} {followLinks : Bool} {found : List Path}
    (h : Walk.below ⟨root, lowercase extension.toList, followLinks⟩ t [] [] = .ok found) :
  t.scanFrom root extension followLinks = ⟨root, .ofList found, none⟩
  := by
  simp [scanFrom, h]

theorem scanFrom_of_error {extension : String} {followLinks : Bool} {e : FileError}
    (h : Walk.below ⟨root, lowercase extension.toList, followLinks⟩ t [] [] = .error e) :
  t.scanFrom root extension followLinks = ⟨root, .empty, some e⟩
  := by
  simp [scanFrom, h]

/-! ### With links followed -/

/-- A chain of names from a root: each is an entry of the directory that those before it
lead to, and leads to a directory in turn, perhaps by links.  The places are those of all
directories of the chain, the last in front. -/
inductive Chain (t : FileTree) (root : Path) : List Name → List Location → Prop where
  | root {place} : t.LeadsToDirectory root place → Chain t root [] [place]
  | down {names place places name place'} :
      Chain t root names (place :: places) → name ∈ t.names place →
      t.LeadsToDirectory (root.descend (names ++ [name])) place' →
      Chain t root (names ++ [name]) (place' :: place :: places)

/-- A chain that comes to no directory twice is no longer than there are directories. -/
theorem Chain.length_le {names : List Name} {places : List Location}
    (h : t.Chain root names places) (hnodup : places.Nodup) :
  places.length ≤ t.directories.length
  := by
  apply List.Subperm.length_le
  apply hnodup.subperm
  clear hnodup
  induction h with
  | root h =>
    intro place hplace
    obtain rfl := List.mem_singleton.mp hplace
    apply mem_directories (by simpa [isDirectoryAt] using h.2)
  | down _ _ h ih =>
    intro place hplace
    rcases List.mem_cons.mp hplace with rfl | hplace
    · apply mem_directories (by simpa [isDirectoryAt] using h.2)
    · apply ih hplace

/-- If a chain comes to a directory twice, one does so at its end. -/
theorem Chain.exists_repeated {names : List Name} {places : List Location}
    (h : t.Chain root names places) (hrepeated : ¬ places.Nodup) :
  ∃ names place places, t.Chain root names (place :: places) ∧ place ∈ places
  := by
  induction h with
  | root h => simp at hrepeated
  | @down names place places name place' hchain hname h ih =>
    by_cases hmem : place' ∈ place :: places
    · exact ⟨_, place', place :: places, hchain.down hname h, hmem⟩
    · apply ih
      intro hnodup
      apply hrepeated (List.nodup_cons.mpr ⟨hmem, hnodup⟩)

/-- A walk that follows links visits the ends of chains. -/
theorem visits_iff_chain {suffix : List Char} {names : List Name} {places : List Location} :
  Walk.Visits ⟨root, suffix, true⟩ t names places ↔ t.Chain root names places
  := by
  constructor
  · intro h
    induction h with
    | root h => exact .root h
    | down _ hname _ h ih => exact ih.down hname h
  · intro h
    induction h with
    | root h => exact .root h
    | down _ hname h ih =>
      refine ih.down hname ?_ h
      simp only [Walk.descends, Bool.true_or, Bool.and_true]
      apply isDirectory_iff.mpr ⟨_, h⟩

/-- It makes no difference to a scan whether lineages are kept in a table. -/
theorem scanTabled_eq_scanFrom {s : String} (hroot : root = .ofString s) (extension : String)
    {depth : Nat} (hdepth : t.directories.length < depth) :
  t.scanTabled depth root extension = some (t.scanFrom root extension true)
  := by
  have htabled := Walk.tabled_eq_below (w := ⟨root, lowercase extension.toList, true⟩) hroot
    hdepth
  unfold scanTabled scanFrom
  cases houtcome : Walk.tabled ⟨root, lowercase extension.toList, true⟩ t depth [] [] with
  | none =>
    rw [houtcome] at htabled
    cases htabled
  | some outcome =>
    rw [houtcome, Option.map_some, Option.some.injEq] at htabled
    rw [← htabled]
    cases outcome with
    | error e => rfl
    | ok found => rfl

/-- A scan that follows links ends.  If a chain comes to a directory twice then the scan
fails for too many links and has no files; otherwise its files are the ones listed in the
directories at the ends of chains.  A scan that keeps lineages in a table, by the spellings of
directories, comes to the same. -/
theorem scan_followLinks (ht : t.LinksFit) (hnul : root.hasNul = false)
    (hroot : t.isDirectory root) (extension : String) :
  ∃ r, t.scan root extension true = .ok r ∧ r.root = root ∧
    (∀ s, root = .ofString s → ∀ depth, t.directories.length < depth →
      t.scanTabled depth root extension = some r) ∧
    (∀ names places, t.Chain root names places → places.Nodup →
      places.length ≤ t.directories.length) ∧
    ((∃ names places, t.Chain root names places ∧ ¬ places.Nodup) →
      r.files = .empty ∧ ∃ e, r.error = some e ∧ e.cause = .tooManyLinks) ∧
    ((∀ names places, t.Chain root names places → places.Nodup) →
      r.error = none ∧
      ∀ p, p ∈ r.files ↔ ∃ names place places name, t.Chain root names (place :: places) ∧
        name ∈ t.names place ∧ p = root.descend (names ++ [name]) ∧ t.LeadsToFile p ∧
        HasExtension name extension)
  := by
  use t.scanFrom root extension true, scan_of_hasNul_eq_false hnul extension true
  obtain ⟨start, hstart⟩ := isDirectory_iff.mp hroot
  obtain ⟨hloop, hfound⟩ := Walk.below_root
    (w := ⟨root, lowercase extension.toList, true⟩) ht hstart
  simp only [visits_iff_chain, wants_iff] at hloop hfound
  refine ⟨?_, fun s hs depth hdepth => scanTabled_eq_scanFrom hs extension hdepth,
    fun names places h hnodup => h.length_le hnodup, ?_, ?_⟩
  · rw [scanFrom]
    split <;> rfl
  · rintro ⟨names, places, hchain, hrepeated⟩
    obtain ⟨e, he, hcause⟩ := hloop (hchain.exists_repeated hrepeated)
    rw [scanFrom_of_error he]
    exact ⟨rfl, e, rfl, hcause⟩
  · intro hnodup
    obtain ⟨found, hbelow, hmem⟩ := hfound fun names place places h =>
      (List.nodup_cons.mp (hnodup _ _ h)).1
    rw [scanFrom_of_ok hbelow]
    refine ⟨rfl, fun p => ?_⟩
    rw [FileSet.mem_ofList, hmem]
    constructor
    · rintro ⟨names, place, places, name, hchain, hname, hp, hext, hfile⟩
      exact ⟨names, place, places, name, hchain, hname, hp, hfile, hext⟩
    · rintro ⟨names, place, places, name, hchain, hname, hp, hfile, hext⟩
      exact ⟨names, place, places, name, hchain, hname, hp, hext, hfile⟩

/-- A tree seen from `w`, in which `a` holds a file and a link back to `w`, and `to` is a
link to `a`. -/
def turningTree : FileTree where
  entries :=
    [([⟨"w", by decide⟩], .directory),
     ([⟨"a", by decide⟩, ⟨"w", by decide⟩], .directory),
     ([⟨"R.java", by decide⟩, ⟨"a", by decide⟩, ⟨"w", by decide⟩], .file []),
     ([⟨"up", by decide⟩, ⟨"a", by decide⟩, ⟨"w", by decide⟩], .link ".."),
     ([⟨"to", by decide⟩, ⟨"w", by decide⟩], .link "a")]
  here := [⟨"w", by decide⟩]

/-- The chain through `a` and its link comes back to where it began. -/
theorem scan_followLinks_turningTree :
  turningTree.LinksFit ∧ (Path.ofString ".").hasNul = false ∧
    turningTree.isDirectory (.ofString ".") ∧
    ∃ r, turningTree.scan (.ofString ".") ".java" true = .ok r ∧ r.files = .empty ∧
      ∃ e, r.error = some e ∧ e.cause = .tooManyLinks
  := by
  have ht : turningTree.LinksFit := by decide
  have hnul : (Path.ofString ".").hasNul = false := by decide
  have hroot : turningTree.isDirectory (.ofString ".") := by decide
  have hchain : turningTree.Chain (.ofString ".") [⟨"a", by decide⟩, ⟨"up", by decide⟩]
      [[⟨"w", by decide⟩], [⟨"a", by decide⟩, ⟨"w", by decide⟩], [⟨"w", by decide⟩]] :=
    .down (.down (.root ⟨rfl, rfl⟩) (by decide) ⟨rfl, rfl⟩) (by decide) ⟨rfl, rfl⟩
  obtain ⟨r, hr, -, -, -, hloop, -⟩ := scan_followLinks ht hnul hroot ".java"
  exact ⟨ht, hnul, hroot, r, hr, hloop ⟨_, _, hchain, by decide⟩⟩

/-! ### Without links -/

/-- Names lead down from a place through directories that lie in one another. -/
inductive Descent (t : FileTree) (start : Location) : List Name → Location → Prop where
  | here : Descent t start [] start
  | down {names place name} :
      Descent t start names place → name ∈ t.names place →
      t.entry? (name :: place) = some .directory →
      Descent t start (names ++ [name]) (name :: place)

/-- Names that lead down through directories need no links. -/
theorem Descent.reach {names : List Name} {place : Location} {spot : Spot}
    (hroot : t.reach root = .ok spot) (hstart : t.entry? spot.place = some .directory)
    (h : t.Descent spot.place names place) :
  t.reach (root.descend names) = .ok ⟨place, spot.links⟩ ∧
    t.entry? place = some .directory
  := by
  induction h with
  | here => exact ⟨by simpa using hroot, hstart⟩
  | @down names place name _ _ hentry ih =>
    obtain ⟨hreach, hplace⟩ := ih
    refine ⟨?_, hentry⟩
    rw [reach_descend_append, hreach]
    apply follow_down_of_entry (by simpa [isDirectoryAt] using hplace) hentry (by simp)

theorem Descent.leadsTo {start place : Location} {names : List Name}
    (hroot : t.LeadsToDirectory root start) (h : t.Descent start names place) :
  t.LeadsToDirectory (root.descend names) place
  := by
  obtain ⟨links, hreach⟩ := exists_reach hroot.1
  obtain ⟨hnames, hplace⟩ := h.reach hreach hroot.2
  refine ⟨?_, hplace⟩
  rw [resolve_eq_reach, hnames]
  rfl

/-- A walk beside links visits what names lead down to, and never comes back, since each
place is longer than those on the way to it. -/
theorem descent_of_visits {suffix : List Char} {start place : Location} {names : List Name}
    {places : List Location} (hroot : t.LeadsToDirectory root start)
    (h : Walk.Visits ⟨root, suffix, false⟩ t names (place :: places)) :
  t.Descent start names place ∧ ∀ above ∈ places, above.length < place.length
  := by
  generalize hl : place :: places = visited at h
  induction h generalizing place places with
  | root h =>
    cases hl
    obtain rfl := Except.ok.inj (h.1.symm.trans hroot.1)
    exact ⟨.here, by simp⟩
  | down _ hname hdesc h ih =>
    cases hl
    obtain ⟨hdescent, hlonger⟩ := ih rfl
    simp only [Walk.descends, Bool.false_or, Bool.and_eq_true, isDirectoryAt, beq_iff_eq] at hdesc
    have hdown := hdescent.down hname hdesc.2
    obtain rfl := Except.ok.inj (h.1.symm.trans (hdown.leadsTo hroot).1)
    refine ⟨hdown, ?_⟩
    intro above habove
    rcases List.mem_cons.mp habove with rfl | habove
    · simp
    · apply Nat.lt_succ_of_lt (hlonger above habove)

/-- What names lead down to is visited. -/
theorem Descent.visits {start place : Location} {names : List Name} (suffix : List Char)
    (hroot : t.LeadsToDirectory root start) (h : t.Descent start names place) :
  ∃ places, Walk.Visits ⟨root, suffix, false⟩ t names (place :: places)
  := by
  induction h with
  | here => exact ⟨[], .root hroot⟩
  | @down names place name hdescent hname hentry ih =>
    obtain ⟨places, hvisits⟩ := ih
    have hleads := (hdescent.down hname hentry).leadsTo hroot
    refine ⟨place :: places, hvisits.down hname ?_ hleads⟩
    simp only [Walk.descends, Bool.false_or, Bool.and_eq_true, isDirectoryAt, beq_iff_eq]
    exact ⟨isDirectory_iff.mpr ⟨_, hleads⟩, hentry⟩

/-- A walk from what is no directory fails. -/
theorem exists_below_eq_error (suffix : List Char) (followLinks : Bool)
    (h : ¬ t.isDirectory root) :
  ∃ e, Walk.below ⟨root, suffix, followLinks⟩ t [] [] = .error e
  := by
  cases henter : t.enter root with
  | ok place => exact absurd (isDirectory_iff.mpr ⟨place, enter_eq_ok.mp henter⟩) h
  | error c => exact ⟨_, Walk.below_of_error (by simpa using henter)⟩

/-- A scan that does not follow links finds the files that are listed in the directories
below the root, and nothing that does not lead to a file; from a root that is no directory
it fails. -/
theorem scan_withoutLinks (ht : t.LinksFit) (hnul : root.hasNul = false) (extension : String) :
  ∃ r, t.scan root extension false = .ok r ∧ r.root = root ∧
    (t.isDirectory root →
      r.error = none ∧
      ∀ p, p ∈ r.files ↔ ∃ start names place name, t.resolve root = .ok start ∧
        t.Descent start names place ∧ name ∈ t.names place ∧
        p = root.descend (names ++ [name]) ∧ t.LeadsToFile p ∧
        HasExtension name extension) ∧
    (¬ t.isDirectory root → r.error.isSome ∧ r.files = .empty) ∧
    ∀ p ∈ r.files, t.LeadsToFile p
  := by
  use t.scanFrom root extension false, scan_of_hasNul_eq_false hnul extension false
  by_cases hroot : t.isDirectory root
  · obtain ⟨start, hstart⟩ := isDirectory_iff.mp hroot
    obtain ⟨-, hfound⟩ := Walk.below_root
      (w := ⟨root, lowercase extension.toList, false⟩) ht hstart
    obtain ⟨found, hbelow, hmem⟩ := hfound fun names place places hvisits hplace =>
      Nat.lt_irrefl _ ((descent_of_visits hstart hvisits).2 place hplace)
    simp only [wants_iff] at hmem
    rw [scanFrom_of_ok hbelow]
    refine ⟨rfl, fun _ => ⟨rfl, fun p => ?_⟩, fun h => absurd hroot h, ?_⟩
    · rw [FileSet.mem_ofList, hmem]
      constructor
      · rintro ⟨names, place, places, name, hvisits, hname, hp, hext, hfile⟩
        exact ⟨start, names, place, name, hstart.1, (descent_of_visits hstart hvisits).1, hname,
          hp, hfile, hext⟩
      · rintro ⟨start', names, place, name, hstart', hdescent, hname, hp, hfile, hext⟩
        obtain rfl := Except.ok.inj (hstart.1.symm.trans hstart')
        obtain ⟨places, hvisits⟩ := hdescent.visits (lowercase extension.toList) hstart
        exact ⟨names, place, places, name, hvisits, hname, hp, hext, hfile⟩
    · intro p hp
      rw [FileSet.mem_ofList, hmem] at hp
      obtain ⟨_, _, _, _, _, _, _, _, hfile⟩ := hp
      apply hfile
  · obtain ⟨e, hbelow⟩ := exists_below_eq_error (lowercase extension.toList) false hroot
    rw [scanFrom_of_error hbelow]
    refine ⟨rfl, fun h => absurd h hroot, fun _ => ⟨rfl, rfl⟩, ?_⟩
    intro p hp
    apply absurd hp (FileSet.not_mem_empty p)

/-- From a root that is itself a link, the files are found under the name of the link. -/
theorem scan_withoutLinks_turningTree :
  turningTree.LinksFit ∧ (Path.ofString "to").hasNul = false ∧
    ∃ r, turningTree.scan (.ofString "to") ".JAVA" false = .ok r ∧ r.error = none ∧
      Path.ofString "to/R.java" ∈ r.files
  := by
  have ht : turningTree.LinksFit := by decide
  have hnul : (Path.ofString "to").hasNul = false := by decide
  obtain ⟨r, hr, -, hfound, -, -⟩ := scan_withoutLinks ht hnul ".JAVA"
  obtain ⟨hok, hmem⟩ := hfound (by decide)
  have hfile : turningTree.LeadsToFile (.ofString "to/R.java") := ⟨[], by decide +kernel⟩
  refine ⟨ht, hnul, r, hr, hok, (hmem _).mpr ?_⟩
  exact ⟨[⟨"a", by decide⟩, ⟨"w", by decide⟩], [], _, ⟨"R.java", by decide⟩, rfl, .here,
    by decide, by decide, hfile, by decide +kernel⟩

end FileTree

end SourceLocator
