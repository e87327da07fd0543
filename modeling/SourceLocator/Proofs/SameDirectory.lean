import Mathlib.Data.List.Sort
import SourceLocator.Proofs.LinkLimit
import SourceLocator.Proofs.ListedRows
import SourceLocator.Proofs.WalkOutcomes

/-!
# One directory by two paths

Walks from two paths to one directory go on step by step alike: what is spelled differently leads
to the same places, as long as the limit on links comes into play for neither of them
(`Walk.Alike.visits`).  So the scans fail alike and find the same files, seen from their roots, and
the listings have the same rows (`scans_and_rows_of_same_directory`).
-/

namespace SourceLocator

open Text

namespace Walk

variable {w w' : Walk} {t : FileTree}

/-- Nothing that a walk asks about is beyond the limit on links. -/
def StaysWithin (w : Walk) (t : FileTree) : Prop :=
  ∀ names name, w.AsksAbout t names name → t.WithinLimit (w.root.descend (names ++ [name]))

/-- What a walk asks about does not depend on what it looks for. -/
theorem AsksAbout.of_suffix {root : Path} {suffix suffix' : List Char} {followLinks : Bool}
    {names : List Name} {name : Name} (h : AsksAbout ⟨root, suffix, followLinks⟩ t names name) :
  AsksAbout ⟨root, suffix', followLinks⟩ t names name
  := by
  obtain ⟨place, places, hvisits, hnodup, hname⟩ := h
  refine ⟨place, places, ?_, hnodup, hname⟩
  apply Visits.of_steps _ _ hvisits hnodup.tail
  · exact fun _ => id
  · exact fun _ _ _ hname hdesc hplace => ⟨hname, hdesc, hplace⟩

/-- Two walks from paths to one directory that look for the same, both within the limit on
links. -/
structure Alike (w w' : Walk) (t : FileTree) : Prop where
  suffix : w.suffix = w'.suffix
  followLinks : w.followLinks = w'.followLinks
  root : ∃ place, t.LeadsToDirectory w.root place ∧ t.LeadsToDirectory w'.root place
  within : w.StaysWithin t
  within' : w'.StaysWithin t

namespace Alike

theorem symm (h : w.Alike w' t) :
  w'.Alike w t
  := by
  obtain ⟨place, hroot, hroot'⟩ := h.root
  exact ⟨h.suffix.symm, h.followLinks.symm, ⟨place, hroot', hroot⟩, h.within', h.within⟩

/-- What both walks ask about leads to one place. -/
theorem resolve_eq (h : w.Alike w' t) {names : List Name} {name : Name}
    (hasks : w.AsksAbout t names name) (hasks' : w'.AsksAbout t names name) :
  t.resolve (w.root.descend (names ++ [name])) = t.resolve (w'.root.descend (names ++ [name]))
  := by
  obtain ⟨place, hroot, hroot'⟩ := h.root
  apply FileTree.resolve_descend_congr hroot.1 hroot'.1
  · apply h.within names name hasks
  · apply h.within' names name hasks'

/-- Up to a directory that comes twice, one walk visits what the other one does. -/
theorem visits (h : w.Alike w' t) {names : List Name} {places : List Location}
    (hvisits : w.Visits t names places) (hnodup : places.tail.Nodup) :
  w'.Visits t names places
  := by
  apply Visits.of_steps _ _ hvisits hnodup
  · intro place hplace
    obtain ⟨start, hroot, hroot'⟩ := h.root
    obtain rfl := Except.ok.inj (hplace.1.symm.trans hroot.1)
    exact hroot'
  · intro names place places name place' hvisits hvisits' hnodup hname hdesc hplace
    have hsame := h.resolve_eq ⟨place, places, hvisits, hnodup, hname⟩
      ⟨place, places, hvisits', hnodup, hname⟩
    refine ⟨hname, ?_, (FileTree.leadsToDirectory_congr hsame).mp hplace⟩
    rwa [descends, ← FileTree.isDirectory_congr hsame, ← h.followLinks]

theorem asksAbout (h : w.Alike w' t) {names : List Name} {name : Name}
    (hasks : w.AsksAbout t names name) :
  w'.AsksAbout t names name
  := by
  obtain ⟨place, places, hvisits, hnodup, hname⟩ := hasks
  exact ⟨place, places, h.visits hvisits hnodup.tail, hnodup, hname⟩

/-- One walk meets a refusal if the other one does. -/
theorem meetsRefusal (h : w.Alike w' t) (hrefusal : w.MeetsRefusal t) :
  w'.MeetsRefusal t
  := by
  obtain ⟨names, name, hasks, hwants, hstat⟩ := hrefusal
  have hasks' := h.asksAbout hasks
  rw [FileTree.stat_congr (h.resolve_eq hasks hasks')] at hstat
  rw [wants, h.suffix] at hwants
  exact ⟨names, name, hasks', hwants, hstat⟩

end Alike

end Walk

namespace FileTree

variable {t : FileTree} {root root' : Path} {followLinks : Bool}

/-- Nothing that a scan from a root asks about is beyond the limit on links, whatever it looks
for. -/
def StaysWithin (t : FileTree) (root : Path) (followLinks : Bool) : Prop :=
  Walk.StaysWithin ⟨root, [], followLinks⟩ t

/-- Scans from paths to one directory walk alike. -/
theorem alike_of_same {place : Location} (hroot : t.LeadsToDirectory root place)
    (hroot' : t.LeadsToDirectory root' place) (hwithin : t.StaysWithin root followLinks)
    (hwithin' : t.StaysWithin root' followLinks) (suffix : List Char) :
  Walk.Alike ⟨root, suffix, followLinks⟩ ⟨root', suffix, followLinks⟩ t
  where
  suffix := rfl
  followLinks := rfl
  root := ⟨place, hroot, hroot'⟩
  within := fun names name hasks => hwithin names name hasks.of_suffix
  within' := fun names name hasks => hwithin' names name hasks.of_suffix

/-- A scan that does not follow links reaches every directory with the links that its root leaves
over, so that one look at each entry tells whether it stays within the limit. -/
theorem staysWithin_of_forall (spot : Spot) (hreach : t.reach root = .ok spot)
    (hentry : t.entry? spot.place = some .directory)
    (h : ∀ place ∈ t.directories, ∀ name ∈ t.names place,
      (t.follow spot.links place [.down name.val]).map (·.place) ≠ .error .tooManyLinks) :
  t.StaysWithin root false
  := by
  have hroot : t.LeadsToDirectory root spot.place := by
    refine ⟨?_, hentry⟩
    rw [resolve_eq_reach, hreach]
    rfl
  rintro names name ⟨place, places, hvisits, -, hname⟩
  obtain ⟨hnames, hplace⟩ := (descent_of_visits hroot hvisits).1.reach hreach hentry
  apply withinLimit_of_ne
  rw [resolve_eq_reach, reach_descend_append, hnames]
  apply h place (mem_directories (isDirectoryAt_iff.mpr hplace)) name hname

section Scans

variable {extension : String}
  (h : Walk.Alike ⟨root, lowercase extension.toList, followLinks⟩
    ⟨root', lowercase extension.toList, followLinks⟩ t)
include h

/-- A scan does not fail if one that walks alike does not. -/
theorem isOk_of_alike (hok : (t.scanFrom root extension followLinks).isOk) :
  (t.scanFrom root' extension followLinks).isOk
  := by
  obtain ⟨place, hroot, hroot'⟩ := h.root
  rw [isOk_scanFrom_iff (isDirectory_iff.mpr ⟨place, hroot⟩)] at hok
  rw [isOk_scanFrom_iff (isDirectory_iff.mpr ⟨place, hroot'⟩)]
  constructor
  · intro hround
    apply hok.1 (hround.of_visits h.symm.visits)
  · apply mt h.symm.meetsRefusal hok.2

/-- What one scan finds below its root, one that walks alike finds below its own, at the same
place. -/
theorem mem_files_of_alike {names : List Name}
    (hmem : root.descend names ∈ (t.scanFrom root extension followLinks).files) :
  root'.descend names ∈ (t.scanFrom root' extension followLinks).files ∧
    t.resolve (root.descend names) = t.resolve (root'.descend names)
  := by
  by_cases hok : (t.scanFrom root extension followLinks).isOk
  · obtain ⟨names', name, hasks, heq, hext, hfile⟩ := (mem_files_scanFrom_iff hok).mp hmem
    obtain rfl := root.descend_injective heq
    have hasks' := h.asksAbout hasks
    have hsame := h.resolve_eq hasks hasks'
    refine ⟨?_, hsame⟩
    apply (mem_files_scanFrom_iff (isOk_of_alike h hok)).mpr
    exact ⟨names', name, hasks', rfl, hext, (leadsToFile_congr hsame).mp hfile⟩
  · rw [files_scanFrom_of_not_isOk hok] at hmem
    apply absurd hmem (FileSet.not_mem_empty _)

end Scans

/-! ### What is found, seen from the roots -/

/-- If what is found below one root is found below the other as well, then all that can be seen
from the one root can be seen from the other. -/
theorem exists_relativeTo?_eq {files files' : FileSet}
    (hfound : ∀ p ∈ files, p.IsFoundBelow root)
    (hsub : ∀ names, root.descend names ∈ files → root'.descend names ∈ files') {rest : Path}
    (h : ∃ p ∈ files, p.relativeTo? root = some rest) :
  ∃ p ∈ files', p.relativeTo? root' = some rest
  := by
  obtain ⟨p, hp, hrest⟩ := h
  obtain ⟨names, name, rfl⟩ := hfound p hp
  use root'.descend (names ++ [name]), hsub _ hp
  rw [Path.relativeTo?_descend] at hrest ⊢
  exact hrest

end FileTree

/-! ### What is listed -/

namespace Command

open Display

namespace Locate

variable {t : FileTree} {q : Locate} {root root' : Path} {package : String}

/-- What is listed of the files below one root is listed of the files below another, from which
one walks alike. -/
theorem mem_chosen_of_alike
    (h : ∀ suffix, Walk.Alike ⟨root, suffix, q.followLinks⟩ ⟨root', suffix, q.followLinks⟩ t)
    {names : List Name} (hmem : root.descend names ∈ q.chosen t ⟨root, package⟩) :
  root'.descend names ∈ q.chosen t ⟨root', package⟩
  := by
  obtain ⟨hfound, hname, text, htext, hline⟩ := mem_chosen_iff.mp hmem
  obtain ⟨hfound', hsame⟩ := FileTree.mem_files_of_alike (h _) hfound
  obtain ⟨names, name, heq⟩ := FileTree.isFoundBelow_of_mem_scanFrom hfound
  obtain rfl := root.descend_injective heq
  refine mem_chosen_iff.mpr ⟨hfound', ?_, text, ?_, hline⟩
  · simpa [NamePattern.matchesName, Path.name, Path.descend] using hname
  · rw [← FileTree.stat_congr hsame, htext]

/-- Walks that are alike lead to the same rows. -/
theorem exists_rowsBelow_chosen_eq (package : String) (hroot : root.IsNormal)
    (hroot' : root'.IsNormal)
    (h : ∀ suffix, Walk.Alike ⟨root, suffix, q.followLinks⟩ ⟨root', suffix, q.followLinks⟩ t) :
  ∃ rows, rowsBelow root (q.chosen t ⟨root, package⟩) = .ok rows ∧
    rowsBelow root' (q.chosen t ⟨root', package⟩) = .ok rows
  := by
  have hbelow : ∀ {root}, ∀ p ∈ q.chosen t ⟨root, package⟩, p.IsFoundBelow root := fun p hp =>
    isFoundBelow_of_mem_chosen hp
  obtain ⟨rows, hrows⟩ : ∃ rows, rowsBelow root (q.chosen t ⟨root, package⟩) = .ok rows :=
    exists_rowsBelow_eq hbelow
  obtain ⟨rows', hrows'⟩ : ∃ rows, rowsBelow root' (q.chosen t ⟨root', package⟩) = .ok rows :=
    exists_rowsBelow_eq hbelow
  have hsame : rows = rows' := by
    apply (pairwise_rows hroot hbelow hrows).eq_of_mem_iff (pairwise_rows hroot' hbelow hrows')
    intro row
    rw [mem_rows_iff hrows, mem_rows_iff hrows']
    constructor
    · rintro ⟨p, hp, rest, hrest, hrow⟩
      obtain ⟨p', hp', hrest'⟩ := FileTree.exists_relativeTo?_eq hbelow
        (fun _ => mem_chosen_of_alike h) ⟨p, hp, hrest⟩
      exact ⟨p', hp', rest, hrest', hrow⟩
    · rintro ⟨p', hp', rest, hrest', hrow⟩
      obtain ⟨p, hp, hrest⟩ := FileTree.exists_relativeTo?_eq hbelow
        (fun _ => mem_chosen_of_alike fun suffix => (h suffix).symm) ⟨p', hp', hrest'⟩
      exact ⟨p, hp, rest, hrest, hrow⟩
  rw [← hsame] at hrows'
  exact ⟨rows, hrows, hrows'⟩

/-- A request whose source is a directory changes nothing, and ends with a listing unless its
package is blank. -/
theorem ending_of_isDirectory (q : Locate) (h : t.isDirectory (.ofString q.source))
    (asked : Option String) :
  (run t asked q.words).tree = t ∧
    (run t asked q.words).ending
      = if isAllBlank q.package.toList then
          .usage ⟨.badValue Switch.package.spelling "Package name must not be blank", []⟩
        else .status 0
  := by
  have hensure := FileTree.ensureDirectory_of_isDirectory h
  rw [q.run_words (FileTree.hasNul_eq_false_of_ensureDirectory hensure), Deed.ending_shown,
    Deed.tree_shown]
  obtain ⟨e, he, -⟩ | ⟨failure, he, -⟩ | ⟨htree, hblank, hending⟩ |
    ⟨-, htree, hblank, report, -, hending, -⟩ := q.perform_cases t
  · rw [hensure] at he
    cases he
  · rw [hensure] at he
    cases he
  · rw [hensure] at htree
    rw [hending, if_pos hblank]
    exact ⟨(congrArg Prod.snd htree).symm, rfl⟩
  · rw [hensure] at htree
    rw [hending, hblank]
    exact ⟨(congrArg Prod.snd htree).symm, rfl⟩

/-- A request whose source is a directory, and whose package is not blank, shows the rows of what
is listed. -/
theorem output_of_isDirectory (q : Locate) (h : t.isDirectory (.ofString q.source))
    (hblank : isAllBlank q.package.toList = false) (asked : Option String) {rows : List String}
    (hrows : rowsBelow (.ofString q.source) (q.chosen t ⟨.ofString q.source, q.package⟩)
      = .ok rows) :
  (run t asked q.words).output
    = Report.display ⟨.ofString q.source,
        (t.scanFrom (.ofString q.source) defaultExtension q.followLinks).error, rows⟩
  := by
  have hsettings := ofFields_eq_ok (FileTree.ensureDirectory_of_isDirectory h) hblank
  obtain ⟨rows', hrows', -, -, houtput⟩ := run_of_ofFields hsettings asked
  cases hrows.symm.trans hrows'
  exact houtput

/-- Two paths to one directory are as good as each other, within the limit on links.  The scans
fail alike and find the same files, each seen from its root.  Requests that differ in the path of
their source alone end alike, without changing anything, and list the same rows. -/
theorem scans_and_rows_of_same_directory (t : FileTree) (root root' : Path) (place : Location)
    (followLinks : Bool) (hroot : t.LeadsToDirectory root place)
    (hroot' : t.LeadsToDirectory root' place) (hwithin : t.StaysWithin root followLinks)
    (hwithin' : t.StaysWithin root' followLinks) :
  (∀ extension, ∃ r r', t.scan root extension followLinks = .ok r ∧
    t.scan root' extension followLinks = .ok r' ∧ (r.isOk ↔ r'.isOk) ∧
    (∀ p ∈ r.files, ∃ rest, p.relativeTo? root = some rest) ∧
    (∀ p ∈ r'.files, ∃ rest, p.relativeTo? root' = some rest) ∧
    ∀ rest, (∃ p ∈ r.files, p.relativeTo? root = some rest) ↔
      ∃ p ∈ r'.files, p.relativeTo? root' = some rest) ∧
  ∀ (q : Locate) (source' : String) (asked asked' : Option String),
    .ofString q.source = root → .ofString source' = root' → q.followLinks = followLinks →
    (run t asked q.words).tree = t ∧
    (run t asked' (words { q with source := source' })).tree = t ∧
    (run t asked q.words).ending = (run t asked' (words { q with source := source' })).ending ∧
    (isAllBlank q.package.toList = false → ∃ failure failure' rows,
      (failure.isNone ↔ failure'.isNone) ∧ (run t asked q.words).ending = .status 0 ∧
      (run t asked q.words).output = Report.display ⟨root, failure, rows⟩ ∧
      (run t asked' (words { q with source := source' })).output
        = Report.display ⟨root', failure', rows⟩)
  := by
  have halike := FileTree.alike_of_same hroot hroot' hwithin hwithin'
  have hdir := FileTree.isDirectory_iff.mpr ⟨place, hroot⟩
  have hdir' := FileTree.isDirectory_iff.mpr ⟨place, hroot'⟩
  have hnul := FileTree.hasNul_eq_false_of_stat (FileTree.stat_of_isDirectory hdir)
  have hnul' := FileTree.hasNul_eq_false_of_stat (FileTree.stat_of_isDirectory hdir')
  have hok : ∀ extension, (t.scanFrom root extension followLinks).isOk ↔
      (t.scanFrom root' extension followLinks).isOk := fun extension =>
    ⟨FileTree.isOk_of_alike (halike _), FileTree.isOk_of_alike (halike _).symm⟩
  constructor
  · intro extension
    have hbelow : ∀ {root}, ∀ p ∈ (t.scanFrom root extension followLinks).files,
        p.IsFoundBelow root := fun _ => FileTree.isFoundBelow_of_mem_scanFrom
    refine ⟨_, _, FileTree.scan_of_hasNul_eq_false hnul extension followLinks,
      FileTree.scan_of_hasNul_eq_false hnul' extension followLinks, hok extension, ?_, ?_, ?_⟩
    · exact fun p hp => (hbelow p hp).exists_relativeTo?_eq
    · exact fun p hp => (hbelow p hp).exists_relativeTo?_eq
    · intro rest
      constructor
      · apply FileTree.exists_relativeTo?_eq hbelow
        exact fun _ hmem => (FileTree.mem_files_of_alike (halike _) hmem).1
      · apply FileTree.exists_relativeTo?_eq hbelow
        exact fun _ hmem => (FileTree.mem_files_of_alike (halike _).symm hmem).1
  · rintro q source' asked asked' rfl rfl rfl
    obtain ⟨htree, hending⟩ := q.ending_of_isDirectory hdir asked
    obtain ⟨htree', hending'⟩ := ending_of_isDirectory { q with source := source' } hdir' asked'
    refine ⟨htree, htree', hending.trans hending'.symm, ?_⟩
    intro hblank
    obtain ⟨rows, hrows, hrows'⟩ := exists_rowsBelow_chosen_eq q.package
      (Path.isNormal_ofString q.source) (Path.isNormal_ofString source') halike
    refine ⟨_, _, rows, hok defaultExtension, ?_,
      q.output_of_isDirectory hdir hblank asked hrows, ?_⟩
    · rw [hending, hblank]
      rfl
    · apply output_of_isDirectory { q with source := source' } hdir' hblank asked' hrows'

/-- The working directory of the turning tree is where its link `to` lies, so that the directory
around the target of that link is the same one. -/
theorem scans_and_rows_turningTree :
  FileTree.turningTree.LeadsToDirectory (.ofString ".") FileTree.turningTree.here ∧
    FileTree.turningTree.LeadsToDirectory (.ofString "to/..") FileTree.turningTree.here ∧
    FileTree.turningTree.StaysWithin (.ofString ".") false ∧
    FileTree.turningTree.StaysWithin (.ofString "to/..") false ∧
    (∃ r r', FileTree.turningTree.scan (.ofString ".") ".java" false = .ok r ∧
      FileTree.turningTree.scan (.ofString "to/..") ".java" false = .ok r' ∧ (r.isOk ↔ r'.isOk) ∧
      ((∃ p ∈ r.files, p.relativeTo? (.ofString ".") = some (.ofString "a/R.java")) ↔
        ∃ p ∈ r'.files, p.relativeTo? (.ofString "to/..") = some (.ofString "a/R.java"))) ∧
    ∃ failure failure' rows,
      (run FileTree.turningTree none (words ⟨".", "p", true, false, false⟩)).output
        = Report.display ⟨.ofString ".", failure, rows⟩ ∧
      (run FileTree.turningTree none (words ⟨"to/..", "p", true, false, false⟩)).output
        = Report.display ⟨.ofString "to/..", failure', rows⟩
  := by
  have hroot : FileTree.turningTree.LeadsToDirectory (.ofString ".") FileTree.turningTree.here :=
    ⟨rfl, rfl⟩
  have hroot' : FileTree.turningTree.LeadsToDirectory (.ofString "to/..")
      FileTree.turningTree.here := ⟨rfl, rfl⟩
  have hwithin : FileTree.turningTree.StaysWithin (.ofString ".") false :=
    FileTree.staysWithin_of_forall ⟨FileTree.turningTree.here, linkLimit⟩ rfl rfl (by decide)
  have hwithin' : FileTree.turningTree.StaysWithin (.ofString "to/..") false :=
    FileTree.staysWithin_of_forall ⟨FileTree.turningTree.here, 39⟩ rfl rfl (by decide)
  obtain ⟨hscans, hrows⟩ := scans_and_rows_of_same_directory FileTree.turningTree _ _ _ false hroot
    hroot' hwithin hwithin'
  obtain ⟨r, r', hr, hr', hok, -, -, hfiles⟩ := hscans ".java"
  obtain ⟨-, -, -, hlisting⟩ := hrows ⟨".", "p", true, false, false⟩ "to/.." none none rfl rfl rfl
  obtain ⟨failure, failure', rows, -, -, houtput, houtput'⟩ := hlisting (by decide)
  exact ⟨hroot, hroot', hwithin, hwithin', ⟨r, r', hr, hr', hok, hfiles _⟩,
    failure, failure', rows, houtput, houtput'⟩

end Locate

end Command

end SourceLocator
