import SourceLocator.Proofs.ScannedFiles

/-!
# What comes of a walk

From a root that is a directory a walk fails for one of two reasons: it comes round to a directory
that it is already in, or it is refused an answer to whether an entry is a file, which only a name
that is too long can do (`Walk.exists_below_eq_ok_iff`).  If it does not fail it has found those
of the entries it asks about that lead to files (`Walk.mem_below_iff`).  So two walks, in one tree
or in two, come to the same if they visit the same directories and agree on the entries there; for
the first it is enough that one goes on where the other does (`Walk.Visits.of_steps`).
-/

namespace SourceLocator

open Text

namespace Walk

variable {w w' : Walk} {t t' : FileTree}

/-- A walk that does not fail has been told of every entry it comes by. -/
theorem fileAt_of_below_eq_ok {names names' : List Name} {name : Name} {lineage : List Location}
    {found : List Path} (h : w.below t names lineage = .ok found)
    (hcome : w.ComesBy t names lineage names' name) :
  ∃ files, w.fileAt t names' name = .ok files
  := by
  induction names, lineage using Walk.below.induct w t generalizing found with
  | case1 names lineage c hc =>
    rw [below_of_error hc] at h
    cases h
  | case2 names lineage place hplace hl =>
    rw [below_of_mem (FileTree.enter_eq_ok.mp hplace) hl] at h
    cases h
  | case3 names lineage place hplace hl e he =>
    rw [below_of_not_mem (FileTree.enter_eq_ok.mp hplace) hl, he] at h
    cases h
  | case4 names lineage place hplace hl files hfiles e he =>
    rw [below_of_not_mem (FileTree.enter_eq_ok.mp hplace) hl, hfiles, he] at h
    cases h
  | case5 names lineage place hplace hl files hfiles more hmore ih =>
    rw [comesBy_iff (FileTree.enter_eq_ok.mp hplace)] at hcome
    obtain ⟨rfl, hname⟩ | ⟨inner, hinner, hcome⟩ := hcome
    · apply (gather_eq_ok hfiles).1 name hname
    · obtain ⟨found, hfound⟩ := (gather_eq_ok hmore).1 inner hinner
      apply ih inner hfound hcome

/-! ### Walks from the root -/

/-- A walk comes round when a directory comes twice on a way that it goes. -/
def ComesRound (w : Walk) (t : FileTree) : Prop :=
  ∃ names places, w.Visits t names places ∧ ¬ places.Nodup

/-- A walk asks about the entries of a directory that it has visited, as long as none came twice
on the way there. -/
def AsksAbout (w : Walk) (t : FileTree) (names : List Name) (name : Name) : Prop :=
  ∃ place places, w.Visits t names (place :: places) ∧ (place :: places).Nodup ∧
    name ∈ t.names place

/-- A walk meets a refusal when it is refused an answer about an entry that it asks about. -/
def MeetsRefusal (w : Walk) (t : FileTree) : Prop :=
  ∃ names name, w.AsksAbout t names name ∧ w.IsRefused t names name

/-- A walk that comes round does so at a directory that it was in before, none other having come
twice. -/
theorem ComesRound.exists_first (h : w.ComesRound t) :
  ∃ names place places, w.Visits t names (place :: places) ∧ place ∈ places ∧ places.Nodup
  := by
  obtain ⟨names, places, hvisits, hrepeated⟩ := h
  induction hvisits with
  | root h => simp at hrepeated
  | @down names place places name place' hvisits hname hdesc hplace ih =>
    by_cases hnodup : (place :: places).Nodup
    · have hmem : place' ∈ place :: places := by
        by_contra hmem
        apply hrepeated (List.nodup_cons.mpr ⟨hmem, hnodup⟩)
      exact ⟨_, _, _, hvisits.down hname hdesc hplace, hmem, hnodup⟩
    · apply ih hnodup

theorem loops_iff_comesRound :
  w.Loops t [] [] ↔ w.ComesRound t
  := by
  constructor
  · rintro ⟨names, place, places, honward, hmem⟩
    refine ⟨names, place :: places, onward_iff_visits.mp honward, ?_⟩
    intro hnodup
    apply (List.nodup_cons.mp hnodup).1 hmem
  · intro h
    obtain ⟨names, place, places, hvisits, hmem, -⟩ := h.exists_first
    exact ⟨names, place, places, onward_iff_visits.mpr hvisits, hmem⟩

/-- A walk that does not come round asks about all that it comes by. -/
theorem comesBy_iff_asksAbout (h : ¬ w.ComesRound t) {names : List Name} {name : Name} :
  w.ComesBy t [] [] names name ↔ w.AsksAbout t names name
  := by
  constructor
  · rintro ⟨place, places, honward, hname⟩
    have hvisits := onward_iff_visits.mp honward
    refine ⟨place, places, hvisits, ?_, hname⟩
    by_contra hrepeated
    apply h ⟨_, _, hvisits, hrepeated⟩
  · rintro ⟨place, places, hvisits, -, hname⟩
    exact ⟨place, places, onward_iff_visits.mpr hvisits, hname⟩

/-- From a directory a walk does not fail exactly if it does not come round and does not meet a
refusal. -/
theorem exists_below_eq_ok_iff (hroot : t.isDirectory w.root) :
  (∃ found, w.below t [] [] = .ok found) ↔ ¬ w.ComesRound t ∧ ¬ w.MeetsRefusal t
  := by
  constructor
  · rintro ⟨found, hfound⟩
    have hround : ¬ w.ComesRound t := mt loops_iff_comesRound.mpr (below_eq_ok hfound).1
    refine ⟨hround, ?_⟩
    rintro ⟨names, name, hasks, hrefused⟩
    apply exists_fileAt_eq_ok_iff.mp _ hrefused
    apply fileAt_of_below_eq_ok hfound ((comesBy_iff_asksAbout hround).mpr hasks)
  · rintro ⟨hround, hnone⟩
    cases hbelow : w.below t [] [] with
    | ok found => exact ⟨found, rfl⟩
    | error e =>
      have hstart : ∃ place, t.LeadsToDirectory (w.root.descend []) place := by
        rw [Path.descend_nil]
        apply FileTree.isDirectory_iff.mp hroot
      obtain ⟨hloops, -⟩ | ⟨names, name, hcome, he⟩ := below_eq_error hstart hbelow
      · apply absurd (loops_iff_comesRound.mp hloops) hround
      · have hasks := (comesBy_iff_asksAbout hround).mp hcome
        obtain ⟨files, hfiles⟩ := exists_fileAt_eq_ok_iff.mpr fun hrefused =>
          hnone ⟨names, name, hasks, hrefused⟩
        rw [he] at hfiles
        cases hfiles

/-- A walk that does not fail has found the entries it asks about that are wanted and lead to
files. -/
theorem mem_below_iff {found : List Path} (h : w.below t [] [] = .ok found) {p : Path} :
  p ∈ found ↔ ∃ names name, w.AsksAbout t names name ∧ p = w.root.descend (names ++ [name]) ∧
    w.wants name ∧ t.LeadsToFile p
  := by
  obtain ⟨hloops, hmem⟩ := below_eq_ok h
  have hround : ¬ w.ComesRound t := mt loops_iff_comesRound.mpr hloops
  rw [hmem]
  constructor
  · rintro ⟨names, name, hcome, files, hfiles, hp⟩
    exact ⟨names, name, (comesBy_iff_asksAbout hround).mp hcome, (mem_fileAt_iff hfiles).mp hp⟩
  · rintro ⟨names, name, hasks, hp⟩
    have hcome := (comesBy_iff_asksAbout hround).mpr hasks
    obtain ⟨files, hfiles⟩ := fileAt_of_below_eq_ok h hcome
    exact ⟨names, name, hcome, files, hfiles, (mem_fileAt_iff hfiles).mpr hp⟩

/-! ### Two walks -/

/-- A walk visits what another one does, up to a directory that comes twice, if it starts where
the other one starts and goes on to an entry where the other one does. -/
theorem Visits.of_steps
    (hstart : ∀ place, t.LeadsToDirectory w.root place → t'.LeadsToDirectory w'.root place)
    (hstep : ∀ {names place places name place'}, w.Visits t names (place :: places) →
      w'.Visits t' names (place :: places) → (place :: places).Nodup → name ∈ t.names place →
      w.descends t place names name → t.LeadsToDirectory (w.root.descend (names ++ [name])) place' →
      name ∈ t'.names place ∧ w'.descends t' place names name ∧
        t'.LeadsToDirectory (w'.root.descend (names ++ [name])) place')
    {names : List Name} {places : List Location} (h : w.Visits t names places)
    (hnodup : places.tail.Nodup) :
  w'.Visits t' names places
  := by
  induction h with
  | root h => exact .root (hstart _ h)
  | down hvisits hname hdesc hplace ih =>
    have hvisits' := ih (List.nodup_cons.mp hnodup).2
    obtain ⟨hname', hdesc', hplace'⟩ := hstep hvisits hvisits' hnodup hname hdesc hplace
    exact hvisits'.down hname' hdesc' hplace'

/-- A walk comes round if another one does that visits nothing else. -/
theorem ComesRound.of_visits
    (hvisits : ∀ {names places}, w.Visits t names places → places.tail.Nodup →
      w'.Visits t' names places)
    (h : w.ComesRound t) :
  w'.ComesRound t'
  := by
  obtain ⟨names, place, places, hround, hmem, hnodup⟩ := h.exists_first
  refine ⟨names, place :: places, hvisits hround hnodup, ?_⟩
  intro hnodup'
  apply (List.nodup_cons.mp hnodup').1 hmem

end Walk

/-! ### Scans -/

namespace FileTree

variable {t : FileTree} {root : Path} {extension : String} {followLinks : Bool}

/-- A scan does not fail exactly if its walk does not. -/
theorem isOk_scanFrom_iff (hroot : t.isDirectory root) :
  (t.scanFrom root extension followLinks).isOk ↔
    ¬ Walk.ComesRound ⟨root, lowercase extension.toList, followLinks⟩ t ∧
      ¬ Walk.MeetsRefusal ⟨root, lowercase extension.toList, followLinks⟩ t
  := by
  rw [← Walk.exists_below_eq_ok_iff hroot, scanFrom]
  split
  · rename_i found hfound
    simp [ScanResult.isOk, hfound]
  · rename_i e he
    simp [ScanResult.isOk, he]

/-- The files of a scan that does not fail are those of its walk. -/
theorem mem_files_scanFrom_iff (h : (t.scanFrom root extension followLinks).isOk) {p : Path} :
  p ∈ (t.scanFrom root extension followLinks).files ↔
    ∃ names name, Walk.AsksAbout ⟨root, lowercase extension.toList, followLinks⟩ t names name ∧
      p = root.descend (names ++ [name]) ∧ HasExtension name extension ∧ t.LeadsToFile p
  := by
  rw [scanFrom] at h ⊢
  split
  · rename_i found hfound
    simp only [FileSet.mem_ofList, Walk.mem_below_iff hfound, wants_iff]
  · rename_i e he
    rw [he] at h
    cases h

/-- A scan that fails has no files. -/
theorem files_scanFrom_of_not_isOk (h : ¬ (t.scanFrom root extension followLinks).isOk) :
  (t.scanFrom root extension followLinks).files = .empty
  := by
  rw [scanFrom] at h ⊢
  split
  · rename_i found hfound
    rw [hfound] at h
    apply absurd rfl h
  · rfl

/-- Whatever a scan finds leads to a file. -/
theorem leadsToFile_of_mem_scanFrom {p : Path}
    (h : p ∈ (t.scanFrom root extension followLinks).files) :
  t.LeadsToFile p
  := by
  by_cases hok : (t.scanFrom root extension followLinks).isOk
  · obtain ⟨_, _, _, _, _, hfile⟩ := (mem_files_scanFrom_iff hok).mp h
    exact hfile
  · rw [files_scanFrom_of_not_isOk hok] at h
    apply absurd h (FileSet.not_mem_empty p)

end FileTree

end SourceLocator
