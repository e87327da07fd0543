import SourceLocator.Proofs.Resolution

/-!
# What a walk comes by

`Walk.Onward` says which directories a walk goes on to from the one it stands in, and with
which lineage it arrives there.  A walk that does not fail has met no directory twice in
one lineage, and its files are those it comes by (`below_eq_ok`); a walk that fails has
either met a loop or come by an entry that cannot be told (`below_eq_error`).  Both follow
the recursion of the walk, one directory at a time.
-/

namespace SourceLocator

/-! ### Results for all members of a list -/

section Gather

variable {α β ε : Type} {f : α → Except ε (List β)}

/-- The results for all members are the results for each. -/
theorem gather_eq_ok {as : List α} {found : List β} (h : gather f as = .ok found) :
  (∀ a ∈ as, ∃ bs, f a = .ok bs) ∧ ∀ b, b ∈ found ↔ ∃ a ∈ as, ∃ bs, f a = .ok bs ∧ b ∈ bs
  := by
  induction as generalizing found with
  | nil =>
    cases h
    simp
  | cons a as ih =>
    simp only [gather] at h
    cases ha : f a with
    | error e => rw [ha] at h; cases h
    | ok bs =>
      rw [ha] at h
      cases has : gather f as with
      | error e => simp only [has] at h; cases h
      | ok more =>
        simp only [has, Except.ok.injEq] at h
        subst h
        obtain ⟨hall, hmem⟩ := ih has
        constructor
        · rw [List.forall_mem_cons]
          exact ⟨⟨bs, ha⟩, hall⟩
        · intro b
          simp [ha, hmem]

/-- A failure is the failure for a member. -/
theorem gather_eq_error {as : List α} {e : ε} (h : gather f as = .error e) :
  ∃ a ∈ as, f a = .error e
  := by
  induction as with
  | nil => cases h
  | cons a as ih =>
    simp only [gather] at h
    cases ha : f a with
    | error e' =>
      rw [ha] at h
      cases h
      use a, List.mem_cons_self
    | ok bs =>
      rw [ha] at h
      cases has : gather f as with
      | error e' =>
        simp only [has, Except.error.injEq] at h
        subst h
        obtain ⟨a', hmem, he⟩ := ih has
        use a', List.mem_cons_of_mem _ hmem
      | ok more => simp only [has] at h; cases h

end Gather

namespace Walk

variable {w : Walk} {t : FileTree}

/-! ### Single entries -/

/-- An entry that a walk is refused an answer about, whether it is a file. -/
def IsRefused (w : Walk) (t : FileTree) (names : List Name) (name : Name) : Prop :=
  w.wants name ∧ t.stat (w.root.descend (names ++ [name])) = .error .nameTooLong

/-- What a walk takes from an entry is the path of that entry, if it is wanted and leads to a
file. -/
theorem mem_fileAt_iff {names : List Name} {name : Name} {files : List Path}
    (h : w.fileAt t names name = .ok files) {p : Path} :
  p ∈ files ↔ p = w.root.descend (names ++ [name]) ∧ w.wants name ∧ t.LeadsToFile p
  := by
  unfold fileAt at h
  generalize w.root.descend (names ++ [name]) = path at h
  by_cases hwants : w.wants name
  · by_cases hdir : t.isDirectory path
    · have hno := FileTree.not_leadsToFile_of_isDirectory hdir
      obtain rfl : [] = files := by simpa [hdir] using h
      simp only [List.not_mem_nil, false_iff]
      rintro ⟨rfl, -, hfile⟩
      apply hno hfile
    · simp only [hwants, hdir, Bool.not_false, Bool.and_true, if_true, true_and] at h ⊢
      rw [← FileTree.isFile_eq_ok_true_iff]
      split at h
      · cases h
      · rename_i hfile
        cases h
        rw [List.mem_singleton]
        constructor
        · rintro rfl
          exact ⟨rfl, hfile⟩
        · apply And.left
      · rename_i hfile
        cases h
        simp only [List.not_mem_nil, false_iff]
        rintro ⟨rfl, htrue⟩
        rw [hfile] at htrue
        cases htrue
  · obtain rfl : [] = files := by simpa [hwants] using h
    simp [hwants]

/-- An answer is given about an entry exactly if it is not refused. -/
theorem exists_fileAt_eq_ok_iff {names : List Name} {name : Name} :
  (∃ files, w.fileAt t names name = .ok files) ↔ ¬ w.IsRefused t names name
  := by
  unfold fileAt IsRefused
  generalize w.root.descend (names ++ [name]) = path
  by_cases hwants : w.wants name
  · by_cases hdir : t.isDirectory path
    · simp [hdir, FileTree.stat_of_isDirectory hdir]
    · simp only [hwants, hdir, Bool.not_false, Bool.and_true, if_true, true_and]
      cases hfile : t.isFile path with
      | error c => simp [(FileTree.isFile_eq_error_iff.mp hfile).2]
      | ok answer =>
        have hstat : t.stat path ≠ .error .nameTooLong := by
          intro hstat
          rw [FileTree.isFile_eq_error_iff.mpr ⟨rfl, hstat⟩] at hfile
          cases hfile
        cases answer <;> simp [hstat]
  · simp [hwants]

theorem not_isRefused (ht : t.LinksFit) {place : Location} (hroot : t.resolve w.root = .ok place)
    (names : List Name) (name : Name) :
  ¬ w.IsRefused t names name
  := fun h => ht.stat_descend_ne hroot _ h.2

/-! ### Directories that a walk goes on to -/

/-- From the directory that some names lead to, with the places on the way to it, a walk
goes on to a directory, with the places on the way to that one and its own in front. -/
inductive Onward (w : Walk) (t : FileTree) :
    List Name → List Location → List Name → List Location → Prop where
  | here {names lineage place} :
      t.LeadsToDirectory (w.root.descend names) place →
      Onward w t names lineage names (place :: lineage)
  | down {names lineage place name names' lineage'} :
      t.LeadsToDirectory (w.root.descend names) place →
      name ∈ t.names place → w.descends t place names name →
      Onward w t (names ++ [name]) (place :: lineage) names' lineage' →
      Onward w t names lineage names' lineage'

namespace Onward

/-- A walk stays where it is, or goes down to an entry first. -/
theorem iff_of_leadsTo {names names' : List Name} {lineage lineage' : List Location}
    {place : Location} (h : t.LeadsToDirectory (w.root.descend names) place) :
  Onward w t names lineage names' lineage'
    ↔ (names' = names ∧ lineage' = place :: lineage)
      ∨ ∃ name ∈ (t.names place).filter (w.descends t place names),
          Onward w t (names ++ [name]) (place :: lineage) names' lineage'
  := by
  have hunique : ∀ {place'}, t.LeadsToDirectory (w.root.descend names) place' →
      place' = place := by
    intro place' h'
    apply Except.ok.inj (h'.1.symm.trans h.1)
  constructor
  · intro ho
    cases ho with
    | here h' =>
      obtain rfl := hunique h'
      exact .inl ⟨rfl, rfl⟩
    | down h' hname hdesc ho =>
      obtain rfl := hunique h'
      exact .inr ⟨_, List.mem_filter.mpr ⟨hname, hdesc⟩, ho⟩
  · rintro (⟨rfl, rfl⟩ | ⟨name, hname, ho⟩)
    · exact .here h
    · obtain ⟨hname, hdesc⟩ := List.mem_filter.mp hname
      exact .down h hname hdesc ho

/-- A walk does not go on from what is no directory. -/
theorem leadsTo {names names' : List Name} {lineage lineage' : List Location}
    (h : Onward w t names lineage names' lineage') :
  ∃ place, t.LeadsToDirectory (w.root.descend names) place
  := by
  cases h with
  | here h => exact ⟨_, h⟩
  | down h _ _ _ => exact ⟨_, h⟩

/-- A walk that has come to a directory goes on to those inside it. -/
theorem snoc {names names' : List Name} {lineage lineage' : List Location}
    {place place' : Location} {name : Name}
    (h : Onward w t names lineage names' (place :: lineage'))
    (hname : name ∈ t.names place) (hdesc : w.descends t place names' name)
    (hplace : t.LeadsToDirectory (w.root.descend (names' ++ [name])) place') :
  Onward w t names lineage (names' ++ [name]) (place' :: place :: lineage')
  := by
  generalize hl : place :: lineage' = arrived at h
  induction h with
  | here h =>
    cases hl
    exact .down h hname hdesc (.here hplace)
  | down h hname' hdesc' _ ih => exact .down h hname' hdesc' (ih hdesc hplace hl)

end Onward

/-! ### The walk itself -/

/-- From a directory a walk comes to one that it has already been in on the way. -/
def Loops (w : Walk) (t : FileTree) (names : List Name) (lineage : List Location) : Prop :=
  ∃ names' place lineage', Onward w t names lineage names' (place :: lineage') ∧
    place ∈ lineage'

/-- From a directory a walk comes by an entry of another one. -/
def ComesBy (w : Walk) (t : FileTree) (names : List Name) (lineage : List Location)
    (names' : List Name) (name : Name) : Prop :=
  ∃ place lineage', Onward w t names lineage names' (place :: lineage') ∧
    name ∈ t.names place

theorem loops_iff {names : List Name} {lineage : List Location} {place : Location}
    (h : t.LeadsToDirectory (w.root.descend names) place) :
  w.Loops t names lineage
    ↔ place ∈ lineage
      ∨ ∃ name ∈ (t.names place).filter (w.descends t place names),
          w.Loops t (names ++ [name]) (place :: lineage)
  := by
  simp only [Loops, Onward.iff_of_leadsTo h]
  constructor
  · rintro ⟨names', place', lineage', ⟨-, hl⟩ | ⟨name, hname, ho⟩, hmem⟩
    · cases hl
      exact .inl hmem
    · exact .inr ⟨name, hname, names', place', lineage', ho, hmem⟩
  · rintro (hmem | ⟨name, hname, names', place', lineage', ho, hmem⟩)
    · exact ⟨names, place, lineage, .inl ⟨rfl, rfl⟩, hmem⟩
    · exact ⟨names', place', lineage', .inr ⟨name, hname, ho⟩, hmem⟩

theorem comesBy_iff {names names' : List Name} {lineage : List Location} {place : Location}
    {name' : Name} (h : t.LeadsToDirectory (w.root.descend names) place) :
  w.ComesBy t names lineage names' name'
    ↔ (names' = names ∧ name' ∈ t.names place)
      ∨ ∃ name ∈ (t.names place).filter (w.descends t place names),
          w.ComesBy t (names ++ [name]) (place :: lineage) names' name'
  := by
  simp only [ComesBy, Onward.iff_of_leadsTo h]
  constructor
  · rintro ⟨place', lineage', ⟨rfl, hl⟩ | ⟨name, hname, ho⟩, hmem⟩
    · cases hl
      exact .inl ⟨rfl, hmem⟩
    · exact .inr ⟨name, hname, place', lineage', ho, hmem⟩
  · rintro (⟨rfl, hmem⟩ | ⟨name, hname, place', lineage', ho, hmem⟩)
    · exact ⟨place, lineage, .inl ⟨rfl, rfl⟩, hmem⟩
    · exact ⟨place', lineage', .inr ⟨name, hname, ho⟩, hmem⟩

/-- An entry that a walk enters is a directory. -/
theorem leadsTo_of_descends {names : List Name} {place : Location} {name : Name}
    (h : w.descends t place names name) :
  ∃ place', t.LeadsToDirectory (w.root.descend (names ++ [name])) place'
  := by
  simp only [descends, Bool.and_eq_true] at h
  apply FileTree.isDirectory_iff.mp h.1

/-- A walk fails where it cannot enter. -/
theorem below_of_error {names : List Name} {lineage : List Location} {c : Cause}
    (h : t.enter (w.root.descend names) = .error c) :
  w.below t names lineage = .error { cause := c, path := walkSpelling w.root names }
  := by
  rw [below]
  split
  · simp_all
  · simp_all

/-- A walk fails where it has already been on the way. -/
theorem below_of_mem {names : List Name} {lineage : List Location} {place : Location}
    (h : t.LeadsToDirectory (w.root.descend names) place) (hl : place ∈ lineage) :
  w.below t names lineage
    = .error { cause := .tooManyLinks, path := walkSpelling w.root names }
  := by
  rw [← FileTree.enter_eq_ok] at h
  rw [below]
  split
  · simp_all
  · simp_all

/-- Elsewhere a walk takes the files of the directory, and goes on below it. -/
theorem below_of_not_mem {names : List Name} {lineage : List Location} {place : Location}
    (h : t.LeadsToDirectory (w.root.descend names) place) (hl : place ∉ lineage) :
  w.below t names lineage
    = (gather (w.fileAt t names) (t.names place)).bind fun files =>
        (gather (fun name => w.below t (names ++ [name]) (place :: lineage))
          ((t.names place).filter (w.descends t place names))).map (files ++ ·)
  := by
  rw [← FileTree.enter_eq_ok] at h
  rw [below]
  split
  · simp_all
  · rename_i place' h'
    obtain rfl : place' = place := by simpa [h] using h'.symm
    rw [dif_neg hl]
    split
    · simp_all [Except.bind]
    · rename_i hfiles
      rw [hfiles]
      split <;> simp_all [Except.bind, Except.map]

/-- A walk that does not fail has met no loop, and has found what it comes by. -/
theorem below_eq_ok {names : List Name} {lineage : List Location} {found : List Path}
    (h : w.below t names lineage = .ok found) :
  ¬ w.Loops t names lineage ∧
    ∀ p, p ∈ found ↔ ∃ names' name, w.ComesBy t names lineage names' name ∧
      ∃ files, w.fileAt t names' name = .ok files ∧ p ∈ files
  := by
  induction names, lineage using Walk.below.induct w t generalizing found with
  | case1 names lineage c hc =>
    rw [below_of_error hc] at h
    cases h
  | case2 names lineage place hplace hl =>
    rw [below_of_mem (FileTree.enter_eq_ok.mp hplace) hl] at h
    cases h
  | case3 names lineage place hplace hl e he =>
    rw [below_of_not_mem (FileTree.enter_eq_ok.mp hplace) hl, he] at h
    cases h
  | case4 names lineage place hplace hl files hfiles e he =>
    rw [below_of_not_mem (FileTree.enter_eq_ok.mp hplace) hl, hfiles, he] at h
    cases h
  | case5 names lineage place hplace hl files hfiles more hmore ih =>
    have hdir := FileTree.enter_eq_ok.mp hplace
    rw [below_of_not_mem hdir hl, hfiles, hmore] at h
    cases h
    obtain ⟨-, hmemFiles⟩ := gather_eq_ok hfiles
    obtain ⟨hall, hmemMore⟩ := gather_eq_ok hmore
    constructor
    · rw [loops_iff hdir]
      rintro (hmem | ⟨name, hname, hloop⟩)
      · apply hl hmem
      · obtain ⟨found, hfound⟩ := hall name hname
        exact (ih name hfound).1 hloop
    · intro p
      simp only [List.mem_append, hmemFiles, hmemMore, comesBy_iff hdir]
      constructor
      · rintro (⟨name, hname, hfile⟩ | ⟨name, hname, found, hfound, hp⟩)
        · exact ⟨names, name, .inl ⟨rfl, hname⟩, hfile⟩
        · obtain ⟨names', name', hcome, hfile⟩ := ((ih name hfound).2 p).mp hp
          exact ⟨names', name', .inr ⟨name, hname, hcome⟩, hfile⟩
      · rintro ⟨names', name', ⟨rfl, hname⟩ | ⟨name, hname, hcome⟩, hfile⟩
        · exact .inl ⟨name', hname, hfile⟩
        · obtain ⟨found, hfound⟩ := hall name hname
          exact .inr ⟨name, hname, found, hfound,
            ((ih name hfound).2 p).mpr ⟨names', name', hcome, hfile⟩⟩

/-- A walk from a directory that fails has met a loop, or come by an entry of which it
cannot be told whether it is a file. -/
theorem below_eq_error {names : List Name} {lineage : List Location} {e : FileError}
    (hdir : ∃ place, t.LeadsToDirectory (w.root.descend names) place)
    (h : w.below t names lineage = .error e) :
  (w.Loops t names lineage ∧ e.cause = .tooManyLinks)
    ∨ ∃ names' name, w.ComesBy t names lineage names' name ∧ w.fileAt t names' name = .error e
  := by
  induction names, lineage using Walk.below.induct w t generalizing e with
  | case1 names lineage c hc =>
    obtain ⟨place, hdir⟩ := hdir
    rw [FileTree.enter_eq_ok.mpr hdir] at hc
    cases hc
  | case2 names lineage place hplace hl =>
    have hdir := FileTree.enter_eq_ok.mp hplace
    rw [below_of_mem hdir hl] at h
    cases h
    exact .inl ⟨(loops_iff hdir).mpr (.inl hl), rfl⟩
  | case3 names lineage place hplace hl e' he =>
    have hdir := FileTree.enter_eq_ok.mp hplace
    rw [below_of_not_mem hdir hl, he] at h
    cases h
    obtain ⟨name, hname, hfile⟩ := gather_eq_error he
    exact .inr ⟨names, name, (comesBy_iff hdir).mpr (.inl ⟨rfl, hname⟩), hfile⟩
  | case4 names lineage place hplace hl files hfiles e' he ih =>
    have hdir := FileTree.enter_eq_ok.mp hplace
    rw [below_of_not_mem hdir hl, hfiles, he] at h
    cases h
    obtain ⟨name, hname, hbelow⟩ := gather_eq_error he
    have hinner := leadsTo_of_descends (List.mem_filter.mp hname).2
    rcases ih name hinner hbelow with ⟨hloop, hcause⟩ | ⟨names', name', hcome, hfile⟩
    · exact .inl ⟨(loops_iff hdir).mpr (.inr ⟨name, hname, hloop⟩), hcause⟩
    · exact .inr ⟨names', name', (comesBy_iff hdir).mpr (.inr ⟨name, hname, hcome⟩), hfile⟩
  | case5 names lineage place hplace hl files hfiles more hmore =>
    rw [below_of_not_mem (FileTree.enter_eq_ok.mp hplace) hl, hfiles, hmore] at h
    cases h

/-! ### Walks from the root -/

/-- The directories that a walk visits from its root, with the places on the way to each and
its own in front, unless it ends before. -/
inductive Visits (w : Walk) (t : FileTree) : List Name → List Location → Prop where
  | root {place} : t.LeadsToDirectory w.root place → Visits w t [] [place]
  | down {names place places name place'} :
      Visits w t names (place :: places) → name ∈ t.names place →
      w.descends t place names name →
      t.LeadsToDirectory (w.root.descend (names ++ [name])) place' →
      Visits w t (names ++ [name]) (place' :: place :: places)

/-- The place in front is the one that the names lead to. -/
theorem Visits.leadsTo {names : List Name} {place : Location} {places : List Location}
    (h : w.Visits t names (place :: places)) :
  t.LeadsToDirectory (w.root.descend names) place
  := by
  cases h with
  | root h => simpa using h
  | down _ _ _ h => exact h

theorem Visits.of_onward {names names' : List Name} {lineage places : List Location}
    (hstart : ∀ place, t.LeadsToDirectory (w.root.descend names) place →
      w.Visits t names (place :: lineage))
    (h : Onward w t names lineage names' places) :
  w.Visits t names' places
  := by
  induction h with
  | here h => exact hstart _ h
  | down h hname hdesc _ ih =>
    apply ih
    intro place' hplace'
    exact .down (hstart _ h) hname hdesc hplace'

/-- What a walk goes on to from its root is what it visits. -/
theorem onward_iff_visits {names : List Name} {places : List Location} :
  Onward w t [] [] names places ↔ w.Visits t names places
  := by
  constructor
  · apply Visits.of_onward
    intro place h
    exact .root (by simpa using h)
  · intro h
    induction h with
    | root h => exact .here (by simpa using h)
    | down _ hname hdesc h ih => exact ih.snoc hname hdesc h

/-- When no name in the target of a link is too long, an answer is given about every entry. -/
theorem fileAt_eq_ok (ht : t.LinksFit) {place : Location} (hroot : t.resolve w.root = .ok place)
    (names : List Name) (name : Name) :
  ∃ files, w.fileAt t names name = .ok files ∧
    ∀ p, p ∈ files ↔ p = w.root.descend (names ++ [name]) ∧ w.wants name ∧ t.LeadsToFile p
  := by
  obtain ⟨files, hfiles⟩ := exists_fileAt_eq_ok_iff.mpr (not_isRefused ht hroot names name)
  exact ⟨files, hfiles, fun _ => mem_fileAt_iff hfiles⟩

/-- From a root that is a directory, a walk either ends in a loop that it visits, or finds
the files that are listed in the directories that it visits. -/
theorem below_root (ht : t.LinksFit) {start : Location}
    (hroot : t.LeadsToDirectory w.root start) :
  ((∃ names place places, w.Visits t names (place :: places) ∧ place ∈ places) →
    ∃ e, w.below t [] [] = .error e ∧ e.cause = .tooManyLinks) ∧
  ((∀ names place places, w.Visits t names (place :: places) → place ∉ places) →
    ∃ found, w.below t [] [] = .ok found ∧
      ∀ p, p ∈ found ↔ ∃ names place places name, w.Visits t names (place :: places) ∧
        name ∈ t.names place ∧ p = w.root.descend (names ++ [name]) ∧ w.wants name ∧
        t.LeadsToFile p)
  := by
  have hfile := fileAt_eq_ok ht hroot.1
  have hstart : ∃ place, t.LeadsToDirectory (w.root.descend []) place :=
    ⟨start, by simpa using hroot⟩
  cases hbelow : w.below t [] [] with
  | error e =>
    have hloop : w.Loops t [] [] ∧ e.cause = .tooManyLinks := by
      rcases below_eq_error hstart hbelow with hloop | ⟨names, name, -, he⟩
      · apply hloop
      · obtain ⟨files, hfiles, -⟩ := hfile names name
        cases hfiles.symm.trans he
    obtain ⟨⟨names, place, places, honward, hmem⟩, hcause⟩ := hloop
    constructor
    · intro _
      exact ⟨e, rfl, hcause⟩
    · intro hno
      apply absurd hmem (hno names place places (onward_iff_visits.mp honward))
  | ok found =>
    obtain ⟨hloop, hfound⟩ := below_eq_ok hbelow
    constructor
    · rintro ⟨names, place, places, hvisits, hmem⟩
      apply absurd ⟨names, place, places, onward_iff_visits.mpr hvisits, hmem⟩ hloop
    · intro _
      use found, rfl
      intro p
      rw [hfound]
      simp only [ComesBy, onward_iff_visits]
      constructor
      · rintro ⟨names, name, ⟨place, places, hvisits, hname⟩, files, hfiles, hp⟩
        obtain ⟨files', hfiles', hmem⟩ := hfile names name
        rw [hfiles] at hfiles'
        cases hfiles'
        obtain ⟨rfl, hp⟩ := (hmem p).mp hp
        exact ⟨names, place, places, name, hvisits, hname, rfl, hp⟩
      · rintro ⟨names, place, places, name, hvisits, hname, hp⟩
        obtain ⟨files, hfiles, hmem⟩ := hfile names name
        exact ⟨names, name, ⟨place, places, hvisits, hname⟩, files, hfiles, (hmem p).mpr hp⟩

end Walk

end SourceLocator
