import Mathlib.Data.Nat.Find
import SourceLocator.Proofs.EnsuredDirectories

/-!
# The missing part of a path

Of the beginnings of a path that holds nothing but names, those that have an entry come first, a
link counting as an entry whatever it leads to (`exists_longest_entry`).  If the longest of them
leads to a directory then the ones beyond it are made there, one inside another
(`exists_makeParents_eq_ok`).  Otherwise nothing can be made at any beginning of the path, and
nothing is changed.  The two cases make up what comes of making sure of the path
(`ensureDirectory_of_names`).
-/

namespace SourceLocator

namespace FileTree

variable {t t' : FileTree} {p : Path}

/-! ### Beginnings that have an entry -/

/-- An entry stands under a path itself, which may be a link that leads nowhere. -/
def HasEntry (t : FileTree) (p : Path) : Prop :=
  ∃ found, t.entryPlace p = .ok found

theorem hasEntry_front_zero (t : FileTree) (p : Path) :
  t.HasEntry (p.front 0)
  := ⟨_, rfl⟩

/-- Under a name an entry stands in the directory that the path around it leads to. -/
theorem hasEntry_front_succ_iff {n : Nat} (hn : n < p.parts.length) (hname : isName p.parts[n]) :
  t.HasEntry (p.front (n + 1)) ↔ ∃ around, t.LeadsToDirectory (p.front n) around ∧
    t.entry? (⟨p.parts[n], hname⟩ :: around) ≠ none
  := by
  have hup := Name.ne_up ⟨p.parts[n], hname⟩
  unfold HasEntry entryPlace
  rw [if_neg (by simp [p.front_ne_nil hn, p.name_front hn, hup]), p.name_front hn]
  have haround := fun place => @around_eq_ok_iff t (p.front (n + 1)) place
  rw [p.parent_front hn] at haround
  constructor
  · rintro ⟨found, hfound⟩
    split at hfound
    · cases hfound
    · rename_i around heq
      refine ⟨around, (haround around).mp heq, ?_⟩
      intro hnone
      rw [lookup_name around ⟨p.parts[n], hname⟩, hnone] at hfound
      cases hfound
  · rintro ⟨around, hleads, hentry⟩
    obtain ⟨e, he⟩ := Option.ne_none_iff_exists'.mp hentry
    rw [(haround around).mpr hleads]
    dsimp only
    rw [lookup_name around ⟨p.parts[n], hname⟩, he]
    exact ⟨_, rfl⟩

section Names

variable (hnames : ∀ part ∈ p.parts, isName part)
include hnames

/-- A directory is found under an entry. -/
theorem hasEntry_of_isDirectory {n : Nat} (hn : n ≤ p.parts.length)
    (h : t.isDirectory (p.front n)) :
  t.HasEntry (p.front n)
  := by
  cases n with
  | zero => apply hasEntry_front_zero
  | succ n =>
    have hname := hnames _ (List.getElem_mem hn)
    obtain ⟨around, links, spot, haround, hfollow⟩ :=
      (finds_of_isDirectory h).exists_parent (p.front_ne_nil hn)
    rw [p.parent_front hn] at haround
    rw [p.name_front hn, Step.ofPart_name ⟨_, hname⟩] at hfollow
    obtain ⟨found, hfound⟩ := exists_lookup_of_follow hfollow
    refine (hasEntry_front_succ_iff hn hname).mpr ⟨around, haround, ?_⟩
    intro hnone
    rw [lookup_name, hnone] at hfound
    cases hfound

/-- An entry is only found in a directory. -/
theorem HasEntry.isDirectory_front {n : Nat} (hn : n < p.parts.length)
    (h : t.HasEntry (p.front (n + 1))) :
  t.isDirectory (p.front n)
  := by
  obtain ⟨around, haround, -⟩ :=
    (hasEntry_front_succ_iff hn (hnames _ (List.getElem_mem hn))).mp h
  apply isDirectory_iff.mpr ⟨around, haround⟩

/-- Each beginning of what has an entry has one. -/
theorem HasEntry.front_of_le {n m : Nat} (h : t.HasEntry (p.front m)) (hnm : n ≤ m)
    (hm : m ≤ p.parts.length) :
  t.HasEntry (p.front n)
  := by
  induction m, hnm using Nat.le_induction with
  | base => exact h
  | succ m _ ih =>
    have hdir := h.isDirectory_front hnames hm
    apply ih (hasEntry_of_isDirectory hnames (Nat.le_of_lt hm) hdir) (Nat.le_of_lt hm)

end Names

/-- The beginnings of a path that have an entry are those with so many components at most. -/
structure IsLongestEntry (t : FileTree) (p : Path) (n : Nat) : Prop where
  le : n ≤ p.parts.length
  hasEntry_iff : ∀ i ≤ p.parts.length, t.HasEntry (p.front i) ↔ i ≤ n

/-- An entry with none behind it is the longest one. -/
theorem IsLongestEntry.eq_of_not_hasEntry {n m : Nat} (h : t.IsLongestEntry p n)
    (hm : m < p.parts.length) (hentry : t.HasEntry (p.front m))
    (hbeyond : ¬ t.HasEntry (p.front (m + 1))) :
  n = m
  := by
  rw [h.hasEntry_iff _ (Nat.le_of_lt hm)] at hentry
  rw [h.hasEntry_iff _ hm] at hbeyond
  omega

theorem exists_longest_entry (t : FileTree) (hnames : ∀ part ∈ p.parts, isName part) :
  ∃ n, t.IsLongestEntry p n
  := by
  classical
  use Nat.findGreatest (fun i => t.HasEntry (p.front i)) p.parts.length, Nat.findGreatest_le _
  intro i hi
  constructor
  · apply Nat.le_findGreatest hi
  · intro hle
    have hlongest : t.HasEntry (p.front
        (Nat.findGreatest (fun i => t.HasEntry (p.front i)) p.parts.length)) :=
      Nat.findGreatest_spec (P := fun i => t.HasEntry (p.front i)) (Nat.zero_le _)
        (hasEntry_front_zero t p)
    apply hlongest.front_of_le hnames hle (Nat.findGreatest_le _)

/-- A directory can be made in a directory, under a name under which there is no entry. -/
theorem exists_makeDirectory_front_iff {n : Nat} (hn : n < p.parts.length)
    (hname : isName p.parts[n]) :
  (∃ t', t.makeDirectory (p.front (n + 1)) = .ok t') ↔
    t.isDirectory (p.front n) ∧ ¬ t.HasEntry (p.front (n + 1))
  := by
  rw [hasEntry_front_succ_iff hn hname, isDirectory_iff]
  constructor
  · rintro ⟨t', hmake⟩
    obtain ⟨around, name, hfront, haround, hnone, -⟩ := makeDirectory_eq_ok_iff.mp hmake
    rw [p.parent_front hn] at hfront haround
    have hval : p.parts[n] = name.val := by
      rw [← p.name_front hn, hfront]
      simp [Path.descend, Path.name]
    obtain rfl : ⟨p.parts[n], hname⟩ = name := Subtype.ext hval
    refine ⟨⟨around, haround⟩, ?_⟩
    rintro ⟨around', haround', hentry⟩
    obtain rfl := Except.ok.inj (haround.1.symm.trans haround'.1)
    apply hentry hnone
  · rintro ⟨⟨around, haround⟩, hno⟩
    refine ⟨_, makeDirectory_eq_ok_iff.mpr ⟨around, ⟨_, hname⟩, ?_, ?_, ?_, rfl⟩⟩
    · apply Path.eq_parent_descend (p.front_ne_nil hn) (p.name_front hn)
    · rw [p.parent_front hn]
      exact haround
    · by_contra hentry
      apply hno ⟨around, haround, hentry⟩

/-- Of the directories of a path only the one behind the longest beginning that has an entry can be
made, and only if that leads to a directory. -/
theorem IsLongestEntry.exists_makeDirectory_iff {n m : Nat} (h : t.IsLongestEntry p n)
    (hnames : ∀ part ∈ p.parts, isName part) (hm : m < p.parts.length) :
  (∃ t', t.makeDirectory (p.front (m + 1)) = .ok t') ↔ m = n ∧ t.isDirectory (p.front n)
  := by
  rw [exists_makeDirectory_front_iff hm (hnames _ (List.getElem_mem hm)),
    h.hasEntry_iff _ hm]
  constructor
  · rintro ⟨hdir, hbeyond⟩
    have hle := (h.hasEntry_iff m (Nat.le_of_lt hm)).mp
      (hasEntry_of_isDirectory hnames (Nat.le_of_lt hm) hdir)
    obtain rfl : m = n := by omega
    exact ⟨rfl, hdir⟩
  · rintro ⟨rfl, hdir⟩
    exact ⟨hdir, Nat.not_succ_le_self m⟩

/-! ### Directories one inside another -/

/-- A tree has gained directories along a path, for its beginnings with more than `n` components in
their order; the last one is empty. -/
structure GrowsAlong (t : FileTree) (p : Path) (n : Nat) (made : List Location) (t' : FileTree) :
    Prop where
  gains : t.Gains p made t'
  led : ∀ i place, made[i]? = some place → t'.LeadsToDirectory (p.front (n + i + 1)) place
  empty : ∀ place, made.getLast? = some place → ∀ name, t'.entry? (name :: place) = none

namespace GrowsAlong

variable {n : Nat} {made : List Location}

theorem nil (t : FileTree) (p : Path) (n : Nat) :
  t.GrowsAlong p n [] t
  where
  gains := .nil t p
  led := by simp
  empty := by simp

theorem snoc (h : t.GrowsAlong p n made t') (ht : t.IsClosed) {t'' : FileTree}
    (hmake : t'.makeDirectory (p.front (n + made.length + 1)) = .ok t'') :
  ∃ place, t.GrowsAlong p n (made ++ [place]) t''
  := by
  obtain ⟨place, hgains, hleads, hempty⟩ := h.gains.snoc hmake
  have hkeeps := keeps_of_makeDirectory hmake
  refine ⟨place, hgains, ?_, ?_⟩
  · intro i other hother
    rw [List.getElem?_append] at hother
    split at hother
    · apply hkeeps.leadsToDirectory (h.led i other hother)
    · rename_i hi
      obtain ⟨hlast, hplace⟩ := List.getElem?_eq_some_iff.mp hother
      rw [List.getElem_singleton] at hplace
      rw [List.length_singleton] at hlast
      obtain rfl : i = made.length := by omega
      rw [← hplace]
      exact hleads
  · intro other hother
    rw [List.getLast?_concat, Option.some.injEq] at hother
    rw [← hother]
    apply hempty ht

/-- The path of the last directory leads to it, where nothing lies. -/
theorem leadsToEmpty (h : t.GrowsAlong p n made t') (ht : t.IsClosed) (hmade : made ≠ []) :
  t'.LeadsToEmpty (p.front (n + made.length))
  := by
  obtain ⟨earlier, place, rfl⟩ := List.eq_nil_or_concat' made |>.resolve_left hmade
  refine ⟨h.gains.closed ht, place, ?_, h.empty place (by simp)⟩
  have hleads := h.led earlier.length place (by simp)
  rw [List.length_append]
  apply hleads

end GrowsAlong

/-! ### Making the directories -/

theorem makeParents_of_ok {existing : Bool} {depth : Nat}
    (h : t.makeDirectory (p.front (depth + 1)) = .ok t') :
  t.makeParents p existing (depth + 1) = (.ok (), t')
  := by
  have hfront : makeParents.upTo p (depth + 1) = p.front (depth + 1) := rfl
  rw [makeParents, hfront, h]

theorem makeParents_of_notFound {existing : Bool} {depth : Nat} {around : FileTree}
    (h : t.makeDirectory (p.front (depth + 1)) = .error .notFound)
    (haround : t.makeParents p true depth = (.ok (), around))
    (hlast : around.makeDirectory (p.front (depth + 1)) = .ok t') :
  t.makeParents p existing (depth + 1) = (.ok (), t')
  := by
  have hfront : makeParents.upTo p (depth + 1) = p.front (depth + 1) := rfl
  rw [makeParents, hfront, h, haround]
  dsimp only
  rw [hlast]

/-- If a directory can be made at a beginning of a path, then those beyond it are made inside
it. -/
theorem exists_makeParents_eq_ok (ht : t.IsClosed) (hnames : ∀ part ∈ p.parts, isName part)
    {n : Nat} {first : FileTree} (hfirst : t.makeDirectory (p.front (n + 1)) = .ok first)
    (existing : Bool) {more : Nat} (hmore : n + more < p.parts.length) :
  ∃ made t', t.makeParents p existing (n + more + 1) = (.ok (), t') ∧
    t.GrowsAlong p n made t' ∧ made.length = more + 1
  := by
  induction more generalizing existing with
  | zero =>
    obtain ⟨place, hgrows⟩ := (GrowsAlong.nil t p n).snoc ht hfirst
    exact ⟨_, first, makeParents_of_ok hfirst, hgrows, rfl⟩
  | succ more ih =>
    obtain ⟨made, around, haround, hgrows, hlength⟩ := ih true (by omega)
    have hempty := hgrows.leadsToEmpty ht (by rintro rfl; cases hlength)
    rw [hlength] at hempty
    obtain ⟨t', hlast⟩ := hempty.exists_makeDirectory hmore (hnames _ (List.getElem_mem hmore))
    obtain ⟨place, hgrown⟩ := hgrows.snoc ht (by rw [hlength]; exact hlast)
    have hgap := makeDirectory_beyond hfirst (by omega : n + 1 ≤ n + (more + 1)) hmore
    refine ⟨_, t', makeParents_of_notFound hgap haround hlast, hgrown, ?_⟩
    rw [List.length_append, hlength]
    rfl

/-! ### Making sure of the path -/

/-- A path is made sure of when its missing directories are made. -/
theorem ensureDirectory_of_makeDirectories (hnul : p.hasNul = false)
    (hstat : t.stat p = .error .notFound) (hmake : t.makeDirectories p false = (.ok (), t')) :
  t.ensureDirectory p = (.ok p, t')
  := by
  simp [ensureDirectory, hnul, hstat, Cause.meansAbsent, hmake]

section Ensured

variable (hnul : p.hasNul = false) (hnames : ∀ part ∈ p.parts, isName part) {n : Nat}
  (h : t.IsLongestEntry p n)
include hnul hnames h

/-- If the longest beginning that has an entry leads to a directory then those beyond it are
made. -/
theorem IsLongestEntry.ensureDirectory_eq_ok (ht : t.IsClosed) (hdir : t.isDirectory (p.front n)) :
  ∃ made t', t.ensureDirectory p = (.ok p, t') ∧ t.GrowsAlong p n made t' ∧
    n + made.length = p.parts.length ∧ t'.isDirectory p
  := by
  obtain heq | hlt := Nat.eq_or_lt_of_le h.le
  · rw [heq, p.front_length] at hdir
    exact ⟨[], t, ensureDirectory_of_isDirectory hdir, .nil t p n, heq, hdir⟩
  · obtain ⟨first, hfirst⟩ := (h.exists_makeDirectory_iff hnames hlt).mpr ⟨rfl, hdir⟩
    obtain ⟨more, hmore⟩ := Nat.exists_eq_add_of_lt hlt
    obtain ⟨made, t', hmake, hgrows, hlength⟩ :=
      exists_makeParents_eq_ok ht hnames hfirst false (by omega : n + more < p.parts.length)
    rw [← hmore] at hmake
    obtain ⟨-, place, hplace, -⟩ := hgrows.leadsToEmpty ht (by rintro rfl; cases hlength)
    have hall : n + made.length = p.parts.length := by omega
    rw [hall, p.front_length] at hplace
    refine ⟨made, t', ?_, hgrows, hall, isDirectory_iff.mpr ⟨place, hplace⟩⟩
    apply ensureDirectory_of_makeDirectories hnul _ hmake
    apply stat_of_makeDirectory hfirst hlt

/-- Otherwise nothing is made. -/
theorem IsLongestEntry.ensureDirectory_eq_error (hlinks : t.LinksFit)
    (hdir : ¬ t.isDirectory (p.front n)) :
  ∃ failure, t.ensureDirectory p = (.error failure, t) ∧
    (failure = .notWritable p ∨ failure = .cannotCreate p)
  := by
  have hnone : ∀ m, m < p.parts.length → ∀ t', t.makeDirectory (p.front (m + 1)) ≠ .ok t' := by
    intro m hm t' hmake
    apply hdir ((h.exists_makeDirectory_iff hnames hm).mp ⟨t', hmake⟩).2
  have hsame : ∀ {existing outcome t'}, t.Makes p existing p.parts.length outcome t' → t' = t := by
    intro existing outcome t' hmakes
    obtain heq | ⟨m, t'', hm, hmake, -⟩ := hmakes.eq_or_exists
    · exact heq
    · apply absurd hmake (hnone m hm t'')
  generalize hensure : t.ensureDirectory p = result
  obtain ⟨outcome, t'⟩ := result
  cases ensures hnul hensure with
  | stands hstat =>
    have hstands : t.isDirectory (p.front p.parts.length) := by
      rw [p.front_length]
      simp [isDirectory, hstat]
    have hle := (h.hasEntry_iff _ (Nat.le_refl _)).mp
      (hasEntry_of_isDirectory hnames (Nat.le_refl _) hstands)
    obtain rfl := Nat.le_antisymm h.le hle
    apply absurd hstands hdir
  | blocked hstat hother => exact ⟨_, rfl, .inl rfl⟩
  | refused hstat =>
    apply absurd hstat (hlinks.stat_ne _)
    intro part hpart
    apply Name.utf8ByteSize_le ⟨part, hnames part hpart⟩
  | made hstat habsent hmake =>
    have hmakes := makes_of_makeParents hmake
    obtain rfl := hsame hmakes
    obtain ⟨made, hgains, hreaches⟩ := hmakes.exists_gains
    obtain ⟨earlier, place, rfl, hleads, -⟩ := (hreaches rfl).last rfl
    have hnew := hgains.fresh place (by simp)
    rw [hleads.2] at hnew
    cases hnew
  | failed hstat habsent hmake =>
    obtain rfl := hsame (makes_of_makeParents hmake)
    exact ⟨_, rfl, .inr rfl⟩

end Ensured

/-- A path without forbidden characters that holds nothing but names short enough, in a tree whose
links hold none too long, can be made sure of exactly if the longest of its beginnings that has an
entry leads to a directory.  Then the tree gains one directory for each beginning without an entry,
the last one empty, and nothing else is different, and making sure of the path again changes
nothing.  Otherwise the path is refused as one that is no directory or cannot be made one, and the
tree stays as it is. -/
theorem ensureDirectory_of_names (t : FileTree) (p : Path) (ht : t.IsClosed) (hlinks : t.LinksFit)
    (hp : p.IsNormal) (hnul : p.hasNul = false)
    (hplain : ∀ part ∈ p.parts, part ≠ ".." ∧ part.utf8ByteSize ≤ longestName) :
  ∃ n, t.IsLongestEntry p n ∧
    (t.isDirectory (p.front n) →
      ∃ made t', t.ensureDirectory p = (.ok p, t') ∧ t'.isDirectory p ∧
        t' = t.withDirectories made ∧ t.Keeps t' ∧ made.Nodup ∧
        (∀ place ∈ made, t.entry? place = none) ∧ n + made.length = p.parts.length ∧
        (∀ i place, made[i]? = some place → t'.LeadsToDirectory (p.front (n + i + 1)) place) ∧
        (∀ place, made.getLast? = some place → ∀ name, t'.entry? (name :: place) = none) ∧
        t'.ensureDirectory p = (.ok p, t')) ∧
    (¬ t.isDirectory (p.front n) →
      ∃ failure, t.ensureDirectory p = (.error failure, t) ∧
        (failure = .notWritable p ∨ failure = .cannotCreate p))
  := by
  have hnames : ∀ part ∈ p.parts, isName part := by
    intro part hpart
    obtain ⟨hup, hsize⟩ := hplain part hpart
    apply hp.isName hnul hpart hup hsize
  obtain ⟨n, hlongest⟩ := t.exists_longest_entry hnames
  refine ⟨n, hlongest, ?_, ?_⟩
  · intro hdir
    obtain ⟨made, t', hensure, hgrows, hlength, hdir'⟩ :=
      hlongest.ensureDirectory_eq_ok hnul hnames ht hdir
    exact ⟨made, t', hensure, hdir', hgrows.gains.eq, hgrows.gains.keeps, hgrows.gains.nodup,
      hgrows.gains.fresh, hlength, hgrows.led, hgrows.empty, ensureDirectory_of_isDirectory hdir'⟩
  · intro hdir
    apply hlongest.ensureDirectory_eq_error hnul hnames hlinks hdir

/-- A tree seen from `place`, in which `by` leads to the directory `there` and `lost` leads
nowhere. -/
def linkedTree : FileTree where
  entries :=
    [([⟨"place", by decide⟩], .directory),
     ([⟨"there", by decide⟩, ⟨"place", by decide⟩], .directory),
     ([⟨"by", by decide⟩, ⟨"place", by decide⟩], .link "there"),
     ([⟨"lost", by decide⟩, ⟨"place", by decide⟩], .link "nowhere")]
  here := [⟨"place", by decide⟩]

/-- Behind the link to a directory two directories are made, and behind the other link none. -/
theorem ensureDirectory_of_names_linkedTree :
  linkedTree.IsClosed ∧ linkedTree.LinksFit ∧
    (Path.ofString "by/a/b").IsNormal ∧ (Path.ofString "by/a/b").hasNul = false ∧
    (∀ part ∈ (Path.ofString "by/a/b").parts,
      part ≠ ".." ∧ part.utf8ByteSize ≤ longestName) ∧
    (Path.ofString "lost/a").IsNormal ∧ (Path.ofString "lost/a").hasNul = false ∧
    (∀ part ∈ (Path.ofString "lost/a").parts,
      part ≠ ".." ∧ part.utf8ByteSize ≤ longestName) ∧
    (∃ made t', linkedTree.ensureDirectory (.ofString "by/a/b") = (.ok (.ofString "by/a/b"), t') ∧
      t' = linkedTree.withDirectories made ∧ made.length = 2 ∧
      t'.ensureDirectory (.ofString "by/a/b") = (.ok (.ofString "by/a/b"), t')) ∧
    ∃ failure, linkedTree.ensureDirectory (.ofString "lost/a") = (.error failure, linkedTree)
  := by
  have ht : linkedTree.IsClosed := by decide
  have hlinks : linkedTree.LinksFit := by decide
  have hnul : (Path.ofString "by/a/b").hasNul = false := by decide
  have hplain : ∀ part ∈ (Path.ofString "by/a/b").parts,
      part ≠ ".." ∧ part.utf8ByteSize ≤ longestName := by decide
  have hnul' : (Path.ofString "lost/a").hasNul = false := by decide
  have hplain' : ∀ part ∈ (Path.ofString "lost/a").parts,
      part ≠ ".." ∧ part.utf8ByteSize ≤ longestName := by decide
  refine ⟨ht, hlinks, Path.isNormal_ofString _, hnul, hplain, Path.isNormal_ofString _, hnul',
    hplain', ?_, ?_⟩
  · obtain ⟨n, hlongest, hmade, -⟩ :=
      ensureDirectory_of_names linkedTree _ ht hlinks (Path.isNormal_ofString _) hnul hplain
    obtain rfl : n = 1 := hlongest.eq_of_not_hasEntry (by decide) ⟨_, rfl⟩ (by rintro ⟨_, ⟨⟩⟩)
    obtain ⟨made, t', hensure, -, heq, -, -, -, hlength, -, -, hagain⟩ := hmade (by decide)
    refine ⟨made, t', hensure, heq, ?_, hagain⟩
    apply Nat.add_left_cancel hlength
  · obtain ⟨n, hlongest, -, hrefused⟩ :=
      ensureDirectory_of_names linkedTree _ ht hlinks (Path.isNormal_ofString _) hnul' hplain'
    obtain rfl : n = 1 := hlongest.eq_of_not_hasEntry (by decide) ⟨_, rfl⟩ (by rintro ⟨_, ⟨⟩⟩)
    obtain ⟨failure, hensure, -⟩ := hrefused (by decide)
    exact ⟨failure, hensure⟩

end FileTree

end SourceLocator
