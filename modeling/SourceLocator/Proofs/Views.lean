import SourceLocator.Proofs.DeclaringFiles
import SourceLocator.Proofs.WalkOutcomes
import SourceLocator.SourceSet

/-!
# The views of a source set

Every view of a source set is a part of what a scan has found: the files that are named as
resource-mapping files, those that declare a package, or those that do both
(`SourceSet.views_of_scan`).  Over an unchanging tree the views of two packages compare as
the packages do: with any closing of declarations allowed a longer package has fewer files,
the case of letters makes no difference, and an exact closing leaves fewer files than any
(`SourceSet.views_compare`).
-/

namespace SourceLocator

open Text

/-! ### Declarations compared -/

/-- A copy of a longer text begins with a copy of its beginning. -/
theorem exists_isCopy_of_append {literal more text : List Char}
    (h : IsCopy (literal ++ more) text) :
  ∃ copy rest, text = copy ++ rest ∧ IsCopy literal copy
  := by
  rw [isCopy_iff, List.map_append, eq_comm, List.map_eq_append_iff] at h
  obtain ⟨copy, rest, rfl, hcopy, -⟩ := h
  exact ⟨copy, rest, rfl, isCopy_iff.mpr hcopy.symm⟩

namespace IsDeclaration

variable {closing : Closing} {keyword package package' line : List Char}

/-- A line that declares a package declares all that it is a copy of. -/
theorem of_isCopy (hcopy : IsCopy package package')
    (h : IsDeclaration closing keyword package' line) :
  IsDeclaration closing keyword package line
  := by
  obtain ⟨keyword', gap, written, between, hline, hkeyword, hne, hgap, hwritten, hbetween⟩ := h
  refine ⟨keyword', gap, written, between, hline, hkeyword, hne, hgap, ?_, hbetween⟩
  rw [isCopy_iff] at hcopy hwritten ⊢
  rw [hcopy, hwritten]

/-- A line that declares a package declares what the package begins with, when anything may
close it. -/
theorem of_isPrefix (hline : '\n' ∉ line) (hbegins : package <+: package')
    (h : IsDeclaration .anything keyword package' line) :
  IsDeclaration .anything keyword package line
  := by
  obtain ⟨more, rfl⟩ := hbegins
  obtain ⟨keyword', gap, written, between, rfl, hkeyword, hne, hgap, hwritten, -⟩ := h
  obtain ⟨copy, rest, rfl, hcopy⟩ := exists_isCopy_of_append hwritten
  refine ⟨keyword', gap, copy, rest ++ between, by simp, hkeyword, hne, hgap, hcopy, ?_⟩
  intro hfeed
  apply hline
  rw [List.mem_append] at hfeed
  simp only [List.mem_append]
  tauto

/-- A line that declares a package exactly declares it when anything may close it. -/
theorem of_exact (hline : '\n' ∉ line) (h : IsDeclaration .exact keyword package line) :
  IsDeclaration .anything keyword package line
  := by
  obtain ⟨keyword', gap, written, between, rfl, hkeyword, hne, hgap, hwritten, -⟩ := h
  refine ⟨keyword', gap, written, between, rfl, hkeyword, hne, hgap, hwritten, ?_⟩
  intro hfeed
  apply hline
  simp [hfeed]

end IsDeclaration

/-! ### What a scan has found -/

namespace FileTree

variable {t : FileTree} {p root : Path} {extension : String} {followLinks : Bool}

theorem files_scanFrom_of_error (h : (t.scanFrom root extension followLinks).error.isSome) :
  (t.scanFrom root extension followLinks).files = .empty
  := by
  apply files_scanFrom_of_not_isOk
  rw [ScanResult.isOk, Option.isNone_iff_eq_none, ← ne_eq, ← Option.isSome_iff_ne_none]
  exact h

/-- A path can be opened: it holds no forbidden character and leads to no fifo, which would
keep its reader until something is written to it. -/
def CanOpen (t : FileTree) (p : Path) : Prop :=
  p.hasNul = false ∧ t.stat p ≠ .ok .fifo

instance (t : FileTree) (p : Path) : Decidable (t.CanOpen p) :=
  inferInstanceAs (Decidable (_ ∧ _))

/-- What leads to a file can be opened. -/
theorem LeadsToFile.canOpen (h : t.LeadsToFile p) :
  t.CanOpen p
  := by
  obtain ⟨bytes, hbytes⟩ := h
  refine ⟨hasNul_eq_false_of_stat hbytes, ?_⟩
  rw [hbytes]
  rintro ⟨⟩

end FileTree

/-! ### Declared under one configuration and under another -/

namespace Config

variable {config : Config} {t : FileTree} {p : Path} {package package' : String}

/-- A file that cannot be read declares nothing. -/
theorem not_declaredAt_of_check {m : Membership} (hcheck : config.check t p package = .ok m)
    (herror : m.error.isSome) :
  ¬ config.DeclaredAt t p package
  := by
  rw [check] at hcheck
  split at hcheck
  · cases hcheck
  · obtain rfl := Except.ok.inj hcheck
    rw [← membership_member_iff]
    rw [membership] at herror ⊢
    split
    · simp
    · rename_i hlines
      rw [hlines] at herror
      cases herror

/-- If lines that declare one package declare another, so do files. -/
theorem DeclaredAt.imp {config' : Config}
    (himp : ∀ line, IsLine line → config.IsDeclarationOf package line →
      config'.IsDeclarationOf package' line)
    (h : config.DeclaredAt t p package) :
  config'.DeclaredAt t p package'
  := by
  obtain ⟨text, htext, line, hline, hdecl⟩ := h
  exact ⟨text, htext, line, hline, himp line (isLine_of_mem_linesAfter hline) hdecl⟩

/-- The configuration with another closing of declarations. -/
def closedBy (config : Config) (closing : Closing) : Config :=
  { config with closing := closing }

/-- When anything may close a declaration, a file that declares a package declares what the
package begins with. -/
theorem DeclaredAt.of_isPrefix (hbegins : package.toList <+: package'.toList)
    (h : (config.closedBy .anything).DeclaredAt t p package') :
  (config.closedBy .anything).DeclaredAt t p package
  := by
  apply h.imp
  intro line hline hdecl
  apply IsDeclaration.of_isPrefix hline.1 hbegins hdecl

/-- A file that declares a package exactly declares it when anything may close it. -/
theorem DeclaredAt.of_exact (h : (config.closedBy .exact).DeclaredAt t p package) :
  (config.closedBy .anything).DeclaredAt t p package
  := by
  apply h.imp
  intro line hline hdecl
  apply IsDeclaration.of_exact hline.1 hdecl

/-- The case of letters makes no difference to what a file declares. -/
theorem declaredAt_congr (hcopy : IsCopy package.toList package'.toList) :
  config.DeclaredAt t p package ↔ config.DeclaredAt t p package'
  := by
  have hcopy' : IsCopy package'.toList package.toList := isCopy_iff.mpr (isCopy_iff.mp hcopy).symm
  constructor
  · intro h
    apply h.imp fun _ _ => IsDeclaration.of_isCopy hcopy'
  · intro h
    apply h.imp fun _ _ => IsDeclaration.of_isCopy hcopy

end Config

/-! ### The views -/

instance : HasSubset FileSet where
  Subset a b := ∀ p ∈ a, p ∈ b

namespace SourceSet

variable {s : SourceSet} {t : FileTree} {package package' : String}

/-- What a scan of the source files comes to when the root can be used. -/
def outcome (s : SourceSet) (t : FileTree) : ScanResult :=
  t.scanFrom s.root s.config.extension s.config.followLinks

theorem scan_eq_outcome (hroot : s.root.hasNul = false) :
  s.scan t = .ok (s.outcome t)
  := FileTree.scan_of_hasNul_eq_false hroot _ _

/-- The files that a scan finds can all be opened. -/
theorem canOpen_of_mem_outcome {p : Path} (hp : p ∈ (s.outcome t).files) :
  t.CanOpen p
  := (FileTree.leadsToFile_of_mem_scanFrom hp).canOpen

/-- A view has its files from the earlier scan, or else from a new one. -/
theorem exists_walked_eq (hroot : s.root.hasNul = false) (earlier : Option ScanResult) :
  ∃ files, s.walked t earlier = .ok files ∧ files.value = (earlier.getD (s.outcome t)).files
  := by
  cases earlier with
  | some r => exact ⟨_, rfl, rfl⟩
  | none =>
    rw [walked, scan_eq_outcome hroot]
    exact ⟨_, rfl, rfl⟩

/-- The views of all files are those files, and the ones among them that are named as
resource-mapping files. -/
theorem exists_views_eq (hroot : s.root.hasNul = false) (earlier : Option ScanResult) :
  ∃ all named, s.sourceFiles t none earlier = .ok all ∧
    s.resourceFiles t none earlier = .ok named ∧
    all.value = (earlier.getD (s.outcome t)).files ∧
    named.value = s.resourceNamed (earlier.getD (s.outcome t)).files
  := by
  obtain ⟨files, hwalked, hfiles⟩ := @exists_walked_eq s t hroot earlier
  simp only [sourceFiles, resourceFiles, hwalked, ← hfiles]
  exact ⟨_, _, rfl, rfl, rfl, rfl⟩

/-- The files of a set that declare a package. -/
def declaring (s : SourceSet) (t : FileTree) (package : String) (files : FileSet) : FileSet :=
  files.filter fun p => (s.config.membership t p package).member

theorem mem_declaring_iff {files : FileSet} {p : Path} :
  p ∈ s.declaring t package files ↔ p ∈ files ∧ s.config.DeclaredAt t p package
  := by
  rw [declaring, FileSet.mem_filter, Config.membership_member_iff]

/-- Files that can all be used are restricted to those that declare a package. -/
theorem exists_restricted_eq {files : Logged FileSet}
    (hopen : ∀ p ∈ files.value, p.hasNul = false) (package : String) :
  ∃ found, s.restricted t (some package) files = .ok found ∧
    found.value = s.declaring t package files.value
  := by
  have hnone : files.value.paths.any Path.hasNul = false := by
    apply List.any_eq_false.mpr
    intro p hp
    simp [hopen p hp]
  simp only [restricted, inPackage, hnone, Bool.false_eq_true, if_false]
  exact ⟨_, rfl, rfl⟩

/-- The views of a package are the files that declare it, and the ones named as
resource-mapping files that do so. -/
theorem exists_packageViews_eq (hroot : s.root.hasNul = false) (earlier : Option ScanResult)
    (hopen : ∀ p ∈ (earlier.getD (s.outcome t)).files, p.hasNul = false) (package : String) :
  ∃ found both, s.sourceFiles t (some package) earlier = .ok found ∧
    s.resourceFiles t (some package) earlier = .ok both ∧
    found.value = s.declaring t package (earlier.getD (s.outcome t)).files ∧
    both.value = s.declaring t package (s.resourceNamed (earlier.getD (s.outcome t)).files)
  := by
  obtain ⟨files, hwalked, hfiles⟩ := @exists_walked_eq s t hroot earlier
  rw [← hfiles] at hopen ⊢
  obtain ⟨found, hfound, hvalue⟩ := @exists_restricted_eq s t files hopen package
  obtain ⟨both, hboth, hvalue'⟩ := @exists_restricted_eq s t
    ⟨s.resourceNamed files.value, files.records⟩
    (fun p hp => hopen p (FileSet.mem_filter.mp hp).1) package
  refine ⟨found, both, ?_, ?_, hvalue, hvalue'⟩
  · rw [sourceFiles, hwalked]
    apply hfound
  · rw [resourceFiles, hwalked]
    apply hboth

/-- From a scan without files, all views are empty. -/
theorem exists_views_eq_empty (hroot : s.root.hasNul = false) {earlier : Option ScanResult}
    (hempty : (earlier.getD (s.outcome t)).files = .empty) (package : Option String) :
  ∃ found named, s.sourceFiles t package earlier = .ok found ∧
    s.resourceFiles t package earlier = .ok named ∧
    found.value = .empty ∧ named.value = .empty
  := by
  cases package with
  | none =>
    obtain ⟨all, named, hall, hnamed, hvalue, hvalue'⟩ := @exists_views_eq s t hroot earlier
    rw [hempty] at hvalue hvalue'
    exact ⟨all, named, hall, hnamed, hvalue, hvalue'⟩
  | some package =>
    have hopen : ∀ p ∈ (earlier.getD (s.outcome t)).files, p.hasNul = false := by
      rw [hempty]
      intro p hp
      apply absurd hp (FileSet.not_mem_empty p)
    obtain ⟨found, both, hfound, hboth, hvalue, hvalue'⟩ :=
      exists_packageViews_eq hroot earlier hopen package
    rw [hempty] at hvalue hvalue'
    exact ⟨found, both, hfound, hboth, hvalue, hvalue'⟩

/-- A scan ends with files that can be opened, or with an error and no files; then the views
have none either.  Whether they are had from that scan, from another one or from a new one,
those of all files are the files found and the ones named as resource-mapping files.  Where
the files can be opened, the views of a package have those of either with a line that declares
it, and so never one that could not be read. -/
theorem views_of_scan (s : SourceSet) (t : FileTree) (hroot : s.root.hasNul = false) :
  ∃ r, s.scan t = .ok r ∧ (∀ p ∈ r.files, t.CanOpen p) ∧
    (r.error.isSome → r.files = .empty ∧
      ∀ (package : Option String) (earlier : Option ScanResult), earlier = none ∨ earlier = some r →
        ∃ found named, s.sourceFiles t package earlier = .ok found ∧
          s.resourceFiles t package earlier = .ok named ∧
          found.value = .empty ∧ named.value = .empty) ∧
    ∀ earlier : Option ScanResult, ∃ all named,
      s.sourceFiles t none earlier = .ok all ∧ s.resourceFiles t none earlier = .ok named ∧
      all.value = (earlier.getD r).files ∧
      (∀ p, p ∈ named.value ↔ p ∈ all.value ∧ s.config.resourceName.matchesName p) ∧
      ((∀ p ∈ all.value, t.CanOpen p) → ∀ package, ∃ found both,
        s.sourceFiles t (some package) earlier = .ok found ∧
        s.resourceFiles t (some package) earlier = .ok both ∧
        (∀ p, p ∈ found.value ↔ p ∈ all.value ∧ s.config.DeclaredAt t p package) ∧
        (∀ p, p ∈ both.value ↔ p ∈ named.value ∧ p ∈ found.value) ∧
        ∀ p m, s.check t p package = .ok m → m.error.isSome →
          p ∉ found.value ∧ p ∉ both.value)
  := by
  refine ⟨s.outcome t, scan_eq_outcome hroot, fun p hp => canOpen_of_mem_outcome hp, ?_, ?_⟩
  · intro herror
    have hempty : (s.outcome t).files = .empty := FileTree.files_scanFrom_of_error herror
    refine ⟨hempty, fun package earlier hearlier => ?_⟩
    apply exists_views_eq_empty hroot
    obtain rfl | rfl := hearlier <;> exact hempty
  · intro earlier
    obtain ⟨all, named, hall, hnamed, hvalue, hvalue'⟩ := @exists_views_eq s t hroot earlier
    refine ⟨all, named, hall, hnamed, hvalue, ?_, fun hopen package => ?_⟩
    · intro p
      rw [hvalue, hvalue', resourceNamed, FileSet.mem_filter]
    · rw [hvalue] at hopen
      obtain ⟨found, both, hfound, hboth, hdeclaring, hdeclaring'⟩ :=
        exists_packageViews_eq hroot earlier (fun p hp => (hopen p hp).1) package
      rw [← hvalue] at hdeclaring
      rw [← hvalue'] at hdeclaring'
      refine ⟨found, both, hfound, hboth, ?_, ?_, ?_⟩
      · intro p
        rw [hdeclaring, mem_declaring_iff]
      · intro p
        rw [hdeclaring, hdeclaring', mem_declaring_iff, mem_declaring_iff, hvalue, hvalue',
          resourceNamed, FileSet.mem_filter]
        tauto
      · intro p m hcheck herror
        have hno := Config.not_declaredAt_of_check hcheck herror
        rw [hdeclaring, hdeclaring', mem_declaring_iff, mem_declaring_iff]
        exact ⟨fun h => hno h.2, fun h => hno h.2⟩

/-- A tree with a resource-mapping file and two other sources that declare packages, one of
which holds a byte that no text begins with. -/
def declaredTree : FileTree where
  entries :=
    [([⟨"src", by decide⟩], .directory),
     ([⟨"R$id.java", by decide⟩, ⟨"src", by decide⟩], .file (Utf8.encode "package a.b;".toList)),
     ([⟨"A.java", by decide⟩, ⟨"src", by decide⟩], .file (Utf8.encode "package a.bc;".toList)),
     ([⟨"B.java", by decide⟩, ⟨"src", by decide⟩],
      .file (Utf8.encode "package a.b;".toList ++ [0xFF]))]
  here := [⟨"src", by decide⟩]

/-- The tree after changes: the resource-mapping file lies in another directory and has a link in
its place, there is a directory in the place of one source, and the other one is gone. -/
def changedTree : FileTree where
  entries :=
    [([⟨"src", by decide⟩], .directory),
     ([⟨"moved", by decide⟩, ⟨"src", by decide⟩], .directory),
     ([⟨"R$id.java", by decide⟩, ⟨"moved", by decide⟩, ⟨"src", by decide⟩],
      .file (Utf8.encode "package a.b;".toList)),
     ([⟨"R$id.java", by decide⟩, ⟨"src", by decide⟩], .link "moved/R$id.java"),
     ([⟨"A.java", by decide⟩, ⟨"src", by decide⟩], .directory)]
  here := [⟨"src", by decide⟩]

/-- The source set of the tree, with nothing asked for. -/
def declaredSet : SourceSet := ⟨.ofString ".", .default⟩

/-- What a scan of the tree has found while it held another file. -/
def formerScan : ScanResult where
  root := .ofString "."
  files := .ofList (["R$id.java", "A.java", "B.java", "C.java"].map .ofString)
  error := none

/-- Of the files of a former scan, a package has those that can still be read and declare
it. -/
theorem views_of_scan_declaredTree :
  declaredSet.root.hasNul = false ∧ ∃ found both,
    declaredSet.sourceFiles declaredTree (some "A.b") (some formerScan) = .ok found ∧
    declaredSet.resourceFiles declaredTree (some "A.b") (some formerScan) = .ok both ∧
    (∀ p, p ∈ found.value ↔ p = .ofString "R$id.java" ∨ p = .ofString "A.java") ∧
    ∀ p, p ∈ both.value ↔ p = .ofString "R$id.java"
  := by
  have hroot : declaredSet.root.hasNul = false := by decide
  have hopen : ∀ p ∈ formerScan.files.paths, declaredTree.CanOpen p := by decide +kernel
  have hdeclaring : formerScan.files.paths.filter
      (fun p => (declaredSet.config.membership declaredTree p "A.b").member)
        = [.ofString "R$id.java", .ofString "A.java"] := by decide +kernel
  have hnames : declaredSet.config.resourceName.matchesName (.ofString "R$id.java") ∧
      ¬ declaredSet.config.resourceName.matchesName (.ofString "A.java") := by decide +kernel
  obtain ⟨r, -, -, -, hviews⟩ := views_of_scan declaredSet declaredTree hroot
  obtain ⟨all, named, -, -, hall, hnamed, hpackage⟩ := hviews (some formerScan)
  obtain ⟨found, both, hsource, hresource, hfound, hboth, -⟩ :=
    hpackage (by rw [hall]; exact hopen) "A.b"
  rw [Option.getD_some] at hall
  have hmem : ∀ p, p ∈ found.value ↔ p = .ofString "R$id.java" ∨ p = .ofString "A.java" := by
    intro p
    rw [hfound, hall, ← Config.membership_member_iff]
    apply List.mem_filter.symm.trans
    rw [hdeclaring, List.mem_pair]
  refine ⟨hroot, found, both, hsource, hresource, hmem, fun p => ?_⟩
  rw [hboth, hnamed]
  constructor
  · rintro ⟨⟨-, hname⟩, hp⟩
    obtain rfl | rfl := (hmem p).mp hp
    · rfl
    · apply absurd hname hnames.2
  · rintro rfl
    have hp : Path.ofString "R$id.java" ∈ found.value := (hmem _).mpr (.inl rfl)
    exact ⟨⟨((hfound _).mp hp).1, hnames.1⟩, hp⟩

/-- The source set with another closing of declarations. -/
def closedBy (s : SourceSet) (closing : Closing) : SourceSet :=
  { s with config := s.config.closedBy closing }

/-- If files that declare one package declare another, the first has fewer of a set. -/
theorem declaring_subset {s' : SourceSet} {files : FileSet}
    (h : ∀ p, s.config.DeclaredAt t p package → s'.config.DeclaredAt t p package') :
  s.declaring t package files ⊆ s'.declaring t package' files
  := by
  intro p hp
  rw [mem_declaring_iff] at hp ⊢
  exact ⟨hp.1, h p hp.2⟩

/-- The case of letters makes no difference to which files of a set declare a package. -/
theorem declaring_congr (hcopy : IsCopy package.toList package'.toList) (files : FileSet) :
  s.declaring t package files = s.declaring t package' files
  := by
  have htest : (fun p => (s.config.membership t p package).member)
      = fun p => (s.config.membership t p package').member := by
    funext p
    rw [Bool.eq_iff_iff, Config.membership_member_iff, Config.membership_member_iff]
    apply Config.declaredAt_congr hcopy
  rw [declaring, declaring, htest]

/-- From a root that cannot be used there are no views; from any other there are those of
every package.  When anything may close a declaration, a package has no more files than one it
begins with; packages that differ in the case of letters have the same files; and when a
declaration is closed exactly a package has no more files than when anything may close it. -/
theorem views_compare (s : SourceSet) (t : FileTree) :
  (s.root.hasNul → ∀ closing package,
    (s.closedBy closing).sourceFiles t package none = .error .nulInPath ∧
    (s.closedBy closing).resourceFiles t package none = .error .nulInPath) ∧
  (s.root.hasNul = false → ∃ source resource : Closing → String → FileSet,
    (∀ closing package, ∃ found both,
      (s.closedBy closing).sourceFiles t (some package) none = .ok found ∧
      (s.closedBy closing).resourceFiles t (some package) none = .ok both ∧
      found.value = source closing package ∧ both.value = resource closing package) ∧
    (∀ package package', package.toList <+: package'.toList →
      source .anything package' ⊆ source .anything package ∧
      resource .anything package' ⊆ resource .anything package) ∧
    (∀ package package', IsCopy package.toList package'.toList → ∀ closing,
      source closing package = source closing package' ∧
      resource closing package = resource closing package') ∧
    ∀ package,
      source .exact package ⊆ source .anything package ∧
      resource .exact package ⊆ resource .anything package)
  := by
  constructor
  · intro hroot closing package
    have hscan : (s.closedBy closing).scan t = .error .nulInPath := if_pos hroot
    simp only [sourceFiles, resourceFiles, walked, hscan]
    exact ⟨rfl, rfl⟩
  · intro hroot
    let files := (s.outcome t).files
    refine ⟨fun closing package => (s.closedBy closing).declaring t package files,
      fun closing package => (s.closedBy closing).declaring t package (s.resourceNamed files),
      ?_, ?_, ?_, ?_⟩
    · intro closing package
      apply @exists_packageViews_eq (s.closedBy closing) t hroot none
      intro p hp
      apply (canOpen_of_mem_outcome hp).1
    · intro package package' hbegins
      constructor <;> exact declaring_subset fun p h => h.of_isPrefix hbegins
    · intro package package' hcopy closing
      exact ⟨declaring_congr hcopy _, declaring_congr hcopy _⟩
    · intro package
      constructor <;> exact declaring_subset fun p h => h.of_exact

/-- A scan of the tree finds its sources. -/
theorem outcome_declaredTree :
  declaredSet.outcome declaredTree
    = ⟨.ofString ".", .ofList (["R$id.java", "A.java", "B.java"].map .ofString), none⟩
  := by
  have hbelow : Walk.below ⟨.ofString ".", lowercase ".java".toList, false⟩ declaredTree [] []
      = .ok (["R$id.java", "A.java", "B.java"].map .ofString) := by
    rw [Walk.below_of_not_mem ⟨rfl, rfl⟩ (by simp)]
    decide +kernel
  apply FileTree.scanFrom_of_ok hbelow

theorem files_outcome_declaredTree :
  (declaredSet.outcome declaredTree).files
    = .ofList (["R$id.java", "A.java", "B.java"].map .ofString)
  := congrArg ScanResult.files outcome_declaredTree

/-- What declares a package exactly is found for what the package begins with, in small or
capital letters. -/
theorem views_compare_declaredTree :
  declaredSet.root.hasNul = false ∧ ∃ found,
    (declaredSet.closedBy .anything).sourceFiles declaredTree (some "A.B") none = .ok found ∧
    .ofString "A.java" ∈ found.value
  := by
  have hroot : declaredSet.root.hasNul = false := by decide
  have hdeclaring : .ofString "A.java" ∈ (declaredSet.closedBy .exact).declaring declaredTree
      "a.bc" (.ofList (["R$id.java", "A.java", "B.java"].map .ofString)) := by
    rw [mem_declaring_iff, ← Config.membership_member_iff, FileSet.mem_ofList]
    decide +kernel
  rw [← files_outcome_declaredTree] at hdeclaring
  obtain ⟨source, resource, hviews, hbegins, hcopy, hexact⟩ :=
    (views_compare declaredSet declaredTree).2 hroot
  have hmem : .ofString "A.java" ∈ source .exact "a.bc" := by
    obtain ⟨exactly, -, hexactly, -, hvalue, -⟩ := hviews .exact "a.bc"
    obtain ⟨files, -, hfiles, -, hfilesValue, -⟩ :=
      @exists_packageViews_eq (declaredSet.closedBy .exact) declaredTree hroot none
        (fun p hp => (canOpen_of_mem_outcome hp).1) "a.bc"
    obtain rfl := Except.ok.inj (hexactly.symm.trans hfiles)
    rw [← hvalue, hfilesValue]
    apply hdeclaring
  have hsmall : .ofString "A.java" ∈ source .anything "a.b" := by
    apply (hbegins "a.b" "a.bc" (by decide)).1
    apply (hexact "a.bc").1 _ hmem
  obtain ⟨found, -, hfound, -, hvalue, -⟩ := hviews .anything "A.B"
  refine ⟨hroot, found, hfound, ?_⟩
  rw [hvalue, ← (hcopy "a.b" "A.B" (isCopy_iff.mpr rfl) .anything).1]
  apply hsmall

end SourceSet

end SourceLocator
