import SourceLocator.Proofs.Views

/-!
# Views over an earlier scan

A view can be had from a scan that was made while the tree was another one.  Of the files of that
scan it then has those that declare the package now, whatever has become of the others
(`SourceSet.views_of_earlier_scan`).  A new view may have other files besides, and lack some that
are not walked any more though they can still be read.
-/

namespace SourceLocator

open Text

/-- A path does not lead to a text that could be read: nothing is there, or a directory, or a file
whose bytes are not those of a text. -/
inductive FileTree.Lacks (t : FileTree) (p : Path) : Prop where
  | gone {c} : t.stat p = .error c → Lacks t p
  | directory : t.stat p = .ok .directory → Lacks t p
  | undecodable {bytes} : t.stat p = .ok (.file bytes) → ¬ Utf8.IsWellFormed bytes → Lacks t p

/-- What does not lead to a text is not read. -/
theorem FileTree.Lacks.readLines {t : FileTree} {p : Path} (h : t.Lacks p) :
  ∃ e, t.readLines p = .error e
  := by
  cases h with
  | gone hstat =>
    simp only [FileTree.readLines, readText, read, hstat]
    exact ⟨_, rfl⟩
  | directory hstat =>
    simp only [FileTree.readLines, readText, read, hstat]
    exact ⟨_, rfl⟩
  | undecodable hstat hbytes =>
    cases hread : t.readLines p with
    | error e => use e
    | ok ls =>
      obtain ⟨text, htext, -⟩ := (readLines_eq_ok_iff hstat).mp hread
      apply absurd (Utf8.isWellFormed_iff.mpr ⟨text, htext⟩) hbytes

/-- A test of what does not lead to a text ends with the reason, and without an answer of yes. -/
theorem Config.check_of_lacks {config : Config} {t : FileTree} {p : Path} (h : t.Lacks p)
    (hnul : p.hasNul = false) (package : String) :
  ∃ m, config.check t p package = .ok m ∧ m.error.isSome ∧ m.member = false
  := by
  obtain ⟨e, he⟩ := h.readLines
  have hmembership : config.membership t p package = ⟨p, package, false, some e⟩ := by
    simp only [membership, he]
  refine ⟨⟨p, package, false, some e⟩, ?_, rfl, rfl⟩
  rw [check, hnul, hmembership]
  rfl

namespace SourceSet

variable {s : SourceSet} {t : FileTree} {package : String}

/-- A scan that was made is what scanning comes to, from a root that can be used. -/
theorem eq_outcome_of_scan {r : ScanResult} (h : s.scan t = .ok r) :
  s.root.hasNul = false ∧ r = s.outcome t
  := by
  cases hnul : s.root.hasNul with
  | true =>
    rw [scan, FileTree.scan, hnul] at h
    cases h
  | false =>
    rw [scan_eq_outcome hnul] at h
    exact ⟨rfl, (Except.ok.inj h).symm⟩

/-- The resource-mapping files of a set that declare a package are those among all that do. -/
theorem mem_declaring_resourceNamed_iff {files : FileSet} {p : Path} :
  p ∈ s.declaring t package (s.resourceNamed files) ↔
    p ∈ s.declaring t package files ∧ s.config.resourceName.matchesName p
  := by
  rw [mem_declaring_iff, mem_declaring_iff, resourceNamed, FileSet.mem_filter, and_right_comm]

/-- From a scan of the tree as it was, the views of a package have those of its files that declare
the package now, and the ones named as resource-mapping files among them.  They have every file of
the scan that new views have, and nothing else if the tree is still the same.  A file that is gone,
has become a directory or holds no text any more is in neither; the test of it ends with the
reason. -/
theorem views_of_earlier_scan (s : SourceSet) (before now : FileTree) (r : ScanResult)
    (hscan : s.scan before = .ok r) (hfifo : ∀ p ∈ r.files, now.stat p ≠ .ok .fifo)
    (package : String) :
  (∀ p ∈ r.files, now.CanOpen p) ∧
  ∃ found both foundAnew bothAnew,
    s.sourceFiles now (some package) (some r) = .ok found ∧
    s.resourceFiles now (some package) (some r) = .ok both ∧
    s.sourceFiles now (some package) none = .ok foundAnew ∧
    s.resourceFiles now (some package) none = .ok bothAnew ∧
    (∀ p, p ∈ found.value ↔ p ∈ r.files ∧ s.config.DeclaredAt now p package) ∧
    (∀ p, p ∈ both.value ↔ p ∈ found.value ∧ s.config.resourceName.matchesName p) ∧
    (∀ p ∈ r.files, p ∈ foundAnew.value → p ∈ found.value) ∧
    (∀ p ∈ r.files, p ∈ bothAnew.value → p ∈ both.value) ∧
    (now = before → found.value = foundAnew.value ∧ both.value = bothAnew.value) ∧
    ∀ p ∈ r.files, now.Lacks p → p ∉ found.value ∧ p ∉ both.value ∧
      ∃ m, s.check now p package = .ok m ∧ m.error.isSome ∧ m.member = false
  := by
  obtain ⟨hroot, rfl⟩ := eq_outcome_of_scan hscan
  have hnul : ∀ p ∈ (s.outcome before).files, p.hasNul = false := fun p hp =>
    (canOpen_of_mem_outcome hp).1
  obtain ⟨found, both, hfound, hboth, hvalue, hvalue'⟩ :=
    @exists_packageViews_eq s now hroot (some (s.outcome before)) hnul package
  obtain ⟨foundAnew, bothAnew, hfoundAnew, hbothAnew, hanew, hanew'⟩ :=
    @exists_packageViews_eq s now hroot none (fun p hp => (canOpen_of_mem_outcome hp).1) package
  rw [Option.getD_some] at hvalue hvalue'
  rw [Option.getD_none] at hanew hanew'
  refine ⟨fun p hp => ⟨hnul p hp, hfifo p hp⟩, found, both, foundAnew, bothAnew, hfound, hboth,
    hfoundAnew, hbothAnew, ?_, ?_, ?_, ?_, ?_, ?_⟩
  · intro p
    rw [hvalue, mem_declaring_iff]
  · intro p
    rw [hvalue, hvalue', mem_declaring_resourceNamed_iff]
  · intro p hp hnew
    rw [hanew, mem_declaring_iff] at hnew
    rw [hvalue, mem_declaring_iff]
    exact ⟨hp, hnew.2⟩
  · intro p hp hnew
    rw [hanew', mem_declaring_resourceNamed_iff, mem_declaring_iff] at hnew
    rw [hvalue', mem_declaring_resourceNamed_iff, mem_declaring_iff]
    exact ⟨⟨hp, hnew.1.2⟩, hnew.2⟩
  · rintro rfl
    rw [hvalue, hvalue', hanew, hanew']
    exact ⟨rfl, rfl⟩
  · intro p hp hlacks
    obtain ⟨m, hcheck, herror, hmember⟩ := @Config.check_of_lacks s.config _ _ hlacks (hnul p hp)
      package
    have hno := Config.not_declaredAt_of_check hcheck herror
    refine ⟨?_, ?_, m, hcheck, herror, hmember⟩
    · rw [hvalue, mem_declaring_iff]
      exact fun h => hno h.2
    · rw [hvalue', mem_declaring_iff]
      exact fun h => hno h.2

/-- Of the files of the earlier scan only the one that became a link is still in the package. -/
theorem views_of_earlier_scan_changedTree :
  ∃ r, declaredSet.scan declaredTree = .ok r ∧
    (∀ p ∈ r.files, changedTree.stat p ≠ .ok .fifo) ∧
    ∃ found both, declaredSet.sourceFiles changedTree (some "a.b") (some r) = .ok found ∧
      declaredSet.resourceFiles changedTree (some "a.b") (some r) = .ok both ∧
      .ofString "R$id.java" ∈ both.value ∧
      .ofString "A.java" ∉ found.value ∧ .ofString "B.java" ∉ found.value
  := by
  have hscan : declaredSet.scan declaredTree = .ok (declaredSet.outcome declaredTree) :=
    scan_eq_outcome (by decide)
  have hfiles : ∀ p, p ∈ (declaredSet.outcome declaredTree).files ↔
      p ∈ ["R$id.java", "A.java", "B.java"].map Path.ofString := by
    intro p
    rw [files_outcome_declaredTree, FileSet.mem_ofList]
  have hfifo : ∀ p ∈ (declaredSet.outcome declaredTree).files,
      changedTree.stat p ≠ .ok .fifo := by
    intro p hp
    rw [hfiles] at hp
    revert p
    decide +kernel
  have hdeclared : declaredSet.config.DeclaredAt changedTree (.ofString "R$id.java") "a.b" := by
    rw [← Config.membership_member_iff]
    decide +kernel
  have hname : declaredSet.config.resourceName.matchesName (.ofString "R$id.java") := by
    decide +kernel
  obtain ⟨-, found, both, -, -, hfound, hboth, -, -, hmem, hmem', -, -, -, hlacks⟩ :=
    views_of_earlier_scan declaredSet declaredTree changedTree _ hscan hfifo "a.b"
  refine ⟨_, hscan, hfifo, found, both, hfound, hboth, ?_, ?_, ?_⟩
  · rw [hmem', hmem, hfiles]
    exact ⟨⟨by decide, hdeclared⟩, hname⟩
  · apply (hlacks _ _ (.directory _)).1
    · rw [hfiles]
      decide
    · decide +kernel
  · apply (hlacks _ _ (.gone (c := .notFound) _)).1
    · rw [hfiles]
      decide
    · decide +kernel

end SourceSet

end SourceLocator
