import SourceLocator.FileTree.Listing
import SourceLocator.Proofs.DecodingFaults
import SourceLocator.Proofs.EarlierScans
import SourceLocator.Proofs.FileContents

/-!
# Records about reading

Whatever a view of a package cannot read it records.  There is one record about the walk, if the
view makes one, and one about each of its files that cannot be read, which tells the cause; about
a file that holds a text there is none (`records_of_views`).  The view of the resource-mapping
files goes through no other file: what those hold makes no difference to it or to its records.
A root that holds the character no path may hold is neither walked nor recorded
(`not_recorded_nulRoot`).
-/

namespace SourceLocator

open Text

/-! ### What cannot be read -/

/-- What a path leads to cannot be read, for a cause: nothing is there, or a directory, or a file
with a fault in its bytes. -/
inductive FileTree.CannotRead (t : FileTree) (p : Path) : ReadError → Prop where
  | gone {c} (hstat : t.stat p = .error c) :
      CannotRead t p (.file { cause := c, path := p.render })
  | directory (hstat : t.stat p = .ok .directory) :
      CannotRead t p (.file { cause := .isDirectory, path := p.render })
  | undecodable {front rest f} (hstat : t.stat p = .ok (.file (front ++ (f.bytes ++ rest))))
      (hfault : Utf8.Fault.StandsIn f front rest) :
      CannotRead t p (.encoding f)

namespace FileTree

variable {t : FileTree} {p : Path} {e e' : ReadError}

theorem readLines_eq_error_iff :
  t.readLines p = .error e ↔ t.CannotRead p e
  := by
  constructor
  · intro h
    cases hstat : t.stat p with
    | error c =>
      simp only [readLines, readText, read, hstat] at h
      cases h
      exact .gone hstat
    | ok entry =>
      cases entry with
      | directory =>
        simp only [readLines, readText, read, hstat] at h
        cases h
        exact .directory hstat
      | file bytes =>
        rw [readLines_of_stat hstat] at h
        cases hdecode : Utf8.decode bytes with
        | ok text =>
          rw [hdecode] at h
          cases h
        | error f =>
          rw [hdecode] at h
          cases h
          obtain ⟨front, rest, rfl, hfault⟩ := Utf8.decode_eq_error_iff.mp hdecode
          exact .undecodable hstat hfault
      | _ =>
        simp only [readLines, readText, read, hstat] at h
        cases h
  · intro h
    cases h with
    | undecodable hstat hfault =>
      rw [readLines_of_stat hstat, Utf8.decode_eq_error_iff.mpr ⟨_, _, rfl, hfault⟩]
      rfl
    | gone hstat | directory hstat =>
      simp only [readLines, readText, read, hstat]
      rfl

/-- There is one cause at most. -/
theorem CannotRead.unique (h : t.CannotRead p e) (h' : t.CannotRead p e') :
  e = e'
  := Except.error.inj ((readLines_eq_error_iff.mpr h).symm.trans (readLines_eq_error_iff.mpr h'))

/-- In a tree without gaps, what can be opened holds a text or cannot be read. -/
theorem CanOpen.text_or_cannotRead (ht : t.IsClosed) (hp : t.CanOpen p) :
  (∃ text, t.stat p = .ok (.file (Utf8.encode text))) ∨ ∃ e, t.CannotRead p e
  := by
  cases hstat : t.stat p with
  | error c => exact .inr ⟨_, .gone hstat⟩
  | ok entry =>
    cases entry with
    | directory => exact .inr ⟨_, .directory hstat⟩
    | file bytes =>
      cases hdecode : Utf8.decode bytes with
      | ok text => exact .inl ⟨text, by rw [Utf8.decode_eq_ok_iff.mp hdecode]⟩
      | error f =>
        obtain ⟨front, rest, rfl, hfault⟩ := Utf8.decode_eq_error_iff.mp hdecode
        exact .inr ⟨_, .undecodable hstat hfault⟩
    | link target => exact absurd hstat (ht.stat_ne_link p target)
    | fifo => exact absurd hstat hp.2

/-- A file that holds a text can be read. -/
theorem not_cannotRead_of_text {text : List Char}
    (h : t.stat p = .ok (.file (Utf8.encode text))) :
  ¬ t.CannotRead p e
  := by
  intro hcannot
  have hlines := (readLines_eq_ok_iff h).mpr ⟨text, rfl, rfl⟩
  rw [readLines_eq_error_iff.mpr hcannot] at hlines
  cases hlines

end FileTree

/-! ### Records about the files of a set -/

/-- A record says something at a level. -/
structure Record.Tells (record : Record) (level : Level) (message : String) : Prop where
  level : record.level = level
  message : record.message = message

/-- Records tell of the files of a set that cannot be read: of each of them once, by a record of
debug output that names the file, the package and the cause, and of nothing else.  A file of which
they do not tell holds a text. -/
structure TellsFailures (t : FileTree) (package : String) (files : FileSet)
    (records : List Record) : Prop where
  nodup : records.Nodup
  mem_iff (record : Record) : record ∈ records ↔
    ∃ p ∈ files, ∃ e, t.CannotRead p e ∧ record = .outside p package e
  unique {p : Path} {e e' : ReadError} (hmem : .outside p package e ∈ records)
    (hmem' : .outside p package e' ∈ records) : e = e'
  tells {p : Path} {e : ReadError} (hmem : .outside p package e ∈ records) :
    (Record.outside p package e).Tells .debug
      ("Treating " ++ p.render ++ " as outside " ++ package ++ ": " ++ e.message)
  silent_iff (ht : t.IsClosed) {p : Path} (hp : p ∈ files) :
    (∀ e, .outside p package e ∉ records) ↔ ∃ text, t.stat p = .ok (.file (Utf8.encode text))

/-- What a view comes to that goes through some files, with records about how it came by them: it
ends if one of their paths cannot be used, and if all can be opened those of them that cannot be
read are recorded as well. -/
structure Reports (view : Except NulInPath (Logged FileSet)) (t : FileTree) (package : String)
    (files : FileSet) (scanned : List Record) : Prop where
  ends (hnul : ∃ p ∈ files, p.hasNul) : view = .error .nulInPath
  records (hopen : ∀ p ∈ files, t.CanOpen p) : ∃ found failures, view = .ok found ∧
    found.records = scanned ++ failures ∧ TellsFailures t package files failures

theorem Config.mem_records_membership_iff {config : Config} {t : FileTree} {p : Path}
    {package : String} {record : Record} :
  record ∈ (config.membership t p package).records ↔
    ∃ e, t.CannotRead p e ∧ record = .outside p package e
  := by
  simp only [← FileTree.readLines_eq_error_iff]
  rw [membership]
  cases t.readLines p with
  | error e => simp [Membership.records]
  | ok ls => simp [Membership.records]

namespace SourceSet

variable {s : SourceSet} {t t' : FileTree} {package : String} {files : FileSet}

/-- The records about the files of a set. -/
def failures (s : SourceSet) (t : FileTree) (package : String) (files : FileSet) : List Record :=
  files.paths.flatMap fun p => (s.config.membership t p package).records

theorem mem_failures_iff {record : Record} :
  record ∈ s.failures t package files ↔
    ∃ p ∈ files, ∃ e, t.CannotRead p e ∧ record = .outside p package e
  := by
  simp only [failures, List.mem_flatMap, Config.mem_records_membership_iff]
  rfl

/-- No record is made twice: a file is tested once, and records about two files differ. -/
theorem nodup_failures :
  (s.failures t package files).Nodup
  := by
  rw [failures, List.nodup_flatMap]
  constructor
  · intro p hp
    rw [Config.membership]
    split <;> simp [Membership.records]
  · refine files.nodup.imp ?_
    intro p p' hne record hrecord hrecord'
    obtain ⟨e, -, rfl⟩ := Config.mem_records_membership_iff.mp hrecord
    obtain ⟨e', -, heq⟩ := Config.mem_records_membership_iff.mp hrecord'
    cases heq
    apply hne rfl

/-- A file is recorded for the cause for which it cannot be read. -/
theorem outside_mem_failures_iff {p : Path} {e : ReadError} :
  .outside p package e ∈ s.failures t package files ↔ p ∈ files ∧ t.CannotRead p e
  := by
  rw [mem_failures_iff]
  constructor
  · rintro ⟨p, hp, e, he, heq⟩
    cases heq
    exact ⟨hp, he⟩
  · rintro ⟨hp, he⟩
    exact ⟨p, hp, e, he, rfl⟩

theorem tellsFailures (hopen : ∀ p ∈ files, t.CanOpen p) :
  TellsFailures t package files (s.failures t package files)
  where
  nodup := nodup_failures
  mem_iff _ := mem_failures_iff
  unique hmem hmem' :=
    (outside_mem_failures_iff.mp hmem).2.unique (outside_mem_failures_iff.mp hmem').2
  tells _ := ⟨rfl, rfl⟩
  silent_iff := by
    intro ht p hp
    constructor
    · intro hsilent
      obtain htext | ⟨e, he⟩ := (hopen p hp).text_or_cannotRead ht
      · exact htext
      · apply absurd (outside_mem_failures_iff.mpr ⟨hp, he⟩) (hsilent e)
    · rintro ⟨text, htext⟩ e hmem
      apply FileTree.not_cannotRead_of_text htext (outside_mem_failures_iff.mp hmem).2

/-- Files are restricted to a package with a record about each that cannot be read. -/
theorem reports_restricted (files : FileSet) (scanned : List Record) :
  Reports (s.restricted t (some package) ⟨files, scanned⟩) t package files scanned
  where
  ends hnul := by
    have hany : files.paths.any Path.hasNul = true := List.any_eq_true.mpr hnul
    simp only [restricted, inPackage, hany, if_true]
    rfl
  records hopen := by
    have hnone : files.paths.any Path.hasNul = false := by
      apply List.any_eq_false.mpr
      intro p hp
      simp [(hopen p hp).1]
    simp only [restricted, inPackage, hnone, Bool.false_eq_true, if_false]
    exact ⟨_, _, rfl, rfl, tellsFailures hopen⟩

/-- Files that lead to the same in two trees are restricted alike. -/
theorem restricted_congr {walked : Logged FileSet}
    (hsame : ∀ p ∈ walked.value, t'.stat p = t.stat p) (package : String) :
  s.restricted t' (some package) walked = s.restricted t (some package) walked
  := by
  have hmembership : ∀ p ∈ walked.value.paths,
      s.config.membership t' p package = s.config.membership t p package := by
    intro p hp
    simp only [Config.membership, FileTree.readLines, FileTree.readText, FileTree.read,
      hsame p hp]
  have hfiles : walked.value.filter (fun p => (s.config.membership t' p package).member)
      = walked.value.filter fun p => (s.config.membership t p package).member := by
    simp only [FileSet.filter, FileSet.mk.injEq]
    apply List.filter_congr
    intro p hp
    rw [hmembership p hp]
  have hrecords : walked.value.paths.flatMap
        (fun p => (s.config.membership t' p package).records)
      = walked.value.paths.flatMap fun p => (s.config.membership t p package).records := by
    apply List.flatMap_congr
    intro p hp
    rw [hmembership p hp]
  simp only [restricted, inPackage, hfiles, hrecords]

/-! ### Records about the walk -/

/-- The files that a view goes through, and the records about the walk that finds them: none if
the files are those of an earlier scan, and otherwise one, a warning with the cause if the walk
fails and debug output with the number of files if it does not. -/
inductive Walks (s : SourceSet) (t : FileTree) :
    Option ScanResult → FileSet → List Record → Prop where
  | earlier (r : ScanResult) : Walks s t (some r) r.files []
  | failed {r e record} (hscan : s.scan t = .ok r) (herror : r.error = some e)
      (hrecord : record = .cannotTraverse s.root e)
      (htells : record.Tells .warning
        ("Cannot traverse " ++ s.root.render ++ ": " ++ e.message)) :
      Walks s t none r.files [record]
  | found {r record} (hscan : s.scan t = .ok r) (hok : r.error = none)
      (hrecord : record = .found r.files.size s.config.extension s.root)
      (htells : record.Tells .debug ("Found " ++ toString r.files.size ++ " "
        ++ s.config.extension ++ " file(s) under " ++ s.root.render)) :
      Walks s t none r.files [record]

theorem root_outcome (s : SourceSet) (t : FileTree) :
  (s.outcome t).root = s.root
  := by
  rw [outcome, FileTree.scanFrom]
  split <;> rfl

/-- From a root that can be used a view comes by its files in one of these ways. -/
theorem exists_walks (t : FileTree) {earlier : Option ScanResult}
    (hroot : earlier = none → s.root.hasNul = false) :
  ∃ walked, s.walked t earlier = .ok walked ∧ s.Walks t earlier walked.value walked.records
  := by
  cases earlier with
  | some r => exact ⟨_, rfl, .earlier r⟩
  | none =>
    have hscan : s.scan t = .ok (s.outcome t) := scan_eq_outcome (hroot rfl)
    rw [walked, hscan]
    refine ⟨_, rfl, ?_⟩
    cases herror : (s.outcome t).error with
    | none =>
      have hrecord : s.scanRecord (s.outcome t)
          = .found (s.outcome t).files.size s.config.extension s.root := by
        simp only [scanRecord, ScanResult.record, herror, root_outcome]
      exact .found hscan herror hrecord (by rw [hrecord]; exact ⟨rfl, rfl⟩)
    | some e =>
      have hrecord : s.scanRecord (s.outcome t) = .cannotTraverse s.root e := by
        simp only [scanRecord, ScanResult.record, herror, root_outcome]
      exact .failed hscan herror hrecord (by rw [hrecord]; exact ⟨rfl, rfl⟩)

/-- A view comes by its files alike in trees that are the same but for the bytes of files, and in
any two trees if it does not walk. -/
theorem walked_congr {earlier : Option ScanResult} (h : t.SameButBytes t' ∨ earlier.isSome) :
  s.walked t' earlier = s.walked t earlier
  := by
  cases earlier with
  | some r => rfl
  | none =>
    obtain hbytes | hsome := h
    · simp only [walked, scan, FileTree.scan, hbytes.scanFrom_eq]
    · cases hsome

/-- A view that walks the tree anew goes through files that can be opened. -/
theorem Walks.canOpen {records : List Record} (h : s.Walks t none files records) :
  ∀ p ∈ files, t.CanOpen p
  := by
  intro p hp
  cases h with
  | failed hscan | found hscan =>
    obtain ⟨-, rfl⟩ := eq_outcome_of_scan hscan
    apply canOpen_of_mem_outcome hp

/-! ### The records of a view -/

/-- A view of a package that is to walk from a root that cannot be used ends without records.
Otherwise it goes through the files of the walk, and has the record about that walk, if it makes
one, and those about the files that cannot be read; the view of the resource-mapping files has only
those about files that are named so.  What other files hold makes no difference to it, and if it
does not walk neither does what becomes of them. -/
theorem records_of_views (s : SourceSet) (t : FileTree) (package : String)
    (earlier : Option ScanResult) :
  (earlier = none → s.root.hasNul →
    s.sourceFiles t (some package) earlier = .error .nulInPath ∧
    s.resourceFiles t (some package) earlier = .error .nulInPath) ∧
  ((earlier = none → s.root.hasNul = false) →
    ∃ files scanned, s.Walks t earlier files scanned ∧
      (earlier = none → ∀ p ∈ files, t.CanOpen p) ∧
      Reports (s.sourceFiles t (some package) earlier) t package files scanned ∧
      Reports (s.resourceFiles t (some package) earlier) t package (s.resourceNamed files) scanned ∧
      ∀ t', t.SameButBytes t' ∨ earlier.isSome →
        (∀ p ∈ s.resourceNamed files, t'.stat p = t.stat p) →
        s.resourceFiles t' (some package) earlier = s.resourceFiles t (some package) earlier)
  := by
  constructor
  · rintro rfl hroot
    have hscan : s.scan t = .error .nulInPath := if_pos hroot
    simp only [sourceFiles, resourceFiles, walked, hscan]
    exact ⟨rfl, rfl⟩
  · intro hroot
    obtain ⟨walked, hwalked, hwalks⟩ := exists_walks t hroot
    have hresource (t' : FileTree) (hwalked' : s.walked t' earlier = .ok walked) :
        s.resourceFiles t' (some package) earlier
          = s.restricted t' (some package) ⟨s.resourceNamed walked.value, walked.records⟩ := by
      rw [resourceFiles, hwalked']
      rfl
    refine ⟨walked.value, walked.records, hwalks, ?_, ?_, ?_, ?_⟩
    · rintro rfl
      apply hwalks.canOpen
    · rw [sourceFiles, hwalked]
      apply reports_restricted
    · rw [hresource t hwalked]
      apply reports_restricted
    · intro t' hother hsame
      rw [hresource t hwalked, hresource t' ((walked_congr hother).trans hwalked),
        restricted_congr hsame]

/-- Of the files of a former scan one is gone and one holds no text; neither is named as a
resource-mapping file, and so there are no records about them in that view, which stays as it is
when another one becomes a directory. -/
theorem records_of_views_declaredTree :
  (∀ p ∈ formerScan.files, declaredTree.CanOpen p) ∧ ∃ found both,
    declaredSet.sourceFiles declaredTree (some "a.b") (some formerScan) = .ok found ∧
    declaredSet.resourceFiles declaredTree (some "a.b") (some formerScan) = .ok both ∧
    .outside (.ofString "B.java") "a.b" (.encoding ⟨12, [0xFF], .invalidStart⟩) ∈ found.records ∧
    .outside (.ofString "C.java") "a.b" (.file { cause := .notFound, path := "C.java" })
      ∈ found.records ∧
    both.records = [] ∧
    declaredSet.resourceFiles changedTree (some "a.b") (some formerScan) = .ok both
  := by
  have hopen : ∀ p ∈ formerScan.files.paths, declaredTree.CanOpen p := by decide +kernel
  have hnamed : ∀ p ∈ (declaredSet.resourceNamed formerScan.files).paths,
      p = .ofString "R$id.java" := by decide +kernel
  have hsame : ∀ p ∈ declaredSet.resourceNamed formerScan.files,
      changedTree.stat p = declaredTree.stat p := by
    intro p hp
    obtain rfl := hnamed p hp
    rfl
  have hb : declaredTree.CannotRead (.ofString "B.java")
      (.encoding ⟨12, [0xFF], .invalidStart⟩) := by
    rw [← FileTree.readLines_eq_error_iff]
    decide +kernel
  have hc : declaredTree.CannotRead (.ofString "C.java")
      (.file { cause := .notFound, path := "C.java" }) := by
    rw [← FileTree.readLines_eq_error_iff]
    decide +kernel
  obtain ⟨-, hviews⟩ := records_of_views declaredSet declaredTree "a.b" (some formerScan)
  obtain ⟨files, scanned, hwalks, -, hfound, hboth, hunread⟩ := hviews (by rintro ⟨⟩)
  cases hwalks
  obtain ⟨found, failures, hsource, hrecords, htells⟩ := hfound.records hopen
  obtain ⟨both, failures', hresource, hrecords', htells'⟩ := hboth.records fun p hp =>
    hopen p (FileSet.mem_filter.mp hp).1
  refine ⟨hopen, found, both, hsource, hresource, ?_, ?_, ?_, ?_⟩
  · rw [hrecords, List.nil_append, htells.mem_iff]
    exact ⟨_, FileSet.mem_ofList.mpr (by decide), _, hb, rfl⟩
  · rw [hrecords, List.nil_append, htells.mem_iff]
    exact ⟨_, FileSet.mem_ofList.mpr (by decide), _, hc, rfl⟩
  · rw [hrecords', List.nil_append, List.eq_nil_iff_forall_not_mem]
    intro record hrecord
    obtain ⟨p, hp, e, he, -⟩ := (htells'.mem_iff record).mp hrecord
    obtain rfl := hnamed p hp
    have htext : declaredTree.stat (.ofString "R$id.java")
        = .ok (.file (Utf8.encode "package a.b;".toList)) := rfl
    apply FileTree.not_cannotRead_of_text htext he
  · rw [hunread changedTree (.inr rfl) hsame, hresource]

/-- A source set whose root holds the character that no path may hold. -/
def nulSet : SourceSet := ⟨.ofString "a\x00b", .default⟩

/-- The walk from that root fails, but the view ends without a record about it. -/
theorem not_recorded_nulRoot :
  nulSet.sourceFiles .bare (some "p") none = .error .nulInPath ∧
    ¬ ∃ found record, nulSet.sourceFiles .bare (some "p") none = .ok found ∧
      found.records = [record]
  := by
  have hfails : nulSet.sourceFiles .bare (some "p") none = .error .nulInPath := rfl
  refine ⟨hfails, ?_⟩
  rintro ⟨found, record, hfound, -⟩
  cases hfails.symm.trans hfound

end SourceSet

end SourceLocator
