import SourceLocator.Proofs.CommandLines
import SourceLocator.Proofs.EnsuredDirectories
import SourceLocator.Proofs.Rows
import SourceLocator.Proofs.Views

/-!
# Listings

A request that gets its settings ends with a listing of the files that are chosen: the view of
its source set, whether that is had from the scan that went before or from another
(`exists_view_eq`).  The files all lie below the source, so that nothing keeps the report from being
had (`exists_report_eq`).  A request without settings ends with a mistake in its source or, when
nothing is wrong with that, in its package; only for a source with too long a name does the tree
itself refuse it (`perform_cases`, `run_endings`).
-/

namespace SourceLocator

/-- What a scan finds lies below its root. -/
theorem SourceSet.isFoundBelow_of_mem_outcome {s : SourceSet} {t : FileTree} {p : Path}
    (hp : p ∈ (s.outcome t).files) :
  p.IsFoundBelow s.root
  := FileTree.isFoundBelow_of_mem_scanFrom hp

namespace Command

open Display Text

namespace Locate

variable {t t' : FileTree} {q : Locate} {settings : Settings}

/-! ### What is listed -/

/-- The source set that is looked through. -/
def sourceSet (q : Locate) (source : Path) : SourceSet :=
  ⟨source, q.config⟩

/-- The files that are listed: those that declare the package, of all source files or of the
resource-mapping files. -/
def chosen (q : Locate) (t : FileTree) (settings : Settings) : FileSet :=
  let set := q.sourceSet settings.source
  set.declaring t settings.package
    (if q.allSources then (set.outcome t).files else set.resourceNamed (set.outcome t).files)

/-- The view of the source set that is listed. -/
def view (q : Locate) (t : FileTree) (settings : Settings) (earlier : Option ScanResult) :
    Except NulInPath (Logged FileSet) :=
  (if q.allSources then (q.sourceSet settings.source).sourceFiles
    else (q.sourceSet settings.source).resourceFiles) t (some settings.package) earlier

/-- The view holds the files that are listed, whether it walks the tree anew or not. -/
theorem exists_view_eq (hnul : settings.source.hasNul = false) {earlier : Option ScanResult}
    (hearlier : earlier = none ∨ earlier = some ((q.sourceSet settings.source).outcome t)) :
  ∃ files, q.view t settings earlier = .ok files ∧ files.value = q.chosen t settings
  := by
  have hscan : earlier.getD ((q.sourceSet settings.source).outcome t)
      = (q.sourceSet settings.source).outcome t := by
    obtain rfl | rfl := hearlier <;> rfl
  have hopen : ∀ p ∈ (earlier.getD ((q.sourceSet settings.source).outcome t)).files,
      p.hasNul = false := by
    rw [hscan]
    intro p hp
    apply (SourceSet.canOpen_of_mem_outcome hp).1
  obtain ⟨found, both, hfound, hboth, hvalue, hvalue'⟩ :=
    SourceSet.exists_packageViews_eq hnul earlier hopen settings.package
  rw [hscan] at hvalue hvalue'
  unfold view chosen
  cases q.allSources with
  | true => exact ⟨found, hfound, hvalue⟩
  | false => exact ⟨both, hboth, hvalue'⟩

/-- A file is listed when it is found, has the name of a resource-mapping file if only those
are asked for, and declares the package. -/
theorem mem_chosen_iff {p : Path} :
  p ∈ q.chosen t settings ↔
    p ∈ ((q.sourceSet settings.source).outcome t).files ∧
      (q.allSources = false → NamePattern.resource.matchesName p) ∧
      q.config.DeclaredAt t p settings.package
  := by
  rw [chosen, SourceSet.mem_declaring_iff]
  cases q.allSources with
  | true => simp [sourceSet]
  | false =>
    simp only [Bool.false_eq_true, if_false, SourceSet.resourceNamed, FileSet.mem_filter,
      forall_true_left, and_assoc]
    rfl

theorem isFoundBelow_of_mem_chosen {p : Path} (hp : p ∈ q.chosen t settings) :
  p.IsFoundBelow settings.source
  := SourceSet.isFoundBelow_of_mem_outcome (mem_chosen_iff.mp hp).1

/-- The report is had, and tells how the scan went and which files are listed. -/
theorem exists_report_eq (hnul : settings.source.hasNul = false) :
  ∃ report rows, q.report t settings = .ok report ∧
    rowsBelow settings.source (q.chosen t settings) = .ok rows ∧
    report.value
      = ⟨settings.source, ((q.sourceSet settings.source).outcome t).error, rows⟩
  := by
  obtain ⟨files, hview, hvalue⟩ := @exists_view_eq t q settings hnul _ (.inr rfl)
  obtain ⟨rows, hrows⟩ := exists_rowsBelow_eq fun p (hp : p ∈ q.chosen t settings) =>
    isFoundBelow_of_mem_chosen hp
  have hscan : (q.sourceSet settings.source).scan t
      = .ok ((q.sourceSet settings.source).outcome t) := SourceSet.scan_eq_outcome hnul
  unfold report
  unfold view sourceSet at hview
  unfold sourceSet at hscan
  simp only [hscan, hview, hvalue, hrows]
  exact ⟨_, _, rfl, rfl, rfl⟩

/-! ### What comes of a request -/

/-- A source that is made sure of and a package that is not blank are the settings. -/
theorem ofFields_eq_ok
    (hensure : t.ensureDirectory (.ofString q.source) = (.ok (.ofString q.source), t'))
    (hblank : isAllBlank q.package.toList = false) :
  Settings.ofFields t q.fields = (.ok ⟨.ofString q.source, q.package⟩, t')
  := by
  have h := @Settings.ofFields_of_texts t t' q.fields _ _ rfl rfl _ hensure
  rw [h, Settings.verdict, hblank]
  rfl

/-- A request is carried out once its source is made sure of and its package is found not to
be blank.  The source comes first: what is wrong with it is told whatever the package is. -/
theorem perform_cases (q : Locate) (t : FileTree) :
  (∃ e, t.ensureDirectory (.ofString q.source) = (.error (.file e), (q.perform t).tree) ∧
      (q.perform t).ending = .refused e) ∨
    (∃ failure, t.ensureDirectory (.ofString q.source) = (.error failure, (q.perform t).tree) ∧
      (∀ e, failure ≠ .file e) ∧
      (q.perform t).ending
        = .usage ⟨.badValue Switch.source.spelling failure.message, []⟩) ∨
    (t.ensureDirectory (.ofString q.source) = (.ok (.ofString q.source), (q.perform t).tree) ∧
      isAllBlank q.package.toList ∧
      (q.perform t).ending
        = .usage ⟨.badValue Switch.package.spelling "Package name must not be blank", []⟩) ∨
    (Settings.ofFields t q.fields = (.ok ⟨.ofString q.source, q.package⟩, (q.perform t).tree) ∧
      t.ensureDirectory (.ofString q.source) = (.ok (.ofString q.source), (q.perform t).tree) ∧
      isAllBlank q.package.toList = false ∧
      ∃ report, q.report (q.perform t).tree ⟨.ofString q.source, q.package⟩ = .ok report ∧
        (q.perform t).ending = .status 0 ∧ (q.perform t).output = report.value.display)
  := by
  cases hensure : t.ensureDirectory (.ofString q.source) with
  | mk outcome t' =>
    have hfields := @Settings.ofFields_of_texts t t' q.fields _ _ rfl rfl _ hensure
    unfold perform
    rw [hfields]
    cases outcome with
    | error failure =>
      cases failure with
      | file e => exact .inl ⟨e, rfl, rfl⟩
      | _ => exact .inr (.inl ⟨_, rfl, by simp, rfl⟩)
    | ok p =>
      obtain ⟨rfl, -⟩ := FileTree.ensureDirectory_ok hensure
      cases hblank : isAllBlank q.package.toList with
      | true =>
        have hverdict : Settings.verdict (.ok (.ofString q.source)) q.package
            = .error (.invalid [⟨"package", .refused "Package name must not be blank"⟩]) := by
          simp [Settings.verdict, Settings.packageDetails, hblank]
        rw [hverdict]
        exact .inr (.inr (.inl ⟨rfl, rfl, rfl⟩))
      | false =>
        have hverdict : Settings.verdict (.ok (.ofString q.source)) q.package
            = .ok ⟨.ofString q.source, q.package⟩ := by
          simp [Settings.verdict, hblank]
        have hnul := FileTree.hasNul_eq_false_of_ensureDirectory hensure
        obtain ⟨report, -, hreport, -⟩ := @exists_report_eq t' q ⟨.ofString q.source, q.package⟩ hnul
        rw [hverdict]
        dsimp only
        rw [hreport]
        exact .inr (.inr (.inr ⟨rfl, rfl, rfl, report, hreport, rfl, rfl⟩))

/-- A source without forbidden characters is refused by the tree only for a name that is too
long.  Otherwise a request has one of three endings: a mistake in the source, which is no
directory and cannot be made one, whatever the package is; a mistake in the package, which is
blank, when the source is a directory or was made one; or a listing. -/
theorem run_endings (t : FileTree) (asked : Option String) (q : Locate)
    (hnul : (Path.ofString q.source).hasNul = false) :
  ((t.stat (.ofString q.source) = .error .nameTooLong ∧
      (run t asked q.words).ending
        = .refused { cause := .nameTooLong, path := (Path.ofString q.source).render } ∧
      (run t asked q.words).tree = t) ∨
    (t.stat (.ofString q.source) ≠ .error .nameTooLong ∧
      ((¬ t.isDirectory (.ofString q.source) ∧
          ∃ failure, (failure = .notWritable (.ofString q.source) ∨
              failure = .cannotCreate (.ofString q.source)) ∧
            t.ensureDirectory (.ofString q.source) = (.error failure, (run t asked q.words).tree) ∧
            (run t asked q.words).ending = .usage ⟨.badValue "--src" failure.message, []⟩) ∨
        (t.ensureDirectory (.ofString q.source)
            = (.ok (.ofString q.source), (run t asked q.words).tree) ∧
          isAllBlank q.package.toList ∧
          (run t asked q.words).ending
            = .usage ⟨.badValue "--pkg" "Package name must not be blank", []⟩) ∨
        (t.ensureDirectory (.ofString q.source)
            = (.ok (.ofString q.source), (run t asked q.words).tree) ∧
          ¬ isAllBlank q.package.toList ∧
          (run t asked q.words).ending = .status 0 ∧
          ∃ report, q.report (run t asked q.words).tree ⟨.ofString q.source, q.package⟩
              = .ok report ∧
            (run t asked q.words).output = report.value.display)))) ∧
  (t.LinksFit → (∀ part ∈ (Path.ofString q.source).parts, part.utf8ByteSize ≤ longestName) →
    t.stat (.ofString q.source) ≠ .error .nameTooLong)
  := by
  rw [q.run_words hnul t asked, Deed.ending_shown, Deed.output_shown, Deed.tree_shown]
  refine ⟨?_, fun ht hfits => ht.stat_ne hfits⟩
  obtain ⟨e, hensure, hending⟩ | ⟨failure, hensure, hfile, hending⟩ |
    ⟨hensure, hblank, hending⟩ | ⟨-, hensure, hblank, report, hreport, hending, houtput⟩ :=
    q.perform_cases t
  · obtain ⟨hstat, htree, he⟩ | ⟨-, he | he | he⟩ := (FileTree.ensures hnul hensure).outcomes
    · cases he
      exact .inl ⟨hstat, hending, htree⟩
    all_goals cases he
  · obtain ⟨-, -, he⟩ | ⟨hstat, hothers⟩ := (FileTree.ensures hnul hensure).outcomes
    · cases he
      apply absurd rfl (hfile _)
    · refine .inr ⟨hstat, .inl ⟨(FileTree.ensureDirectory_error hensure).1, failure, ?_, hensure,
        hending⟩⟩
      obtain he | he | he := hothers <;> cases he <;> simp
  · obtain ⟨-, -, he⟩ | ⟨hstat, -⟩ := (FileTree.ensures hnul hensure).outcomes
    · cases he
    · exact .inr ⟨hstat, .inr (.inl ⟨hensure, hblank, hending⟩)⟩
  · obtain ⟨-, -, he⟩ | ⟨hstat, -⟩ := (FileTree.ensures hnul hensure).outcomes
    · cases he
    · refine .inr ⟨hstat, .inr (.inr ⟨hensure, ?_, hending, report, hreport, houtput⟩)⟩
      rw [hblank]
      simp

/-- With a directory and a package that is not blank a request ends with a listing. -/
theorem run_endings_emptyTree :
  (Path.ofString "old").hasNul = false ∧
    (run Settings.emptyTree none (Locate.words ⟨"old", "p", true, false, true⟩)).ending = .status 0
  := by
  have hnul : (Path.ofString "old").hasNul = false := by decide
  use hnul
  obtain ⟨⟨hlong, -⟩ | ⟨-, ⟨hnot, -⟩ | ⟨-, hblank, -⟩ | ⟨-, -, hending, -⟩⟩, -⟩ :=
    run_endings Settings.emptyTree none ⟨"old", "p", true, false, true⟩ hnul
  · apply absurd hlong
    decide
  · apply absurd _ hnot
    decide
  · cases hblank
  · exact hending

/-- In the working directory a name that is too long is refused. -/
theorem stat_of_longName (hhere : t.isDirectoryAt t.here) {name : String}
    (hname : IsComponent name.toList) (hlong : longestName < name.utf8ByteSize) :
  Path.ofString name = ⟨.here, [name]⟩ ∧ t.stat (.ofString name) = .error .nameTooLong
  := by
  have hnormal : (⟨.here, [name]⟩ : Path).IsNormal := by
    intro part hpart
    obtain rfl := List.mem_singleton.mp hpart
    refine ⟨hname, ?_⟩
    rintro rfl
    apply absurd hlong (by decide)
  have hread : Path.ofString name = ⟨.here, [name]⟩ := by
    rw [← Path.ofString_render hnormal]
    simp [Path.render, Origin.render]
  have hfollow : t.follow linkLimit t.here [.down name] = .error .nameTooLong :=
    (FileTree.turns_of_long (FileTree.isDirectoryAt_iff.mp hhere) hlong).follow_error _ _
  use hread
  rw [hread, FileTree.stat, FileTree.resolve, Path.steps, List.map_singleton,
    Step.ofPart_of_long hlong]
  simp only [FileTree.origin, hfollow, Except.map]

/-- A name of one character more than there may be bytes in it. -/
def longName : String :=
  String.ofList (List.replicate (longestName + 1) 'a')

/-- A source whose name is too long is no mistake on the command line. -/
theorem run_longName :
  (Path.ofString longName).hasNul = false ∧
    (run Settings.emptyTree none (Locate.words ⟨longName, "p", false, false, false⟩)).ending
      = .refused { cause := .nameTooLong, path := longName }
  := by
  have hchars : longName.toList = List.replicate (longestName + 1) 'a' := String.toList_ofList
  have hname : IsComponent longName.toList := by
    constructor
    · rw [hchars]
      rintro ⟨⟩
    · intro hslash
      rw [hchars] at hslash
      cases List.eq_of_mem_replicate hslash
  have hlong : longestName < longName.utf8ByteSize := by
    rw [longName, String.utf8ByteSize_ofList]
    decide +kernel
  obtain ⟨hread, hstat⟩ := @stat_of_longName Settings.emptyTree (by decide) _ hname hlong
  have hnul : (Path.ofString longName).hasNul = false := by
    rw [hread, Path.hasNul, List.any_cons, List.any_nil, Bool.or_false, hchars,
      List.any_eq_false]
    intro c hc
    rw [List.eq_of_mem_replicate hc]
    decide
  have hrender : (Path.ofString longName).render = longName := by
    rw [hread]
    simp [Path.render, Origin.render]
  have hensure : Settings.emptyTree.ensureDirectory (.ofString longName)
      = (.error (.file { cause := .nameTooLong, path := longName }), Settings.emptyTree) := by
    simp [FileTree.ensureDirectory, hnul, hstat, Cause.meansAbsent, hrender]
  let q : Locate := ⟨longName, "p", false, false, false⟩
  have hfields : Settings.ofFields Settings.emptyTree q.fields
      = (Settings.verdict (.error (.file { cause := .nameTooLong, path := longName })) "p",
        Settings.emptyTree) := by
    apply Settings.ofFields_of_texts _ _ hensure
    · rfl
    · rfl
  use hnul
  rw [q.run_words hnul, Deed.ending_shown, perform, hfields]
  rfl

end Locate

end Command

end SourceLocator
