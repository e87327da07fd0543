import SourceLocator.Proofs.Listings
import SourceLocator.Proofs.ShownText

/-!
# Listed rows

The rows of a listing are sorted and lead from the source to exactly the files that are chosen
(`run_listing`).  Testing a file that was found tells whether it is listed
(`run_check_iff_lists`).
-/

namespace SourceLocator.Command

open Display Text

namespace Locate

variable {t t' : FileTree} {q : Locate} {settings : Settings}

/-! ### Rows -/

/-- In a directory that was made for it nothing is found. -/
theorem outcome_of_missing (ht : t.IsClosed) {p : Path} (hmissing : ¬ t.Finds p) {p' : Path}
    (hensure : t.ensureDirectory p = (.ok p', t')) (s : SourceSet) (hroot : s.root = p) :
  (s.outcome t').files = .empty
  := by
  obtain ⟨-, ⟨hdir, -⟩ | ⟨-, made, -, hreaches⟩⟩ := FileTree.ensureDirectory_ok hensure
  · apply absurd (FileTree.finds_of_isDirectory hdir) hmissing
  · obtain ⟨-, place, -, hleads, hempty⟩ := hreaches.last rfl
    have hnames : t'.names place = [] := by
      apply List.eq_nil_iff_forall_not_mem.mpr
      intro name hname
      rw [FileTree.mem_names, hempty ht name] at hname
      cases hname
    have hbelow : Walk.below ⟨p, lowercase s.config.extension.toList, s.config.followLinks⟩ t' [] []
        = .ok [] := by
      rw [Walk.below_of_not_mem (by rw [Path.descend_nil]; exact hleads) List.not_mem_nil, hnames]
      rfl
    rw [SourceSet.outcome, hroot, FileTree.scanFrom_of_ok hbelow]
    rfl

/-- The settings that a request gets are its own source, which has been made sure of, and
package. -/
theorem settings_of_ofFields (h : Settings.ofFields t q.fields = (.ok settings, t')) :
  settings.source = .ofString q.source ∧ settings.package = q.package ∧
    settings.source.IsNormal ∧ settings.source.hasNul = false ∧
    t.ensureDirectory settings.source = (.ok settings.source, t')
  := by
  obtain ⟨s, hs, hensure, hpackage, -⟩ := Settings.ofFields_ok h
  obtain rfl : q.source = s := by simpa [fields] using hs
  obtain ⟨hsource, -⟩ := FileTree.ensureDirectory_ok hensure
  have hnul := FileTree.hasNul_eq_false_of_ensureDirectory hensure
  rw [← hsource] at hensure hnul
  refine ⟨hsource, ?_, ?_, hnul, hensure⟩
  · have hlookup : q.fields.lookup "package" = some (.text q.package) := rfl
    rw [hpackage] at hlookup
    simpa using hlookup
  · rw [hsource]
    apply Path.isNormal_ofString

/-- When settings are had, a request ends with a listing. -/
theorem run_of_ofFields (h : Settings.ofFields t q.fields = (.ok settings, t'))
    (asked : Option String) :
  ∃ rows, rowsBelow settings.source (q.chosen t' settings) = .ok rows ∧
    (run t asked q.words).ending = .status 0 ∧ (run t asked q.words).tree = t' ∧
    (run t asked q.words).output
      = Report.display ⟨settings.source, ((q.sourceSet settings.source).outcome t').error, rows⟩
  := by
  obtain ⟨hsource, -, -, hnul, -⟩ := settings_of_ofFields h
  obtain ⟨report, rows, hreport, hrows, hvalue⟩ := @exists_report_eq t' q settings hnul
  use rows, hrows
  rw [hsource] at hnul
  rw [q.run_words hnul, Deed.ending_shown, Deed.tree_shown, Deed.output_shown, perform, h, ← hvalue]
  simp only [hreport]
  exact ⟨trivial, trivial, trivial⟩

/-- A listing ends with the number of its rows, in a row of its own if it has at most 72
digits. -/
theorem Report.exists_display_eq (r : Report) :
  ∃ before, r.display = before ++ message ("(" ++ toString r.rows.length ++ " files)") ∧
    ((toString r.rows.length).length ≤ 72 →
      r.display = before ++ ["(" ++ toString r.rows.length ++ " files)"])
  := by
  refine ⟨_, rfl, ?_⟩
  intro hcount
  rw [Report.display, message_count hcount]

/-- With settings the request ends well, whatever becomes of the scan.  What it lists is in the
order of code points, as many rows as it says, and leads from the source to exactly the files
of the view that is asked for, on the tree that the settings leave; the source can be taken off
the front of every file that is found, which the walk reaches by a directory as it spells it.
When the scan fails or the source was made for it, there are no rows. -/
theorem run_listing (t t' : FileTree) (asked : Option String) (q : Locate) (settings : Settings)
    (h : Settings.ofFields t q.fields = (.ok settings, t')) :
  ∃ r files rows before,
    (⟨settings.source, q.config⟩ : SourceSet).scan t' = .ok r ∧
    (if q.allSources then
        (⟨settings.source, q.config⟩ : SourceSet).sourceFiles t' (some settings.package) none
      else (⟨settings.source, q.config⟩ : SourceSet).resourceFiles t' (some settings.package) none)
      = .ok files ∧
    (run t asked q.words).ending = .status 0 ∧ (run t asked q.words).tree = t' ∧
    (run t asked q.words).output = Report.display ⟨settings.source, r.error, rows⟩ ∧
    (run t asked q.words).output
      = before ++ message ("(" ++ toString rows.length ++ " files)") ∧
    ((toString rows.length).length ≤ 72 → (run t asked q.words).output
      = before ++ ["(" ++ toString rows.length ++ " files)"]) ∧
    rows.Pairwise (· < ·) ∧ rows.length = files.value.size ∧
    (∀ p, p ∈ files.value ↔ ∃ row ∈ rows, settings.source.join (.ofString row) = p) ∧
    (∀ p ∈ r.files,
      (∃ names name, p = (Path.ofString (walkSpelling settings.source names)).child name) ∧
        ∃ rest, p.relativeTo? settings.source = some rest) ∧
    (r.error.isSome → rows = []) ∧
    (t.IsClosed → ¬ t.Finds settings.source → rows = [])
  := by
  obtain ⟨-, -, hnormal, hnul, hensure⟩ := settings_of_ofFields h
  obtain ⟨rows, hrows, hending, htree, houtput⟩ := run_of_ofFields h asked
  obtain ⟨files, hview, hvalue⟩ := @exists_view_eq t' q settings hnul _ (.inl rfl)
  rw [← hvalue] at hrows
  have hscanned : ∀ p ∈ ((q.sourceSet settings.source).outcome t').files,
      p.IsFoundBelow settings.source := fun _ => SourceSet.isFoundBelow_of_mem_outcome
  have hfound : ∀ p ∈ files.value, p.IsFoundBelow settings.source := by
    intro p hp
    rw [hvalue] at hp
    apply isFoundBelow_of_mem_chosen hp
  have hnone : ((q.sourceSet settings.source).outcome t').files = .empty → rows = [] := by
    intro hempty
    apply List.eq_nil_iff_forall_not_mem.mpr
    intro row hrow
    obtain ⟨p, hp, -⟩ := (mem_rows_iff hrows).mp hrow
    rw [hvalue] at hp
    obtain ⟨hp, -⟩ := mem_chosen_iff.mp hp
    rw [hempty] at hp
    apply FileSet.not_mem_empty p hp
  obtain ⟨before, hdisplay, hcount⟩ := Report.exists_display_eq
    ⟨settings.source, ((q.sourceSet settings.source).outcome t').error, rows⟩
  refine ⟨_, files, rows, before, SourceSet.scan_eq_outcome hnul, ?_, hending, htree, houtput,
    houtput.trans hdisplay, fun h => houtput.trans (hcount h), pairwise_rows hnormal hfound hrows,
    length_rows hnormal hfound hrows, fun p => mem_iff_exists_row hnormal hfound hrows, ?_, ?_, ?_⟩
  · rw [← hview, view]
    cases q.allSources <;> rfl
  · intro p hp
    exact ⟨(hscanned p hp).eq_child hnormal, (hscanned p hp).exists_relativeTo?_eq⟩
  · intro herror
    apply hnone (FileTree.files_scanFrom_of_error herror)
  · intro ht hmissing
    apply hnone (outcome_of_missing ht hmissing hensure _ rfl)

/-- A request for the sources of the tree that declare a package. -/
theorem settings_declaredTree :
  Settings.ofFields SourceSet.declaredTree (fields ⟨".", "A.b", true, false, false⟩)
    = (.ok ⟨.ofString ".", "A.b"⟩, SourceSet.declaredTree)
  := by
  have hensure : SourceSet.declaredTree.ensureDirectory (.ofString ".")
      = (.ok (.ofString "."), SourceSet.declaredTree) := rfl
  exact ofFields_eq_ok (q := ⟨".", "A.b", true, false, false⟩) hensure (by decide)

/-- It chooses two of them, in the order in which they are found. -/
theorem paths_chosen_declaredTree :
  (chosen ⟨".", "A.b", true, false, false⟩ SourceSet.declaredTree ⟨.ofString ".", "A.b"⟩).paths
    = ["R$id.java", "A.java"].map .ofString
  := by
  have hchosen : chosen ⟨".", "A.b", true, false, false⟩ SourceSet.declaredTree
        ⟨.ofString ".", "A.b"⟩
      = SourceSet.declaredSet.declaring SourceSet.declaredTree "A.b"
          (SourceSet.declaredSet.outcome SourceSet.declaredTree).files := rfl
  rw [hchosen, SourceSet.files_outcome_declaredTree]
  decide +kernel

/-- In a directory that is made for it a request finds nothing.  Of the three sources of another
tree it lists the two that declare the package, in order. -/
theorem run_listing_grownTree_declaredTree :
  (Settings.ofFields Settings.emptyTree (fields ⟨"new", "p", true, false, true⟩)
      = (.ok ⟨.ofString "new", "p"⟩, Settings.grownTree) ∧
    Settings.emptyTree.IsClosed ∧ ¬ Settings.emptyTree.Finds (.ofString "new") ∧
    (run Settings.emptyTree none (words ⟨"new", "p", true, false, true⟩)).ending = .status 0 ∧
    (run Settings.emptyTree none (words ⟨"new", "p", true, false, true⟩)).output.getLast?
      = some "(0 files)") ∧
  Settings.ofFields SourceSet.declaredTree (fields ⟨".", "A.b", true, false, false⟩)
      = (.ok ⟨.ofString ".", "A.b"⟩, SourceSet.declaredTree) ∧
    (run SourceSet.declaredTree none (words ⟨".", "A.b", true, false, false⟩)).output.getLast?
      = some "(2 files)" ∧
    ∃ rows : List String, rows.length = 2 ∧ rows.Pairwise (· < ·) ∧
      (run SourceSet.declaredTree none (words ⟨".", "A.b", true, false, false⟩)).output
        = Report.display ⟨.ofString ".", none, rows⟩ ∧
      ∀ p, (∃ row ∈ rows, (Path.ofString ".").join (.ofString row) = p) ↔
        p = .ofString "R$id.java" ∨ p = .ofString "A.java"
  := by
  have hsettings : Settings.ofFields Settings.emptyTree (fields ⟨"new", "p", true, false, true⟩)
      = (.ok ⟨.ofString "new", "p"⟩, Settings.grownTree) := rfl
  have ht : Settings.emptyTree.IsClosed := by decide
  have hmissing : ¬ Settings.emptyTree.Finds (.ofString "new") := by
    apply FileTree.not_finds_of_stat (c := .notFound)
    decide
  constructor
  · obtain ⟨r, files, rows, before, -, -, hending, -, -, -, hcount, -, -, -, -, -, hnone⟩ :=
      run_listing Settings.emptyTree Settings.grownTree none ⟨"new", "p", true, false, true⟩
        ⟨.ofString "new", "p"⟩ hsettings
    obtain rfl := hnone ht hmissing
    refine ⟨hsettings, ht, hmissing, hending, ?_⟩
    rw [hcount (by decide), List.getLast?_concat]
    rfl
  · obtain ⟨r, files, rows, before, hscan, hview, -, -, houtput, -, hcount, hsorted, hlength, hlead,
        -, -, -⟩ :=
      run_listing _ _ none _ _ settings_declaredTree
    have hfiles : files.value.paths = ["R$id.java", "A.java"].map .ofString := by
      obtain ⟨files', hview', hvalue⟩ := @exists_view_eq SourceSet.declaredTree
        ⟨".", "A.b", true, false, false⟩ ⟨.ofString ".", "A.b"⟩ (by decide) _ (.inl rfl)
      obtain rfl := Except.ok.inj (hview.symm.trans hview')
      rw [hvalue, paths_chosen_declaredTree]
    have herror : r.error = none := by
      have hr := hscan.symm.trans (SourceSet.scan_eq_outcome (by decide))
      rw [Except.ok.inj hr]
      exact congrArg ScanResult.error SourceSet.outcome_declaredTree
    rw [FileSet.size, hfiles] at hlength
    refine ⟨settings_declaredTree, ?_, rows, hlength, hsorted, ?_, ?_⟩
    · rw [hcount (by rw [hlength]; decide), List.getLast?_concat, hlength]
      rfl
    · rw [houtput, herror]
    · intro p
      have hmem : p ∈ files.value ↔ p ∈ files.value.paths := Iff.rfl
      rw [← hlead p, hmem, hfiles]
      exact List.mem_pair

/-! ### Listing and testing -/

/-- A request lists a file when a row of its report leads there from the source. -/
def Lists (q : Locate) (t : FileTree) (p : Path) : Prop :=
  ∃ settings t' report, Settings.ofFields t q.fields = (.ok settings, t') ∧
    q.report t' settings = .ok report ∧
    ∃ row ∈ report.value.rows, settings.source.join (.ofString row) = p

/-- What is listed are the files that are chosen. -/
theorem lists_iff (h : Settings.ofFields t q.fields = (.ok settings, t')) {p : Path} :
  q.Lists t p ↔ p ∈ q.chosen t' settings
  := by
  obtain ⟨-, -, hnormal, hnul, -⟩ := settings_of_ofFields h
  obtain ⟨report, rows, hreport, hrows, hvalue⟩ := @exists_report_eq t' q settings hnul
  rw [mem_iff_exists_row hnormal (fun p hp => isFoundBelow_of_mem_chosen hp) hrows]
  constructor
  · rintro ⟨settings', t'', report', h', hreport', hlead⟩
    rw [h] at h'
    cases h'
    rw [hreport] at hreport'
    cases hreport'
    rw [hvalue] at hlead
    exact hlead
  · intro hlead
    refine ⟨settings, t', report, h, hreport, ?_⟩
    rw [hvalue]
    exact hlead

end Locate

/-- Testing a file ends with the answer. -/
theorem Check.run_ending (q : Check) (hnul : (Path.ofString q.file).hasNul = false)
    (t : FileTree) (asked : Option String) :
  (run t asked q.words).ending
    = .status (if (q.config.membership t (.ofString q.file) q.package).member then 0 else 1)
  := by
  have hreport : q.report t = .ok (q.config.membership t (.ofString q.file) q.package) := by
    rw [report, Config.check, hnul]
    rfl
  rw [q.run_words hnul, Deed.ending_shown, perform, hreport]

/-- A file that was found is listed among all source files exactly if testing it ends with
yes, and otherwise testing it ends with no; and it is listed among the resource-mapping files
exactly if its name is one of theirs as well. -/
theorem run_check_iff_lists (t t' : FileTree) (asked : Option String) (q : Locate)
    (settings : Settings) (r : ScanResult) (f : Path)
    (h : Settings.ofFields t q.fields = (.ok settings, t'))
    (hscan : (q.sourceSet settings.source).scan t' = .ok r) (hf : f ∈ r.files) :
  (((run t' asked (Check.words ⟨f.render, q.package, q.exact⟩)).ending = .status 0 ∧
        Locate.Lists { q with allSources := true } t f) ∨
      ((run t' asked (Check.words ⟨f.render, q.package, q.exact⟩)).ending = .status 1 ∧
        ¬ Locate.Lists { q with allSources := true } t f)) ∧
    (Locate.Lists { q with allSources := false } t f ↔
      (run t' asked (Check.words ⟨f.render, q.package, q.exact⟩)).ending = .status 0 ∧
        NamePattern.resource.matchesName f)
  := by
  obtain ⟨-, hpackage, hnormal, hnul, -⟩ := Locate.settings_of_ofFields h
  have hr : r = (q.sourceSet settings.source).outcome t' := by
    rw [SourceSet.scan_eq_outcome hnul] at hscan
    exact (Except.ok.inj hscan).symm
  rw [hr] at hf
  have hread : Path.ofString f.render = f :=
    Path.ofString_render ((SourceSet.isFoundBelow_of_mem_outcome hf).isNormal hnormal)
  have hopen := (SourceSet.canOpen_of_mem_outcome hf).1
  have hlists : ∀ all, Locate.Lists { q with allSources := all } t f ↔
      (all = false → NamePattern.resource.matchesName f) ∧
        (q.config.membership t' f q.package).member := by
    intro all
    rw [Locate.lists_iff (q := { q with allSources := all }) h, Locate.mem_chosen_iff, hpackage,
      Config.membership_member_iff]
    apply and_iff_right hf
  have hcheck := Check.run_ending ⟨f.render, q.package, q.exact⟩ (by rw [hread]; exact hopen) t'
    asked
  have hsame : (Check.config ⟨f.render, q.package, q.exact⟩).membership t' f q.package
      = q.config.membership t' f q.package := rfl
  rw [hread, hsame] at hcheck
  rw [hcheck, hlists, hlists]
  cases (q.config.membership t' f q.package).member with
  | true => simp
  | false => simp

/-- The resource-mapping file of the tree is listed, and the test of it ends with yes. -/
theorem run_check_iff_lists_declaredTree :
  Settings.ofFields SourceSet.declaredTree (Locate.fields ⟨".", "A.b", true, false, false⟩)
      = (.ok ⟨.ofString ".", "A.b"⟩, SourceSet.declaredTree) ∧
    (run SourceSet.declaredTree none (Check.words ⟨"R$id.java", "A.b", false⟩)).ending
      = .status 0 ∧
    Locate.Lists ⟨".", "A.b", false, false, false⟩ SourceSet.declaredTree (.ofString "R$id.java")
  := by
  have hscan : SourceSet.declaredSet.scan SourceSet.declaredTree
      = .ok (SourceSet.declaredSet.outcome SourceSet.declaredTree) :=
    SourceSet.scan_eq_outcome (by decide)
  have hfound : .ofString "R$id.java"
      ∈ (SourceSet.declaredSet.outcome SourceSet.declaredTree).files := by
    rw [SourceSet.files_outcome_declaredTree, FileSet.mem_ofList]
    decide
  have hname : NamePattern.resource.matchesName (.ofString "R$id.java") := by
    decide +kernel
  have hmember : ((Check.config ⟨"R$id.java", "A.b", false⟩).membership SourceSet.declaredTree
      (.ofString "R$id.java") "A.b").member := by
    decide +kernel
  have hcheck : (run SourceSet.declaredTree none (Check.words ⟨"R$id.java", "A.b", false⟩)).ending
      = .status 0 := by
    rw [Check.run_ending _ (by decide), if_pos hmember]
  have hrender : (Path.ofString "R$id.java").render = "R$id.java" := by decide
  obtain ⟨-, hresource⟩ := run_check_iff_lists _ _ none _ _ _ _ Locate.settings_declaredTree
    hscan hfound
  rw [hrender] at hresource
  exact ⟨Locate.settings_declaredTree, hcheck, hresource.mpr ⟨hcheck, hname⟩⟩

end SourceLocator.Command
