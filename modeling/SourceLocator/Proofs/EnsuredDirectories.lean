import SourceLocator.Proofs.MadeDirectories
import SourceLocator.Settings

/-!
# Directories to work in

A path leads to a directory once it has been made sure of, to the one that stood there or to
one that was made last and is empty (`ensureDirectory_ok`).  When that fails, directories that
were made on the way stay behind: exactly if one could be made at a beginning of the path, and
never if nothing but names was missing (`ensureDirectory_error`).  Settings leave the tree as
making sure of their source does, whatever becomes of the package (`ofFields_ok`,
`ofFields_error`).
-/

namespace SourceLocator

open Text

/-- A component of a normal path without forbidden characters is a name, unless it leads up or
is too long. -/
theorem Path.IsNormal.isName {p : Path} (hp : p.IsNormal) (hnul : p.hasNul = false)
    {part : String} (hpart : part ∈ p.parts) (hup : part ≠ "..")
    (hsize : part.utf8ByteSize ≤ longestName) :
  isName part
  := by
  obtain ⟨⟨hne, hslash⟩, hdot⟩ := hp part hpart
  have hempty : part ≠ "" := by
    rintro rfl
    apply hne rfl
  have hchars : ∀ c ∈ part.toList, c ≠ '/' ∧ c ≠ '\x00' := by
    intro c hc
    constructor
    · rintro rfl
      apply hslash hc
    · rintro rfl
      have := List.any_eq_false.mp hnul part hpart
      apply this
      apply List.any_eq_true.mpr ⟨_, hc, rfl⟩
  simpa [SourceLocator.isName, hempty, hdot, hup, hsize] using hchars

namespace FileTree

variable {t t' : FileTree} {p : Path}

/-- How a directory is made sure of. -/
inductive Ensures (t : FileTree) (p : Path) : Except DirectoryFailure Path → FileTree → Prop where
  | stands : t.stat p = .ok .directory → Ensures t p (.ok p) t
  | blocked {e} : t.stat p = .ok e → e ≠ .directory → Ensures t p (.error (.notWritable p)) t
  | refused : t.stat p = .error .nameTooLong →
      Ensures t p (.error (.file { cause := .nameTooLong, path := p.render })) t
  | made {c grown} : t.stat p = .error c → c.meansAbsent →
      t.makeDirectories p false = (.ok (), grown) → Ensures t p (.ok p) grown
  | failed {c c' grown} : t.stat p = .error c → c.meansAbsent →
      t.makeDirectories p false = (.error c', grown) →
      Ensures t p (.error (.cannotCreate p)) grown

theorem not_finds_of_stat {c : Cause} (h : t.stat p = .error c) :
  ¬ t.Finds p
  := by
  rintro ⟨e, he⟩
  rw [h] at he
  cases he

theorem ensures (hnul : p.hasNul = false) {outcome : Except DirectoryFailure Path}
    (h : t.ensureDirectory p = (outcome, t')) :
  t.Ensures p outcome t'
  := by
  simp only [ensureDirectory, hnul, Bool.false_eq_true, if_false] at h
  split at h
  · rename_i hstat
    cases h
    exact .stands hstat
  · rename_i e hother hstat
    cases h
    exact .blocked hstat hother
  · rename_i c hstat
    split at h
    · rename_i habsent
      split at h
      · rename_i hmake
        cases h
        exact .made hstat habsent hmake
      · rename_i hmake
        cases h
        exact .failed hstat habsent hmake
    · rename_i habsent
      cases h
      obtain habsent' | rfl := causes_of_stat hstat
      · apply absurd habsent' habsent
      · exact .refused hstat

/-- Only a name that is too long has a path refused by the tree itself. -/
theorem Ensures.outcomes {outcome : Except DirectoryFailure Path} (h : t.Ensures p outcome t') :
  (t.stat p = .error .nameTooLong ∧ t' = t ∧
      outcome = .error (.file { cause := .nameTooLong, path := p.render })) ∨
    (t.stat p ≠ .error .nameTooLong ∧
      (outcome = .ok p ∨ outcome = .error (.notWritable p) ∨ outcome = .error (.cannotCreate p)))
  := by
  cases h with
  | stands hstat => simp [hstat]
  | blocked hstat _ => simp [hstat]
  | refused hstat => exact .inl ⟨hstat, rfl, rfl⟩
  | made hstat habsent _ =>
    refine .inr ⟨?_, .inl rfl⟩
    rintro hlong
    rw [hstat] at hlong
    cases hlong
    cases habsent
  | failed hstat habsent _ =>
    refine .inr ⟨?_, .inr (.inr rfl)⟩
    rintro hlong
    rw [hstat] at hlong
    cases hlong
    cases habsent

/-- A path is not refused for a name that is too long if neither it nor a link holds one. -/
theorem LinksFit.stat_ne (ht : t.LinksFit)
    (hp : ∀ part ∈ p.parts, part.utf8ByteSize ≤ longestName) :
  t.stat p ≠ .error .nameTooLong
  := by
  intro h
  have hfits : ∀ step ∈ p.steps, step.Fits := by
    intro step hstep
    obtain ⟨part, hpart, rfl⟩ := List.mem_map.mp hstep
    rw [Step.ofPart]
    split
    · trivial
    · split
      · trivial
      · apply hp part hpart
  cases hreach : t.reach p with
  | error c =>
    rw [stat, resolve_eq_reach, hreach] at h
    cases h
    cases meansAbsent_of_follow ht hfits hreach
  | ok spot =>
    rw [stat, resolve_eq_reach, hreach] at h
    simp only [Except.map] at h
    split at h <;> cases h

/-! ### What a directory is made from -/

/-- If the first component of a path that is not found is followed by others, none of them
leads up and none is too long. -/
def PlainBeyond (t : FileTree) (p : Path) : Prop :=
  ∀ n, t.Finds (p.front n) → ¬ t.Finds (p.front (n + 1)) →
    ∀ m (hm : m < p.parts.length), n < m →
      p.parts[m] ≠ ".." ∧ p.parts[m].utf8ByteSize ≤ longestName

/-- In a tree without gaps a path that is not found has a first component that is not. -/
theorem IsClosed.exists_missing (ht : t.IsClosed) (h : ¬ t.Finds p) :
  ∃ n, n < p.parts.length ∧ t.Finds (p.front n) ∧ ¬ t.Finds (p.front (n + 1))
  := by
  have hstart : t.Finds (p.front 0) := by
    apply finds_of_isDirectory
    apply isDirectory_iff.mpr ⟨t.origin p, rfl, _⟩
    unfold origin
    split
    · apply isDirectoryAt_iff.mp ht.here
    · rfl
    · rfl
  by_contra hno
  have hall : ∀ n, n ≤ p.parts.length → t.Finds (p.front n) := by
    intro n hn
    induction n with
    | zero => exact hstart
    | succ n ih =>
      by_contra hmissing
      apply hno ⟨n, hn, ih (Nat.le_of_lt hn), hmissing⟩
  apply h
  rw [← p.front_length]
  apply hall _ (Nat.le_refl _)

/-- A path that was made sure of holds no forbidden character. -/
theorem hasNul_eq_false_of_ensureDirectory {q : Path}
    (h : t.ensureDirectory p = (.ok q, t')) :
  p.hasNul = false
  := by
  unfold ensureDirectory at h
  split at h
  · cases h
  · rename_i hnul
    simpa using hnul

/-- A directory that stands is made sure of without a change. -/
theorem ensureDirectory_of_isDirectory {p : Path} (h : t.isDirectory p) :
  t.ensureDirectory p = (.ok p, t)
  := by
  have hstat := stat_of_isDirectory h
  simp [ensureDirectory, hasNul_eq_false_of_stat hstat, hstat]

/-- A path that is made sure of leads to a directory, which stood before or was made. -/
theorem ensureDirectory_ok {q : Path} (h : t.ensureDirectory p = (.ok q, t')) :
  q = p ∧ ((t.isDirectory p ∧ t' = t) ∨
    (¬ t.Finds p ∧ ∃ made, t.Gains p made t' ∧ t.Reaches p false made t'))
  := by
  cases ensures (hasNul_eq_false_of_ensureDirectory h) h with
  | stands hstat =>
    use rfl
    left
    simp [isDirectory, hstat]
  | made hstat _ hmake =>
    obtain ⟨made, hgains, hreaches⟩ := (makes_of_makeParents hmake).exists_gains
    rw [p.front_length] at hreaches
    exact ⟨rfl, .inr ⟨not_finds_of_stat hstat, made, hgains, hreaches rfl⟩⟩

/-- A path at a beginning of which a directory can be made leads nowhere. -/
theorem stat_of_makeDirectory {n : Nat} (hmake : t.makeDirectory (p.front (n + 1)) = .ok t')
    (hn : n < p.parts.length) :
  t.stat p = .error .notFound
  := by
  have hreach := reach_front_of_makeDirectory hmake hn (Nat.le_refl _)
  rw [p.front_length] at hreach
  rw [stat, resolve_eq_reach, hreach]
  rfl

/-- A directory can be made at a beginning of a path that goes on. -/
def MakesWayTo (t : FileTree) (p : Path) : Prop :=
  ∃ n, n + 1 < p.parts.length ∧ ∃ t', t.makeDirectory (p.front (n + 1)) = .ok t'

theorem MakesWayTo.stat (h : t.MakesWayTo p) :
  t.stat p = .error .notFound
  := by
  obtain ⟨n, hn, t', hmake⟩ := h
  apply stat_of_makeDirectory hmake (Nat.lt_of_succ_lt hn)

/-- What a failure to make sure of a directory leaves: the tree has at most gained
directories.  It is another one exactly if a directory could be made on the way, so never if
something was found at the path, and in a tree without gaps never if nothing but names was to
be made beyond what was found. -/
structure AfterFailure (t : FileTree) (p : Path) (t' : FileTree) : Prop where
  gains : ∃ made, t.Gains p made t'
  changed : t' ≠ t ↔ p.hasNul = false ∧ t.MakesWayTo p
  found : t.Finds p → t' = t
  plain : t.IsClosed → p.IsNormal → t.PlainBeyond p → t' = t

/-- A failure leaves the tree as it is when it comes before anything is made. -/
theorem AfterFailure.same (h : p.hasNul = false → t.stat p ≠ .error .notFound) :
  t.AfterFailure p t
  where
  gains := ⟨[], .nil t p⟩
  changed := by
    simp only [ne_eq, not_true_eq_false, false_iff, not_and]
    intro hnul hway
    apply h hnul hway.stat
  found _ := rfl
  plain _ _ _ := rfl

theorem AfterFailure.of_makeDirectories (hnul : p.hasNul = false) (hmissing : ¬ t.Finds p)
    {c : Cause} (hmake : t.makeDirectories p false = (.error c, t')) :
  t.AfterFailure p t'
  := by
  have hmakes := makes_of_makeParents hmake
  obtain ⟨made, hgains, -⟩ := hmakes.exists_gains
  constructor
  · use made
  · constructor
    · intro hne
      obtain heq | ⟨n, t₁, hn, hfirst, hlast⟩ := hmakes.eq_or_exists
      · apply absurd heq hne
      · refine ⟨hnul, n, Nat.lt_of_le_of_ne hn ?_, t₁, hfirst⟩
        intro heq
        cases hlast heq
    · rintro ⟨-, n, hn, t₁, hfirst⟩
      apply ne_of_keeps hfirst
      apply hmakes.keeps hfirst (Nat.le_of_lt hn) (Nat.le_refl _)
  · intro hfinds
    apply absurd hfinds hmissing
  · intro ht hp hplain
    obtain ⟨n, hn, hfound, hbeyond⟩ := ht.exists_missing hmissing
    have hnames : ∀ m (hm : m < p.parts.length), n < m → isName p.parts[m] := by
      intro m hm hnm
      obtain ⟨hup, hsize⟩ := hplain n hfound hbeyond m hm hnm
      apply hp.isName hnul (List.getElem_mem hm) hup hsize
    obtain ⟨-, heq⟩ | ⟨hok, -⟩ := hmakes.all_or_none ht hp hfound hbeyond hnames hn
      (Nat.le_refl _)
    · exact heq
    · cases hok

/-- A path that cannot be made sure of leads to no directory before. -/
theorem ensureDirectory_error {failure : DirectoryFailure}
    (h : t.ensureDirectory p = (.error failure, t')) :
  ¬ t.isDirectory p ∧ t.AfterFailure p t'
  := by
  cases hnul : p.hasNul with
  | true =>
    simp only [ensureDirectory, hnul, if_true] at h
    cases h
    refine ⟨?_, .same (by simp [hnul])⟩
    intro hdir
    obtain ⟨e, he⟩ := finds_of_isDirectory hdir
    rw [hasNul_eq_false_of_stat he] at hnul
    cases hnul
  | false =>
    cases ensures hnul h with
    | @blocked e hstat hother =>
      refine ⟨?_, .same (by simp [hstat])⟩
      cases e <;> simp_all [isDirectory]
    | refused hstat => exact ⟨by simp [isDirectory, hstat], .same (by simp [hstat])⟩
    | failed hstat _ hmake =>
      have hmissing := not_finds_of_stat hstat
      exact ⟨mt finds_of_isDirectory hmissing, .of_makeDirectories hnul hmissing hmake⟩

end FileTree

/-! ### Settings -/

namespace Settings

variable {t t' : FileTree} {fields : Fields}

/-- Only a text is made sure of as a source. -/
theorem readSource_cases (t : FileTree) (value : Option FieldValue) :
  (∃ s, value = some (.text s) ∧ (readSource t value).2 = (t.ensureDirectory (.ofString s)).2 ∧
      ∀ p, (readSource t value).1 = .ok (.ok p) ↔ (t.ensureDirectory (.ofString s)).1 = .ok p) ∨
    ((∀ s, value ≠ some (.text s)) ∧ (readSource t value).2 = t ∧
      ∀ p, (readSource t value).1 ≠ .ok (.ok p))
  := by
  rcases value with _ | value
  · exact .inr ⟨by simp, rfl, by simp [readSource]⟩
  · cases value with
    | text s =>
      left
      use s, rfl
      rw [readSource]
      split <;> rename_i hensure <;> simp [hensure]
    | _ => exact .inr ⟨by simp, rfl, by simp [readSource]⟩

/-- A package is read when it is a text that is not blank. -/
theorem readPackage_eq_ok_iff {value : Option FieldValue} {package : String} :
  readPackage value = .ok package ↔
    value = some (.text package) ∧ isAllBlank package.toList = false
  := by
  rcases value with _ | value
  · simp [readPackage]
  · cases value with
    | text s =>
      simp only [readPackage, FieldValue.asText, Except.bind, Option.some.injEq,
        FieldValue.text.injEq]
      split
      · rename_i hblank
        simp only [reduceCtorEq, false_iff, not_and, Bool.not_eq_false]
        rintro rfl
        exact hblank
      · rename_i hblank
        simp only [Except.ok.injEq]
        constructor
        · rintro rfl
          exact ⟨rfl, by simpa using hblank⟩
        · rintro ⟨rfl, -⟩
          rfl
    | _ => simp [readPackage, FieldValue.asText, Except.bind]

/-- Settings are had from a source that is made sure of and a package that is not blank. -/
theorem ofFields_ok {settings : Settings} (h : ofFields t fields = (.ok settings, t')) :
  ∃ s, fields.lookup "source" = some (.text s) ∧
    t.ensureDirectory (.ofString s) = (.ok settings.source, t') ∧
    fields.lookup "package" = some (.text settings.package) ∧
    isAllBlank settings.package.toList = false
  := by
  rw [ofFields] at h
  split at h
  · cases h
  · rename_i hsource
    split at h
    · rename_i source package hpackage
      cases h
      obtain ⟨s, hs, htree, hok⟩ | ⟨-, -, hno⟩ := readSource_cases t (fields.lookup "source")
      · rw [hsource] at htree hok
        refine ⟨s, hs, ?_, readPackage_eq_ok_iff.mp hpackage⟩
        apply Prod.ext ((hok source).mp rfl) htree.symm
      · apply absurd _ (hno source)
        rw [hsource]
    · cases h

/-- Settings that cannot be had leave the tree as it is if the source is no text, and else as
making sure of it does; when that goes well it is the package that is missing or refused. -/
theorem ofFields_error {failure : SettingsFailure}
    (h : ofFields t fields = (.error failure, t')) :
  ((∀ s, fields.lookup "source" ≠ some (.text s)) ∧ t' = t) ∨
    ∃ s outcome, fields.lookup "source" = some (.text s) ∧
      t.ensureDirectory (.ofString s) = (outcome, t') ∧
      ∀ p, outcome = .ok p → ∀ package, fields.lookup "package" = some (.text package) →
        isAllBlank package.toList
  := by
  have htree : (readSource t (fields.lookup "source")).2 = t' := by
    rw [ofFields] at h
    split at h
    · rename_i hsource
      cases h
      rw [hsource]
    · rename_i hsource
      split at h
      · cases h
      · cases h
        rw [hsource]
  obtain ⟨s, hs, hsame, hok⟩ | ⟨hno, hsame, -⟩ := readSource_cases t (fields.lookup "source")
  · rw [htree] at hsame
    refine .inr ⟨s, (t.ensureDirectory (.ofString s)).1, hs, ?_, ?_⟩
    · rw [hsame]
    · intro p hp package hpackage
      by_contra hblank
      have hread : readPackage (fields.lookup "package") = .ok package := by
        apply readPackage_eq_ok_iff.mpr ⟨hpackage, by simpa using hblank⟩
      have hsource : readSource t (fields.lookup "source") = (.ok (.ok p), t') := by
        apply Prod.ext ((hok p).mpr hp) htree
      rw [ofFields, hsource] at h
      simp only [hread] at h
      cases h
  · rw [htree] at hsame
    exact .inl ⟨hno, hsame⟩

/-- What is complained of in a text for a package. -/
def packageDetails (package : String) : List Detail :=
  if isAllBlank package.toList then
    [⟨"package", .refused "Package name must not be blank"⟩]
  else []

/-- The settings that come of a source that was to be made sure of and of a text for the
package; each is looked at whatever the other one is. -/
def verdict (source : Except DirectoryFailure Path) (package : String) :
    Except SettingsFailure Settings :=
  match source with
  | .error (.file e) => .error (.file e)
  | .error failure =>
    .error (.invalid (⟨"source", .refused failure.message⟩ :: packageDetails package))
  | .ok p =>
    if isAllBlank package.toList then .error (.invalid (packageDetails package))
    else .ok ⟨p, package⟩

theorem ofFields_of_texts {s package : String}
    (hsource : fields.lookup "source" = some (.text s))
    (hpackage : fields.lookup "package" = some (.text package))
    {outcome : Except DirectoryFailure Path}
    (hensure : t.ensureDirectory (.ofString s) = (outcome, t')) :
  ofFields t fields = (verdict outcome package, t')
  := by
  unfold verdict packageDetails
  cases hblank : isAllBlank package.toList with
  | true =>
    have hread : readPackage (some (.text package))
        = .error (.refused "Package name must not be blank") := by
      simp [readPackage, FieldValue.asText, Except.bind, hblank]
    rcases outcome with failure | p
    · cases failure <;> simp [ofFields, hsource, hpackage, readSource, hensure, hread, detailsOf]
    · simp [ofFields, hsource, hpackage, readSource, hensure, hread, detailsOf]
  | false =>
    have hread : readPackage (some (.text package)) = .ok package :=
      readPackage_eq_ok_iff.mpr ⟨rfl, hblank⟩
    rcases outcome with failure | p
    · cases failure <;> simp [ofFields, hsource, hpackage, readSource, hensure, hread, detailsOf]
    · simp [ofFields, hsource, hpackage, readSource, hensure, hread]

/-- Settings fail before anything is made if the source is no text.  If the source cannot be
made sure of, the tree is what that leaves.  If it can, then it is the package that is missing
or refused, and what was made stays: the tree is the same only if the source was a directory. -/
theorem tree_of_failure (t : FileTree) :
  (∀ p failure t', t.ensureDirectory p = (.error failure, t') →
    ¬ t.isDirectory p ∧ t.AfterFailure p t') ∧
  ∀ fields failure t', ofFields t fields = (.error failure, t') →
    ((∀ s, fields.lookup "source" ≠ some (.text s)) ∧ t' = t) ∨
    ∃ s, fields.lookup "source" = some (.text s) ∧
      ((¬ t.isDirectory (.ofString s) ∧ t.AfterFailure (.ofString s) t') ∨
        ((∀ package, fields.lookup "package" = some (.text package) →
            isAllBlank package.toList) ∧
          (∃ made, t.Gains (.ofString s) made t') ∧ t'.isDirectory (.ofString s) ∧
          (t' = t ↔ t.isDirectory (.ofString s))))
  := by
  refine ⟨fun _ _ _ => FileTree.ensureDirectory_error, ?_⟩
  intro fields failure t' h
  obtain hno | ⟨s, outcome, hs, hensure, hpackage⟩ := ofFields_error h
  · exact .inl hno
  · refine .inr ⟨s, hs, ?_⟩
    cases outcome with
    | error failure => exact .inl (FileTree.ensureDirectory_error hensure)
    | ok q =>
      refine .inr ⟨hpackage q rfl, ?_⟩
      obtain ⟨rfl, ⟨hdir, rfl⟩ | ⟨hmissing, made, hgains, hreaches⟩⟩ :=
        FileTree.ensureDirectory_ok hensure
      · exact ⟨⟨[], .nil _ _⟩, hdir, iff_of_true rfl hdir⟩
      · refine ⟨⟨made, hgains⟩, hreaches.directory, iff_of_false ?_ ?_⟩
        · rintro rfl
          apply hmissing (FileTree.finds_of_isDirectory hreaches.directory)
        · apply mt FileTree.finds_of_isDirectory hmissing

/-- A tree seen from `work`, in which `old` is empty. -/
def emptyTree : FileTree where
  entries :=
    [([⟨"work", by decide⟩], .directory),
     ([⟨"old", by decide⟩, ⟨"work", by decide⟩], .directory)]
  here := [⟨"work", by decide⟩]

/-- The tree with `new` beside `old`. -/
def grownTree : FileTree :=
  emptyTree.withDirectories [[⟨"new", by decide⟩, ⟨"work", by decide⟩]]

/-- On the way to `new/../old`, which cannot be made because `old` is there, `new` is made and
stays; it also stays as the source of settings whose package is blank. -/
theorem grownTree_of_failure :
  grownTree ≠ emptyTree ∧
    emptyTree.ensureDirectory (.ofString "new/../old")
      = (.error (.cannotCreate (.ofString "new/../old")), grownTree) ∧
    ofFields emptyTree [("source", .text "new"), ("package", .text " ")]
      = (.error (.invalid [⟨"package", .refused "Package name must not be blank"⟩]), grownTree)
  := by
  refine ⟨?_, by rfl, by rfl⟩
  intro h
  have := congrArg (fun t => t.entries.length) h
  contradiction

/-- A source that stands is as it was when the package is blank. -/
theorem tree_of_failure_emptyTree :
  (∃ failure, emptyTree.ensureDirectory (.ofString "new/../old") = (.error failure, grownTree)) ∧
    emptyTree.AfterFailure (.ofString "new/../old") grownTree ∧
    ∃ failure t', ofFields emptyTree [("source", .text "old"), ("package", .text " ")]
        = (.error failure, t') ∧ t' = emptyTree
  := by
  obtain ⟨hensure, hfields⟩ := tree_of_failure emptyTree
  have hnew : emptyTree.ensureDirectory (.ofString "new/../old")
      = (.error (.cannotCreate (.ofString "new/../old")), grownTree) := by rfl
  have hblank : ofFields emptyTree [("source", .text "old"), ("package", .text " ")]
      = (.error (.invalid [⟨"package", .refused "Package name must not be blank"⟩]),
        emptyTree) := by rfl
  have hdir : emptyTree.isDirectory (.ofString "old") := by decide
  refine ⟨⟨_, hnew⟩, (hensure _ _ _ hnew).2, _, _, hblank, ?_⟩
  obtain ⟨hno, -⟩ | ⟨s, hs, hcases⟩ := hfields _ _ _ hblank
  · apply absurd rfl (hno "old")
  · obtain rfl : "old" = s := by simpa using hs
    obtain ⟨hnot, -⟩ | ⟨-, -, -, hsame⟩ := hcases
    · apply absurd hdir hnot
    · apply hsame.mpr hdir

end Settings

end SourceLocator
