import SourceLocator.Proofs.EarlierScans
import SourceLocator.Proofs.NameEnds
import SourceLocator.Proofs.NameLanguage

/-!
# The names of resource-mapping files

The pattern of resource-mapping files has a grammar of its own: the letter R, a category of small
letters behind a dollar sign or none, and the extension of sources, the case of letters counting
only in the category (`NamePattern.accepts_resource_iff`).  What it accepts has the extension, so
that a scan has found every file that it accepts, though the scan compares lower case of all letters
and the pattern only of those of ASCII (`SourceSet.mem_resourceFiles_default`).
-/

namespace SourceLocator

open Text NamePattern

/-! ### The grammar -/

/-- A category is a word of small letters. -/
def IsCategory (letters : List Char) : Prop :=
  letters ≠ [] ∧ ∀ c ∈ letters, 'a' ≤ c ∧ c ≤ 'z'

/-- A name is that of a resource-mapping file. -/
def IsResourceName (name : List Char) : Prop :=
  ∃ letter category ending, name = letter :: category ++ ending ∧
    (letter = 'R' ∨ letter = 'r') ∧
    (category = [] ∨ ∃ letters, category = '$' :: letters ∧ IsCategory letters) ∧
    IsCopy defaultExtension.toList ending

namespace NamePattern

/-- At most one copy of what takes a language takes the empty word besides. -/
theorem Takes.optional {R : Array Char → Nat → Nat → Prop} {L : Language Char} (h : Takes R L) :
  Takes (fun text i j => ∃ n, 0 ≤ n ∧ (∀ bound ∈ some 1, n ≤ bound) ∧ Copies (R text) n i j)
    (1 + L)
  := by
  intro before rest j
  constructor
  · rintro ⟨n, -, hn, hcopies⟩
    obtain ⟨w, hw, hrest⟩ := (h.copies n before rest j).mp hcopies
    refine ⟨w, ?_, hrest⟩
    rw [Language.mem_add]
    obtain rfl | rfl := Nat.le_one_iff_eq_zero_or_eq_one.mp (hn 1 rfl)
    · exact .inl hw
    · exact .inr (by rwa [pow_one] at hw)
  · rintro ⟨w, hw, hrest⟩
    obtain hw | hw := (Language.mem_add _ _ _).mp hw
    · refine ⟨0, Nat.le_refl _, by simp, ?_⟩
      apply (h.copies 0 before rest j).mpr ⟨w, hw, hrest⟩
    · refine ⟨1, Nat.zero_le _, by simp, ?_⟩
      apply (h.copies 1 before rest j).mpr ⟨w, by rwa [pow_one], hrest⟩

/-- Where the case of letters counts, the class of small letters has these alone. -/
theorem takes_smallClass {m : Mode} (hm : m.ignoreCase = false) :
  Takes (fun text => (Expr.oneOf false [.range 'a'.toNat 'z'.toNat]).Spans text m)
    (single fun c => 'a' ≤ c ∧ c ≤ 'z')
  := by
  have hsmall : ∀ c, ((∃ item ∈ [ClassItem.range 'a'.toNat 'z'.toNat], item.Has m c) ↔
      ¬ false = true) ↔ 'a' ≤ c ∧ c ≤ 'z' := by
    intro c
    rw [← classHolds_iff]
    simp [classHolds, ClassItem.holds, Mode.inRange, Mode.inRange.within, hm, Char.le_def,
      UInt32.le_iff_toNat_le]
  rw [← single_congr hsmall]
  apply takes_one

/-- The words of the pattern of resource-mapping files. -/
theorem language_resource :
  resource.expr.language resource.mode
    = copiesOf resource.mode ['R']
      * (1 + copiesOf resource.mode ['$'] * runs (fun c => 'a' ≤ c ∧ c ≤ 'z') 1)
      * copiesOf resource.mode defaultExtension.toList
  := by
  apply language_eq_of_takes
  apply Takes.ofSequence_append _ (takes_points defaultExtension.toList)
  apply (takes_points ['R']).seq
  apply Takes.optional
  apply (takes_points ['$']).seq
  apply (takes_smallClass rfl).iterate 1

theorem isCopy_letter_iff {text : List Char} :
  IsCopy ['R'] text ↔ ∃ letter, (letter = 'R' ∨ letter = 'r') ∧ text = [letter]
  := by
  have hletter : ∀ d, SameUpToCase 'R' d ↔ d = 'R' ∨ d = 'r' := by
    intro d
    rw [SameUpToCase, isUpper_iff, isUpper_iff, ← Char.toNat_inj, ← Char.toNat_inj,
      ← Char.toNat_inj]
    simp only [Char.reduceToNat]
    omega
  simp only [isCopy_singleton_iff, hletter]

theorem isCategory_iff {letters : List Char} :
  letters ∈ runs (fun c => 'a' ≤ c ∧ c ≤ 'z') 1 ↔ IsCategory letters
  := by
  rw [IsCategory, ← List.length_pos_iff]
  exact Iff.rfl

/-- The words of the pattern are the names of resource-mapping files. -/
theorem mem_resourceWords_iff {m : Mode} (hm : m.ignoreCase) {name : List Char} :
  name ∈ copiesOf m ['R'] * (1 + copiesOf m ['$'] * runs (fun c => 'a' ≤ c ∧ c ≤ 'z') 1)
      * copiesOf m defaultExtension.toList
    ↔ IsResourceName name
  := by
  have hcopy : ∀ {literal text}, text ∈ copiesOf m literal ↔ IsCopy literal text :=
    mem_copiesOf_iff hm
  have hdollar : ('$').toNat < 65 := by decide
  simp only [Language.mem_mul, Language.mem_add, Language.mem_one, hcopy, isCopy_letter_iff,
    isCopy_singleton_iff_of_lt hdollar, isCategory_iff]
  constructor
  · rintro ⟨_, ⟨_, ⟨letter, hletter, rfl⟩, category, hcategory, rfl⟩, ending, hending, hname⟩
    refine ⟨letter, category, ending, hname.symm, hletter, ?_, hending⟩
    obtain hnone | ⟨_, rfl, letters, hletters, heq⟩ := hcategory
    · exact .inl hnone
    · exact .inr ⟨letters, heq.symm, hletters⟩
  · rintro ⟨letter, category, ending, hname, hletter, hcategory, hending⟩
    refine ⟨_, ⟨_, ⟨letter, hletter, rfl⟩, category, ?_, rfl⟩, ending, hending, hname.symm⟩
    obtain hnone | ⟨letters, rfl, hletters⟩ := hcategory
    · exact .inl hnone
    · exact .inr ⟨_, rfl, letters, hletters, rfl⟩

/-- The pattern of resource-mapping files accepts their names and no others. -/
theorem accepts_resource_iff {name : String} :
  resource.accepts name ↔ IsResourceName name.toList
  := by
  obtain ⟨hcase, hbounded⟩ := isSound_of_ofString ofString_resource
  rw [accepts, Expr.matchesAll_iff rfl hbounded, language_resource]
  apply mem_resourceWords_iff hcase

end NamePattern

/-! ### The extension -/

/-- The lower case of a text of ASCII is found character by character. -/
theorem Text.lowercaseAfter_of_ascii {cs : List Char} (h : ∀ c ∈ cs, c.toNat < 0x80)
    (before : List Char) :
  lowercaseAfter before cs = cs.map Char.toLower
  := by
  induction cs generalizing before with
  | nil => rfl
  | cons c cs ih =>
    obtain ⟨hc, hcs⟩ := List.forall_mem_cons.mp h
    have hsigma : c.toNat ≠ 0x3A3 := by omega
    rw [lowercaseAfter_cons, ih hcs, lowercaseBetween, if_neg hsigma, lowercaseChar, if_pos hc]
    rfl

/-- A copy of a text of ASCII is one itself. -/
theorem IsCopy.toNat_lt {literal text : List Char} (h : IsCopy literal text)
    (hascii : ∀ c ∈ literal, c.toNat < 0x80) :
  ∀ c ∈ text, c.toNat < 0x80
  := by
  induction h with
  | nil => exact hascii
  | cons hsame _ ih =>
    obtain ⟨hc, hliteral⟩ := List.forall_mem_cons.mp hascii
    refine List.forall_mem_cons.mpr ⟨?_, ih hliteral⟩
    rw [SameUpToCase, isUpper_iff, isUpper_iff, ← Char.toNat_inj] at hsame
    omega

/-- A name that ends with a copy of an extension of ASCII has the extension. -/
theorem FileTree.hasExtension_of_isCopy {name : Name} {extension : String} {stem ending : List Char}
    (hascii : ∀ c ∈ extension.toList, c.toNat < 0x80) (hcopy : IsCopy extension.toList ending)
    (hname : name.val.toList = stem ++ ending) :
  HasExtension name extension
  := by
  obtain ⟨front, hfront⟩ := exists_lowercaseAfter_append [] stem ending
  have hlower : lowercase extension.toList = ending.map Char.toLower := by
    rw [lowercase, lowercaseAfter_of_ascii hascii, isCopy_iff.mp hcopy]
  rw [HasExtension, hname, hlower, lowercase, hfront,
    lowercaseAfter_of_ascii (hcopy.toNat_lt hascii)]
  apply List.suffix_append

/-- The names that the pattern of resource-mapping files accepts all have the extension of
sources. -/
theorem hasExtension_of_accepts {name : Name} (h : NamePattern.resource.accepts name.val) :
  FileTree.HasExtension name defaultExtension
  := by
  obtain ⟨letter, category, ending, hname, -, -, hending⟩ := accepts_resource_iff.mp h
  have hascii : ∀ c ∈ defaultExtension.toList, c.toNat < 0x80 := by simp [defaultExtension]
  apply FileTree.hasExtension_of_isCopy hascii hending hname

/-! ### The files -/

theorem Path.name_descend (p : Path) (names : List Name) (name : Name) :
  (p.descend (names ++ [name])).name = name.val
  := by
  simp [Path.name, Path.descend]

namespace SourceSet

/-- Under the default configuration, if a scan does not fail, the resource-mapping files are the
listed entries that lead to files and are named as such.  The pattern accepts those names and no
others, and the scan has found every listed file whose name it accepts. -/
theorem resourceFiles_default {t : FileTree} {root : Path} {r : ScanResult}
    (h : (SourceSet.mk root .default).scan t = .ok r) (hok : r.isOk) :
  ∃ found, (SourceSet.mk root .default).resourceFiles t none none = .ok found ∧
    (∀ p, p ∈ found.value ↔ ∃ names name, t.Lists root false names name ∧
      p = root.descend (names ++ [name]) ∧ t.LeadsToFile p ∧ IsResourceName name.val.toList) ∧
    (∀ names name, t.Lists root false names name →
      t.LeadsToFile (root.descend (names ++ [name])) →
      Config.default.resourceName.accepts name.val →
      root.descend (names ++ [name]) ∈ r.files) ∧
    ∀ name : String, Config.default.resourceName.accepts name ↔ IsResourceName name.toList
  := by
  obtain ⟨hnul, rfl⟩ := eq_outcome_of_scan h
  obtain ⟨-, found, -, hfound, -, hvalue⟩ := @exists_views_eq _ t hnul none
  have hscanned : ∀ names name, t.Lists root false names name →
      t.LeadsToFile (root.descend (names ++ [name])) →
      Config.default.resourceName.accepts name.val →
      root.descend (names ++ [name]) ∈ ((SourceSet.mk root .default).outcome t).files := by
    intro names name hlists hfile haccepts
    apply (FileTree.mem_files_iff_hasExtension hok hlists hfile).mpr
    apply hasExtension_of_accepts haccepts
  refine ⟨found, hfound, ?_, hscanned, fun name => accepts_resource_iff⟩
  intro p
  rw [hvalue, Option.getD_none, resourceNamed, FileSet.mem_filter]
  constructor
  · rintro ⟨hp, hmatches⟩
    obtain ⟨names, name, hlists, rfl, -, hfile⟩ := (FileTree.mem_files_iff_lists hok).mp hp
    rw [NamePattern.matchesName, Path.name_descend] at hmatches
    exact ⟨names, name, hlists, rfl, hfile, accepts_resource_iff.mp hmatches⟩
  · rintro ⟨names, name, hlists, rfl, hfile, hname⟩
    have haccepts : Config.default.resourceName.accepts name.val := accepts_resource_iff.mpr hname
    refine ⟨hscanned names name hlists hfile haccepts, ?_⟩
    rwa [NamePattern.matchesName, Path.name_descend]

/-- A tree with two files that differ in the case of letters, one of them in the category. -/
def categoryTree : FileTree where
  entries :=
    [([⟨"cases", by decide⟩], .directory),
     ([⟨"r$id.JAVA", by decide⟩, ⟨"cases", by decide⟩], .file []),
     ([⟨"R$Id.java", by decide⟩, ⟨"cases", by decide⟩], .file [])]
  here := [⟨"cases", by decide⟩]

/-- The file with a capital letter in its category is no resource-mapping file. -/
theorem resourceFiles_default_categoryTree :
  ∃ r found, (SourceSet.mk (.ofString ".") .default).scan categoryTree = .ok r ∧ r.isOk ∧
    (SourceSet.mk (.ofString ".") .default).resourceFiles categoryTree none none = .ok found ∧
    .ofString "r$id.JAVA" ∈ found.value ∧ .ofString "R$Id.java" ∈ r.files ∧
    .ofString "R$Id.java" ∉ found.value
  := by
  have hscan := @scan_eq_outcome (SourceSet.mk (.ofString ".") .default) categoryTree (by decide)
  have hok : ((SourceSet.mk (.ofString ".") .default).outcome categoryTree).isOk :=
    FileTree.isOk_scanFrom_of_linksFit (by decide) (by decide) _
  have hlists : categoryTree.Lists (.ofString ".") false [] ⟨"r$id.JAVA", by decide⟩ ∧
      categoryTree.Lists (.ofString ".") false [] ⟨"R$Id.java", by decide⟩ :=
    ⟨⟨_, by decide, _, rfl, .here⟩, ⟨_, by decide, _, rfl, .here⟩⟩
  have hletters : IsCategory ['i', 'd'] :=
    ⟨by simp, List.forall_mem_cons.mpr ⟨by decide, List.forall_mem_singleton.mpr (by decide)⟩⟩
  have hcategory : IsResourceName "r$id.JAVA".toList :=
    ⟨'r', ['$', 'i', 'd'], _, rfl, .inr rfl, .inr ⟨_, rfl, hletters⟩, isCopy_iff.mpr rfl⟩
  obtain ⟨found, hfound, hmem, -, haccepts⟩ := resourceFiles_default hscan hok
  refine ⟨_, found, hscan, hok, hfound, ?_, ?_, ?_⟩
  · apply (hmem _).mpr ⟨_, _, hlists.1, rfl, ⟨[], rfl⟩, hcategory⟩
  · apply (FileTree.mem_files_iff_hasExtension hok hlists.2 ⟨[], rfl⟩).mpr
    decide +kernel
  · intro hp
    obtain ⟨names, name, -, heq, -, hname⟩ := (hmem _).mp hp
    rw [← haccepts, ← Path.name_descend, ← heq] at hname
    revert hname
    decide +kernel

end SourceSet

end SourceLocator
