import SourceLocator.Proofs.Ends
import SourceLocator.Proofs.DeclaringFiles

/-!
# Exact declarations

Under `Closing.exact` nothing but spaces stands around the package of a declaration.  So the
package can be had back from the line, up to the case of its letters, unless it has spaces at
its own ends: what stands between the keyword and the semicolon is trimmed
(`IsDeclaration.trimmed_eq`).  A line therefore declares one package at most, and a file is in
no more packages than it has lines that begin with the keyword
(`Config.declares_unique_of_exact`).
-/

namespace SourceLocator

open Text

/-- A text has no space at either end. -/
def IsTrimmed (text : List Char) : Prop :=
  EndsOutside isAsciiSpace text

/-- Whether a line begins with a copy of a literal. -/
def beginsWith (literal line : List Char) : Bool :=
  (line.take literal.length).map Char.toLower == literal.map Char.toLower

variable {closing : Closing} {keyword package package' line text : List Char}

/-! ### Spaces at the ends of a text -/

/-- No space has a case. -/
theorem isAsciiSpace_toLower (c : Char) :
  isAsciiSpace c.toLower = isAsciiSpace c
  := by
  have hspaces : ∀ d, isAsciiSpace d → d.toNat < 65 := by
    intro d hd
    have hlow : ∀ e ∈ spaces, e.toNat < 65 := by simp [spaces]
    apply hlow d ((isAsciiSpace_iff d).mp hd)
  by_cases hc : 65 ≤ c.toNat ∧ c.toNat ≤ 90
  · have hhigh : c.toLower.toNat = c.toNat + 32 := by
      rw [toNat_toLower, NamePattern.lowerPoint, if_pos hc]
    rw [Bool.eq_iff_iff]
    constructor
    · intro h
      apply absurd (hspaces _ h) (by omega)
    · intro h
      apply absurd (hspaces c h) (by omega)
  · have hsame : c.toLower = c := by
      rw [← Char.toNat_inj, toNat_toLower, NamePattern.lowerPoint, if_neg hc]
    rw [hsame]

theorem isTrimmed_map_toLower :
  IsTrimmed (text.map Char.toLower) ↔ IsTrimmed text
  := by
  simp [IsTrimmed, EndsOutside, List.head?_map, List.getLast?_map, isAsciiSpace_toLower]

theorem IsTrimmed.of_isCopy (h : IsTrimmed package) (hcopy : IsCopy package text) :
  IsTrimmed text
  := by
  rw [← isTrimmed_map_toLower, ← isCopy_iff.mp hcopy]
  apply isTrimmed_map_toLower.mpr h

/-! ### The package of a declaration -/

/-- The package of a declaration is had back from what stands between the keyword and the
semicolon. -/
theorem IsDeclaration.trimmed_eq (h : IsDeclaration .exact keyword package line)
    (hpackage : IsTrimmed package) :
  IsCopy package (trimmed isAsciiSpace (line.dropLast.drop keyword.length))
  := by
  obtain ⟨keyword', gap, package', between, rfl, hkeyword, -, hgap, hcopy, hbetween⟩ := h
  have hmiddle : (keyword' ++ gap ++ package' ++ between ++ [';']).dropLast.drop keyword.length
      = gap ++ (package' ++ between) := by
    rw [List.dropLast_concat, hkeyword.length_eq, List.append_assoc, List.append_assoc,
      List.drop_left]
  rw [hmiddle, trimmed_append]
  · exact hcopy
  · exact fun c hc => (isAsciiSpace_iff c).mpr (hgap c hc)
  · apply hpackage.of_isCopy hcopy
  · exact fun c hc => (isAsciiSpace_iff c).mpr (hbetween c hc)

theorem IsDeclaration.isCopy_of_exact (h : IsDeclaration .exact keyword package line)
    (h' : IsDeclaration .exact keyword package' line) (hpackage : IsTrimmed package)
    (hpackage' : IsTrimmed package') :
  IsCopy package package'
  := by
  have hmiddle := isCopy_iff.mp (h.trimmed_eq hpackage)
  have hmiddle' := isCopy_iff.mp (h'.trimmed_eq hpackage')
  rw [isCopy_iff, hmiddle, hmiddle']

/-- A declaration begins with the keyword. -/
theorem IsDeclaration.beginsWith (h : IsDeclaration closing keyword package line) :
  beginsWith keyword line
  := by
  obtain ⟨keyword', gap, package', between, rfl, hkeyword, -⟩ := h
  rw [SourceLocator.beginsWith, hkeyword.length_eq]
  simp only [List.append_assoc, List.take_left, isCopy_iff.mp hkeyword, BEq.rfl]

namespace Config

variable {config : Config}

theorem isDeclaration_of_declares (hexact : config.isExact) {P : String}
    (h : config.declares P line) :
  IsDeclaration .exact config.keyword.toList P.toList line
  := by
  rw [isExact, beq_iff_eq] at hexact
  rw [← hexact]
  exact (declares_iff _ _ _ _).mp h

/-- Lines that declare packages of which no two are copies are different, and all of them
begin with the keyword. -/
theorem length_le_countP (hexact : config.isExact) {ls : List (List Char)}
    {packages : List String}
    (h : ∀ P ∈ packages, IsTrimmed P.toList ∧ ∃ line ∈ ls, config.declares P line)
    (hapart : packages.Pairwise fun P Q => ¬ IsCopy P.toList Q.toList) :
  packages.length ≤ ls.countP (beginsWith config.keyword.toList)
  := by
  -- a line for every package, which is arbitrary for the texts that are none of them
  have hline : ∀ P : String, ∃ line, P ∈ packages → line ∈ ls ∧ config.declares P line := by
    intro P
    by_cases hP : P ∈ packages
    · obtain ⟨-, line, hline, hdecl⟩ := h P hP
      exact ⟨line, fun _ => ⟨hline, hdecl⟩⟩
    · exact ⟨[], fun hP' => absurd hP' hP⟩
  choose lineOf hlineOf using hline
  have hdecl : ∀ P ∈ packages, IsDeclaration .exact config.keyword.toList P.toList (lineOf P) :=
    fun P hP => isDeclaration_of_declares hexact (hlineOf P hP).2
  have hnodup : (packages.map lineOf).Nodup := by
    rw [List.Nodup, List.pairwise_map]
    apply hapart.imp_of_mem
    intro P Q hP hQ hPQ hsame
    have hQdecl := hdecl Q hQ
    rw [← hsame] at hQdecl
    apply hPQ ((hdecl P hP).isCopy_of_exact hQdecl (h P hP).1 (h Q hQ).1)
  have hsub : packages.map lineOf ⊆ ls.filter (beginsWith config.keyword.toList) := by
    intro line hline
    obtain ⟨P, hP, rfl⟩ := List.mem_map.mp hline
    exact List.mem_filter.mpr ⟨(hlineOf P hP).1, (hdecl P hP).beginsWith⟩
  rw [List.countP_eq_length_filter, ← List.length_map lineOf]
  apply (hnodup.subperm hsub).length_le

/-- When the package has to be met exactly, a line declares at most one package that has no
space at its ends, up to the case of its letters.  So a file that can be read is in no more
such packages than it has lines that begin with the keyword, and no line declares both a
package and a longer one that begins with it. -/
theorem declares_unique_of_exact (hexact : config.isExact) :
  (∀ (line : List Char) (P Q : String), IsTrimmed P.toList → IsTrimmed Q.toList →
      config.declares P line → config.declares Q line → IsCopy P.toList Q.toList) ∧
    (∀ (t : FileTree) (p : Path) (ls : List (List Char)) (packages : List String),
      t.readLines p = .ok ls →
      (∀ P ∈ packages, IsTrimmed P.toList ∧ ∃ m, config.check t p P = .ok m ∧ m.member) →
      packages.Pairwise (fun P Q => ¬ IsCopy P.toList Q.toList) →
      packages.length ≤ ls.countP (beginsWith config.keyword.toList)) ∧
    ∀ (line : List Char) (P Q : String), IsTrimmed P.toList → IsTrimmed Q.toList →
      P.toList <+: Q.toList → P ≠ Q → ¬ (config.declares P line ∧ config.declares Q line)
  := by
  have hunique : ∀ (line : List Char) (P Q : String), IsTrimmed P.toList → IsTrimmed Q.toList →
      config.declares P line → config.declares Q line → IsCopy P.toList Q.toList :=
    fun line P Q hP hQ h h' =>
      (isDeclaration_of_declares hexact h).isCopy_of_exact (isDeclaration_of_declares hexact h')
        hP hQ
  refine ⟨hunique, ?_, ?_⟩
  · intro t p ls packages hls hmember hapart
    apply length_le_countP hexact _ hapart
    intro P hP
    obtain ⟨htrimmed, m, hm, hmember⟩ := hmember P hP
    rw [check] at hm
    split at hm
    · cases hm
    · obtain rfl := Except.ok.inj hm
      rw [membership, hls] at hmember
      exact ⟨htrimmed, List.any_eq_true.mp hmember⟩
  · rintro line P Q hP hQ hlonger hne ⟨h, h'⟩
    have hlength := (hunique line P Q hP hQ h h').length_eq
    apply hne (String.toList_inj.mp (hlonger.eq_of_length hlength))

/-- A tree with a file that is in two packages, one of them without a name. -/
def twiceTree : FileTree where
  entries :=
    [([⟨"exact", by decide⟩], .directory),
     ([⟨"Two.java", by decide⟩, ⟨"exact", by decide⟩],
      .file (Utf8.encode "import a;\nPACKAGE\t;\r\npackage A.b \t;\n".toList))]
  here := [⟨"exact", by decide⟩]

/-- The file has the two lines that its two packages ask for, one for each. -/
theorem declares_unique_of_exact_twiceTree :
  { Config.default with closing := .exact : Config }.isExact ∧
    ∃ ls, twiceTree.readLines (.ofString "Two.java") = .ok ls ∧
      ["a.B", ""].length ≤ ls.countP (beginsWith "package".toList)
  := by
  let config : Config := { Config.default with closing := .exact }
  have hexact : config.isExact := rfl
  have hread : twiceTree.readLines (.ofString "Two.java")
      = .ok ["import a;".toList, "PACKAGE\t;".toList, "package A.b \t;".toList, []] := by
    decide +kernel
  have hmember : ∀ P ∈ ["a.B", ""], IsTrimmed P.toList ∧
      ∃ m, config.check twiceTree (.ofString "Two.java") P = .ok m ∧ m.member := by
    simp only [List.forall_mem_cons, List.not_mem_nil, false_implies, implies_true, and_true]
    constructor
    · exact ⟨by simp [IsTrimmed, EndsOutside, isAsciiSpace], _, rfl, by decide +kernel⟩
    · exact ⟨by simp [IsTrimmed, EndsOutside], _, rfl, by decide +kernel⟩
  have hapart : ["a.B", ""].Pairwise fun P Q => ¬ IsCopy P.toList Q.toList := by
    simp [isCopy_iff]
  exact ⟨hexact, _, hread,
    (declares_unique_of_exact hexact).2.1 _ _ _ _ hread hmember hapart⟩

end Config

end SourceLocator
