import SourceLocator.Proofs.WalkOutcomes

/-!
# Names that end as asked for

A scan lowers the name of a file and the extension each by itself.  Lower case is found character
by character but for the capital sigma, for which it matters whether a cased letter stands before
it.  So a name that ends with the extension as it is given ends with it in lower case too, unless
the extension begins with such a sigma, with no cased letter behind it, and the stem of the name
ends with a cased letter (`Text.isSuffix_lowercase_append_iff`).  Those are the files that a scan
loses by leaving case aside, and it loses no others (`FileTree.mem_files_of_append_iff`).
-/

namespace SourceLocator

namespace Text

variable {before before' cs : List Char}

/-! ### Lower case in its context -/

theorem meetsCased_cons (c : Char) (cs : List Char) :
  meetsCased (c :: cs) = if isCaseIgnorable c then meetsCased cs else isCased c
  := by
  rw [meetsCased, List.dropWhile_cons]
  split <;> rfl

/-- The first character of a text that counts for the case around it is a capital sigma, and no
cased letter stands behind it: its lower case depends on what stands before the text. -/
def OpensWithSigma (cs : List Char) : Prop :=
  ∃ skipped rest, cs = skipped ++ 'Σ' :: rest ∧ (∀ c ∈ skipped, isCaseIgnorable c) ∧
    meetsCased rest = false

theorem not_opensWithSigma_nil :
  ¬ OpensWithSigma []
  := by
  simp [OpensWithSigma]

theorem OpensWithSigma.mem (h : OpensWithSigma cs) :
  'Σ' ∈ cs
  := by
  obtain ⟨skipped, rest, rfl, -, -⟩ := h
  simp

theorem opensWithSigma_cons_iff {c : Char} :
  OpensWithSigma (c :: cs) ↔
    (c = 'Σ' ∧ meetsCased cs = false) ∨ (isCaseIgnorable c ∧ OpensWithSigma cs)
  := by
  constructor
  · rintro ⟨skipped, rest, hcs, hskipped, hrest⟩
    cases skipped with
    | nil =>
      obtain ⟨rfl, rfl⟩ := List.cons.inj hcs
      exact .inl ⟨rfl, hrest⟩
    | cons x skipped =>
      obtain ⟨rfl, rfl⟩ := List.cons.inj hcs
      obtain ⟨hc, hskipped⟩ := List.forall_mem_cons.mp hskipped
      exact .inr ⟨hc, skipped, rest, rfl, hskipped, hrest⟩
  · rintro (⟨rfl, hrest⟩ | ⟨hc, skipped, rest, rfl, hskipped, hrest⟩)
    · exact ⟨[], cs, rfl, by simp, hrest⟩
    · exact ⟨c :: skipped, rest, rfl, List.forall_mem_cons.mpr ⟨hc, hskipped⟩, hrest⟩

/-- The lower case of a character with what stands around it. -/
def lowercaseBetween (before : List Char) (c : Char) (rest : List Char) : List Char :=
  if c.toNat = 0x3A3 then
    [Char.ofNat (if meetsCased before && !meetsCased rest then 0x3C2 else 0x3C3)]
  else lowercaseChar c

theorem lowercaseAfter_cons (before : List Char) (c : Char) (cs : List Char) :
  lowercaseAfter before (c :: cs)
    = lowercaseBetween before c cs ++ lowercaseAfter (c :: before) cs
  := rfl

theorem length_lowercaseBetween (before before' : List Char) (c : Char) (rest : List Char) :
  (lowercaseBetween before c rest).length = (lowercaseBetween before' c rest).length
  := by
  unfold lowercaseBetween
  split <;> rfl

/-- What stands before a text makes its lower case no longer. -/
theorem length_lowercaseAfter (before before' cs : List Char) :
  (lowercaseAfter before cs).length = (lowercaseAfter before' cs).length
  := by
  induction cs generalizing before before' with
  | nil => rfl
  | cons c cs ih =>
    rw [lowercaseAfter_cons, lowercaseAfter_cons, List.length_append, List.length_append,
      length_lowercaseBetween before before', ih (c :: before) (c :: before')]

/-- What stands before a character matters to its lower case only for a capital sigma with no
cased letter behind it. -/
theorem lowercaseBetween_eq_iff {c : Char} {rest : List Char} :
  lowercaseBetween before c rest = lowercaseBetween before' c rest ↔
    (c = 'Σ' ∧ meetsCased rest = false → meetsCased before = meetsCased before')
  := by
  have hsigma : c.toNat = 0x3A3 ↔ c = 'Σ' := by
    rw [← Char.toNat_inj]
    rfl
  have hfinal : Char.ofNat 0x3C2 ≠ Char.ofNat 0x3C3 := by decide
  simp only [lowercaseBetween, hsigma]
  by_cases hc : c = 'Σ'
  · cases meetsCased before <;> cases meetsCased before' <;> cases meetsCased rest <;>
      simp [hc, hfinal, hfinal.symm]
  · simp [hc]

/-- What stands before a text matters to its lower case only if the text opens with such a sigma,
and then it matters whether a cased letter does. -/
theorem lowercaseAfter_eq_iff :
  lowercaseAfter before cs = lowercaseAfter before' cs ↔
    (OpensWithSigma cs → meetsCased before = meetsCased before')
  := by
  induction cs generalizing before before' with
  | nil => simp [lowercaseAfter, not_opensWithSigma_nil]
  | cons c cs ih =>
    have hcons : lowercaseAfter before (c :: cs) = lowercaseAfter before' (c :: cs) ↔
        lowercaseBetween before c cs = lowercaseBetween before' c cs ∧
          lowercaseAfter (c :: before) cs = lowercaseAfter (c :: before') cs := by
      rw [lowercaseAfter_cons, lowercaseAfter_cons]
      constructor
      · intro h
        apply List.append_inj h (length_lowercaseBetween before before' c cs)
      · rintro ⟨hc, hcs⟩
        rw [hc, hcs]
    rw [hcons, lowercaseBetween_eq_iff, ih, meetsCased_cons, meetsCased_cons,
      opensWithSigma_cons_iff]
    by_cases hskip : isCaseIgnorable c
    · simp only [hskip, if_true, true_and]
      tauto
    · simp [hskip]

/-- The lower case of two texts one behind the other ends with that of the second, in its
context. -/
theorem exists_lowercaseAfter_append (before cs ds : List Char) :
  ∃ front, lowercaseAfter before (cs ++ ds) = front ++ lowercaseAfter (cs.reverse ++ before) ds
  := by
  induction cs generalizing before with
  | nil => exact ⟨[], rfl⟩
  | cons c cs ih =>
    obtain ⟨front, hfront⟩ := ih (c :: before)
    refine ⟨lowercaseBetween before c (cs ++ ds) ++ front, ?_⟩
    rw [List.cons_append, lowercaseAfter_cons, hfront, List.reverse_cons, List.append_assoc,
      List.append_assoc, List.singleton_append]

/-- A text ends with another one in lower case, having it at its end, unless a sigma there is final
only because of what stands before it. -/
theorem isSuffix_lowercase_append_iff {stem extension : List Char} :
  lowercase extension <:+ lowercase (stem ++ extension) ↔
    ¬ (OpensWithSigma extension ∧ meetsCased stem.reverse)
  := by
  obtain ⟨front, hfront⟩ := exists_lowercaseAfter_append [] stem extension
  have hsame : lowercase extension <:+ lowercase (stem ++ extension) ↔
      lowercaseAfter [] extension = lowercaseAfter (stem.reverse ++ []) extension := by
    rw [lowercase, lowercase, hfront]
    constructor
    · rintro ⟨front', h⟩
      apply (List.append_inj' h (length_lowercaseAfter _ _ _)).2
    · intro h
      rw [h]
      apply List.suffix_append
  have hnone : meetsCased [] = false := rfl
  rw [hsame, lowercaseAfter_eq_iff, List.append_nil, hnone]
  cases meetsCased stem.reverse <;> simp

end Text

open Text

/-! ### The entries that are walked -/

/-- A walk that does not come round asks about all entries of the directories that it visits. -/
theorem Walk.asksAbout_iff_of_not_comesRound {w : Walk} {t : FileTree} (h : ¬ w.ComesRound t)
    {names : List Name} {name : Name} :
  w.AsksAbout t names name ↔
    ∃ place, name ∈ t.names place ∧ ∃ places, w.Visits t names (place :: places)
  := by
  constructor
  · rintro ⟨place, places, hvisits, -, hname⟩
    exact ⟨place, hname, places, hvisits⟩
  · rintro ⟨place, hname, places, hvisits⟩
    refine ⟨place, places, hvisits, ?_, hname⟩
    by_contra hrepeated
    apply h ⟨_, _, hvisits, hrepeated⟩

namespace FileTree

variable {t : FileTree} {root : Path} {extension : String} {followLinks : Bool}

/-- An entry is listed in the directory that names lead to from a root, by links too if they are
followed, and else through directories that lie in one another. -/
def Lists (t : FileTree) (root : Path) (followLinks : Bool) (names : List Name) (name : Name) :
    Prop :=
  ∃ place, name ∈ t.names place ∧
    if followLinks then ∃ places, t.Chain root names (place :: places)
    else ∃ start, t.resolve root = .ok start ∧ t.Descent start names place

theorem eq_scanFrom_of_scan {r : ScanResult} (h : t.scan root extension followLinks = .ok r) :
  r = t.scanFrom root extension followLinks
  := by
  rw [scan] at h
  split at h
  · cases h
  · exact (Except.ok.inj h).symm

/-- What is scanned without failure is a directory. -/
theorem isDirectory_of_isOk (h : (t.scanFrom root extension followLinks).isOk) :
  t.isDirectory root
  := by
  by_contra hroot
  obtain ⟨e, he⟩ := exists_below_eq_error (lowercase extension.toList) followLinks hroot
  rw [scanFrom_of_error he] at h
  cases h

/-- Beside links, the directories that are visited are those that names lead down to. -/
theorem exists_visits_iff_descent {start place : Location} (hstart : t.LeadsToDirectory root start)
    (suffix : List Char) {names : List Name} :
  (∃ places, Walk.Visits ⟨root, suffix, false⟩ t names (place :: places)) ↔
    ∃ start, t.resolve root = .ok start ∧ t.Descent start names place
  := by
  constructor
  · rintro ⟨places, hvisits⟩
    exact ⟨start, hstart.1, (descent_of_visits hstart hvisits).1⟩
  · rintro ⟨start', hstart', hdescent⟩
    obtain rfl := Except.ok.inj (hstart.1.symm.trans hstart')
    apply hdescent.visits suffix hstart

/-- A scan that does not fail asks about the listed entries. -/
theorem asksAbout_iff_lists (h : (t.scanFrom root extension followLinks).isOk)
    {names : List Name} {name : Name} :
  Walk.AsksAbout ⟨root, lowercase extension.toList, followLinks⟩ t names name ↔
    t.Lists root followLinks names name
  := by
  have hroot := isDirectory_of_isOk h
  obtain ⟨start, hstart⟩ := isDirectory_iff.mp hroot
  rw [Walk.asksAbout_iff_of_not_comesRound ((isOk_scanFrom_iff hroot).mp h).1, Lists]
  cases followLinks with
  | true => simp only [visits_iff_chain, if_true]
  | false => simp only [exists_visits_iff_descent hstart, Bool.false_eq_true, if_false]

/-- The files of a scan that does not fail are the listed entries that lead to files and are named
as asked for. -/
theorem mem_files_iff_lists (h : (t.scanFrom root extension followLinks).isOk) {p : Path} :
  p ∈ (t.scanFrom root extension followLinks).files ↔
    ∃ names name, t.Lists root followLinks names name ∧ p = root.descend (names ++ [name]) ∧
      HasExtension name extension ∧ t.LeadsToFile p
  := by
  simp only [mem_files_scanFrom_iff h, asksAbout_iff_lists h]

/-- A listed entry that leads to a file is among those of a scan when it is named as asked for. -/
theorem mem_files_iff_hasExtension (h : (t.scanFrom root extension followLinks).isOk)
    {names : List Name} {name : Name} (hlists : t.Lists root followLinks names name)
    (hfile : t.LeadsToFile (root.descend (names ++ [name]))) :
  root.descend (names ++ [name]) ∈ (t.scanFrom root extension followLinks).files ↔
    HasExtension name extension
  := by
  rw [mem_files_iff_lists h]
  constructor
  · rintro ⟨names', name', -, heq, hext, -⟩
    obtain ⟨-, hname⟩ := List.append_inj' (root.descend_injective heq) rfl
    obtain rfl := List.singleton_inj.mp hname
    exact hext
  · intro hext
    exact ⟨names, name, hlists, rfl, hext, hfile⟩

/-- A scan of a tree that does not follow links does not fail from a directory, as long as no link
in it is too long. -/
theorem isOk_scanFrom_of_linksFit (ht : t.LinksFit) (hroot : t.isDirectory root)
    (extension : String) :
  (t.scanFrom root extension false).isOk
  := by
  obtain ⟨start, hstart⟩ := isDirectory_iff.mp hroot
  obtain ⟨-, hfound⟩ := Walk.below_root (w := ⟨root, lowercase extension.toList, false⟩) ht hstart
  obtain ⟨found, hbelow, -⟩ := hfound fun names place places hvisits hplace =>
    Nat.lt_irrefl _ ((descent_of_visits hstart hvisits).2 place hplace)
  rw [scanFrom_of_ok hbelow]
  rfl

/-! ### Names that end with an extension as it is given -/

/-- Of the listed entries that lead to files and whose names end with an extension as it is given,
a scan for the extension has found all but those in which a sigma of the extension is final: the
extension opens with it, and a cased letter stands before.  An extension without a capital sigma
loses none. -/
theorem mem_files_of_append_iff {r : ScanResult} (h : t.scan root extension followLinks = .ok r)
    (hok : r.isOk) {names : List Name} {name : Name}
    (hlists : t.Lists root followLinks names name)
    (hfile : t.LeadsToFile (root.descend (names ++ [name]))) {stem : List Char}
    (hname : name.val.toList = stem ++ extension.toList) :
  (root.descend (names ++ [name]) ∈ r.files ↔
    ¬ (OpensWithSigma extension.toList ∧ meetsCased stem.reverse)) ∧
  ('Σ' ∉ extension.toList → root.descend (names ++ [name]) ∈ r.files)
  := by
  obtain rfl := eq_scanFrom_of_scan h
  rw [mem_files_iff_hasExtension hok hlists hfile, HasExtension, hname,
    isSuffix_lowercase_append_iff]
  refine ⟨Iff.rfl, ?_⟩
  rintro hnone ⟨hopens, -⟩
  apply hnone hopens.mem

/-- A tree with two files that end in a dot and a capital sigma, a letter before the dot in one
and a digit in the other. -/
def sigmaTree : FileTree where
  entries :=
    [([⟨"greek", by decide⟩], .directory),
     ([⟨"a.Σ", by decide⟩, ⟨"greek", by decide⟩], .file []),
     ([⟨"1.Σ", by decide⟩, ⟨"greek", by decide⟩], .file [])]
  here := [⟨"greek", by decide⟩]

/-- Both files are listed, in the directory that is scanned. -/
theorem lists_sigmaTree :
  sigmaTree.Lists (.ofString ".") false [] ⟨"a.Σ", by decide⟩ ∧
    sigmaTree.Lists (.ofString ".") false [] ⟨"1.Σ", by decide⟩
  := ⟨⟨_, by decide, _, rfl, .here⟩, ⟨_, by decide, _, rfl, .here⟩⟩

theorem isOk_sigmaTree :
  (sigmaTree.scanFrom (.ofString ".") ".Σ" false).isOk
  := isOk_scanFrom_of_linksFit (by decide) (by decide) _

/-- Behind the digit the sigma of the name is the same as that of the extension. -/
theorem mem_files_of_append_iff_sigmaTree :
  ∃ r, sigmaTree.scan (.ofString ".") ".Σ" false = .ok r ∧ r.isOk ∧
    .ofString "1.Σ" ∈ r.files ∧ .ofString "a.Σ" ∉ r.files
  := by
  have hscan := @scan_of_hasNul_eq_false sigmaTree (.ofString ".") (by decide) ".Σ" false
  have hopens : OpensWithSigma ".Σ".toList :=
    ⟨['.'], [], rfl, List.forall_mem_singleton.mpr rfl, rfl⟩
  have hdigit : "1.Σ".toList = ['1'] ++ ".Σ".toList := rfl
  have hletter : "a.Σ".toList = ['a'] ++ ".Σ".toList := rfl
  obtain ⟨hfound, -⟩ :=
    mem_files_of_append_iff hscan isOk_sigmaTree lists_sigmaTree.2 ⟨[], rfl⟩ hdigit
  obtain ⟨hlost, -⟩ :=
    mem_files_of_append_iff hscan isOk_sigmaTree lists_sigmaTree.1 ⟨[], rfl⟩ hletter
  refine ⟨_, hscan, isOk_sigmaTree, hfound.mpr ?_, ?_⟩
  · rintro ⟨-, hcased⟩
    cases hcased
  · intro hmem
    apply hlost.mp hmem ⟨hopens, rfl⟩

/-- A configuration may ask for the files that end in a dot and a capital sigma; the name `a.Σ`
ends so, and a scan has not found that file. -/
theorem not_mem_files_sigmaTree :
  ∃ config r, Config.ofFields [("extension", .text ".Σ")] = .ok config ∧
    sigmaTree.scan (.ofString ".") config.extension config.followLinks = .ok r ∧ r.isOk ∧
    sigmaTree.Lists (.ofString ".") config.followLinks [] ⟨"a.Σ", by decide⟩ ∧
    sigmaTree.LeadsToFile (.ofString "a.Σ") ∧ "a.Σ" = "a" ++ config.extension ∧
    .ofString "a.Σ" ∉ r.files
  := by
  have hconfig : Config.ofFields [("extension", .text ".Σ")]
      = .ok { Config.default with extension := ".Σ" } := rfl
  have hfile : sigmaTree.LeadsToFile (.ofString "a.Σ") := ⟨[], rfl⟩
  refine ⟨_, _, hconfig, scan_of_hasNul_eq_false (by decide) _ _, isOk_sigmaTree,
    lists_sigmaTree.1, hfile, rfl, ?_⟩
  have hext : ¬ HasExtension ⟨"a.Σ", by decide⟩ ".Σ" := by decide +kernel
  exact mt (mem_files_iff_hasExtension isOk_sigmaTree lists_sigmaTree.1 hfile).mp hext

end FileTree

end SourceLocator
