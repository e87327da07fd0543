import SourceLocator.Proofs.NameCase
import SourceLocator.Proofs.PathReading
import SourceLocator.SourceSet

/-!
# Spellings of paths

A path has many spellings: slashes can be repeated, and single dots put between them, anywhere but
at the front.  `Path.Spells` says which texts they are, and a text is read as the one path that it
spells (`Path.ofString_eq_iff`).  What stands in front of the last component, and slashes and dots
behind it, have no part in the name (`Path.name_ofString_append`), and so none in whether a name
pattern picks out the path, of which it takes the spellings for one file (`filterFiles_of_spellings`).
-/

namespace SourceLocator

namespace Path

/-! ### What spells a path -/

/-- A piece between slashes that stands for no component. -/
def IsFiller (piece : List Char) : Prop :=
  piece = [] ∨ piece = ['.']

/-- What may stand behind the slashes at the front of a spelling, for the components of a path. -/
inductive SpellsParts : List String → List Char → Prop where
  | filler {piece} (hpiece : IsFiller piece) : SpellsParts [] piece
  | part {part : String} (hpart : IsComponent part.toList) (hdot : part ≠ ".") :
      SpellsParts [part] part.toList
  | fillerSlash {piece parts rest} (hpiece : IsFiller piece) (hrest : SpellsParts parts rest) :
      SpellsParts parts (piece ++ '/' :: rest)
  | partSlash {part : String} {parts rest} (hpart : IsComponent part.toList) (hdot : part ≠ ".")
      (hrest : SpellsParts parts rest) :
      SpellsParts (part :: parts) (part.toList ++ '/' :: rest)

/-- Where a path starts that is spelled with some slashes at the front. -/
def originOfSlashes : Nat → Origin
  | 0 => .here
  | 2 => .doubleRoot
  | _ => .root

/-- A text spells a path: it has slashes at the front, two if the path starts at the root that is
written with two, and behind them what spells the components. -/
def Spells (s : String) (p : Path) : Prop :=
  ∃ n rest, s.toList = List.replicate n '/' ++ rest ∧ rest.head? ≠ some '/' ∧
    p.origin = originOfSlashes n ∧ SpellsParts p.parts rest

/-! ### The components of a text -/

/-- The components of a text are those before a slash and those behind it. -/
theorem pieces_append_slash (front rest : List Char) :
  pieces (front ++ '/' :: rest) = pieces front ++ pieces rest
  := by
  rw [pieces, List.splitOn_append_cons_self, List.filter_append]
  rfl

theorem pieces_filler {piece : List Char} (h : IsFiller piece) :
  pieces piece = []
  := by
  obtain rfl | rfl := h <;> rfl

theorem pieces_part {part : String} (hpart : IsComponent part.toList) (hdot : part ≠ ".") :
  pieces part.toList = [part.toList]
  := by
  rw [pieces, List.splitOn_eq_singleton hpart.2,
    List.filter_cons_of_pos (isComponent_toList hpart hdot), List.filter_nil]

/-- Slashes at the front stand before no component. -/
theorem pieces_slashes (n : Nat) (rest : List Char) :
  pieces (List.replicate n '/' ++ rest) = pieces rest
  := by
  induction n with
  | zero => rfl
  | succ n ih =>
    have hfront : List.replicate (n + 1) '/' ++ rest
        = [] ++ '/' :: (List.replicate n '/' ++ rest) := rfl
    rw [hfront, pieces_append_slash, ih, pieces_filler (.inl rfl), List.nil_append]

/-- A piece between slashes is a filler or a component. -/
theorem isFiller_or_exists_part {piece : List Char} (hslash : '/' ∉ piece) :
  IsFiller piece ∨ ∃ part : String, piece = part.toList ∧ IsComponent part.toList ∧ part ≠ "."
  := by
  by_cases hfiller : IsFiller piece
  · exact .inl hfiller
  · obtain ⟨hne, hdot⟩ := not_or.mp hfiller
    refine .inr ⟨.ofList piece, String.toList_ofList.symm, ?_, ?_⟩
    · rw [String.toList_ofList]
      exact ⟨hne, hslash⟩
    · intro hpart
      apply hdot
      rw [← String.toList_ofList (l := piece), hpart]
      rfl

/-- Every text spells its own components. -/
theorem spellsParts_pieces (text : List Char) :
  SpellsParts ((pieces text).map String.ofList) text
  := by
  induction hn : text.length using Nat.strongRecOn generalizing text with
  | ind n ih =>
    subst hn
    by_cases hslash : '/' ∈ text
    · obtain ⟨piece, rest, rfl, hpiece⟩ := List.eq_append_cons_of_mem hslash
      have hshorter : rest.length < (piece ++ '/' :: rest).length := by
        rw [List.length_append, List.length_cons]
        omega
      have hrest := ih _ hshorter rest rfl
      rw [pieces_append_slash]
      obtain hfiller | ⟨part, rfl, hpart, hdot⟩ := isFiller_or_exists_part hpiece
      · rw [pieces_filler hfiller]
        exact .fillerSlash hfiller hrest
      · rw [pieces_part hpart hdot, List.singleton_append, List.map_cons, String.ofList_toList]
        exact .partSlash hpart hdot hrest
    · obtain hfiller | ⟨part, rfl, hpart, hdot⟩ := isFiller_or_exists_part hslash
      · rw [pieces_filler hfiller]
        exact .filler hfiller
      · rw [pieces_part hpart hdot, List.map_singleton, String.ofList_toList]
        exact .part hpart hdot

/-- A text spells no components but its own. -/
theorem spellsParts_iff {parts : List String} {text : List Char} :
  SpellsParts parts text ↔ (pieces text).map String.ofList = parts
  := by
  constructor
  · intro h
    induction h with
    | filler hpiece => rw [pieces_filler hpiece, List.map_nil]
    | part hpart hdot => rw [pieces_part hpart hdot, List.map_singleton, String.ofList_toList]
    | fillerSlash hpiece _ ih => rw [pieces_append_slash, pieces_filler hpiece, List.nil_append, ih]
    | partSlash hpart hdot _ ih =>
      rw [pieces_append_slash, pieces_part hpart hdot, List.singleton_append, List.map_cons, ih,
        String.ofList_toList]
  · rintro rfl
    apply spellsParts_pieces

/-- A text is read as the one path that it spells. -/
theorem ofString_eq_iff {s : String} {p : Path} :
  ofString s = p ↔ Spells s p
  := by
  have horigin (n : Nat) {rest : List Char} (hrest : rest.head? ≠ some '/') :
      originOf (List.replicate n '/' ++ rest) = originOfSlashes n := by
    rw [originOf_slashes n hrest]
    rfl
  constructor
  · rintro rfl
    obtain ⟨n, rest, hs, hrest⟩ := exists_slashes s.toList
    refine ⟨n, rest, hs, hrest, ?_, ?_⟩
    · rw [← horigin n hrest, ← hs]
      rfl
    · rw [spellsParts_iff, ← pieces_slashes n rest, ← hs]
      rfl
  · rintro ⟨n, rest, hs, hrest, hn, hparts⟩
    obtain ⟨origin, parts⟩ := p
    rw [ofString, hs, horigin n hrest, ← hn, Path.mk.injEq]
    refine ⟨rfl, ?_⟩
    rw [← pieces, pieces_slashes]
    apply spellsParts_iff.mp hparts

/-! ### What stands around the last component -/

/-- Slashes, each perhaps with a single dot behind it. -/
inductive IsPadding : List Char → Prop where
  | nil : IsPadding []
  | slash {rest} (hrest : IsPadding rest) : IsPadding ('/' :: rest)
  | slashDot {rest} (hrest : IsPadding rest) : IsPadding ('/' :: '.' :: rest)

/-- Behind a text they add no component to it. -/
theorem pieces_append_padding (front : List Char) {padding : List Char} (h : IsPadding padding) :
  pieces (front ++ padding) = pieces front
  := by
  induction h generalizing front with
  | nil => rw [List.append_nil]
  | @slash rest _ ih =>
    have hnone : pieces rest = pieces [] := ih []
    rw [pieces_append_slash, hnone, pieces_filler (.inl rfl), List.append_nil]
  | @slashDot rest _ ih =>
    have hdot : pieces ('.' :: rest) = pieces ['.'] := ih ['.']
    rw [pieces_append_slash, hdot, pieces_filler (.inr rfl), List.append_nil]

/-- The name of a path is its last component, whatever directory stands in front of it and whatever
slashes and dots behind. -/
theorem name_ofString_append (directory : String) {name padding : String}
    (hname : IsComponent name.toList) (hdot : name ≠ ".") (hpadding : IsPadding padding.toList) :
  (ofString (directory ++ "/" ++ name ++ padding)).name = name
  := by
  have htext : (directory ++ "/" ++ name ++ padding).toList
      = directory.toList ++ '/' :: (name.toList ++ padding.toList) := by
    simp
  rw [← String.toList_inj, toList_name_ofString, htext, pieces_append_slash,
    pieces_append_padding _ hpadding, pieces_part hname hdot, List.getLastD_concat]

theorem name_ofString {name : String} (hname : IsComponent name.toList) (hdot : name ≠ ".") :
  (ofString name).name = name
  := by
  rw [← String.toList_inj, toList_name_ofString, pieces_part hname hdot]
  rfl

end Path

/-! ### Spellings and name patterns -/

theorem distinct_of_nodup {α : Type} [DecidableEq α] {as : List α} (h : as.Nodup) :
  distinct as = as
  := by
  induction as with
  | nil => rfl
  | cons a as ih =>
    obtain ⟨hmem, hnodup⟩ := List.nodup_cons.mp h
    rw [distinct, if_neg hmem, ih hnodup]

/-- The resource-mapping files of a source set are picked out of its files by their names. -/
theorem SourceSet.resourceNamed_eq_filterFiles (s : SourceSet) (files : FileSet) :
  s.resourceNamed files = s.config.resourceName.filterFiles files.paths
  := by
  simp only [resourceNamed, FileSet.filter, NamePattern.filterFiles, FileSet.ofList,
    distinct_of_nodup (files.nodup.filter _)]

namespace NamePattern

variable {pattern : NamePattern} {paths : List Path} {p : Path}

theorem mem_filterFiles_iff :
  p ∈ pattern.filterFiles paths ↔ p ∈ paths ∧ pattern.matchesName p
  := by
  rw [filterFiles, FileSet.mem_ofList, List.mem_filter]

/-- As many files are picked out as there are different paths that fit. -/
theorem size_filterFiles :
  (pattern.filterFiles paths).size = (paths.filter pattern.matchesName).toFinset.card
  := by
  have hmembers : (distinct (paths.filter pattern.matchesName)).toFinset
      = (paths.filter pattern.matchesName).toFinset := by
    ext p
    simp only [List.mem_toFinset, mem_distinct]
  rw [← hmembers, List.toFinset_card_of_nodup (nodup_distinct _)]
  rfl

/-- A path that is given is picked out once if it fits. -/
theorem count_filterFiles (hp : p ∈ paths) :
  (pattern.filterFiles paths).paths.count p = if pattern.matchesName p then 1 else 0
  := by
  split
  · rename_i hfits
    apply List.count_eq_one_of_mem (pattern.filterFiles paths).nodup
    apply mem_filterFiles_iff.mpr ⟨hp, hfits⟩
  · rename_i hfits
    apply List.count_eq_zero_of_not_mem
    exact fun hmem => hfits (mem_filterFiles_iff.mp hmem).2

/-- Whether a path fits a pattern is decided by its last component alone, whatever directory stands
in front of it and whatever slashes and dots behind.  Of the paths that some texts spell those that
fit are picked out, and no others; two spellings of one path fit both or neither, and are one file
of those picked out if they do. -/
theorem filterFiles_of_spellings (pattern : NamePattern) :
  (∀ directory name padding : String, IsComponent name.toList → name ≠ "." →
    Path.IsPadding padding.toList →
    pattern.matchesName (.ofString (directory ++ "/" ++ name ++ padding))
      = pattern.matchesName (.ofString name)) ∧
  (∀ s s' p, Path.Spells s p → Path.Spells s' p →
    pattern.matchesName (.ofString s) = pattern.matchesName (.ofString s')) ∧
  ∀ spellings : List String,
    let files := pattern.filterFiles (spellings.map .ofString)
    (∀ p, p ∈ files ↔ (∃ s ∈ spellings, Path.Spells s p) ∧ pattern.matchesName p) ∧
    (∀ s ∈ spellings, ∀ p, Path.Spells s p →
      files.paths.count p = if pattern.matchesName (.ofString s) then 1 else 0) ∧
    files.size
      = ((spellings.map Path.ofString).filter pattern.matchesName).toFinset.card
  := by
  refine ⟨?_, ?_, fun spellings => ⟨?_, ?_, size_filterFiles⟩⟩
  · intro directory name padding hname hdot hpadding
    rw [matchesName, matchesName, Path.name_ofString_append directory hname hdot hpadding,
      Path.name_ofString hname hdot]
  · intro s s' p hs hs'
    rw [Path.ofString_eq_iff.mpr hs, Path.ofString_eq_iff.mpr hs']
  · intro p
    rw [mem_filterFiles_iff, List.mem_map]
    simp only [Path.ofString_eq_iff]
  · intro s hs p hp
    obtain rfl := Path.ofString_eq_iff.mpr hp
    apply count_filterFiles (List.mem_map_of_mem hs)

/-- A resource-mapping file is told by its name below what is named like one; of six spellings two
are of the same file, two of another one, and one is of none that is picked out. -/
theorem filterFiles_of_spellings_resource :
  IsComponent "R$id.java".toList ∧ Path.IsPadding "/.//".toList ∧
    resource.matchesName (.ofString ("../Main.java" ++ "/" ++ "R$id.java" ++ "/.//")) ∧
    (resource.filterFiles
      (["a//R.java", "./a/./R.java/.", "//r.java", "///r.java", "/r.java", "R.java/Main.java"].map
        .ofString)).size = 3
  := by
  have hname : IsComponent "R$id.java".toList := ⟨by decide, by decide⟩
  have hpadding : Path.IsPadding "/.//".toList := .slashDot (.slash (.slash .nil))
  have hfits : resource.matchesName (.ofString "R$id.java") := by decide +kernel
  obtain ⟨halone, -, hpicked⟩ := filterFiles_of_spellings resource
  refine ⟨hname, hpadding, ?_, ?_⟩
  · rw [halone _ _ _ hname (by decide) hpadding]
    exact hfits
  · obtain ⟨-, -, hsize⟩ := hpicked
      ["a//R.java", "./a/./R.java/.", "//r.java", "///r.java", "/r.java", "R.java/Main.java"]
    rw [hsize]
    decide +kernel

end NamePattern

end SourceLocator
