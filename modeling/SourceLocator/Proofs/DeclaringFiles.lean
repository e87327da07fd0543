import SourceLocator.Membership
import SourceLocator.Proofs.DeclarationGrammar
import SourceLocator.Proofs.Encoding
import SourceLocator.Proofs.LineEnds
import SourceLocator.Proofs.Resolution

/-!
# Files that declare a package

A file is read exactly when its bytes are those of a text, and then the lines it was written
from come back (`FileTree.readLines_of_file`).  It belongs to a package exactly when one of
the lines of that text is a declaration (`Config.membership_member_iff`).  How its lines are
ended, and what else they hold, makes no difference (`Config.member_append_iff`).
-/

namespace SourceLocator

open Text

/-! ### Reading a file -/

/-- Bytes fall into two at the end of a line as the text does whose bytes they are. -/
theorem Text.Utf8.encode_eq_append_iff {text : List Char} {a b : List UInt8} {e : LineEnd} :
  encode text = a ++ (e.bytes ++ b) ↔
    ∃ before after, text = before ++ (e.chars ++ after) ∧ a = encode before ∧ b = encode after
  := by
  have hfeed : (0x0A : UInt8) < 0x80 := by decide
  have hreturn : (0x0D : UInt8) < 0x80 := by decide
  cases e with
  | lineFeed => exact encode_eq_append_cons_iff hfeed
  | carriageReturn => exact encode_eq_append_cons_iff hreturn
  | pair =>
    constructor
    · intro h
      obtain ⟨before, rest, rfl, rfl, hrest⟩ := (encode_eq_append_cons_iff hreturn).mp h
      obtain ⟨between, after, rfl, hbetween, rfl⟩ :=
        (@encode_eq_append_cons_iff rest 0x0A [] b hfeed).mp hrest.symm
      obtain rfl : between = [] := encode_injective hbetween.symm
      exact ⟨before, after, rfl, rfl, rfl⟩
    · rintro ⟨before, after, rfl, rfl, rfl⟩
      apply encode_append

namespace FileTree

variable {t : FileTree} {p : Path}

theorem readLines_of_stat {bytes : List UInt8} (h : t.stat p = .ok (.file bytes)) :
  t.readLines p = ((Utf8.decode bytes).mapError .encoding).map lines
  := by
  simp only [readLines, readText, read, h]

/-- The lines of a file are those of the text whose bytes it holds. -/
theorem readLines_eq_ok_iff {bytes : List UInt8} (h : t.stat p = .ok (.file bytes))
    {ls : List (List Char)} :
  t.readLines p = .ok ls ↔ ∃ text, bytes = Utf8.encode text ∧ ls = lines text
  := by
  rw [readLines_of_stat h]
  simp only [← Utf8.decode_eq_ok_iff]
  cases hdecode : Utf8.decode bytes with
  | error f => simp [Except.mapError, Except.map]
  | ok text => simp [Except.mapError, Except.map, eq_comm]

/-- What has a line that is not empty was read from a file. -/
theorem exists_text_of_readLines {ls : List (List Char)} (h : t.readLines p = .ok ls)
    {line : List Char} (hline : line ∈ ls) (hne : line ≠ []) :
  ∃ text, t.stat p = .ok (.file (Utf8.encode text)) ∧ ls = lines text
  := by
  have hread := h
  rw [readLines, readText, read] at hread
  cases hstat : t.stat p with
  | error c =>
    rw [hstat] at hread
    cases hread
  | ok e =>
    rw [hstat] at hread
    cases e with
    | directory => cases hread
    | file bytes =>
      obtain ⟨text, rfl, hls⟩ := (readLines_eq_ok_iff hstat).mp h
      exact ⟨text, rfl, hls⟩
    | link target =>
      cases hread
      apply absurd (List.mem_singleton.mp hline) hne
    | fifo =>
      cases hread
      apply absurd (List.mem_singleton.mp hline) hne

/-- A file can be read exactly when its bytes are well-formed, and then its text is split at
line feeds, once every end of a line is one.  It has a line at least, and no line holds an
end.  The lines that it was written from come back, however each is ended, but for an empty
one between a carriage return and a line feed. -/
theorem readLines_of_file {bytes : List UInt8} (h : t.stat p = .ok (.file bytes)) :
  ((∃ ls, t.readLines p = .ok ls) ↔ Utf8.IsWellFormed bytes) ∧
    (∀ text, bytes = Utf8.encode text →
      t.readLines p = .ok ((translated text).splitOn '\n')) ∧
    (∀ ls, t.readLines p = .ok ls → ls ≠ [] ∧ ∀ line ∈ ls, IsLine line) ∧
    ∀ first rest, IsLine first → (∀ x ∈ rest, IsLine x.2) →
      bytes = Utf8.encode (joined first rest) →
      (t.readLines p = .ok (first :: rest.map (·.2)) ↔ NoSplitPair rest)
  := by
  simp only [readLines_eq_ok_iff h]
  refine ⟨?_, ?_, ?_, ?_⟩
  · rw [Utf8.isWellFormed_iff]
    constructor
    · rintro ⟨_, text, hbytes, -⟩
      exact ⟨text, hbytes⟩
    · rintro ⟨text, hbytes⟩
      exact ⟨_, text, hbytes, rfl⟩
  · intro text hbytes
    exact ⟨text, hbytes, (lines_eq_splitOn text).symm⟩
  · rintro _ ⟨text, -, rfl⟩
    exact ⟨linesAfter_ne_nil _ _, fun line hline => isLine_of_mem_linesAfter hline⟩
  · rintro first rest hfirst hrest rfl
    rw [← lines_joined_iff hfirst hrest]
    constructor
    · rintro ⟨text, htext, hlines⟩
      rw [Utf8.encode_injective htext, hlines]
    · intro hlines
      exact ⟨_, rfl, hlines.symm⟩

/-- A tree with a file that begins with a byte order mark and in which every end of a line
occurs, beside characters that end lines elsewhere. -/
def endsTree : FileTree where
  entries :=
    [([⟨"d", by decide⟩], .directory),
     ([⟨"f", by decide⟩, ⟨"d", by decide⟩],
      .file [0xEF, 0xBB, 0xBF, 0xE2, 0x80, 0xA8, 0x0D, 0x0A, 0x0D, 0x0D, 0x0A, 0xC2, 0x85, 0x0B,
        0x0A])]
  here := [⟨"d", by decide⟩]

/-- An empty line may stand between a carriage return and a pair. -/
theorem readLines_of_file_endsTree :
  ∃ bytes, endsTree.stat (.ofString "f") = .ok (.file bytes) ∧ Utf8.IsWellFormed bytes ∧
    endsTree.readLines (.ofString "f")
      = .ok [['\uFEFF', '\u2028'], [], [], ['\u0085', '\x0B'], []]
  := by
  let first := ['\uFEFF', '\u2028']
  let rest : List (LineEnd × List Char) :=
    [(.pair, []), (.carriageReturn, []), (.pair, ['\u0085', '\x0B']), (.lineFeed, [])]
  have hfile : endsTree.stat (.ofString "f") = .ok (.file (Utf8.encode (joined first rest))) :=
    rfl
  obtain ⟨hwell, -, -, hlines⟩ := readLines_of_file hfile
  have hread := (hlines first rest (by decide) (by decide) rfl).mpr (by decide)
  exact ⟨_, hfile, hwell.mp ⟨_, hread⟩, hread⟩

end FileTree

/-! ### Declarations in a file -/

/-- A declaration is not empty. -/
theorem IsDeclaration.ne_nil {closing : Closing} {keyword package line : List Char}
    (h : IsDeclaration closing keyword package line) :
  line ≠ []
  := by
  obtain ⟨_, _, _, _, rfl, -⟩ := h
  simp

namespace Config

variable {config : Config} {t : FileTree} {p : Path} {package : String}

/-- A line is a declaration of a package under a configuration. -/
def IsDeclarationOf (config : Config) (package : String) (line : List Char) : Prop :=
  IsDeclaration config.closing config.keyword.toList package.toList line

/-- A path leads to a file that holds a text with a line that declares a package. -/
def DeclaredAt (config : Config) (t : FileTree) (p : Path) (package : String) : Prop :=
  ∃ text, t.stat p = .ok (.file (Utf8.encode text)) ∧
    ∃ line ∈ lines text, config.IsDeclarationOf package line

theorem any_declares_iff {ls : List (List Char)} :
  ls.any (config.declares package) ↔ ∃ line ∈ ls, config.IsDeclarationOf package line
  := by
  simp only [List.any_eq_true, declares, declares_iff, IsDeclarationOf]

/-- A file is found to be in a package when one of the lines of its text declares it. -/
theorem membership_member_iff :
  (config.membership t p package).member ↔ config.DeclaredAt t p package
  := by
  constructor
  · intro h
    rw [membership] at h
    split at h
    · cases h
    · rename_i ls hls
      obtain ⟨line, hline, hdecl⟩ := any_declares_iff.mp h
      obtain ⟨text, htext, rfl⟩ := FileTree.exists_text_of_readLines hls hline hdecl.ne_nil
      exact ⟨text, htext, line, hline, hdecl⟩
  · rintro ⟨text, htext, hline⟩
    have hls : t.readLines p = .ok (lines text) :=
      (FileTree.readLines_eq_ok_iff htext).mpr ⟨text, rfl, rfl⟩
    rw [membership, hls]
    apply any_declares_iff.mpr hline

theorem declaredAt_iff {text : List Char} (h : t.stat p = .ok (.file (Utf8.encode text))) :
  config.DeclaredAt t p package ↔ ∃ line ∈ lines text, config.IsDeclarationOf package line
  := by
  constructor
  · rintro ⟨text', htext', hline⟩
    rw [h, Except.ok.injEq, Entry.file.injEq] at htext'
    rwa [Utf8.encode_injective htext']
  · intro hline
    exact ⟨text, h, hline⟩

/-- What a path leads to can be tested. -/
theorem check_of_stat {e : Entry} (h : t.stat p = .ok e) :
  config.check t p package = .ok (config.membership t p package)
  := by
  rw [check, FileTree.hasNul_eq_false_of_stat h]
  rfl

/-- A declaration stands in a text that falls into two at the end of a line when it stands in
one of the parts. -/
theorem exists_declaration_append_iff {before after : List Char} {e : LineEnd} :
  (∃ line ∈ lines (before ++ (e.chars ++ after)), config.IsDeclarationOf package line) ↔
    (∃ line ∈ lines before, config.IsDeclarationOf package line) ∨
      ∃ line ∈ lines after, config.IsDeclarationOf package line
  := by
  constructor
  · rintro ⟨line, hline, hdecl⟩
    obtain hline | hline := (mem_lines_append_iff hdecl.ne_nil before e after).mp hline
    · exact .inl ⟨line, hline, hdecl⟩
    · exact .inr ⟨line, hline, hdecl⟩
  · rintro (⟨line, hline, hdecl⟩ | ⟨line, hline, hdecl⟩)
    · exact ⟨line, (mem_lines_append_iff hdecl.ne_nil before e after).mpr (.inl hline), hdecl⟩
    · exact ⟨line, (mem_lines_append_iff hdecl.ne_nil before e after).mpr (.inr hline), hdecl⟩

/-- A text that was joined from lines holds a declaration when one of the lines is one. -/
theorem exists_declaration_joined_iff {first : List Char} (hfirst : IsLine first)
    {rest : List (LineEnd × List Char)} (hrest : ∀ x ∈ rest, IsLine x.2) :
  (∃ line ∈ lines (joined first rest), config.IsDeclarationOf package line) ↔
    ∃ line ∈ first :: rest.map (·.2), config.IsDeclarationOf package line
  := by
  induction rest generalizing first with
  | nil => simp [lines, linesAfter_of_isLine hfirst]
  | cons x rest ih =>
    obtain ⟨hline, hrest⟩ := List.forall_mem_cons.mp hrest
    rw [joined_cons, exists_declaration_append_iff, ih hline hrest, lines,
      linesAfter_of_isLine hfirst]
    simp only [List.map_cons, List.exists_mem_cons_iff, List.not_mem_nil, false_and, exists_false,
      or_false]

/-- A file whose bytes fall into two at the end of a line is in a package exactly when both
parts are well-formed and a file of one of them is in the package.  Whatever lines the text
was joined from and however they are ended, it is in the package when one of them is a
declaration. -/
theorem member_append_iff {a b : List UInt8} {e : LineEnd} {ta tb : FileTree} {pa pb : Path}
    (h : t.stat p = .ok (.file (a ++ (e.bytes ++ b)))) (ha : ta.stat pa = .ok (.file a))
    (hb : tb.stat pb = .ok (.file b)) (config : Config) (package : String) :
  ∃ m ma mb, config.check t p package = .ok m ∧ config.check ta pa package = .ok ma ∧
    config.check tb pb package = .ok mb ∧
    (m.member ↔ Utf8.IsWellFormed a ∧ Utf8.IsWellFormed b ∧ (ma.member ∨ mb.member)) ∧
    ∀ first rest, IsLine first → (∀ x ∈ rest, IsLine x.2) →
      a ++ (e.bytes ++ b) = Utf8.encode (joined first rest) →
      (m.member ↔ ∃ line ∈ first :: rest.map (·.2), config.IsDeclarationOf package line)
  := by
  refine ⟨_, _, _, check_of_stat h, check_of_stat ha, check_of_stat hb, ?_, ?_⟩
  · simp only [membership_member_iff, Utf8.isWellFormed_iff]
    constructor
    · rintro ⟨text, htext, hline⟩
      rw [h, Except.ok.injEq, Entry.file.injEq] at htext
      obtain ⟨before, after, rfl, rfl, rfl⟩ := Utf8.encode_eq_append_iff.mp htext.symm
      refine ⟨⟨before, rfl⟩, ⟨after, rfl⟩, ?_⟩
      rw [declaredAt_iff ha, declaredAt_iff hb]
      apply exists_declaration_append_iff.mp hline
    · rintro ⟨⟨before, rfl⟩, ⟨after, rfl⟩, hmember⟩
      rw [declaredAt_iff ha, declaredAt_iff hb] at hmember
      rw [← Utf8.encode_eq_append_iff.mpr ⟨before, after, rfl, rfl, rfl⟩] at h
      exact ⟨_, h, exists_declaration_append_iff.mpr hmember⟩
  · intro first rest hfirst hrest hbytes
    rw [hbytes] at h
    rw [membership_member_iff, declaredAt_iff h, exists_declaration_joined_iff hfirst hrest]

/-- A tree with a file whose bytes are those of two others around a line feed, the first of
which ends in a carriage return. -/
def joinedTree : FileTree where
  entries :=
    [([⟨"d", by decide⟩], .directory),
     ([⟨"front", by decide⟩, ⟨"d", by decide⟩], .file (Utf8.encode "// é\r".toList)),
     ([⟨"back", by decide⟩, ⟨"d", by decide⟩], .file (Utf8.encode "PACKAGE\tp.q;".toList)),
     ([⟨"whole", by decide⟩, ⟨"d", by decide⟩],
      .file (Utf8.encode "// é\r\nPACKAGE\tp.q;".toList))]
  here := [⟨"d", by decide⟩]

/-- The line feed and the carriage return before it are read as a pair, and the declaration
behind them is found. -/
theorem member_append_iff_joinedTree :
  ∃ a b m, joinedTree.stat (.ofString "whole") = .ok (.file (a ++ (LineEnd.lineFeed.bytes ++ b))) ∧
    joinedTree.stat (.ofString "front") = .ok (.file a) ∧
    joinedTree.stat (.ofString "back") = .ok (.file b) ∧
    Config.default.check joinedTree (.ofString "whole") "P" = .ok m ∧ m.member
  := by
  let a := Utf8.encode "// é\r".toList
  let b := Utf8.encode "PACKAGE\tp.q;".toList
  have h : joinedTree.stat (.ofString "whole") = .ok (.file (a ++ (LineEnd.lineFeed.bytes ++ b))) :=
    by decide +kernel
  have ha : joinedTree.stat (.ofString "front") = .ok (.file a) := by decide +kernel
  have hb : joinedTree.stat (.ofString "back") = .ok (.file b) := by decide +kernel
  have hmember : (Config.default.membership joinedTree (.ofString "back") "P").member := by
    decide +kernel
  obtain ⟨m, ma, mb, hm, -, hmb, hiff, -⟩ := member_append_iff h ha hb Config.default "P"
  obtain rfl := Except.ok.inj ((check_of_stat hb).symm.trans hmb)
  refine ⟨a, b, m, h, ha, hb, hm, hiff.mpr ⟨?_, ?_, .inr hmember⟩⟩
  · exact Utf8.isWellFormed_iff.mpr ⟨_, rfl⟩
  · exact Utf8.isWellFormed_iff.mpr ⟨_, rfl⟩

end Config

end SourceLocator
