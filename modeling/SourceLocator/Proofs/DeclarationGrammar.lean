import Mathlib.Data.List.TakeWhile
import SourceLocator.Config
import SourceLocator.Proofs.EscapedReading
import SourceLocator.Proofs.PatternReading

/-!
# The grammar of declarations

A line is a declaration of a package when it splits into a copy of the keyword, spaces, a
copy of the package, what the closing allows and a semicolon (`IsDeclaration`).  That is what
`declares` finds, which takes one part off after another, and it is also what a search finds
with the pattern that is written for the declaration (`Config.declarationPattern`): whatever
characters the keyword and the package hold, none of them means anything but itself, and
wherever the parts can be split in several ways, no way is missed
(`Config.declares_iff_isDeclaration`).
-/

namespace SourceLocator

open Text NamePattern

/-- Two characters are the same up to the case of ASCII letters. -/
def SameUpToCase (c d : Char) : Prop :=
  c = d ∨ (c.isUpper ∧ d.toNat = c.toNat + 32) ∨ (d.isUpper ∧ c.toNat = d.toNat + 32)

/-- A text is a copy of a literal, character by character. -/
def IsCopy (literal text : List Char) : Prop :=
  List.Forall₂ SameUpToCase literal text

/-- The characters that count as spaces. -/
def spaces : List Char := [' ', '\t', '\n', '\r', '\x0c', '\x0b']

/-- What a closing allows before the semicolon. -/
def Closing.Allows : Closing → List Char → Prop
  | .anything, between => '\n' ∉ between
  | .exact, between => ∀ c ∈ between, c ∈ spaces

/-- A line is a declaration of a package. -/
def IsDeclaration (closing : Closing) (keyword package line : List Char) : Prop :=
  ∃ keyword' gap package' between,
    line = keyword' ++ gap ++ package' ++ between ++ [';'] ∧
    IsCopy keyword keyword' ∧ gap ≠ [] ∧ (∀ c ∈ gap, c ∈ spaces) ∧
    IsCopy package package' ∧ closing.Allows between

/-! ### Characters -/

theorem isAsciiSpace_iff (c : Char) :
  isAsciiSpace c ↔ c ∈ spaces
  := by
  simp [isAsciiSpace, spaces, or_assoc]

/-- The code points of the ASCII capitals. -/
theorem capital_iff (c : Char) :
  c.val ≥ 'A'.val ∧ c.val ≤ 'Z'.val ↔ 65 ≤ c.toNat ∧ c.toNat ≤ 90
  := by
  simp [UInt32.le_iff_toNat_le]

theorem isUpper_iff (c : Char) :
  c.isUpper ↔ 65 ≤ c.toNat ∧ c.toNat ≤ 90
  := by
  rw [← capital_iff]
  apply decide_eq_true_iff

/-- The lower case of a character goes by its code point. -/
theorem toNat_toLower (c : Char) :
  c.toLower.toNat = lowerPoint c.toNat
  := by
  unfold Char.toLower lowerPoint
  split
  · rename_i hc
    have hc := (capital_iff c).mp hc
    rw [if_pos hc]
    change (c.val + 32).toNat = c.toNat + 32
    rw [UInt32.toNat_add]
    change (c.toNat + 32) % 2 ^ 32 = c.toNat + 32
    omega
  · rename_i hc
    rw [if_neg (mt (capital_iff c).mpr hc)]

/-- Without regard to case, one character stands for another when they are the same up to
the case of ASCII letters. -/
theorem standsFor_iff_sameUpToCase {m : Mode} (h : m.ignoreCase) (c d : Char) :
  m.StandsFor c.toNat d.toNat ↔ SameUpToCase c d
  := by
  simp only [Mode.StandsFor, SameUpToCase, h, true_and, isUpper_iff, Char.toNat_inj, and_assoc]

theorem sameFolded_iff (c d : Char) :
  sameFolded c d ↔ SameUpToCase c d
  := by
  let ignoring : Mode := ⟨true, false, false⟩
  have hpoint : ignoring.samePoint c.toNat d ↔ lowerPoint c.toNat = lowerPoint d.toNat := by
    simp [Mode.samePoint, ignoring]
  rw [← @standsFor_iff_sameUpToCase ignoring rfl, ← Mode.samePoint_iff, hpoint,
    ← toNat_toLower, ← toNat_toLower, Char.toNat_inj, sameFolded, beq_iff_eq]

/-- A copy is what agrees when all letters are small. -/
theorem isCopy_iff {literal text : List Char} :
  IsCopy literal text ↔ literal.map Char.toLower = text.map Char.toLower
  := by
  induction literal generalizing text with
  | nil => simp [IsCopy, eq_comm]
  | cons c literal ih =>
    cases text with
    | nil => simp [IsCopy]
    | cons d text =>
      rw [IsCopy, List.forall₂_cons, ← IsCopy, ih, ← sameFolded_iff, sameFolded, beq_iff_eq,
        List.map_cons, List.map_cons, List.cons.injEq]

/-! ### Taking off one part after another -/

/-- What follows a literal follows a copy of it. -/
theorem dropFolded?_eq_some_iff {literal text rest : List Char} :
  dropFolded? literal text = some rest ↔ ∃ copy, text = copy ++ rest ∧ IsCopy literal copy
  := by
  induction literal generalizing text with
  | nil =>
    rw [dropFolded?_nil, Option.some.injEq]
    constructor
    · rintro rfl
      exact ⟨[], rfl, .nil⟩
    · rintro ⟨copy, rfl, hcopy⟩
      obtain rfl := List.forall₂_nil_left_iff.mp hcopy
      rfl
  | cons c literal ih =>
    constructor
    · intro h
      cases text with
      | nil => cases h
      | cons d text =>
        rw [dropFolded?] at h
        split at h
        · rename_i hsame
          obtain ⟨copy, rfl, hcopy⟩ := ih.mp h
          exact ⟨d :: copy, rfl, .cons ((sameFolded_iff c d).mp hsame) hcopy⟩
        · cases h
    · rintro ⟨copy, rfl, hcopy⟩
      obtain ⟨d, copy, hsame, hrest, rfl⟩ := List.forall₂_cons_left_iff.mp hcopy
      rw [List.cons_append, dropFolded?, if_pos ((sameFolded_iff c d).mpr hsame)]
      apply ih.mpr ⟨copy, rfl, hrest⟩

/-- What may follow the spaces follows some of them, one at least. -/
theorem mem_afterSpaces_iff {text rest : List Char} :
  rest ∈ afterSpaces text
    ↔ ∃ gap, text = gap ++ rest ∧ gap ≠ [] ∧ ∀ c ∈ gap, c ∈ spaces
  := by
  induction text with
  | nil =>
    constructor
    · rintro ⟨⟩
    · rintro ⟨gap, hgap, hne, -⟩
      apply absurd (List.append_eq_nil_iff.mp hgap.symm).1 hne
  | cons c text ih =>
    rw [afterSpaces]
    constructor
    · intro h
      split at h
      · rename_i hspace
        have hspace := (isAsciiSpace_iff c).mp hspace
        obtain rfl | h := List.mem_cons.mp h
        · exact ⟨[c], rfl, by simp, by simp [hspace]⟩
        · obtain ⟨gap, rfl, -, hall⟩ := ih.mp h
          exact ⟨c :: gap, rfl, by simp, List.forall_mem_cons.mpr ⟨hspace, hall⟩⟩
      · cases h
    · rintro ⟨gap, hgap, hne, hall⟩
      obtain ⟨d, gap, rfl⟩ := List.exists_cons_of_ne_nil hne
      obtain ⟨rfl, rfl⟩ := List.cons.inj hgap
      obtain ⟨hspace, hall⟩ := List.forall_mem_cons.mp hall
      rw [if_pos ((isAsciiSpace_iff c).mpr hspace), List.mem_cons]
      by_cases hgap : gap = []
      · exact .inl (by rw [hgap]; rfl)
      · exact .inr (ih.mpr ⟨gap, rfl, hgap, hall⟩)

/-- A text closes a declaration when the semicolon follows what is allowed before it. -/
theorem Closing.accepts_iff (closing : Closing) (tail : List Char) :
  closing.accepts tail ↔ ∃ between, tail = between ++ [';'] ∧ closing.Allows between
  := by
  cases closing with
  | anything =>
    simp only [accepts, Allows, Bool.and_eq_true, beq_iff_eq, List.getLast?_eq_some_iff]
    constructor
    · rintro ⟨⟨between, rfl⟩, hall⟩
      rw [List.all_append, Bool.and_eq_true, List.all_eq_true] at hall
      refine ⟨between, rfl, fun hmem => ?_⟩
      apply absurd (hall.1 '\n' hmem) (by decide)
    · rintro ⟨between, rfl, hnone⟩
      refine ⟨⟨between, rfl⟩, ?_⟩
      rw [List.all_append, Bool.and_eq_true, List.all_eq_true]
      refine ⟨?_, by decide⟩
      intro c hc
      rw [bne_iff_ne]
      rintro rfl
      apply hnone hc
  | exact =>
    simp only [accepts, Allows, beq_iff_eq]
    constructor
    · intro h
      refine ⟨tail.takeWhile isAsciiSpace, ?_, ?_⟩
      · rw [← h, List.takeWhile_append_dropWhile]
      · intro c hc
        exact (isAsciiSpace_iff c).mp (List.mem_takeWhile_imp hc)
    · rintro ⟨between, rfl, hall⟩
      rw [List.dropWhile_append_of_pos]
      · rfl
      · intro c hc
        exact (isAsciiSpace_iff c).mpr (hall c hc)

/-- Taking the parts off one after the other finds every declaration and no other line. -/
theorem declares_iff (closing : Closing) (keyword package line : List Char) :
  declares closing keyword package line ↔ IsDeclaration closing keyword package line
  := by
  constructor
  · intro h
    rw [declares] at h
    split at h
    · cases h
    · rename_i afterKeyword hkeyword
      obtain ⟨keyword', rfl, hkeyword'⟩ := dropFolded?_eq_some_iff.mp hkeyword
      obtain ⟨afterGap, hgap, hrest⟩ := List.any_eq_true.mp h
      obtain ⟨gap, rfl, hne, hspaces⟩ := mem_afterSpaces_iff.mp hgap
      split at hrest
      · cases hrest
      · rename_i tail hpackage
        obtain ⟨package', rfl, hpackage'⟩ := dropFolded?_eq_some_iff.mp hpackage
        obtain ⟨between, rfl, hbetween⟩ := (closing.accepts_iff tail).mp hrest
        refine ⟨keyword', gap, package', between, ?_, hkeyword', hne, hspaces, hpackage',
          hbetween⟩
        simp only [List.append_assoc]
  · rintro ⟨keyword', gap, package', between, rfl, hkeyword', hne, hspaces, hpackage', hbetween⟩
    let tail := between ++ [';']
    have hkeyword : dropFolded? keyword (keyword' ++ (gap ++ (package' ++ tail)))
        = some (gap ++ (package' ++ tail)) := dropFolded?_eq_some_iff.mpr ⟨_, rfl, hkeyword'⟩
    have hgap : package' ++ tail ∈ afterSpaces (gap ++ (package' ++ tail)) :=
      mem_afterSpaces_iff.mpr ⟨gap, rfl, hne, hspaces⟩
    have hpackage : dropFolded? package (package' ++ tail) = some tail :=
      dropFolded?_eq_some_iff.mpr ⟨_, rfl, hpackage'⟩
    have htail : closing.accepts tail := (closing.accepts_iff tail).mpr ⟨_, rfl, hbetween⟩
    simp only [List.append_assoc]
    rw [declares, hkeyword]
    apply List.any_eq_true.mpr
    refine ⟨package' ++ tail, hgap, ?_⟩
    rw [hpackage]
    apply htail

/-! ### The written pattern -/

/-- The class of spaces. -/
def spaceClass : Expr := .oneOf false [.kind .space false]

/-- What an iteration between the package and the semicolon repeats. -/
def Closing.repeated : Closing → Expr
  | .anything => .any
  | .exact => spaceClass

/-- The expressions that the pattern for a declaration is read into. -/
def declarationItems (closing : Closing) (keyword package : List Char) : List Expr :=
  points keyword ++ [.iterate 1 none .greedy spaceClass] ++ points package
    ++ [.iterate 0 none .greedy closing.repeated] ++ points [';']

/-- What a closing repeats is read along with the semicolon behind it. -/
theorem readRest_repeated_semicolon (closing : Closing) (ps : List Expr) (start : Nat) :
  (Draft.between (ps ++ [closing.repeated])).readRest (['*'] ++ [';']) start
    = .ok (⟨true, false, false⟩,
        .ofSequence (ps ++ [.iterate 0 none .greedy closing.repeated] ++ points [';']))
  := by
  rw [Draft.readRest_repeated (.inl ⟨rfl, rfl⟩) _ _ (by simp) (by simp)]
  · change (Draft.between _).readRest (escape [';'] ++ []) _ = _
    rw [Draft.readRest_escape [';'] (by simp), Draft.readRest_nil]
  · cases closing <;> simp [Closing.repeated, spaceClass]
  · cases closing <;> simp [Closing.repeated, spaceClass]

/-- The rest of the pattern for a declaration, behind the package. -/
theorem readRest_closing (closing : Closing) (ps : List Expr) (start : Nat) :
  (Draft.between ps).readRest (closing.written ++ [';']) start
    = .ok (⟨true, false, false⟩,
        .ofSequence (ps ++ [.iterate 0 none .greedy closing.repeated] ++ points [';']))
  := by
  cases closing with
  | anything =>
    change (Draft.between ps).readRest (['.'] ++ (['*'] ++ [';'])) start = _
    rw [Draft.readRest_dot (by simp)]
    apply readRest_repeated_semicolon .anything ps _
  | exact =>
    change (Draft.between ps).readRest (['\\', 's'] ++ (['*'] ++ [';'])) start = _
    rw [Draft.readRest_space (by simp)]
    apply readRest_repeated_semicolon .exact ps _

/-- No character of the keyword or the package has a meaning of its own in the pattern. -/
theorem parse_declarationPattern (closing : Closing) (keyword package : List Char) :
  parse (declarationPattern closing keyword package)
    = .ok (⟨true, false, false⟩, .ofSequence (declarationItems closing keyword package))
  := by
  have htail : closing.written ++ [';'] ≠ ['\\'] := by
    cases closing <;> decide
  have hpackage := escape_append_ne_backslash package htail
  have hgap : ['\\', 's', '+'] ++ (escape package ++ (closing.written ++ [';'])) ≠ ['\\'] := by
    simp
  have hwhole : declarationPattern closing keyword package ≠ ['\\'] :=
    escape_append_ne_backslash keyword hgap
  -- what follows the plus sign of the gap must not make it frugal or possessive
  have hhead : ∀ c ∈ (escape package ++ (closing.written ++ [';'])).head?,
      c ≠ '?' ∧ c ≠ '+' := by
    intro c hc
    have hother : c = '\\' ∨ c ∉ specialChars ∨ c = '.' := by
      obtain hc | hc | hc := head?_escape_append hc
      · exact .inl hc
      · exact .inr (.inl hc)
      · cases closing with
        | anything =>
          cases hc
          exact .inr (.inr rfl)
        | exact =>
          cases hc
          exact .inl rfl
    constructor
    · rintro rfl
      revert hother
      decide
    · rintro rfl
      revert hother
      decide
  rw [Draft.parse_eq_readRest hwhole, declarationPattern, Draft.readRest_escape keyword hgap]
  change (Draft.between _).readRest (['\\', 's'] ++ (['+'] ++ _)) _ = _
  rw [Draft.readRest_space (by simp)]
  rw [Draft.readRest_repeated (.inr ⟨rfl, rfl⟩) (by simp) (by simp) hpackage hhead,
    Draft.readRest_escape package htail, readRest_closing]
  rfl

/-! ### The language of the pattern -/

/-- The characters that a closing allows. -/
def Closing.Repeats : Closing → Char → Prop
  | .anything, c => c ≠ '\n'
  | .exact, c => c ∈ spaces

theorem Closing.allows_iff (closing : Closing) (between : List Char) :
  closing.Allows between ↔ ∀ c ∈ between, closing.Repeats c
  := by
  cases closing with
  | anything =>
    constructor
    · rintro h c hc rfl
      apply h hc
    · exact fun h hmem => h '\n' hmem rfl
  | exact => exact Iff.rfl

theorem single_congr {P Q : Char → Prop} (h : ∀ c, P c ↔ Q c) :
  single P = single Q
  := by
  rw [funext fun c => propext (h c)]

theorem takes_spaceClass {m : Mode} :
  Takes (fun text => spaceClass.Spans text m) (single (· ∈ spaces))
  := by
  have hspace : ∀ c, ((∃ item ∈ [ClassItem.kind .space false], item.Has m c) ↔ ¬ false = true)
      ↔ c ∈ spaces := by
    intro c
    simp [ClassItem.Has, CharKind.holds, isAsciiSpace_iff]
  rw [← single_congr hspace]
  apply takes_one

theorem Closing.takes_repeated {m : Mode} (hm : m.dotAll = false) (closing : Closing) :
  Takes (fun text => closing.repeated.Spans text m) (single closing.Repeats)
  := by
  cases closing with
  | anything =>
    have hany : ∀ c, (m.dotAll ∨ c ≠ '\n') ↔ anything.Repeats c := by
      intro c
      simp [hm, Repeats]
    rw [← single_congr hany]
    apply takes_one
  | exact => exact takes_spaceClass

/-- A repeated expression, as a sequence of its own, takes runs. -/
theorem takes_iterate {m : Mode} {p : Expr} {P : Char → Prop}
    (h : Takes (fun text => p.Spans text m) (single P)) (least : Nat) :
  Takes (fun text => (Expr.ofSequence [.iterate least none .greedy p]).Spans text m)
    (runs P least)
  := h.iterate least

/-- The items of the pattern take the parts of a declaration one after the other. -/
theorem takes_declarationItems {m : Mode} (hm : m.dotAll = false) (closing : Closing)
    (keyword package : List Char) :
  Takes (fun text => (Expr.ofSequence (declarationItems closing keyword package)).Spans text m)
    (copiesOf m keyword * runs (· ∈ spaces) 1 * copiesOf m package * runs closing.Repeats 0
      * copiesOf m [';'])
  := by
  apply Takes.ofSequence_append _ (takes_points [';'])
  apply Takes.ofSequence_append _ (takes_iterate (closing.takes_repeated hm) 0)
  apply Takes.ofSequence_append _ (takes_points package)
  apply Takes.ofSequence_append (takes_points keyword)
  apply takes_iterate takes_spaceClass 1

theorem mem_copiesOf_iff {m : Mode} (hm : m.ignoreCase) {literal text : List Char} :
  text ∈ copiesOf m literal ↔ IsCopy literal text
  := by
  have h : (fun c d : Char => m.StandsFor c.toNat d.toNat) = SameUpToCase := by
    funext c d
    apply propext (standsFor_iff_sameUpToCase hm c d)
  rw [IsCopy, ← h]
  rfl

/-- A copy of one character is a character that is the same up to its case. -/
theorem isCopy_singleton_iff {c : Char} {text : List Char} :
  IsCopy [c] text ↔ ∃ d, SameUpToCase c d ∧ text = [d]
  := by
  simp [IsCopy, List.forall₂_cons_left_iff]

/-- A character that stands before all letters has no case. -/
theorem isCopy_singleton_iff_of_lt {c : Char} (hc : c.toNat < 65) {text : List Char} :
  IsCopy [c] text ↔ text = [c]
  := by
  have hsame : ∀ d, SameUpToCase c d ↔ d = c := by
    intro d
    rw [SameUpToCase, isUpper_iff, isUpper_iff, ← Char.toNat_inj, ← Char.toNat_inj]
    omega
  simp only [isCopy_singleton_iff, hsame, exists_eq_left]

theorem mem_declarationItems_iff {m : Mode} (hm : m.ignoreCase) (closing : Closing)
    (keyword package line : List Char) :
  line ∈ copiesOf m keyword * runs (· ∈ spaces) 1 * copiesOf m package
      * runs closing.Repeats 0 * copiesOf m [';']
    ↔ IsDeclaration closing keyword package line
  := by
  have hcopy : ∀ {literal text}, text ∈ copiesOf m literal ↔ IsCopy literal text :=
    mem_copiesOf_iff hm
  have hsemicolon : (';').toNat < 65 := by decide
  simp only [Language.mem_mul, hcopy, isCopy_singleton_iff_of_lt hsemicolon]
  constructor
  · rintro ⟨_, ⟨_, ⟨_, ⟨keyword', hkeyword, gap, hgap, rfl⟩, package', hpackage, rfl⟩, between,
      hbetween, rfl⟩, _, rfl, rfl⟩
    refine ⟨keyword', gap, package', between, rfl, hkeyword, ?_, hgap.2, hpackage, ?_⟩
    · apply List.ne_nil_of_length_pos hgap.1
    · exact (closing.allows_iff between).mpr hbetween.2
  · rintro ⟨keyword', gap, package', between, rfl, hkeyword, hne, hgap, hpackage, hbetween⟩
    have hlength : 1 ≤ gap.length := List.length_pos_iff.mpr hne
    have hruns : ∀ c ∈ between, closing.Repeats c := (closing.allows_iff between).mp hbetween
    exact ⟨_, ⟨_, ⟨_, ⟨keyword', hkeyword, gap, ⟨hlength, hgap⟩, rfl⟩, package', hpackage, rfl⟩,
      between, ⟨Nat.zero_le _, hruns⟩, rfl⟩, _, rfl, rfl⟩

theorem isPlain_ofSequence {ps : List Expr} (h : ∀ p ∈ ps, p.isPlain) :
  (Expr.ofSequence ps).isPlain
  := by
  induction ps with
  | nil => rfl
  | cons p ps ih =>
    obtain ⟨hp, hps⟩ := List.forall_mem_cons.mp h
    cases ps with
    | nil => exact hp
    | cons q qs =>
      simp only [Expr.ofSequence, Expr.isPlain, Bool.and_eq_true]
      exact ⟨hp, ih hps⟩

theorem isPlain_of_mem_declarationItems {closing : Closing} {keyword package : List Char}
    {p : Expr} (h : p ∈ declarationItems closing keyword package) :
  p.isPlain
  := by
  have hpoints : ∀ literal, p ∈ points literal → p.isPlain := by
    intro literal hp
    obtain ⟨c, -, rfl⟩ := List.mem_map.mp hp
    rfl
  simp only [declarationItems, List.mem_append, List.mem_singleton] at h
  obtain (((h | rfl) | h) | rfl) | h := h
  · apply hpoints _ h
  · rfl
  · apply hpoints _ h
  · cases closing <;> rfl
  · apply hpoints _ h

/-- The expression that the pattern is read into matches the declarations as a whole, and no
other lines. -/
theorem matchesAll_declarationItems_iff (closing : Closing)
    (keyword package line : List Char) :
  (Expr.ofSequence (declarationItems closing keyword package)).matchesAll
      ⟨true, false, false⟩ line
    ↔ IsDeclaration closing keyword package line
  := by
  have hplain : (Expr.ofSequence (declarationItems closing keyword package)).isPlain :=
    isPlain_ofSequence fun p hp => isPlain_of_mem_declarationItems hp
  obtain ⟨-, hbounded⟩ := parse_isSound (parse_declarationPattern closing keyword package)
  rw [Expr.matchesAll_iff hplain hbounded,
    language_eq_of_takes (takes_declarationItems rfl closing keyword package)]
  apply mem_declarationItems_iff rfl closing keyword package line

namespace Config

/-- The pattern for the declarations of a package can be read, and a line matches it as a
whole, or is found to declare the package, exactly when it splits into a copy of the keyword,
spaces, a copy of the package, what the closing allows and a semicolon. -/
theorem declares_iff_isDeclaration (config : Config) (package : String) :
  ∃ p, NamePattern.ofString (config.declarationPattern package) = .ok p ∧
    ∀ line : List Char,
      (p.expr.matchesAll p.mode line
        ↔ IsDeclaration config.closing config.keyword.toList package.toList line) ∧
      (config.declares package line
        ↔ IsDeclaration config.closing config.keyword.toList package.toList line)
  := by
  have hparse := parse_declarationPattern config.closing config.keyword.toList package.toList
  refine ⟨⟨config.declarationPattern package, ⟨true, false, false⟩,
    .ofSequence (declarationItems config.closing config.keyword.toList package.toList)⟩, ?_, ?_⟩
  · rw [NamePattern.ofString, declarationPattern, String.toList_ofList, hparse]
    rfl
  · intro line
    exact ⟨matchesAll_declarationItems_iff _ _ _ line, declares_iff _ _ _ line⟩

end Config

end SourceLocator
