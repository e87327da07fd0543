import Mathlib.Computability.Language
import SourceLocator.Proofs.Search

/-!
# The words an expression takes

Where an expression tests no positions, its spans are a matter of the characters inside them.
`Takes` says so of a family of relations, one for each text: those that begin behind some
part of a text are exactly the words of a language that stand there.  A sequence takes a
product of languages and an iteration takes powers of one.  An expression that takes a
language has that language (`language_eq_of_takes`).
-/

namespace SourceLocator.NamePattern

/-- From any position of any text on, the words of a language are spanned and no others. -/
def Takes (R : Array Char → Nat → Nat → Prop) (L : Language Char) : Prop :=
  ∀ (before rest : List Char) (j : Nat),
    R (before ++ rest).toArray before.length j
      ↔ ∃ w ∈ L, ∃ after, rest = w ++ after ∧ j = before.length + w.length

/-- The single characters of a kind. -/
def single (P : Char → Prop) : Language Char :=
  { w | ∃ c, P c ∧ w = [c] }

/-- The words with so many characters or more, all of them of a kind. -/
def runs (P : Char → Prop) (least : Nat) : Language Char :=
  { w | least ≤ w.length ∧ ∀ c ∈ w, P c }

/-- The words that are character by character what a literal stands for. -/
def copiesOf (m : Mode) (literal : List Char) : Language Char :=
  { w | List.Forall₂ (fun c d => m.StandsFor c.toNat d.toNat) literal w }

theorem mem_single_pow {P : Char → Prop} {n : Nat} {w : List Char} :
  w ∈ single P ^ n ↔ w.length = n ∧ ∀ c ∈ w, P c
  := by
  induction n generalizing w with
  | zero =>
    rw [pow_zero, Language.mem_one, List.length_eq_zero_iff]
    constructor
    · rintro rfl
      exact ⟨rfl, by simp⟩
    · exact fun h => h.1
  | succ n ih =>
    rw [pow_succ', Language.mem_mul]
    constructor
    · rintro ⟨_, ⟨c, hc, rfl⟩, rest, hrest, rfl⟩
      obtain ⟨hlength, hall⟩ := ih.mp hrest
      constructor
      · rw [List.singleton_append, List.length_cons, hlength]
      · apply List.forall_mem_cons.mpr ⟨hc, hall⟩
    · rintro ⟨hlength, hall⟩
      cases w with
      | nil => cases hlength
      | cons c rest =>
        rw [List.forall_mem_cons] at hall
        refine ⟨[c], ⟨c, hall.1, rfl⟩, rest, ?_, rfl⟩
        apply ih.mpr ⟨Nat.succ.inj hlength, hall.2⟩

/-! ### Relations -/

theorem takes_nothing :
  Takes (fun _ i j => i = j) 1
  := by
  intro before rest j
  constructor
  · rintro rfl
    exact ⟨[], rfl, rest, rfl, rfl⟩
  · rintro ⟨w, hw, after, -, rfl⟩
    obtain rfl : w = [] := hw
    rfl

theorem takes_one {P : Char → Prop} :
  Takes (fun text i j => ∃ c, text[i]? = some c ∧ P c ∧ j = i + 1) (single P)
  := by
  intro before rest j
  have hat : (before ++ rest).toArray[before.length]? = rest.head? := by
    rw [List.getElem?_toArray, List.getElem?_append_right (Nat.le_refl _), Nat.sub_self,
      List.head?_eq_getElem?]
  simp only [hat]
  constructor
  · rintro ⟨c, hhead, hc, rfl⟩
    obtain ⟨after, rfl⟩ := List.head?_eq_some_iff.mp hhead
    exact ⟨[c], ⟨c, hc, rfl⟩, after, rfl, rfl⟩
  · rintro ⟨w, ⟨c, hc, rfl⟩, after, rfl, rfl⟩
    exact ⟨c, rfl, hc, rfl⟩

section Takes

variable {R S : Array Char → Nat → Nat → Prop} {L M : Language Char}

theorem Takes.of_iff (h : ∀ text i j, R text i j ↔ S text i j) (hS : Takes S L) :
  Takes R L
  := by
  intro before rest j
  rw [h]
  apply hS before rest j

theorem Takes.seq (hR : Takes R L) (hS : Takes S M) :
  Takes (fun text i j => ∃ k, R text i k ∧ S text k j) (L * M)
  := by
  intro before rest j
  constructor
  · rintro ⟨k, hk, hj⟩
    obtain ⟨v, hv, middle, rfl, rfl⟩ := (hR before rest k).mp hk
    rw [← List.append_assoc, ← List.length_append] at hj
    obtain ⟨w, hw, after, rfl, rfl⟩ := (hS (before ++ v) middle j).mp hj
    refine ⟨v ++ w, Language.mem_mul.mpr ⟨v, hv, w, hw, rfl⟩, after, ?_, ?_⟩
    · rw [List.append_assoc]
    · rw [List.length_append, List.length_append, Nat.add_assoc]
  · rintro ⟨_, hvw, after, rfl, rfl⟩
    obtain ⟨v, hv, w, hw, rfl⟩ := Language.mem_mul.mp hvw
    refine ⟨before.length + v.length, ?_, ?_⟩
    · exact (hR _ _ _).mpr ⟨v, hv, w ++ after, List.append_assoc _ _ _, rfl⟩
    · have hj := (hS (before ++ v) (w ++ after) _).mpr ⟨w, hw, after, rfl, rfl⟩
      rw [List.length_append, List.append_assoc] at hj
      rwa [List.append_assoc, List.length_append, ← Nat.add_assoc]

theorem Takes.copies (h : Takes R L) (n : Nat) :
  Takes (fun text => Copies (R text) n) (L ^ n)
  := by
  induction n with
  | zero => exact takes_nothing
  | succ n ih =>
    rw [pow_succ']
    apply h.seq ih

/-- An unbounded iteration of single characters takes the runs of them. -/
theorem Takes.iterate {P : Char → Prop} (h : Takes R (single P)) (least : Nat) :
  Takes (fun text i j => ∃ n, least ≤ n ∧ (∀ bound ∈ (none : Option Nat), n ≤ bound) ∧
    Copies (R text) n i j) (runs P least)
  := by
  intro before rest j
  constructor
  · rintro ⟨n, hn, -, hcopies⟩
    obtain ⟨w, hw, after, hrest, hj⟩ := (h.copies n before rest j).mp hcopies
    obtain ⟨rfl, hall⟩ := mem_single_pow.mp hw
    exact ⟨w, ⟨hn, hall⟩, after, hrest, hj⟩
  · rintro ⟨w, ⟨hlength, hall⟩, after, hrest, hj⟩
    refine ⟨w.length, hlength, by simp, ?_⟩
    apply (h.copies w.length before rest j).mpr
    exact ⟨w, mem_single_pow.mpr ⟨rfl, hall⟩, after, hrest, hj⟩

end Takes

/-! ### Expressions -/

section Expr

variable {m : Mode} {L M : Language Char}

/-- An expression has the language that it takes. -/
theorem language_eq_of_takes {p : Expr} (h : Takes (fun text => p.Spans text m) L) :
  p.language m = L
  := by
  ext text
  have hspans := h [] text text.length
  simp only [List.nil_append, List.length_nil, Nat.zero_add] at hspans
  constructor
  · intro htext
    obtain ⟨w, hw, after, rfl, hlength⟩ := hspans.mp htext
    rw [List.length_append, Nat.add_eq_left, List.length_eq_zero_iff] at hlength
    rwa [hlength, List.append_nil]
  · intro htext
    apply hspans.mpr ⟨text, htext, [], (List.append_nil text).symm, rfl⟩

theorem spans_ofSequence_cons {text : Array Char} {p : Expr} {ps : List Expr} {i j : Nat} :
  (Expr.ofSequence (p :: ps)).Spans text m i j
    ↔ ∃ k, p.Spans text m i k ∧ (Expr.ofSequence ps).Spans text m k j
  := by
  cases ps with
  | nil => simp [Expr.ofSequence, Expr.Spans]
  | cons q qs => rfl

theorem spans_ofSequence_append {text : Array Char} {ps qs : List Expr} {i j : Nat} :
  (Expr.ofSequence (ps ++ qs)).Spans text m i j
    ↔ ∃ k, (Expr.ofSequence ps).Spans text m i k ∧ (Expr.ofSequence qs).Spans text m k j
  := by
  induction ps generalizing i with
  | nil => simp [Expr.ofSequence, Expr.Spans]
  | cons p ps ih =>
    rw [List.cons_append, spans_ofSequence_cons]
    simp only [ih, spans_ofSequence_cons]
    constructor
    · rintro ⟨k, hk, l, hl, hj⟩
      exact ⟨l, ⟨k, hk, hl⟩, hj⟩
    · rintro ⟨l, ⟨k, hk, hl⟩, hj⟩
      exact ⟨k, hk, l, hl, hj⟩

/-- Sequences one after the other take a product. -/
theorem Takes.ofSequence_append {ps qs : List Expr}
    (hp : Takes (fun text => (Expr.ofSequence ps).Spans text m) L)
    (hq : Takes (fun text => (Expr.ofSequence qs).Spans text m) M) :
  Takes (fun text => (Expr.ofSequence (ps ++ qs)).Spans text m) (L * M)
  := by
  apply Takes.of_iff _ (hp.seq hq)
  intro text i j
  apply spans_ofSequence_append

/-- The expressions for the characters of a literal. -/
def points (literal : List Char) : List Expr :=
  literal.map fun c => .point c.toNat

theorem copiesOf_nil :
  copiesOf m [] = 1
  := by
  ext w
  apply List.forall₂_nil_left_iff

theorem copiesOf_cons (c : Char) (literal : List Char) :
  copiesOf m (c :: literal)
    = single (fun d => m.StandsFor c.toNat d.toNat) * copiesOf m literal
  := by
  ext w
  rw [Language.mem_mul]
  constructor
  · intro hw
    obtain ⟨d, rest, hd, hrest, rfl⟩ := List.forall₂_cons_left_iff.mp hw
    exact ⟨[d], ⟨d, hd, rfl⟩, rest, hrest, rfl⟩
  · rintro ⟨_, ⟨d, hd, rfl⟩, rest, hrest, rfl⟩
    exact List.Forall₂.cons hd hrest

/-- A literal takes its copies, up to the case of letters where the mode says so. -/
theorem takes_points (literal : List Char) :
  Takes (fun text => (Expr.ofSequence (points literal)).Spans text m) (copiesOf m literal)
  := by
  induction literal with
  | nil =>
    rw [copiesOf_nil]
    apply takes_nothing
  | cons c literal ih =>
    rw [copiesOf_cons]
    apply Takes.of_iff _ (takes_one.seq ih)
    intro text i j
    apply spans_ofSequence_cons

end Expr

end SourceLocator.NamePattern
