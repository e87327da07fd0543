import Mathlib.Data.List.Induction
import SourceLocator.Proofs.PatternReading

/-!
# How bounds are read

A draft is clear when it does not wait for the bounds of an iteration.  Every way of reading
on from a clear draft leads to a clear one or refuses the pattern, and never for a count that
is too large to be kept; only a brace that begins an item opens bounds, and only a token that
continues them keeps them open (`Draft.step_cases`).  So when bounds are waited for, the tokens
end in a brace that opened them and in what has been read of them
(`Draft.exists_of_foldlM_bounds`).
-/

namespace SourceLocator.NamePattern

/-- A draft does not wait for the bounds of an iteration. -/
def Draft.IsClear (s : Draft) : Prop :=
  ∀ start low high, s.pending ≠ .bounds start low high

/-- A way of reading on that leads to a clear draft, or refuses the pattern for something other
than a count that is too large to be kept. -/
def StaysClear : Except Rejection Draft → Prop
  | .ok s => s.IsClear
  | .error r => r ≠ .countTooLarge

@[simp]
theorem staysClear_ok {s : Draft} :
  StaysClear (.ok s) ↔ s.IsClear
  := Iff.rfl

@[simp]
theorem staysClear_error {r : Rejection} :
  StaysClear (.error r) ↔ r ≠ .countTooLarge
  := Iff.rfl

@[simp]
theorem staysClear_flawed (flaw : Flaw) (position : Nat) :
  StaysClear (flawed flaw position)
  := by
  rintro ⟨⟩

theorem StaysClear.bind {r : Except Rejection Draft} {f : Draft → Except Rejection Draft}
    (h : StaysClear r) (hf : ∀ s : Draft, s.IsClear → StaysClear (f s)) :
  StaysClear (r.bind f)
  := by
  cases r with
  | error e => exact h
  | ok s => exact hf s h

theorem staysClear_ite {c : Prop} [Decidable c] {r r' : Except Rejection Draft}
    (h : StaysClear r) (h' : StaysClear r') :
  StaysClear (if c then r else r')
  := by
  split
  · apply h
  · apply h'

/-- A check may refuse the pattern, but not for a count that is too large to be kept. -/
def IsCheck {α : Type} (r : Except Rejection α) : Prop :=
  r ≠ .error .countTooLarge

@[simp]
theorem isCheck_ok {α : Type} (a : α) :
  IsCheck (.ok a : Except Rejection α)
  := by
  rintro ⟨⟩

@[simp]
theorem isCheck_flawed {α : Type} (flaw : Flaw) (position : Nat) :
  IsCheck (flawed flaw position : Except Rejection α)
  := by
  rintro ⟨⟩

theorem IsCheck.bind {α β : Type} {r : Except Rejection α} {f : α → Except Rejection β}
    (h : IsCheck r) (hf : ∀ a, IsCheck (f a)) :
  IsCheck (r.bind f)
  := by
  cases r with
  | error e =>
    rintro ⟨⟩
    apply h rfl
  | ok a => exact hf a

theorem IsCheck.staysClear_bind {α : Type} {r : Except Rejection α}
    {f : α → Except Rejection Draft} (h : IsCheck r) (hf : ∀ a, StaysClear (f a)) :
  StaysClear (r.bind f)
  := by
  cases r with
  | error e =>
    rintro rfl
    apply h rfl
  | ok a => exact hf a

theorem IsCheck.staysClear_map {α : Type} {r : Except Rejection α} {f : α → Draft}
    (h : IsCheck r) (hf : ∀ a, (f a).IsClear) :
  StaysClear (r.map f)
  := h.staysClear_bind hf

theorem Token.text_of_char? {t : Token} {c : Char} (h : t.char? = some c) :
  t.text = [c]
  := by
  rw [Token.char?] at h
  split at h
  · rename_i d hd
    rw [hd, Option.some.inj h]
  · cases h

theorem Token.charIf?_isSome_iff {t : Token} {test : Char → Bool} :
  (t.charIf? test).isSome ↔ ∃ c, test c ∧ t.text = [c]
  := by
  rw [Token.charIf?, Token.char?]
  split
  case h_1 c ht =>
    rw [ht]
    simp [Option.filter]
  case h_2 hother =>
    simp only [Option.filter_none, Option.isSome_none, Bool.false_eq_true, false_iff]
    rintro ⟨c, -, ht⟩
    exact hother c ht

/-! ### Counts -/

/-- A count is too large to be kept, though it can be read. -/
def IsTooLarge (digits : List Char) : Prop :=
  digits.length ≤ longestNumber ∧ countBound ≤ numberIn 10 digits

/-- A count can be kept. -/
def IsKept (digits : List Char) : Prop :=
  digits.length ≤ longestNumber ∧ numberIn 10 digits < countBound

/-- The first count of some bounds that cannot be kept is too large. -/
def AreTooLarge (low : List Char) (high : Option (List Char)) : Prop :=
  IsTooLarge low ∨ IsKept low ∧ ∃ digits ∈ high, IsTooLarge digits

theorem not_isTooLarge_nil :
  ¬ IsTooLarge []
  := by
  simp [IsTooLarge, numberIn, countBound]

theorem count_cases (digits : List Char) :
  (∃ n, count digits = .error (.countTooLong n)) ∧ ¬ IsTooLarge digits ∧ ¬ IsKept digits ∨
    count digits = .error .countTooLarge ∧ IsTooLarge digits ∧ ¬ IsKept digits ∨
    count digits = .ok (numberIn 10 digits) ∧ ¬ IsTooLarge digits ∧ IsKept digits
  := by
  rw [count, IsTooLarge, IsKept]
  split
  case isTrue hlong => exact .inl ⟨⟨_, rfl⟩, by omega, by omega⟩
  case isFalse hlong =>
    split
    case isTrue hlarge => exact .inr (.inl ⟨rfl, by omega, by omega⟩)
    case isFalse hlarge => exact .inr (.inr ⟨rfl, by omega, by omega⟩)

/-- Bounds as they are written between the braces. -/
def boundsText (low : List Char) (high : Option (List Char)) : List Char :=
  low ++ (high.map fun digits => ',' :: digits).getD []

/-- Counts are written in digits. -/
def AreDigits (low : List Char) (high : Option (List Char)) : Prop :=
  (∀ c ∈ low, c.isDigit) ∧ ∀ digits ∈ high, ∀ c ∈ digits, c.isDigit

namespace Draft

open Text

variable {s : Draft}

theorem isClear_or_bounds (s : Draft) :
  s.IsClear ∨ ∃ start low high, s.pending = .bounds start low high
  := by
  unfold IsClear
  cases s.pending <;> simp

/-! ### Extending a draft -/

@[simp]
theorem isClear_await {pending : Pending} :
  (s.await pending).IsClear ↔ ∀ start low high, pending ≠ .bounds start low high
  := Iff.rfl

@[simp]
theorem isClear_push (p : Expr) :
  (s.push p).IsClear
  := by
  rintro start low high ⟨⟩

@[simp]
theorem isClear_enter (opening : Opening) (start : Nat) (verbose : Bool) :
  (s.enter opening start verbose).IsClear
  := by
  rintro start low high ⟨⟩

@[simp]
theorem isCheck_checkBehind (index position : Nat) :
  IsCheck (s.checkBehind index position)
  := by
  rw [checkBehind]
  repeat' split
  all_goals simp

/-- A reference to a group is an item, unless it stands where it may not. -/
@[simp]
theorem staysClear_again (index position : Nat) :
  StaysClear ((s.checkBehind index position).map fun _ => s.push (.again index))
  := (isCheck_checkBehind _ _).staysClear_map fun _ => isClear_push _

@[simp]
theorem staysClear_enterCapture (name : Option (List Char)) (start nameStart : Nat) :
  StaysClear (s.enterCapture name start nameStart)
  := by
  unfold enterCapture
  repeat' split
  · rintro start low high ⟨⟩
  · simp
  · rintro start low high ⟨⟩

/-! ### Escapes and classes -/

@[simp]
theorem staysClear_closeRange (d : ClassDraft) (first last : ClassItem)
    (firstText lastText : List Char) (position : Nat) :
  StaysClear (s.closeRange d first last firstText lastText position)
  := by
  unfold closeRange
  dsimp only
  repeat' split
  all_goals simp

@[simp]
theorem staysClear_place (p : Place) (code : ClassItem) (text : List Char) (position : Nat) :
  StaysClear (s.place p code text position)
  := by
  unfold place
  repeat' split
  all_goals simp

@[simp]
theorem staysClear_escapeAnywhere (p : Place) (t : Token) (c : Char) :
  StaysClear (s.escapeAnywhere p t c)
  := by
  rw [escapeAnywhere]
  repeat' split
  all_goals simp

@[simp]
theorem staysClear_escapeItem (t : Token) (c : Char) :
  StaysClear (s.escapeItem t c)
  := by
  rw [escapeItem]
  repeat' split
  all_goals simp

@[simp]
theorem staysClear_escapeMember (p : Place) (t : Token) (c : Char) :
  StaysClear (s.escapeMember p t c)
  := by
  rw [escapeMember]
  split <;> simp

@[simp]
theorem staysClear_closeHex (start : Nat) (p : Place) (letter : Char) (digits : List Char)
    (position : Nat) :
  StaysClear (s.closeHex start p letter digits position)
  := by
  unfold closeHex
  dsimp only
  split <;> simp

@[simp]
theorem staysClear_closeOctal (start : Nat) (p : Place) (digits : List Char) (position : Nat) :
  StaysClear (s.closeOctal start p digits position)
  := by
  unfold closeOctal
  dsimp only
  split <;> simp

@[simp]
theorem staysClear_closeNumber (start : Nat) (digits : List Char) (position : Nat) :
  StaysClear (s.closeNumber start digits position)
  := by
  unfold closeNumber
  dsimp only
  repeat' split
  all_goals simp

theorem staysClear_readHex (start : Nat) (p : Place) (letter : Char) (digits : List Char)
    (wanted : Nat) (t : Token) :
  StaysClear (s.readHex start p letter digits wanted t)
  := by
  unfold readHex
  dsimp only
  split <;> simp

theorem staysClear_readOctal (start : Nat) (p : Place) (digits : List Char) (more : Nat)
    (t : Token) :
  StaysClear (s.readOctal start p digits more t)
  := by
  rw [readOctal]
  split <;> simp

theorem staysClear_readNumber (start : Nat) (digits : List Char) (t : Token) :
  StaysClear (s.readNumber start digits t)
  := by
  rw [readNumber]
  split <;> simp

theorem staysClear_readMember (h : s.IsClear) (d : ClassDraft) (t : Token) :
  StaysClear (s.readMember d t)
  := by
  rw [readMember]
  repeat' split
  all_goals simp [closeClass, h]

theorem staysClear_readRangeEnd (h : s.IsClear) (d : ClassDraft) (first : ClassItem)
    (firstText : List Char) (t : Token) :
  StaysClear (s.readRangeEnd d first firstText t)
  := by
  rw [readRangeEnd]
  repeat' split
  all_goals simp [closeClass, h]

/-! ### Groups -/

@[simp]
theorem isClear_enterPlain (opening : Opening) (start : Nat) :
  (s.enterPlain opening start).IsClear
  := isClear_enter _ _ _

@[simp]
theorem isClear_enterBehind (negated : Bool) (start : Nat) :
  (s.enterBehind negated start).IsClear
  := by
  rintro start low high ⟨⟩

@[simp]
theorem isClear_enterScoped (on off : List Flag) (start : Nat) :
  (s.enterScoped on off start).IsClear
  := isClear_enter _ _ _

@[simp]
theorem staysClear_turnOn (start : Nat) (on : List Flag) (flag : Flag) (position : Nat) :
  StaysClear (s.turnOn start on flag position)
  := by
  rw [turnOn]
  split <;> simp

@[simp]
theorem staysClear_turnOff (start : Nat) (on off : List Flag) (flag : Flag) (position : Nat) :
  StaysClear (s.turnOff start on off flag position)
  := by
  rw [turnOff]
  split <;> simp

@[simp]
theorem staysClear_setGlobal (start : Nat) (on : List Flag) :
  StaysClear (s.setGlobal start on)
  := by
  unfold setGlobal
  split
  · simp
  · rintro start low high ⟨⟩

theorem staysClear_readFlagOn (start : Nat) (on : List Flag) (t : Token) :
  StaysClear (s.readFlagOn start on t)
  := by
  rw [readFlagOn]
  repeat' split
  all_goals simp

theorem staysClear_readFlagOff (start : Nat) (on off : List Flag) (t : Token) :
  StaysClear (s.readFlagOff start on off t)
  := by
  rw [readFlagOff]
  repeat' split
  all_goals simp

theorem staysClear_readGroupKind (start : Nat) (t : Token) :
  StaysClear (s.readGroupKind start t)
  := by
  rw [readGroupKind]
  repeat' split
  all_goals simp

theorem staysClear_readGroupNamed (start : Nat) (t : Token) :
  StaysClear (s.readGroupNamed start t)
  := by
  rw [readGroupNamed]
  repeat' split
  all_goals simp

theorem staysClear_readGroupBehind (start : Nat) (t : Token) :
  StaysClear (s.readGroupBehind start t)
  := by
  rw [readGroupBehind]
  repeat' split
  all_goals simp

@[simp]
theorem staysClear_enterChoice (start : Nat) (name : List Char) (nameStart position : Nat) :
  StaysClear (s.enterChoice start name nameStart position)
  := by
  have hopen : ∀ (index : Nat) (s : Draft),
      StaysClear ((s.checkBehind index position).bind fun _ =>
        .ok (s.enterPlain (.choice index none) start)) :=
    fun index s => (isCheck_checkBehind _ _).staysClear_bind fun _ => isClear_enterPlain _ _
  rw [enterChoice]
  split
  · split
    · apply hopen
    · apply staysClear_flawed
  · split
    · apply staysClear_flawed
    · apply staysClear_flawed
    · split
      · apply staysClear_flawed
      · split
        · apply hopen
        · apply hopen

@[simp]
theorem staysClear_closeName (use : NameUse) (nameStart : Nat) (name : List Char)
    (position : Nat) :
  StaysClear (s.closeName use nameStart name position)
  := by
  unfold closeName
  repeat' split
  all_goals simp

theorem staysClear_readName (use : NameUse) (nameStart : Nat) (read : List Char) (t : Token) :
  StaysClear (s.readName use nameStart read t)
  := by
  rw [readName]
  repeat' split
  all_goals simp

theorem isClear_leave (h : s.IsClear) (around : Frame) (outer : List Frame) :
  (s.leave around outer).IsClear
  := by
  unfold leave
  dsimp only
  split
  case h_1 => exact h
  all_goals simp

@[simp]
theorem staysClear_branch (position : Nat) :
  StaysClear (s.branch position)
  := by
  unfold branch
  dsimp only
  split
  case h_2 => simp
  all_goals rintro start low high ⟨⟩

/-! ### Iterations and their bounds -/

@[simp]
theorem staysClear_iterate (min : Nat) (max : Option Nat) (position : Nat) :
  StaysClear (s.iterate min max position)
  := by
  rw [iterate]
  split <;> simp

@[simp]
theorem isClear_closeIterated (min : Nat) (max : Option Nat) (greed : Greed) :
  (s.closeIterated min max greed).IsClear
  := by
  rw [closeIterated]
  split <;> simp

@[simp]
theorem isClear_spillBounds (low : List Char) (high : Option (List Char)) :
  (s.spillBounds low high).IsClear
  := by
  have hpush : ∀ (written : List Char) (s : Draft), s.IsClear →
      (written.foldl (fun s c => s.push (.point c.toNat)) s).IsClear := by
    intro written
    induction written with
    | nil => exact fun _ h => h
    | cons c written ih => exact fun s _ => ih _ (isClear_push _)
  rw [spillBounds, List.foldl_cons]
  apply hpush _ _ (isClear_push _)

/-- Digits continue bounds, so does a comma before a second count, and so does a brace behind
any of them. -/
theorem continuesBounds_iff {low : List Char} {high : Option (List Char)} {t : Token} :
  continuesBounds low high t ↔
    (∃ c : Char, c.isDigit ∧ t.text = [c]) ∨ t.text = [','] ∧ high = none ∨
      t.text = ['}'] ∧ (low ≠ [] ∨ high ≠ none)
  := by
  cases high <;> simp [continuesBounds, Token.charIf?_isSome_iff, Token.is, or_assoc]

/-- Bounds of which more digits have been read, which are kept backwards. -/
def boundsWith (start : Nat) (digits low : List Char) : Option (List Char) → Pending
  | none => .bounds start (digits ++ low) none
  | some high => .bounds start low (some (digits ++ high))

theorem readBounds_digit {start : Nat} {low : List Char} {high : Option (List Char)} {t : Token}
    {c : Char} (hc : c.isDigit) (ht : t.text = [c]) :
  s.readBounds start low high t = .ok (s.await (boundsWith start [c] low high))
  := by
  have hother : ∀ d : Char, ¬ d.isDigit → t.is d = false := by
    intro d hd
    apply beq_false_of_ne
    rw [ht]
    rintro ⟨⟩
    exact hd hc
  unfold readBounds
  rw [hother '}' (by decide), hother ',' (by decide), ht]
  cases high <;> rfl

theorem readBounds_comma {start : Nat} {low : List Char} {high : Option (List Char)} {t : Token}
    (ht : t.text = [',']) :
  s.readBounds start low high t = .ok (s.await (.bounds start low (some [])))
  := by
  have hclose : t.is '}' = false := by
    rw [Token.is, ht]
    rfl
  have hcomma : t.is ',' := by
    rw [Token.is, ht]
    rfl
  unfold readBounds
  rw [hclose, hcomma]
  rfl

theorem readBounds_close {start : Nat} {low : List Char} {high : Option (List Char)} {t : Token}
    (ht : t.text = ['}']) :
  s.readBounds start low high t = s.closeBounds start low high
  := by
  unfold readBounds
  rw [Token.is, ht]
  rfl

/-- The end of bounds is refused for a count that is too large to be kept, or closes them. -/
theorem closeBounds_cases (start : Nat) (low : List Char) (high : Option (List Char)) :
  s.closeBounds start low high = .error .countTooLarge ∧
      AreTooLarge low.reverse (high.map List.reverse) ∨
    StaysClear (s.closeBounds start low high) ∧
      ¬ AreTooLarge low.reverse (high.map List.reverse)
  := by
  rw [closeBounds]
  obtain ⟨⟨n, hlow⟩, hfits, hnot⟩ | ⟨hlow, hlarge, -⟩ | ⟨hlow, hfits, hkept⟩ :=
    count_cases low.reverse
  · rw [hlow]
    exact .inr ⟨by simp, by simp [AreTooLarge, hfits, hnot]⟩
  · rw [hlow]
    exact .inl ⟨rfl, .inl hlarge⟩
  · rw [hlow]
    cases high with
    | none =>
      refine .inr ⟨?_, by simp [AreTooLarge, hfits]⟩
      simp only [Option.getD_none, hlow]
      repeat' split
      all_goals simp
    | some digits =>
      simp only [Option.getD_some]
      split
      case isTrue hnone =>
        obtain rfl := List.isEmpty_iff.mp hnone
        exact .inr ⟨by simp, by simp [AreTooLarge, hfits, not_isTooLarge_nil]⟩
      case isFalse =>
        obtain ⟨⟨n, hhigh⟩, hfits', -⟩ | ⟨hhigh, hlarge, -⟩ | ⟨hhigh, hfits', -⟩ :=
          count_cases digits.reverse
        · rw [hhigh]
          exact .inr ⟨by simp, by simp [AreTooLarge, hfits, hfits']⟩
        · rw [hhigh]
          exact .inl ⟨rfl, .inr ⟨hkept, _, rfl, hlarge⟩⟩
        · rw [hhigh]
          refine .inr ⟨?_, by simp [AreTooLarge, hfits, hfits']⟩
          dsimp only
          split <;> simp

/-- A token that continues bounds adds its text to them, or ends them. -/
theorem readBounds_cases {low : List Char} {high : Option (List Char)} {t : Token}
    (h : continuesBounds low high t) (s : Draft) (start : Nat) :
  t.text = ['}'] ∧ s.readBounds start low high t = s.closeBounds start low high ∨
    ∃ low' high', s.readBounds start low high t = .ok (s.await (.bounds start low' high')) ∧
      boundsText low'.reverse (high'.map List.reverse)
        = boundsText low.reverse (high.map List.reverse) ++ t.text ∧
      (AreDigits low high → AreDigits low' high')
  := by
  obtain ⟨c, hc, ht⟩ | ⟨ht, rfl⟩ | ⟨ht, -⟩ := continuesBounds_iff.mp h
  · right
    cases high with
    | none =>
      refine ⟨c :: low, none, readBounds_digit hc ht, by simp [boundsText, ht], ?_⟩
      rintro ⟨hlow, hhigh⟩
      exact ⟨List.forall_mem_cons.mpr ⟨hc, hlow⟩, hhigh⟩
    | some digits =>
      refine ⟨low, some (c :: digits), readBounds_digit hc ht, by simp [boundsText, ht], ?_⟩
      rintro ⟨hlow, hhigh⟩
      refine ⟨hlow, ?_⟩
      rintro digits' ⟨⟩
      exact List.forall_mem_cons.mpr ⟨hc, hhigh digits rfl⟩
  · right
    refine ⟨low, some [], readBounds_comma ht, by simp [boundsText, ht], ?_⟩
    rintro ⟨hlow, -⟩
    exact ⟨hlow, by simp⟩
  · exact .inl ⟨ht, readBounds_close ht⟩

/-! ### Steps -/

theorem staysClear_settleOnce (h : s.IsClear) (t : Option Token) (position : Nat) :
  StaysClear (s.settleOnce t position)
  := by
  rw [settleOnce]
  dsimp only
  repeat' split
  all_goals simp [h, addMember]

theorem staysClear_settle (h : s.IsClear) (t : Option Token) (position : Nat) :
  StaysClear (s.settle t position)
  := (staysClear_settleOnce h t position).bind fun _ h => staysClear_settleOnce h t position

/-- Bounds are left open for a token that continues them, and for no other. -/
theorem settle_bounds {start : Nat} {low : List Char} {high : Option (List Char)}
    (h : s.pending = .bounds start low high) (t : Option Token) (position : Nat) :
  (∃ t', t = some t' ∧ continuesBounds low high t') ∧ s.settle t position = .ok s ∨
    StaysClear (s.settle t position)
  := by
  have honce : s.settleOnce t position
      = if t.any (continuesBounds low high) then .ok s else .ok (s.spillBounds low high) := by
    simp only [settleOnce, h]
  split at honce
  case isTrue hcontinues =>
    refine .inl ⟨by simpa [Option.any_eq_true] using hcontinues, ?_⟩
    rw [settle, honce]
    exact honce
  case isFalse =>
    right
    rw [settle, honce]
    apply staysClear_settleOnce (isClear_spillBounds low high)

/-- A brace that begins an item opens bounds. -/
theorem readItem_cases (h : s.IsClear) (t : Token) :
  StaysClear (s.readItem t) ∨
    t.text = ['{'] ∧ s.readItem t = .ok (s.await (.bounds t.start [] none))
  := by
  rw [readItem]
  split
  case h_1 => simp
  case h_2 c hescaped hchar =>
    by_cases hc : c = '{'
    · right
      subst hc
      simp [Token.text_of_char? hchar, isAsciiSpace]
    · left
      simp only [beq_false_of_ne hc, Bool.false_eq_true, if_false]
      repeat' apply staysClear_ite
      case h'.h => split <;> simp [h, isClear_leave]
      all_goals simp [h]
  case h_3 => exact .inl h

theorem read_cases (h : s.IsClear) (t : Token) :
  StaysClear (s.read t) ∨
    t.text = ['{'] ∧ ∃ s', s.read t = .ok s' ∧ s'.pending = .bounds t.start [] none
  := by
  rw [read]
  split
  case h_1 =>
    obtain hclear | ⟨ht, hopen⟩ := readItem_cases h t
    · exact .inl hclear
    · exact .inr ⟨ht, _, hopen, rfl⟩
  case h_3 start low high hpending => exact absurd hpending (h start low high)
  all_goals left
  case h_2 => simp
  case h_4 => apply staysClear_readHex
  case h_5 => apply staysClear_readOctal
  case h_6 => apply staysClear_readNumber
  case h_8 => apply staysClear_readName
  case h_10 => apply staysClear_readMember h
  case h_12 => apply staysClear_readRangeEnd h
  case h_14 => apply staysClear_readGroupKind
  case h_15 => apply staysClear_readGroupNamed
  case h_16 => apply staysClear_readGroupBehind
  case h_17 => split <;> simp [h]
  case h_18 => split <;> simp [h]
  case h_19 => apply staysClear_readFlagOn
  case h_20 => apply staysClear_readFlagOff
  all_goals simp

theorem isCheck_checkFlags :
  IsCheck s.checkFlags
  := by
  rw [checkFlags]
  split <;> rintro ⟨⟩

theorem step_of_settle {s' : Draft} {t : Token} (h : s.settle (some t) t.start = .ok s') :
  s.step t = if s'.isUnbalanced t then
      s'.checkFlags.bind fun _ => flawed .unbalancedParenthesis t.start
    else if t.beforeLoneBackslash && !s'.isThirdBranch t then flawed .loneBackslash t.stop
    else s'.read t
  := by
  rw [step, h]
  rfl

/-- A token that continues bounds is read as a part of them. -/
theorem step_of_continuesBounds {start : Nat} {low : List Char} {high : Option (List Char)}
    {t : Token} (hpending : s.pending = .bounds start low high)
    (hcontinues : continuesBounds low high t) (hlone : t.beforeLoneBackslash = false) :
  s.step t = s.readBounds start low high t
  := by
  have honce : s.settleOnce (some t) t.start = .ok s := by
    simp [settleOnce, hpending, hcontinues]
  have hsettle : s.settle (some t) t.start = .ok s := by
    rw [settle, honce]
    exact honce
  rw [step_of_settle hsettle]
  simp [isUnbalanced, hpending, hlone, read]

/-- A token that no open bounds wait for leads to a clear draft or refuses the pattern, unless
it opens bounds. -/
theorem step_cases_of_settle {t : Token} (h : StaysClear (s.settle (some t) t.start)) :
  StaysClear (s.step t) ∨
    t.text = ['{'] ∧ ∃ s', s.step t = .ok s' ∧ s'.pending = .bounds t.start [] none
  := by
  cases hs : s.settle (some t) t.start with
  | error e =>
    rw [hs] at h
    left
    rw [step, hs]
    exact h
  | ok s' =>
    rw [hs] at h
    rw [step_of_settle hs]
    split
    case isTrue => exact .inl (isCheck_checkFlags.staysClear_bind fun _ => staysClear_flawed _ _)
    case isFalse =>
      split
      case isTrue => simp
      case isFalse => apply read_cases h

/-- A step leads to a clear draft or refuses the pattern, unless it opens bounds or continues
them. -/
theorem step_cases (s : Draft) (t : Token) :
  StaysClear (s.step t) ∨
    (t.text = ['{'] ∧ ∃ s', s.step t = .ok s' ∧ s'.pending = .bounds t.start [] none) ∨
    ∃ start low high, s.pending = .bounds start low high ∧ continuesBounds low high t ∧
      t.beforeLoneBackslash = false ∧ s.step t = s.readBounds start low high t
  := by
  rw [← or_assoc]
  obtain hclear | ⟨start, low, high, hpending⟩ := s.isClear_or_bounds
  · exact .inl (step_cases_of_settle (staysClear_settle hclear _ _))
  · obtain ⟨⟨_, ⟨⟩, hcontinues⟩, hs⟩ | hsettle := settle_bounds hpending (some t) t.start
    · cases hlone : t.beforeLoneBackslash with
      | true =>
        refine .inl (.inl ?_)
        rw [step_of_settle hs]
        simp [isUnbalanced, isThirdBranch, hpending, hlone]
      | false =>
        exact .inr ⟨start, low, high, hpending, hcontinues, rfl,
          step_of_continuesBounds hpending hcontinues hlone⟩
    · exact .inl (step_cases_of_settle hsettle)

/-! ### Ends -/

/-- At the end of a pattern no bounds are waited for. -/
theorem staysClear_settle_none (s : Draft) (position : Nat) :
  StaysClear (s.settle none position)
  := by
  obtain hclear | ⟨start, low, high, hpending⟩ := s.isClear_or_bounds
  · apply staysClear_settle hclear
  · obtain ⟨⟨t, ht, -⟩, -⟩ | hsettle := settle_bounds hpending none position
    · cases ht
    · exact hsettle

theorem isCheck_checkEnd (position : Nat) :
  IsCheck (s.checkEnd position)
  := by
  rw [checkEnd]
  repeat' split
  all_goals simp

theorem isCheck_checkChoices :
  IsCheck s.checkChoices
  := by
  rw [checkChoices]
  split <;> simp

theorem isCheck_checkSearchable (p : Expr) :
  IsCheck (s.checkSearchable p)
  := by
  rw [checkSearchable]
  repeat' split
  all_goals rintro ⟨⟩

/-- At its end a pattern is not refused for a count that is too large to be kept. -/
theorem isCheck_finish (s : Draft) (position : Nat) :
  IsCheck (s.finish position)
  := by
  have hsettle := s.staysClear_settle_none position
  rw [finish]
  cases hs : s.settle none position with
  | error e =>
    rw [hs] at hsettle
    rintro ⟨⟩
    exact hsettle rfl
  | ok s' =>
    apply (isCheck_checkEnd position).bind
    intro _
    apply isCheck_checkFlags.bind
    intro _
    apply isCheck_checkChoices.bind
    intro _
    apply (isCheck_checkSearchable _).bind
    intro _
    apply isCheck_ok

/-! ### Runs -/

theorem foldlM_concat {ts : List Token} {t : Token} {s₀ : Draft}
    (h : (ts ++ [t]).foldlM step s₀ = .ok s) :
  ∃ s', ts.foldlM step s₀ = .ok s' ∧ s'.step t = .ok s
  := by
  rw [List.foldlM_append] at h
  obtain ⟨s', hts, ht⟩ := eq_ok_of_bind h
  refine ⟨s', hts, ?_⟩
  simpa using ht

/-- When bounds are waited for, the tokens end in a brace that opened them and in what has been
read of them. -/
theorem exists_of_foldlM_bounds {ts : List Token} {s₀ : Draft} (h₀ : s₀.IsClear) {start : Nat}
    {low : List Char} {high : Option (List Char)} (h : ts.foldlM step s₀ = .ok s)
    (hpending : s.pending = .bounds start low high) :
  ∃ before brace inside, ts = before ++ brace :: inside ∧ brace.text = ['{'] ∧
    (∃ s', (before ++ [brace]).foldlM step s₀ = .ok s' ∧ s'.pending = .bounds start [] none) ∧
    inside.flatMap Token.text = boundsText low.reverse (high.map List.reverse) ∧
    AreDigits low high
  := by
  induction ts using List.reverseRecOn generalizing s start low high with
  | nil =>
    obtain rfl : s₀ = s := Except.ok.inj h
    exact absurd hpending (h₀ start low high)
  | append_singleton ts t ih =>
    obtain ⟨s', hts, ht⟩ := foldlM_concat h
    obtain hclear | ⟨hbrace, s'', hs'', hopen⟩ | ⟨start', low', high', hpending', hcontinues, -,
      hread⟩ := step_cases s' t
    · rw [ht] at hclear
      exact absurd hpending (hclear start low high)
    · -- the token opens the bounds, of which nothing has been read
      obtain rfl := Except.ok.inj (ht.symm.trans hs'')
      obtain ⟨rfl, rfl, rfl⟩ := by simpa using hopen.symm.trans hpending
      exact ⟨ts, t, [], rfl, hbrace, ⟨_, h, hopen⟩, rfl, by simp [AreDigits]⟩
    · rw [ht] at hread
      obtain ⟨-, hclose⟩ | ⟨low'', high'', hmore, htext', hdigits'⟩ :=
        readBounds_cases hcontinues s' start'
      · obtain ⟨herror, -⟩ | ⟨hclear, -⟩ := @closeBounds_cases s' start' low' high'
        · cases (hread.trans hclose).trans herror
        · rw [← hclose, ← hread] at hclear
          exact absurd hpending (hclear start low high)
      · -- the bounds were open before the token
        obtain rfl := Except.ok.inj (hread.trans hmore)
        obtain ⟨rfl, rfl, rfl⟩ := by simpa [await] using hpending
        obtain ⟨before, brace, inside, rfl, hbrace, hopen, htext, hdigits⟩ := ih hts hpending'
        refine ⟨before, brace, inside ++ [t], by simp, hbrace, hopen, ?_, hdigits' hdigits⟩
        rw [htext', ← htext]
        simp

end Draft

end SourceLocator.NamePattern
