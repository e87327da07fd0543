import SourceLocator.Proofs.Span
import SourceLocator.NamePattern

/-!
# What reading a pattern keeps

A draft `IsSound` when no iteration in it asks for more copies than it allows, and the case
of letters does not count for the pattern as a whole.  Each way of reading on keeps a draft
sound, or refuses the pattern; so does a step by a token, and so what a whole pattern is
read into is bounded and ignores case unless a group says otherwise (`parse_isSound`).
-/

namespace SourceLocator.NamePattern

/-! ### Sound drafts -/

theorem Expr.isBounded_ofSequence {ps : List Expr} (h : ∀ p ∈ ps, p.IsBounded) :
  (Expr.ofSequence ps).IsBounded
  := by
  induction ps with
  | nil => trivial
  | cons p ps ih =>
    obtain ⟨hp, hps⟩ := List.forall_mem_cons.mp h
    cases ps with
    | nil => exact hp
    | cons q qs => exact ⟨hp, ih hps⟩

theorem Expr.isBounded_ofAlternatives {p : Expr} {ps : List Expr} (hp : p.IsBounded)
    (h : ∀ p ∈ ps, p.IsBounded) :
  (Expr.ofAlternatives p ps).IsBounded
  := by
  induction ps generalizing p with
  | nil => exact hp
  | cons q qs ih =>
    obtain ⟨hq, hqs⟩ := List.forall_mem_cons.mp h
    exact ⟨hp, ih hq hqs⟩

/-- The first branch of a choice is bounded, if there is one yet. -/
def Opening.IsSound : Opening → Prop
  | .choice _ (some yes) => yes.IsBounded
  | _ => True

/-- All that is kept in a frame is bounded. -/
structure Frame.IsSound (f : Frame) : Prop where
  opening : f.opening.IsSound
  alternatives : ∀ p ∈ f.alternatives, p.IsBounded
  items : ∀ p ∈ f.items, p.IsBounded

/-- A pending iteration asks for no more copies than it allows. -/
def Pending.IsSound : Pending → Prop
  | .iterated min max => ∀ bound ∈ max, min ≤ bound
  | _ => True

/-- All that is kept in a draft is bounded, and the case of letters does not count. -/
structure Draft.IsSound (s : Draft) : Prop where
  frame : s.frame.IsSound
  outer : ∀ f ∈ s.outer, f.IsSound
  pending : s.pending.IsSound
  ignoreCase : .ignoreCase ∈ s.flags

theorem eq_ok_of_bind {α β : Type} {r : Except Rejection α} {f : α → Except Rejection β}
    {b : β} (h : r.bind f = .ok b) :
  ∃ a, r = .ok a ∧ f a = .ok b
  := by
  cases r with
  | error e => cases h
  | ok a => exact ⟨a, rfl, h⟩

/-- A way of reading on that refuses the pattern or leads to a sound draft. -/
def Keeps (r : Except Rejection Draft) : Prop :=
  ∀ s, r = .ok s → s.IsSound

@[simp]
theorem keeps_ok {s : Draft} :
  Keeps (.ok s) ↔ s.IsSound
  := by
  simp [Keeps]

@[simp]
theorem keeps_error (r : Rejection) :
  Keeps (.error r)
  := by
  simp [Keeps]

@[simp]
theorem keeps_flawed (flaw : Flaw) (position : Nat) :
  Keeps (flawed flaw position)
  := keeps_error _

theorem Keeps.bind {r : Except Rejection Draft} {f : Draft → Except Rejection Draft}
    (h : Keeps r) (hf : ∀ s : Draft, s.IsSound → Keeps (f s)) :
  Keeps (r.bind f)
  := by
  cases r with
  | error e => exact keeps_error e
  | ok s => exact hf s (h s rfl)

/-- A check that only may refuse keeps what comes after it. -/
theorem keeps_check {α : Type} {r : Except Rejection α} {f : α → Except Rejection Draft}
    (hf : ∀ a, Keeps (f a)) :
  Keeps (r.bind f)
  := by
  cases r with
  | error e => exact keeps_error e
  | ok a => exact hf a

theorem keeps_map {α : Type} {r : Except Rejection α} {f : α → Draft}
    (hf : ∀ a, (f a).IsSound) :
  Keeps (r.map f)
  := by
  cases r with
  | error e => exact keeps_error e
  | ok a => exact keeps_ok.mpr (hf a)

theorem keeps_ite {c : Prop} [Decidable c] {r r' : Except Rejection Draft} (h : Keeps r)
    (h' : Keeps r') :
  Keeps (if c then r else r')
  := by
  split
  · apply h
  · apply h'

namespace Frame

variable {f : Frame}

theorem IsSound.current (h : f.IsSound) :
  f.current.IsBounded
  := by
  apply Expr.isBounded_ofSequence
  simpa using h.items

theorem IsSound.body (h : f.IsSound) :
  f.body.IsBounded
  := by
  have halternatives : ∀ p ∈ f.alternatives.reverse, p.IsBounded := by
    simpa using h.alternatives
  rw [Frame.body]
  split
  · apply h.current
  · rename_i p ps hps
    rw [hps] at halternatives
    obtain ⟨hp, hps⟩ := List.forall_mem_cons.mp halternatives
    apply Expr.isBounded_ofAlternatives hp
    intro q hq
    obtain hq | hq := List.mem_append.mp hq
    · apply hps q hq
    · obtain rfl := List.mem_singleton.mp hq
      apply h.current

end Frame

namespace Draft

variable {s : Draft}

/-! ### Extending a draft -/

theorem IsSound.await (h : s.IsSound) {pending : Pending} (hp : pending.IsSound) :
  (s.await pending).IsSound
  := ⟨h.frame, h.outer, hp, h.ignoreCase⟩

theorem IsSound.push (h : s.IsSound) {p : Expr} (hp : p.IsBounded) :
  (s.push p).IsSound
  := by
  refine ⟨⟨h.frame.opening, h.frame.alternatives, ?_⟩, h.outer, trivial, h.ignoreCase⟩
  apply List.forall_mem_cons.mpr ⟨hp, h.frame.items⟩

theorem IsSound.enter (h : s.IsSound) (opening : Opening) (ho : opening.IsSound)
    (start : Nat) (verbose : Bool) :
  (s.enter opening start verbose).IsSound
  := by
  refine ⟨⟨ho, ?_, ?_⟩, List.forall_mem_cons.mpr ⟨h.frame, h.outer⟩, trivial, h.ignoreCase⟩
  · exact fun p hp => absurd hp List.not_mem_nil
  · exact fun p hp => absurd hp List.not_mem_nil

theorem IsSound.enterCapture (h : s.IsSound) (name : Option (List Char))
    (start nameStart : Nat) :
  Keeps (s.enterCapture name start nameStart)
  := by
  have hopened := h.enter (.capture s.nextGroup) trivial start s.frame.verbose
  unfold Draft.enterCapture
  cases name with
  | none => exact keeps_ok.mpr ⟨hopened.frame, hopened.outer, hopened.pending, hopened.ignoreCase⟩
  | some name =>
    dsimp only
    split
    · apply keeps_flawed _ _
    · exact keeps_ok.mpr ⟨hopened.frame, hopened.outer, hopened.pending, hopened.ignoreCase⟩

/-! ### Escapes and classes -/

theorem IsSound.closeRange (h : s.IsSound) (d : ClassDraft) (first last : ClassItem)
    (firstText lastText : List Char) (position : Nat) :
  Keeps (s.closeRange d first last firstText lastText position)
  := by
  unfold Draft.closeRange
  dsimp only
  split
  · split
    · apply keeps_flawed _ _
    · exact keeps_ok.mpr (h.await trivial)
  · apply keeps_flawed _ _

theorem IsSound.place (h : s.IsSound) (p : Place) (code : ClassItem) (text : List Char)
    (position : Nat) :
  Keeps (s.place p code text position)
  := by
  unfold Draft.place
  split
  · split
    · exact keeps_ok.mpr (h.push trivial)
    · exact keeps_ok.mpr (h.push trivial)
  · exact keeps_ok.mpr (h.await trivial)
  · apply h.closeRange _ _ _ _ _ _

theorem IsSound.escapeAnywhere (h : s.IsSound) (p : Place) (t : Token) (c : Char) :
  Keeps (s.escapeAnywhere p t c)
  := by
  rw [Draft.escapeAnywhere]
  split
  · apply h.place _ _ _ _
  · apply h.place _ _ _ _
  · exact keeps_ok.mpr (h.await trivial)
  · split
    · exact keeps_ok.mpr (h.await trivial)
    · split
      · apply keeps_flawed _ _
      · apply h.place _ _ _ _

theorem IsSound.escapeItem (h : s.IsSound) (t : Token) (c : Char) :
  Keeps (s.escapeItem t c)
  := by
  rw [Draft.escapeItem]
  split
  · exact keeps_ok.mpr (h.push trivial)
  · split
    · exact keeps_ok.mpr (h.await trivial)
    · split
      · exact keeps_ok.mpr (h.await trivial)
      · apply h.escapeAnywhere _ _ _

theorem IsSound.escapeMember (h : s.IsSound) (p : Place) (t : Token) (c : Char) :
  Keeps (s.escapeMember p t c)
  := by
  rw [Draft.escapeMember]
  split
  · exact keeps_ok.mpr (h.await trivial)
  · apply h.escapeAnywhere _ _ _

theorem IsSound.closeHex (h : s.IsSound) (start : Nat) (p : Place) (letter : Char)
    (digits : List Char) (position : Nat) :
  Keeps (s.closeHex start p letter digits position)
  := by
  unfold Draft.closeHex
  dsimp only
  split
  · apply keeps_flawed _ _
  · apply h.place _ _ _ _

theorem IsSound.closeOctal (h : s.IsSound) (start : Nat) (p : Place) (digits : List Char)
    (position : Nat) :
  Keeps (s.closeOctal start p digits position)
  := by
  unfold Draft.closeOctal
  dsimp only
  split
  · apply keeps_flawed _ _
  · apply h.place _ _ _ _

theorem IsSound.closeNumber (h : s.IsSound) (start : Nat) (digits : List Char)
    (position : Nat) :
  Keeps (s.closeNumber start digits position)
  := by
  unfold Draft.closeNumber
  dsimp only
  split
  · apply keeps_flawed _ _
  · split
    · apply keeps_flawed _ _
    · exact keeps_map fun _ => h.push trivial

theorem IsSound.closeClass (h : s.IsSound) (d : ClassDraft) :
  (s.closeClass d).IsSound
  := h.push trivial

theorem IsSound.readMember (h : s.IsSound) (d : ClassDraft) (t : Token) :
  Keeps (s.readMember d t)
  := by
  rw [Draft.readMember]
  split
  · apply h.escapeMember _ _ _
  · split
    · apply keeps_ok.mpr (h.closeClass d)
    · exact keeps_ok.mpr (h.await trivial)
  · apply keeps_ok.mpr h

theorem IsSound.readRangeEnd (h : s.IsSound) (d : ClassDraft) (first : ClassItem)
    (firstText : List Char) (t : Token) :
  Keeps (s.readRangeEnd d first firstText t)
  := by
  rw [Draft.readRangeEnd]
  split
  · apply h.escapeMember _ _ _
  · split
    · apply keeps_ok.mpr (h.closeClass _)
    · apply h.closeRange _ _ _ _ _ _
  · apply keeps_ok.mpr h

/-! ### Groups -/

theorem IsSound.enterPlain (h : s.IsSound) (opening : Opening) (ho : opening.IsSound)
    (start : Nat) :
  (s.enterPlain opening start).IsSound
  := h.enter opening ho _ _

theorem IsSound.enterBehind (h : s.IsSound) (negated : Bool) (start : Nat) :
  (s.enterBehind negated start).IsSound
  := by
  have hplain := h.enterPlain (.behind negated s.behindFrom.isNone) trivial start
  exact ⟨hplain.frame, hplain.outer, hplain.pending, hplain.ignoreCase⟩

theorem IsSound.enterScoped (h : s.IsSound) (on off : List Flag) (start : Nat) :
  (s.enterScoped on off start).IsSound
  := h.enter (.scoped on off) trivial _ _

theorem IsSound.turnOn (h : s.IsSound) (start : Nat) (on : List Flag) (flag : Flag)
    (position : Nat) :
  Keeps (s.turnOn start on flag position)
  := by
  rw [Draft.turnOn]
  split
  · apply keeps_flawed _ _
  · exact keeps_ok.mpr (h.await trivial)

theorem IsSound.turnOff (h : s.IsSound) (start : Nat) (on off : List Flag) (flag : Flag)
    (position : Nat) :
  Keeps (s.turnOff start on off flag position)
  := by
  rw [Draft.turnOff]
  split
  · apply keeps_flawed _ _
  · exact keeps_ok.mpr (h.await trivial)

/-- Flags for the whole pattern are only ever added. -/
theorem IsSound.setGlobal (h : s.IsSound) (start : Nat) (on : List Flag) :
  Keeps (s.setGlobal start on)
  := by
  rw [Draft.setGlobal]
  split
  · apply keeps_flawed _ _
  · refine keeps_ok.mpr ⟨?_, h.outer, trivial, List.mem_append_right _ h.ignoreCase⟩
    exact ⟨h.frame.opening, h.frame.alternatives, h.frame.items⟩

theorem IsSound.readFlagOn (h : s.IsSound) (start : Nat) (on : List Flag) (t : Token) :
  Keeps (s.readFlagOn start on t)
  := by
  rw [Draft.readFlagOn]
  repeat' split
  · apply h.setGlobal _ _
  · apply keeps_flawed _ _
  · apply keeps_ok.mpr (h.enterScoped _ _ _)
  · apply keeps_flawed _ _
  · exact keeps_ok.mpr (h.await trivial)
  · apply keeps_flawed _ _
  · apply h.turnOn _ _ _ _
  · apply keeps_flawed _ _
  · apply keeps_flawed _ _

theorem IsSound.readFlagOff (h : s.IsSound) (start : Nat) (on off : List Flag) (t : Token) :
  Keeps (s.readFlagOff start on off t)
  := by
  rw [Draft.readFlagOff]
  repeat' split
  · apply keeps_flawed _ _
  · apply keeps_flawed _ _
  · apply keeps_ok.mpr (h.enterScoped _ _ _)
  · apply keeps_flawed _ _
  · apply h.turnOff _ _ _ _ _
  · apply keeps_flawed _ _
  · apply keeps_flawed _ _
  · apply keeps_flawed _ _

theorem IsSound.readGroupKind (h : s.IsSound) (start : Nat) (t : Token) :
  Keeps (s.readGroupKind start t)
  := by
  rw [Draft.readGroupKind]
  split
  · exact keeps_ok.mpr (h.await trivial)
  · apply keeps_ok.mpr (h.enterScoped _ _ _)
  · exact keeps_ok.mpr (h.await trivial)
  · apply keeps_ok.mpr (h.enterPlain (.ahead false) trivial _)
  · apply keeps_ok.mpr (h.enterPlain (.ahead true) trivial _)
  · exact keeps_ok.mpr (h.await trivial)
  · exact keeps_ok.mpr (h.await trivial)
  · apply keeps_ok.mpr (h.enterPlain .atomic trivial _)
  · exact keeps_ok.mpr (h.await trivial)
  · apply keeps_flawed _ _
  · split
    · apply h.turnOn _ _ _ _
    · apply keeps_flawed _ _

theorem IsSound.readGroupNamed (h : s.IsSound) (start : Nat) (t : Token) :
  Keeps (s.readGroupNamed start t)
  := by
  rw [Draft.readGroupNamed]
  split
  · exact keeps_ok.mpr (h.await trivial)
  · split
    · exact keeps_ok.mpr (h.await trivial)
    · apply keeps_flawed _ _

theorem IsSound.readGroupBehind (h : s.IsSound) (start : Nat) (t : Token) :
  Keeps (s.readGroupBehind start t)
  := by
  rw [Draft.readGroupBehind]
  split
  · apply keeps_ok.mpr (h.enterBehind _ _)
  · split
    · apply keeps_ok.mpr (h.enterBehind _ _)
    · apply keeps_flawed _ _

theorem IsSound.enterChoice (h : s.IsSound) (start : Nat) (name : List Char)
    (nameStart position : Nat) :
  Keeps (s.enterChoice start name nameStart position)
  := by
  have hopen : ∀ (index : Nat) (s : Draft), s.IsSound →
      Keeps ((s.checkBehind index position).bind fun _ =>
        .ok (s.enterPlain (.choice index none) start)) :=
    fun index s h => keeps_check fun _ =>
      keeps_ok.mpr (h.enterPlain (.choice index none) trivial _)
  rw [Draft.enterChoice]
  split
  · split
    · apply hopen _ s h
    · apply keeps_error _
  · split
    · apply keeps_error _
    · apply keeps_error _
    · split
      · apply keeps_error _
      · split
        · apply hopen _ s h
        · exact hopen _ _ ⟨h.frame, h.outer, h.pending, h.ignoreCase⟩

theorem IsSound.closeName (h : s.IsSound) (use : NameUse) (nameStart : Nat)
    (name : List Char) (position : Nat) :
  Keeps (s.closeName use nameStart name position)
  := by
  unfold Draft.closeName
  split
  · split
    · apply h.place _ _ _ _
    · apply keeps_flawed _ _
  · split
    · apply keeps_flawed _ _
    · apply h.enterCapture _ _ _
  · split
    · apply keeps_flawed _ _
    · split
      · apply keeps_flawed _ _
      · split
        · apply keeps_flawed _ _
        · exact keeps_map fun _ => h.push trivial
  · apply h.enterChoice _ _ _ _

theorem IsSound.readName (h : s.IsSound) (use : NameUse) (nameStart : Nat)
    (read : List Char) (t : Token) :
  Keeps (s.readName use nameStart read t)
  := by
  rw [Draft.readName]
  split
  · split
    · apply keeps_flawed _ _
    · apply h.closeName _ _ _ _
  · exact keeps_ok.mpr (h.await trivial)

/-- What a group holds becomes an item of the group around it. -/
theorem IsSound.leave (h : s.IsSound) {around : Frame} {outer : List Frame}
    (hs : s.outer = around :: outer) :
  (s.leave around outer).IsSound
  := by
  have houter := h.outer
  rw [hs] at houter
  obtain ⟨haround, houter⟩ := List.forall_mem_cons.mp houter
  have hopening := h.frame.opening
  -- the draft without its frame is sound, whatever else becomes of it
  have hleft : ∀ closed behindFrom behindFlaw,
      Draft.IsSound { s with
        frame := around
        outer := outer
        closed := closed
        behindFrom := behindFrom
        behindFlaw := behindFlaw } :=
    fun _ _ _ => ⟨haround, houter, h.pending, h.ignoreCase⟩
  rw [Draft.leave]
  dsimp only
  split
  · apply hleft _ _ _
  · exact (hleft _ _ _).push h.frame.body
  · exact (hleft _ _ _).push h.frame.body
  · exact (hleft _ _ _).push h.frame.body
  · exact (hleft _ _ _).push h.frame.body
  · exact (hleft _ _ _).push h.frame.body
  · exact (hleft _ _ _).push ⟨h.frame.current, trivial⟩
  · rename_i hchoice
    rw [hchoice] at hopening
    exact (hleft _ _ _).push ⟨hopening, h.frame.current⟩

theorem IsSound.branch (h : s.IsSound) (position : Nat) :
  Keeps (s.branch position)
  := by
  have hcurrent := h.frame.current
  have hnone : ∀ p ∈ ([] : List Expr), p.IsBounded := fun p hp => absurd hp List.not_mem_nil
  unfold Draft.branch
  dsimp only
  split
  · exact keeps_ok.mpr ⟨⟨hcurrent, h.frame.alternatives, hnone⟩, h.outer, trivial, h.ignoreCase⟩
  · apply keeps_flawed _ _
  · exact keeps_ok.mpr ⟨⟨h.frame.opening,
      List.forall_mem_cons.mpr ⟨hcurrent, h.frame.alternatives⟩, hnone⟩, h.outer, trivial,
      h.ignoreCase⟩

/-! ### Iterations -/

theorem IsSound.iterate (h : s.IsSound) {min : Nat} {max : Option Nat}
    (hmax : ∀ bound ∈ max, min ≤ bound) (position : Nat) :
  Keeps (s.iterate min max position)
  := by
  rw [Draft.iterate]
  split
  · apply keeps_flawed _ _
  · apply keeps_flawed _ _
  · apply keeps_flawed _ _
  · exact keeps_ok.mpr (h.await hmax)

theorem IsSound.closeIterated (h : s.IsSound) {min : Nat} {max : Option Nat}
    (hmax : ∀ bound ∈ max, min ≤ bound) (greed : Greed) :
  (s.closeIterated min max greed).IsSound
  := by
  have hitems := h.frame.items
  rw [Draft.closeIterated]
  split
  · exact h.await trivial
  · rename_i p items hs
    rw [hs] at hitems
    obtain ⟨hp, hitems⟩ := List.forall_mem_cons.mp hitems
    have hshorter : Draft.IsSound { s with frame := { s.frame with items := items } } :=
      ⟨⟨h.frame.opening, h.frame.alternatives, hitems⟩, h.outer, h.pending, h.ignoreCase⟩
    exact hshorter.push ⟨hmax, hp⟩

theorem IsSound.spillBounds (h : s.IsSound) (low : List Char) (high : Option (List Char)) :
  (s.spillBounds low high).IsSound
  := by
  unfold Draft.spillBounds
  dsimp only
  generalize '{' :: _ = written
  induction written generalizing s with
  | nil => exact h
  | cons c written ih => exact ih (h.push trivial)

/-- Bounds are refused when the second is less than the first. -/
theorem IsSound.closeBounds (h : s.IsSound) (start : Nat) (low : List Char)
    (high : Option (List Char)) :
  Keeps (s.closeBounds start low high)
  := by
  unfold Draft.closeBounds
  split
  · apply keeps_error _
  · split
    · apply h.iterate (by simp) _
    · split
      · apply keeps_error _
      · split
        · apply keeps_flawed _ _
        · rename_i hle
          apply h.iterate
          intro bound hbound
          obtain rfl := Option.mem_some_iff.mp hbound
          apply Nat.le_of_not_lt hle

/-! ### Tokens -/

theorem IsSound.settleOnce (h : s.IsSound) (t : Option Token) (position : Nat) :
  Keeps (s.settleOnce t position)
  := by
  have hpending := h.pending
  rw [Draft.settleOnce]
  dsimp only
  split
  · rename_i hs
    rw [hs] at hpending
    split
    · apply keeps_ok.mpr h
    · apply keeps_ok.mpr (h.closeIterated hpending _)
  · split
    · apply keeps_ok.mpr h
    · apply keeps_ok.mpr (h.spillBounds _ _)
  · split
    · apply keeps_ok.mpr h
    · apply keeps_flawed _ _
  · split
    · apply keeps_ok.mpr h
    · apply h.closeOctal _ _ _ _
  · split
    · split
      · apply keeps_ok.mpr h
      · apply h.closeNumber _ _ _
    · split
      · apply keeps_ok.mpr h
      · apply h.closeNumber _ _ _
  · split
    · apply keeps_ok.mpr h
    · apply keeps_flawed _ _
  · split
    · apply keeps_ok.mpr h
    · exact keeps_ok.mpr (h.await trivial)
  · split
    · apply keeps_ok.mpr h
    · exact keeps_ok.mpr (h.await trivial)
  · split
    · apply keeps_ok.mpr h
    · apply h.enterCapture _ _ _
  · apply keeps_ok.mpr h

theorem IsSound.settle (h : s.IsSound) (t : Option Token) (position : Nat) :
  Keeps (s.settle t position)
  := (h.settleOnce t position).bind fun _ h => h.settleOnce t position

theorem IsSound.readItem (h : s.IsSound) (t : Token) :
  Keeps (s.readItem t)
  := by
  have hzero : ∀ bound ∈ some 1, 0 ≤ bound := fun _ _ => Nat.zero_le _
  rw [Draft.readItem]
  split
  · apply h.escapeItem _ _
  · apply keeps_ite (h.branch _)
    apply keeps_ite
    · split
      · apply keeps_flawed _ _
      · apply keeps_ok.mpr (h.leave (by assumption))
    apply keeps_ite (keeps_ok.mpr h)
    apply keeps_ite
    · exact keeps_ok.mpr (h.await trivial)
    apply keeps_ite
    · exact keeps_ok.mpr (h.await trivial)
    apply keeps_ite
    · exact keeps_ok.mpr (h.await trivial)
    apply keeps_ite
    · exact keeps_ok.mpr (h.await trivial)
    apply keeps_ite (h.iterate (by simp) _)
    apply keeps_ite (h.iterate (by simp) _)
    apply keeps_ite (h.iterate hzero _)
    apply keeps_ite
    · exact keeps_ok.mpr (h.push trivial)
    apply keeps_ite
    · exact keeps_ok.mpr (h.push trivial)
    apply keeps_ite
    · exact keeps_ok.mpr (h.push trivial)
    · exact keeps_ok.mpr (h.push trivial)
  · apply keeps_ok.mpr h

theorem IsSound.readBounds (h : s.IsSound) (start : Nat) (low : List Char)
    (high : Option (List Char)) (t : Token) :
  Keeps (s.readBounds start low high t)
  := by
  unfold Draft.readBounds
  split
  · apply h.closeBounds _ _ _
  · split
    · exact keeps_ok.mpr (h.await trivial)
    · split
      · exact keeps_ok.mpr (h.await trivial)
      · exact keeps_ok.mpr (h.await trivial)

theorem IsSound.readHex (h : s.IsSound) (start : Nat) (p : Place) (letter : Char)
    (digits : List Char) (wanted : Nat) (t : Token) :
  Keeps (s.readHex start p letter digits wanted t)
  := by
  unfold Draft.readHex
  dsimp only
  split
  · apply h.closeHex _ _ _ _ _
  · exact keeps_ok.mpr (h.await trivial)

theorem IsSound.readOctal (h : s.IsSound) (start : Nat) (p : Place) (digits : List Char)
    (more : Nat) (t : Token) :
  Keeps (s.readOctal start p digits more t)
  := by
  rw [Draft.readOctal]
  split
  · apply h.closeOctal _ _ _ _
  · exact keeps_ok.mpr (h.await trivial)

theorem IsSound.readNumber (h : s.IsSound) (start : Nat) (digits : List Char) (t : Token) :
  Keeps (s.readNumber start digits t)
  := by
  rw [Draft.readNumber]
  split
  · apply h.closeOctal _ _ _ _
  · exact keeps_ok.mpr (h.await trivial)

theorem IsSound.read (h : s.IsSound) (t : Token) :
  Keeps (s.read t)
  := by
  have hpending := h.pending
  rw [Draft.read]
  split
  · apply h.readItem t
  · rename_i hs
    rw [hs] at hpending
    apply keeps_ok.mpr (h.closeIterated hpending _)
  · apply h.readBounds _ _ _ _
  · apply h.readHex _ _ _ _ _ _
  · apply h.readOctal _ _ _ _ _
  · apply h.readNumber _ _ _
  · exact keeps_ok.mpr (h.await trivial)
  · apply h.readName _ _ _ _
  · exact keeps_ok.mpr (h.await trivial)
  · apply h.readMember _ _
  · exact keeps_ok.mpr (h.await trivial)
  · apply h.readRangeEnd _ _ _ _
  · exact keeps_ok.mpr (h.await trivial)
  · apply h.readGroupKind _ _
  · apply h.readGroupNamed _ _
  · apply h.readGroupBehind _ _
  · split
    · exact keeps_ok.mpr (h.await trivial)
    · apply keeps_ok.mpr h
  · split
    · exact keeps_ok.mpr (h.await trivial)
    · apply keeps_ok.mpr h
  · apply h.readFlagOn _ _ _
  · apply h.readFlagOff _ _ _ _

/-- A step by a token keeps a draft sound. -/
theorem IsSound.step (h : s.IsSound) (t : Token) :
  Keeps (s.step t)
  := by
  apply (h.settle (some t) t.start).bind
  intro s h
  split
  · apply keeps_check fun _ => keeps_flawed _ _
  · split
    · apply keeps_flawed _ _
    · apply h.read t

/-- Any number of steps do. -/
theorem IsSound.foldlM_step (h : s.IsSound) (ts : List Token) :
  Keeps (ts.foldlM Draft.step s)
  := by
  induction ts generalizing s with
  | nil => exact keeps_ok.mpr h
  | cons t ts ih => exact (h.step t).bind fun s h => ih h

theorem isSound_start {flags : List Flag} (h : .ignoreCase ∈ flags) :
  (Draft.start flags).IsSound
  := by
  refine ⟨⟨trivial, ?_, ?_⟩, ?_, trivial, h⟩
  · exact fun p hp => absurd hp List.not_mem_nil
  · exact fun p hp => absurd hp List.not_mem_nil
  · exact fun f hf => absurd hf List.not_mem_nil

/-- What reading ends with is bounded and ignores case. -/
theorem IsSound.finish (h : s.IsSound) {position : Nat} {m : Mode} {p : Expr}
    (hfinish : s.finish position = .ok (m, p)) :
  m.ignoreCase ∧ p.IsBounded
  := by
  obtain ⟨s', hs', hfinish⟩ := eq_ok_of_bind hfinish
  have hsettled : s'.IsSound := h.settle none position s' hs'
  obtain ⟨-, -, hfinish⟩ := eq_ok_of_bind hfinish
  obtain ⟨-, -, hfinish⟩ := eq_ok_of_bind hfinish
  obtain ⟨-, -, hfinish⟩ := eq_ok_of_bind hfinish
  obtain ⟨-, -, hfinish⟩ := eq_ok_of_bind hfinish
  cases hfinish
  exact ⟨decide_eq_true hsettled.ignoreCase, hsettled.frame.body⟩

end Draft

/-- A pattern is read into a bounded expression, for which the case of letters does not
count. -/
theorem parse_isSound {pattern : List Char} {m : Mode} {p : Expr}
    (h : parse pattern = .ok (m, p)) :
  m.ignoreCase ∧ p.IsBounded
  := by
  rw [parse] at h
  split at h
  · cases h
  · obtain ⟨s, hs, hfinish⟩ := eq_ok_of_bind h
    have hstart : (Draft.start [.ignoreCase, .ascii]).IsSound :=
      Draft.isSound_start List.mem_cons_self
    exact (hstart.foldlM_step (tokens pattern 0) s hs).finish hfinish

end SourceLocator.NamePattern
