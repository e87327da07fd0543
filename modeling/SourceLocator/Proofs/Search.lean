import SourceLocator.Proofs.Span

/-!
# Searching is spanning

A search `Realizes` a relation when it succeeds exactly if what follows succeeds at the end
of some span of the relation.  What follows may look at the position only (`Blind`), since
the search forgets all but the first way in which the same position is reached.  Each
construct of a search keeps this relation: the order of preference is lost on it, and an
iteration that stops after an empty copy loses nothing, since an empty copy can be left out.
-/

namespace SourceLocator.NamePattern

/-- What follows succeeds from a position. -/
def Continuation.AcceptsAt (k : Continuation) (i : Nat) : Prop :=
  (k ⟨i, []⟩).isSome

/-- Whether what follows succeeds is a matter of the position. -/
def Continuation.Blind (k : Continuation) : Prop :=
  ∀ s, (k s).isSome ↔ k.AcceptsAt s.pos

/-- A search succeeds exactly if what follows does so at the end of some span. -/
def Search.Realizes (search : Search) (R : Nat → Nat → Prop) : Prop :=
  ∀ s k, Continuation.Blind k →
    ((search s k).isSome ↔ ∃ j, R s.pos j ∧ Continuation.AcceptsAt k j)

theorem isSome_orElse {α : Type} (a : Option α) (b : Unit → Option α) :
  (a.orElse b).isSome ↔ a.isSome ∨ (b ()).isSome
  := by
  cases a with
  | none =>
    change (b ()).isSome ↔ (none : Option α).isSome ∨ (b ()).isSome
    simp
  | some x =>
    change (some x).isSome ↔ (some x).isSome ∨ (b ()).isSome
    simp

/-- To accept is blind. -/
theorem blind_some :
  Continuation.Blind some
  := by
  intro s
  simp [Continuation.AcceptsAt]

namespace Search

variable {search copy : Search} {R S : Nat → Nat → Prop} {k : Continuation} {size : Nat}

/-- Whether a search succeeds is a matter of the position, if that holds of what follows. -/
theorem Realizes.blind (h : Realizes search R) (hk : k.Blind) :
  Continuation.Blind fun s => search s k
  := by
  intro s
  rw [Continuation.AcceptsAt, h s k hk, h ⟨s.pos, []⟩ k hk]

/-! ### Single steps -/

/-- Nothing is realized by going on at once. -/
theorem realizes_skip :
  Realizes (fun s k => k s) fun i j => i = j
  := by
  intro s k hk
  simp [hk s]

/-- A test of a position that takes no character. -/
theorem realizes_test {test : Nat → Bool} {P : Nat → Prop} (h : ∀ i, test i ↔ P i) :
  Realizes (fun s k => if test s.pos then k s else none) fun i j => P i ∧ i = j
  := by
  intro s k hk
  by_cases hs : test s.pos
  · simp [hs, (h s.pos).mp hs, hk s]
  · simp [hs, mt (h s.pos).mpr hs]

theorem realizes_takeOne {text : Array Char} {test : Char → Bool} {P : Char → Prop}
    (h : ∀ c, test c ↔ P c) :
  Realizes (takeOne text test) fun i j => ∃ c, text[i]? = some c ∧ P c ∧ j = i + 1
  := by
  intro s k hk
  rw [takeOne]
  cases hc : text[s.pos]? with
  | none => simp [hc]
  | some c =>
    by_cases ht : test c
    · have hp := (h c).mp ht
      simp [hc, ht, hp, hk ⟨s.pos + 1, s.groups⟩]
    · have hp := mt (h c).mpr ht
      simp [hc, ht, hp]

/-- One search after another. -/
theorem Realizes.seq (hp : Realizes search R) (hq : Realizes copy S) :
  Realizes (fun s k => search s fun s' => copy s' k) fun i j => ∃ l, R i l ∧ S l j
  := by
  intro s k hk
  rw [hp s _ (hq.blind hk)]
  constructor
  · rintro ⟨l, hl, hj⟩
    obtain ⟨j, hj, hk⟩ := (hq _ k hk).mp hj
    exact ⟨j, ⟨l, hl, hj⟩, hk⟩
  · rintro ⟨j, ⟨l, hl, hj⟩, hkj⟩
    exact ⟨l, hl, (hq _ k hk).mpr ⟨j, hj, hkj⟩⟩

/-- One search or, failing it, another. -/
theorem Realizes.alt (hp : Realizes search R) (hq : Realizes copy S) :
  Realizes (fun s k => (search s k).orElse fun _ => copy s k) fun i j => R i j ∨ S i j
  := by
  intro s k hk
  rw [isSome_orElse, hp s k hk, hq s k hk]
  constructor
  · rintro (⟨j, hj, hkj⟩ | ⟨j, hj, hkj⟩)
    · exact ⟨j, .inl hj, hkj⟩
    · exact ⟨j, .inr hj, hkj⟩
  · rintro ⟨j, hj | hj, hkj⟩
    · exact .inl ⟨j, hj, hkj⟩
    · exact .inr ⟨j, hj, hkj⟩

/-! ### Iterations -/

theorem Realizes.times (h : Realizes copy R) (n : Nat) :
  Realizes (times copy n) (Copies R n)
  := by
  induction n with
  | zero => exact realizes_skip
  | succ n ih => exact h.seq ih

/-- After a copy that took no character an iteration ends; after another one it goes on. -/
def afterCopy (start : Nat) (k next : Continuation) : Continuation := fun s =>
  if s.pos = start then k s else next s

theorem blind_afterCopy {start : Nat} {next : Continuation} (hk : k.Blind)
    (hnext : next.Blind) :
  (afterCopy start k next).Blind
  := by
  intro s
  by_cases hs : s.pos = start
  · rw [Continuation.AcceptsAt, afterCopy, afterCopy, if_pos hs, if_pos hs]
    apply hk s
  · rw [Continuation.AcceptsAt, afterCopy, afterCopy, if_neg hs, if_neg hs]
    apply hnext s

theorem acceptsAt_afterCopy {start i : Nat} {next : Continuation} :
  (afterCopy start k next).AcceptsAt i
    ↔ if i = start then k.AcceptsAt i else next.AcceptsAt i
  := by
  by_cases hi : i = start <;> simp [afterCopy, Continuation.AcceptsAt, hi]

/-- What may come after a copy that took a character. -/
def afterMost (copy : Search) (left : Option Nat) (k : Continuation) : Nat → Continuation
  | 0 => fun _ => none
  | room + 1 => fun s => most copy room (left.map (· - 1)) s k

theorem most_eq (room : Nat) (left : Option Nat) (s : Cursor) :
  most copy room left s k
    = if left = some 0 then k s
      else (copy s (afterCopy s.pos k (afterMost copy left k room))).orElse fun _ => k s
  := by
  cases room <;> rfl

theorem blind_most_of_afterMost (h : Realizes copy R) (hk : k.Blind) {room : Nat}
    {left : Option Nat} (hafter : (afterMost copy left k room).Blind) :
  Continuation.Blind fun s => most copy room left s k
  := by
  intro s
  rw [Continuation.AcceptsAt]
  simp only [most_eq]
  split
  · apply hk s
  · rw [isSome_orElse, isSome_orElse]
    apply or_congr (h.blind (blind_afterCopy hk hafter) s) (hk s)

theorem blind_afterMost (h : Realizes copy R) (hk : k.Blind) (room : Nat)
    (left : Option Nat) :
  (afterMost copy left k room).Blind
  := by
  induction room generalizing left with
  | zero => exact fun s => Iff.rfl
  | succ room ih => exact blind_most_of_afterMost h hk (ih _)

/-- Copies of which the first takes no character are as many as those without it. -/
theorem exists_copies_iff (hR : Advances size R) (left : Option Nat) (i : Nat) :
  (∃ n j, (∀ bound ∈ left, n ≤ bound) ∧ Copies R n i j ∧ k.AcceptsAt j)
    ↔ k.AcceptsAt i ∨ left ≠ some 0 ∧ ∃ l, R i l ∧ i < l ∧ l ≤ size ∧
        ∃ n j, (∀ bound ∈ left.map (· - 1), n ≤ bound) ∧ Copies R n l j ∧ k.AcceptsAt j
  := by
  have hleft : ∀ n, left ≠ some 0 ∧ (∀ bound ∈ left.map (· - 1), n ≤ bound)
      ↔ ∀ bound ∈ left, n + 1 ≤ bound := by
    intro n
    cases left with
    | none => simp
    | some bound =>
      simp only [ne_eq, Option.some.injEq, Option.map_some, Option.mem_some_iff, forall_eq']
      omega
  constructor
  · rintro ⟨n, j, hn, hcopies, hj⟩
    -- empty copies are dropped from the front, one at a time
    induction n with
    | zero =>
      obtain rfl : i = j := hcopies
      exact .inl hj
    | succ n ih =>
      obtain ⟨l, hl, hcopies⟩ := hcopies
      rcases hR hl with rfl | ⟨hlt, hle⟩
      · apply ih _ hcopies
        intro bound hbound
        apply Nat.le_of_succ_le (hn bound hbound)
      · obtain ⟨hne, hn⟩ := (hleft n).mpr hn
        exact .inr ⟨hne, l, hl, hlt, hle, n, j, hn, hcopies, hj⟩
  · rintro (hi | ⟨hne, l, hl, -, -, n, j, hn, hcopies, hj⟩)
    · exact ⟨0, i, fun bound _ => Nat.zero_le bound, rfl, hi⟩
    · exact ⟨n + 1, j, (hleft n).mp ⟨hne, hn⟩, ⟨l, hl, hcopies⟩, hj⟩

/-- A copy that takes no character may be left out, and one that takes some leaves less
room. -/
theorem isSome_most_of_afterMost (h : Realizes copy R) (hR : Advances size R) (hk : k.Blind)
    {room : Nat} {left : Option Nat} {s : Cursor}
    (hafter : ∀ l, s.pos < l → l ≤ size → ((afterMost copy left k room).AcceptsAt l
      ↔ ∃ n j, (∀ bound ∈ left.map (· - 1), n ≤ bound) ∧ Copies R n l j ∧ k.AcceptsAt j)) :
  (most copy room left s k).isSome
    ↔ ∃ n j, (∀ bound ∈ left, n ≤ bound) ∧ Copies R n s.pos j ∧ k.AcceptsAt j
  := by
  rw [exists_copies_iff hR, most_eq]
  by_cases hleft : left = some 0
  · simp [hleft, hk s]
  · rw [if_neg hleft, isSome_orElse, h s _ (blind_afterCopy hk (blind_afterMost h hk _ _)), hk s]
    simp only [acceptsAt_afterCopy]
    constructor
    · rintro (⟨l, hl, haccepts⟩ | hs)
      · split at haccepts
        · rename_i hsame
          exact .inl (hsame ▸ haccepts)
        · rename_i hmoved
          rcases hR hl with rfl | ⟨hlt, hle⟩
          · apply absurd rfl hmoved
          · exact .inr ⟨hleft, l, hl, hlt, hle, (hafter l hlt hle).mp haccepts⟩
      · exact .inl hs
    · rintro (hs | ⟨-, l, hl, hlt, hle, hcopies⟩)
      · exact .inr hs
      · refine .inl ⟨l, hl, ?_⟩
        rw [if_neg (Nat.ne_of_gt hlt)]
        exact (hafter l hlt hle).mpr hcopies

/-- Optional copies, the most first, with enough room for the rest of a text. -/
theorem Realizes.isSome_most (h : Realizes copy R) (hR : Advances size R) (hk : k.Blind)
    {room : Nat} {left : Option Nat} {s : Cursor} (hroom : size - s.pos ≤ room) :
  (most copy room left s k).isSome
    ↔ ∃ n j, (∀ bound ∈ left, n ≤ bound) ∧ Copies R n s.pos j ∧ k.AcceptsAt j
  := by
  induction room generalizing left s with
  | zero =>
    apply isSome_most_of_afterMost h hR hk
    intro l hlt hle
    omega
  | succ room ih =>
    apply isSome_most_of_afterMost h hR hk
    intro l hlt hle
    have hless : size - l ≤ room := by omega
    apply @ih (left.map (· - 1)) ⟨l, []⟩ hless

/-- What may come after a copy that took a character, the fewest first. -/
def afterFewest (copy : Search) (left : Option Nat) (k : Continuation) : Nat → Continuation
  | 0 => fun _ => none
  | room + 1 => fun s => fewest copy room (left.map (· - 1)) s k

theorem fewest_eq (room : Nat) (left : Option Nat) (s : Cursor) :
  fewest copy room left s k
    = (k s).orElse fun _ =>
        if left = some 0 then none
        else copy s (afterCopy s.pos k (afterFewest copy left k room))
  := by
  cases room <;> rfl

theorem isSome_fewest_of_afterFewest (h : Realizes copy R) (hk : k.Blind) {room : Nat}
    {left : Option Nat}
    (hafter : ∀ s, (afterFewest copy left k room s).isSome
      ↔ (afterMost copy left k room s).isSome) (s : Cursor) :
  (fewest copy room left s k).isSome ↔ (most copy room left s k).isSome
  := by
  have hmost := blind_afterMost h hk room left
  have haccepts : ∀ i, (afterFewest copy left k room).AcceptsAt i
      ↔ (afterMost copy left k room).AcceptsAt i := fun i => hafter _
  have hfewest : (afterFewest copy left k room).Blind := by
    intro s
    rw [hafter s, hmost s, haccepts]
  rw [fewest_eq, most_eq, isSome_orElse]
  by_cases hleft : left = some 0
  · simp [hleft]
  · rw [if_neg hleft, if_neg hleft, isSome_orElse, h s _ (blind_afterCopy hk hfewest),
      h s _ (blind_afterCopy hk hmost), or_comm]
    simp only [acceptsAt_afterCopy, haccepts]

/-- Whether the most or the fewest copies are tried first makes no difference to whether
any number of them will do. -/
theorem Realizes.isSome_fewest (h : Realizes copy R) (hk : k.Blind) (room : Nat)
    (left : Option Nat) (s : Cursor) :
  (fewest copy room left s k).isSome ↔ (most copy room left s k).isSome
  := by
  induction room generalizing left s with
  | zero =>
    apply isSome_fewest_of_afterFewest h hk
    exact fun s => Iff.rfl
  | succ room ih =>
    apply isSome_fewest_of_afterFewest h hk
    apply ih (left.map (· - 1))

/-- The copies of an iteration, those that are required and then optional ones. -/
theorem Realizes.iterate (h : Realizes copy R) (hR : Advances size R) {min : Nat}
    {max : Option Nat} (hmax : ∀ bound ∈ max, min ≤ bound)
    {rest : Cursor → Continuation → Option Cursor}
    (hrest : ∀ s k, Continuation.Blind k → ((rest s k).isSome
      ↔ (most copy (size - s.pos) (optional min max) s k).isSome)) :
  Realizes (fun s k => NamePattern.times copy min s fun s' => rest s' k) fun i j =>
    ∃ n, min ≤ n ∧ (∀ bound ∈ max, n ≤ bound) ∧ Copies R n i j
  := by
  have hmore : Realizes rest fun i j =>
      ∃ n, (∀ bound ∈ optional min max, n ≤ bound) ∧ Copies R n i j := by
    intro s k hk
    rw [hrest s k hk, h.isSome_most hR hk (Nat.le_refl _)]
    constructor
    · rintro ⟨n, j, hn, hcopies, hj⟩
      exact ⟨j, ⟨n, hn, hcopies⟩, hj⟩
    · rintro ⟨j, ⟨n, hn, hcopies⟩, hj⟩
      exact ⟨n, j, hn, hcopies, hj⟩
  have hoptional : ∀ n, (∀ bound ∈ optional min max, n ≤ bound)
      ↔ ∀ bound ∈ max, min + n ≤ bound := by
    intro n
    cases max with
    | none => simp [optional]
    | some bound =>
      have := hmax bound rfl
      simp only [optional, Option.map_some, Option.mem_some_iff, forall_eq']
      omega
  intro s k hk
  rw [(h.times min).seq hmore s k hk]
  constructor
  · rintro ⟨j, ⟨l, hl, n, hn, hcopies⟩, hj⟩
    exact ⟨j, ⟨min + n, Nat.le_add_right _ _, (hoptional n).mp hn,
      copies_add.mpr ⟨l, hl, hcopies⟩⟩, hj⟩
  · rintro ⟨j, ⟨n, hmin, hn, hcopies⟩, hj⟩
    obtain ⟨n, rfl⟩ := Nat.exists_eq_add_of_le hmin
    obtain ⟨l, hl, hcopies⟩ := copies_add.mp hcopies
    exact ⟨j, ⟨l, hl, n, (hoptional n).mpr hn, hcopies⟩, hj⟩

end Search

/-! ### Expressions -/

/-- A test of what lies ahead goes on from where it began. -/
theorem realizes_ahead {search : Search} {R : Nat → Nat → Prop} (h : search.Realizes R)
    (negated : Bool) :
  Search.Realizes
    (fun s k =>
      match search s some with
      | some s' => if negated then none else k { s' with pos := s.pos }
      | none => if negated then k s else none)
    fun i j => ((∃ l, R i l) ↔ ¬ negated) ∧ i = j
  := by
  intro s k hk
  have hahead : (search s some).isSome ↔ ∃ l, R s.pos l := by
    rw [h s some blind_some]
    simp [Continuation.AcceptsAt]
  cases hs : search s some with
  | none =>
    have hno : ¬ ∃ l, R s.pos l := by simp [← hahead, hs]
    cases negated <;> simp [hs, hno, hk s]
  | some s' =>
    have hyes : ∃ l, R s.pos l := hahead.mp (by simp [hs])
    cases negated <;> simp [hs, hyes, hk ⟨s.pos, s'.groups⟩]

/-- A group that is remembered is searched for like any other. -/
theorem realizes_capture {search : Search} {R : Nat → Nat → Prop} (h : search.Realizes R)
    (index : Nat) :
  Search.Realizes
    (fun s k => search s fun s' => k { s' with groups := (index, s.pos, s'.pos) :: s'.groups })
    R
  := by
  intro s k hk
  let marked : Continuation := fun s' =>
    k { s' with groups := (index, s.pos, s'.pos) :: s'.groups }
  have hmarked : ∀ s', (marked s').isSome ↔ k.AcceptsAt s'.pos := fun s' => hk _
  have hblind : marked.Blind := fun s' => (hmarked s').trans (hmarked ⟨s'.pos, []⟩).symm
  have haccepts : ∀ j, marked.AcceptsAt j ↔ k.AcceptsAt j := fun j => hmarked _
  rw [h s marked hblind]
  simp only [haccepts]

/-- What a plain expression searches for are its spans. -/
theorem Expr.realizes_spans (text : Array Char) {p : Expr} (hp : p.isPlain)
    (hbounded : p.IsBounded) (m : Mode) :
  Search.Realizes (p.run text m) (p.Spans text m)
  := by
  induction p generalizing m with
  | empty => exact Search.realizes_skip
  | point n => exact Search.realizes_takeOne (m.samePoint_iff n)
  | any => exact Search.realizes_takeOne fun c => by simp
  | oneOf negated items => exact Search.realizes_takeOne (classHolds_iff m negated items)
  | anchor a => exact Search.realizes_test fun i => a.holds_iff m text i
  | seq p q ihp ihq =>
    simp only [isPlain, Bool.and_eq_true] at hp
    exact (ihp hp.1 hbounded.1 m).seq (ihq hp.2 hbounded.2 m)
  | alt p q ihp ihq =>
    simp only [isPlain, Bool.and_eq_true] at hp
    exact (ihp hp.1 hbounded.1 m).alt (ihq hp.2 hbounded.2 m)
  | capture index p ih => exact realizes_capture (ih hp hbounded m) index
  | «scoped» on off p ih => exact ih hp hbounded (m.adjust on off)
  | iterate min max greed p ih =>
    simp only [isPlain, Bool.and_eq_true, bne_iff_ne] at hp
    have hcopy := ih hp.2 hbounded.2 m
    cases greed with
    | greedy => exact hcopy.iterate (p.advances_spans text m) hbounded.1 fun s k hk => Iff.rfl
    | frugal =>
      exact hcopy.iterate (p.advances_spans text m) hbounded.1 fun s k hk =>
        hcopy.isSome_fewest hk _ _ s
    | possessive => exact absurd rfl hp.1
  | ahead negated p ih => exact realizes_ahead (ih hp hbounded m) negated
  | atomic p ih => cases hp
  | behind negated width p ih => cases hp
  | again index => cases hp
  | given index p q ihp ihq => cases hp

/-- A plain expression matches a whole text exactly when the text is in its language. -/
theorem Expr.matchesAll_iff {p : Expr} (hp : p.isPlain) (hbounded : p.IsBounded) (m : Mode)
    (text : List Char) :
  p.matchesAll m text ↔ text ∈ p.language m
  := by
  let atEnd : Continuation := fun s => if s.pos = text.toArray.size then some s else none
  have hatEnd : ∀ s, (atEnd s).isSome ↔ s.pos = text.length := by
    intro s
    simp [atEnd]
  have hblind : atEnd.Blind := fun s => (hatEnd s).trans (hatEnd ⟨s.pos, []⟩).symm
  have haccepts : ∀ j, atEnd.AcceptsAt j ↔ j = text.length := fun j => hatEnd _
  have hrun := p.realizes_spans text.toArray hp hbounded m ⟨0, []⟩ atEnd hblind
  simp only [haccepts, exists_eq_right] at hrun
  apply hrun

end SourceLocator.NamePattern
