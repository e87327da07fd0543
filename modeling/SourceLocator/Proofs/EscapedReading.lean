import SourceLocator.NamePattern
import SourceLocator.Proofs.TakenWords

/-!
# Reading an escaped literal

Whatever follows a literal that `escape` has written, it is read into the characters of the
literal and nothing else (`readRest_escape`).  Beside it stand the readings
of the few other constructs that a pattern for declarations is made of.
-/

namespace SourceLocator.NamePattern

/-! ### Written characters -/

theorem escapeChar_ne_backslash (c : Char) :
  escapeChar c ≠ ['\\']
  := by
  rw [escapeChar]
  split
  · simp
  · rename_i hc
    rintro ⟨⟩
    apply hc (by decide)

theorem escapeChar_ne_nil (c : Char) :
  escapeChar c ≠ []
  := by
  rw [escapeChar]
  split <;> simp

theorem head?_escapeChar {c d : Char} (h : (escapeChar c).head? = some d) :
  d = '\\' ∨ d ∉ specialChars
  := by
  rw [escapeChar] at h
  split at h
  · cases h
    exact .inl rfl
  · rename_i hc
    cases h
    exact .inr hc

theorem escape_cons (c : Char) (literal : List Char) :
  escape (c :: literal) = escapeChar c ++ escape literal
  := List.flatMap_cons

/-- Nothing that is written for a literal leaves a backslash on its own. -/
theorem escape_append_ne_backslash (literal : List Char) {rest : List Char}
    (hrest : rest ≠ ['\\']) :
  escape literal ++ rest ≠ ['\\']
  := by
  cases literal with
  | nil => exact hrest
  | cons c literal =>
    intro h
    rw [escape_cons, List.append_assoc] at h
    obtain ⟨hnil, -⟩ | ⟨hc, -⟩ := List.append_eq_singleton_iff.mp h
    · apply escapeChar_ne_nil c hnil
    · apply escapeChar_ne_backslash c hc

/-- What is written for a literal begins with a backslash or a character that needs none. -/
theorem head?_escape_append {literal rest : List Char} {d : Char}
    (h : (escape literal ++ rest).head? = some d) :
  d = '\\' ∨ d ∉ specialChars ∨ rest.head? = some d
  := by
  cases literal with
  | nil => exact .inr (.inr h)
  | cons c literal =>
    rw [escape_cons, List.append_assoc, List.head?_append,
      Option.or_of_isSome (List.isSome_head?.mpr (escapeChar_ne_nil c))] at h
    obtain hd | hd := head?_escapeChar h
    · exact .inl hd
    · exact .inr (.inl hd)

/-! ### Tokens -/

theorem tokens_cons {c : Char} (hc : c ≠ '\\') (rest : List Char) (start : Nat) :
  tokens (c :: rest) start = ⟨[c], start, rest == ['\\']⟩ :: tokens rest (start + 1)
  := by
  rw [tokens.eq_def]
  split <;> simp_all

theorem tokens_escapeChar (c : Char) (rest : List Char) (start : Nat) :
  tokens (escapeChar c ++ rest) start
    = ⟨escapeChar c, start, rest == ['\\']⟩
        :: tokens rest (start + (escapeChar c).length)
  := by
  rw [escapeChar]
  split
  · rfl
  · rename_i hc
    apply tokens_cons
    rintro rfl
    apply hc (by decide)

/-- The first token begins as the text does. -/
theorem head?_text_of_tokens {rest : List Char} {start : Nat} {t : Token} {ts : List Token}
    (h : tokens rest start = t :: ts) :
  t.text.head? = rest.head?
  := by
  rw [tokens.eq_def] at h
  split at h
  · cases h
  · cases h
  · cases h
    rfl
  · cases h
    rfl

/-! ### Drafts -/

theorem bind_eq_of_eq_ok {α β : Type} {r : Except Rejection α} {f : α → Except Rejection β}
    {a : α} (h : r = .ok a) :
  (r >>= f) = f a
  := by
  rw [h]
  rfl

namespace Draft

/-- The draft of a pattern whose first items have been read. -/
def between (ps : List Expr) : Draft :=
  { start [.ignoreCase, .ascii] with frame := ⟨.pattern, 0, false, [], ps.reverse⟩ }

/-- Reads the rest of a pattern, which starts at a place, to its end. -/
def readRest (s : Draft) (rest : List Char) (start : Nat) : Except Rejection (Mode × Expr) := do
  let s ← (tokens rest start).foldlM step s
  s.finish (start + rest.length)

variable {ps : List Expr} {rest : List Char} {start : Nat}

theorem parse_eq_readRest {pattern : List Char} (h : pattern ≠ ['\\']) :
  parse pattern = (between []).readRest pattern 0
  := by
  rw [parse, if_neg h, readRest, Nat.zero_add]
  rfl

theorem push_between (p : Expr) :
  (between ps).push p = between (ps ++ [p])
  := by
  simp [between, push, Draft.start]

/-- What is between items has nothing to settle. -/
theorem settle_between (t : Option Token) (position : Nat) :
  (between ps).settle t position = .ok (between ps)
  := rfl

/-- A token between items that is no parenthesis begins an item. -/
theorem step_between {t : Token} (hunbalanced : t.text ≠ [')'])
    (hlone : t.beforeLoneBackslash = false) :
  (between ps).step t = (between ps).readItem t
  := by
  have hparenthesis : (between ps).isUnbalanced t = false := by
    simp [isUnbalanced, between, Token.is, hunbalanced, Draft.start]
  rw [step, bind_eq_of_eq_ok (settle_between _ _), hparenthesis, hlone]
  rfl

/-- Reading goes on behind the first token. -/
theorem readRest_token {s s' : Draft} {t : Token} {text : List Char}
    (htokens : tokens (text ++ rest) start = t :: tokens rest (start + text.length))
    (hstep : s.step t = .ok s') :
  s.readRest (text ++ rest) start = s'.readRest rest (start + text.length)
  := by
  rw [readRest, htokens, List.foldlM_cons, bind_eq_of_eq_ok hstep, List.length_append,
    ← Nat.add_assoc]
  rfl

/-! ### Literals -/

/-- A character that is written with a backslash stands for itself. -/
theorem escapeItem_of_special {s : Draft} {t : Token} {c : Char} (h : c ∈ specialChars) :
  s.escapeItem t c = .ok (s.push (.point c.toNat))
  := by
  have hnothing : specialChars.all (fun c => (escapedAnchor? c).isNone &&
      (controlPoint? c).isNone && (escapedKind? c).isNone && (hexDigitsWanted? c).isNone &&
      c != '0' && c != 'N' && !c.isDigit && !c.isAlphanum) = true := rfl
  have hc := List.all_eq_true.mp hnothing c h
  simp only [Bool.and_eq_true, Option.isNone_iff_eq_none, bne_iff_ne, Bool.not_eq_true'] at hc
  obtain ⟨⟨⟨⟨⟨⟨⟨hanchor, hcontrol⟩, hkind⟩, hhex⟩, hzero⟩, hname⟩, hdigit⟩, halphanum⟩ := hc
  simp [escapeItem, escapeAnywhere, place, hanchor, hcontrol, hkind, hhex, hzero, hname, hdigit,
    halphanum]

/-- A character that is written on its own stands for itself. -/
theorem readItem_of_not_special {t : Token} {c : Char} (ht : t.text = [c])
    (h : c ∉ specialChars) :
  (between ps).readItem t = .ok ((between ps).push (.point c.toNat))
  := by
  have hescaped : t.escaped? = none := by rw [Token.escaped?, ht]
  have hchar : t.char? = some c := by rw [Token.char?, ht]
  simp only [specialChars, List.mem_cons, List.not_mem_nil, or_false, not_or] at h
  simp [readItem, hescaped, hchar, between, Draft.start, h]

theorem readItem_escapeChar {t : Token} {c : Char} (ht : t.text = escapeChar c) :
  (between ps).readItem t = .ok (between (ps ++ [.point c.toNat]))
  := by
  rw [← push_between]
  rw [escapeChar] at ht
  split at ht
  · rename_i hc
    have hescaped : t.escaped? = some c := by
      rw [Token.escaped?, ht]
      rfl
    rw [readItem, hescaped]
    apply escapeItem_of_special hc
  · rename_i hc
    apply readItem_of_not_special ht hc

theorem readRest_escapeChar (c : Char) (hrest : rest ≠ ['\\']) :
  (between ps).readRest (escapeChar c ++ rest) start
    = (between (ps ++ [.point c.toNat])).readRest rest (start + (escapeChar c).length)
  := by
  have hlone : (rest == ['\\']) = false := beq_false_of_ne hrest
  have hunbalanced : escapeChar c ≠ [')'] := by
    intro h
    have hhead : (escapeChar c).head? = some ')' := by rw [h]; rfl
    obtain h | h := head?_escapeChar hhead
    · cases h
    · apply h (by decide)
  apply readRest_token (tokens_escapeChar c rest start)
  rw [step_between hunbalanced hlone]
  apply readItem_escapeChar rfl

/-- The characters of a literal are read one by one. -/
theorem readRest_escape (literal : List Char) (hrest : rest ≠ ['\\']) :
  (between ps).readRest (escape literal ++ rest) start
    = (between (ps ++ points literal)).readRest rest (start + (escape literal).length)
  := by
  induction literal generalizing ps start with
  | nil => simp [escape, points]
  | cons c literal ih =>
    have hne := escape_append_ne_backslash literal hrest
    rw [escape_cons, List.append_assoc, readRest_escapeChar c hne,
      List.length_append, ← Nat.add_assoc]
    have hread := @ih (ps ++ [.point c.toNat]) (start + (escapeChar c).length)
    rwa [List.append_assoc] at hread

/-! ### Other constructs -/

/-- The escape for a space is read into a class. -/
theorem readRest_space (hrest : rest ≠ ['\\']) :
  (between ps).readRest (['\\', 's'] ++ rest) start
    = (between (ps ++ [.oneOf false [.kind .space false]])).readRest rest (start + 2)
  := by
  have hlone : (rest == ['\\']) = false := beq_false_of_ne hrest
  apply readRest_token (t := ⟨['\\', 's'], start, rest == ['\\']⟩) rfl
  rw [step_between (by simp) hlone, ← push_between]
  rfl

/-- The dot is read into any character. -/
theorem readRest_dot (hrest : rest ≠ ['\\']) :
  (between ps).readRest (['.'] ++ rest) start
    = (between (ps ++ [.any])).readRest rest (start + 1)
  := by
  have hlone : (rest == ['\\']) = false := beq_false_of_ne hrest
  apply readRest_token (t := ⟨['.'], start, rest == ['\\']⟩) (tokens_cons (by decide) _ _)
  rw [step_between (by simp) hlone, ← push_between]
  rfl

/-- Only a question mark or a plus sign tells of the greed of an iteration. -/
theorem charIf?_eq_none {t : Token} (hfrugal : t.text ≠ ['?']) (hpossessive : t.text ≠ ['+']) :
  t.charIf? (fun c => c == '?' || c == '+') = none
  := by
  simp only [Token.charIf?, Token.char?]
  split
  · rename_i c hc
    have hne : c ≠ '?' ∧ c ≠ '+' := by
      constructor
      · rintro rfl
        apply hfrugal hc
      · rintro rfl
        apply hpossessive hc
    simp [Option.filter, hne]
  · rfl

/-- Unless a token tells that it is frugal or possessive, an iteration is greedy. -/
theorem settle_iterated {p : Expr} {least : Nat} {t : Option Token} {position : Nat}
    (ht : t.bind (·.charIf? fun c => c == '?' || c == '+') = none) :
  ((between (ps ++ [p])).await (.iterated least none)).settle t position
    = .ok (between (ps ++ [.iterate least none .greedy p]))
  := by
  have hclose : ((between (ps ++ [p])).await (.iterated least none)).closeIterated least none
      .greedy = between (ps ++ [.iterate least none .greedy p]) := by
    simp [closeIterated, between, await, push, Draft.start]
  have honce : ((between (ps ++ [p])).await (.iterated least none)).settleOnce t position
      = .ok (between (ps ++ [.iterate least none .greedy p])) := by
    have hnone : ¬ (t.bind (·.charIf? fun c => c == '?' || c == '+')).isSome := by simp [ht]
    rw [← hclose]
    apply if_neg hnone
  rw [settle, bind_eq_of_eq_ok honce]
  rfl

/-- An iteration that waits for its greed is greedy before what tells nothing of it. -/
theorem readRest_iterated (p : Expr) (least : Nat)
    (hhead : ∀ c ∈ rest.head?, c ≠ '?' ∧ c ≠ '+') :
  ((between (ps ++ [p])).await (.iterated least none)).readRest rest start
    = (between (ps ++ [.iterate least none .greedy p])).readRest rest start
  := by
  rw [readRest, readRest]
  -- the iteration is settled by the next token or, when there is none, by the end
  cases htokens : tokens rest start with
  | nil =>
    rw [List.foldlM_nil, List.foldlM_nil, pure_bind, pure_bind, finish,
      bind_eq_of_eq_ok (settle_iterated rfl)]
    rfl
  | cons t ts =>
    have hother : ∀ c, c = '?' ∨ c = '+' → t.text ≠ [c] := by
      rintro c hc htext
      have hc' : c ∈ rest.head? := by
        rw [← head?_text_of_tokens htokens, htext]
        rfl
      obtain ⟨hfrugal, hpossessive⟩ := hhead c hc'
      obtain hc | hc := hc
      · apply hfrugal hc
      · apply hpossessive hc
    have hgreed := charIf?_eq_none (hother '?' (.inl rfl)) (hother '+' (.inr rfl))
    have hsettle := @settle_iterated ps p least (some t) t.start hgreed
    rw [List.foldlM_cons, List.foldlM_cons, step, bind_eq_of_eq_ok hsettle]
    rfl

/-- An item that is neither an anchor nor an iteration can be repeated. -/
theorem iterate_between {p : Expr} (least position : Nat) (hanchor : ∀ a, p ≠ .anchor a)
    (hiterate : ∀ min max greed q, p ≠ .iterate min max greed q) :
  (between (ps ++ [p])).iterate least none position
    = .ok ((between (ps ++ [p])).await (.iterated least none))
  := by
  have hitems : (between (ps ++ [p])).frame.items = p :: ps.reverse := by
    simp [between]
  rw [iterate]
  rw [hitems]
  split
  · rename_i h
    cases h
  · rename_i a _ h
    cases h
    apply absurd rfl (hanchor a)
  · rename_i min max greed q _ h
    cases h
    apply absurd rfl (hiterate min max greed q)
  · rfl

/-- An item with an asterisk behind it is repeated, and with a plus sign at least once. -/
theorem readRest_repeated {p : Expr} {c : Char} {least : Nat}
    (hc : c = '*' ∧ least = 0 ∨ c = '+' ∧ least = 1) (hanchor : ∀ a, p ≠ .anchor a)
    (hiterate : ∀ min max greed q, p ≠ .iterate min max greed q) (hrest : rest ≠ ['\\'])
    (hhead : ∀ c ∈ rest.head?, c ≠ '?' ∧ c ≠ '+') :
  (between (ps ++ [p])).readRest ([c] ++ rest) start
    = (between (ps ++ [.iterate least none .greedy p])).readRest rest (start + 1)
  := by
  have hlone : (rest == ['\\']) = false := beq_false_of_ne hrest
  have hread := @iterate_between ps p least start hanchor hiterate
  rw [← readRest_iterated p least hhead]
  obtain ⟨rfl, rfl⟩ | ⟨rfl, rfl⟩ := hc
  · apply readRest_token (t := ⟨['*'], start, rest == ['\\']⟩) (tokens_cons (by decide) _ _)
    rw [step_between (by simp) hlone, ← hread]
    rfl
  · apply readRest_token (t := ⟨['+'], start, rest == ['\\']⟩) (tokens_cons (by decide) _ _)
    rw [step_between (by simp) hlone, ← hread]
    rfl

/-- The end of a pattern leaves its items one after the other. -/
theorem readRest_nil :
  (between ps).readRest [] start = .ok (⟨true, false, false⟩, .ofSequence ps)
  := by
  have hbody : (between ps).frame.body = .ofSequence ps := by
    simp [between, Frame.body, Frame.current]
  have hfinish : (between ps).finish start
      = .ok (⟨true, false, false⟩, (between ps).frame.body) := rfl
  rw [← hbody, ← hfinish]
  rfl

end Draft

end SourceLocator.NamePattern
