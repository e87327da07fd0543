import SourceLocator.Proofs.AcceptedFields
import SourceLocator.Proofs.BoundsReading
import SourceLocator.Proofs.EscapedReading

/-!
# Counts that are too large

A pattern is refused in one way that no detail tells of: for a count that can be read but is
too large to be kept.  This happens exactly if the pattern has bounds with such a count behind
a brace that opens them (`NamePattern.ofString_eq_countTooLarge_iff`).  Every other pattern
that is refused is complained of as any other value (`Config.ofFields_of_pattern`).
-/

namespace SourceLocator

namespace NamePattern

variable {s : Draft} {rest : List Char} {start : Nat}

/-! ### Tokens and their texts -/

theorem ne_backslash {c : Char} {rest : List Char} (hend : c = '\\' → rest = [] → False)
    (hnext : ∀ d rest', c = '\\' → rest = d :: rest' → False) :
  c ≠ '\\'
  := by
  rintro rfl
  cases rest with
  | nil => exact hend rfl rfl
  | cons d rest => exact hnext d rest rfl rfl

theorem tokens_escaped (c : Char) (rest : List Char) (start : Nat) :
  tokens ('\\' :: c :: rest) start
    = ⟨['\\', c], start, rest == ['\\']⟩ :: tokens rest (start + 2)
  := by
  rw [tokens]

theorem ne_lone_of_mem {c : Char} (hc : c ≠ '\\') {text : List Char} (h : c ∈ text) :
  text ≠ ['\\']
  := by
  rintro rfl
  apply hc (List.mem_singleton.mp h)

/-- A text that ends in no backslash is cut up by itself, whatever follows it. -/
theorem tokens_append {before rest : List Char} {c : Char} (hc : c ≠ '\\')
    (hrest : rest ≠ ['\\']) (start : Nat) :
  tokens (before ++ c :: rest) start
    = tokens (before ++ [c]) start ++ tokens rest (start + (before.length + 1))
  := by
  have hlone : ∀ before rest : List Char, (before ++ c :: rest == ['\\']) = false :=
    fun before rest => beq_false_of_ne (ne_lone_of_mem hc (by simp))
  induction before, start using tokens.induct with
  | case1 start =>
    rw [List.nil_append, List.nil_append, tokens_cons hc, tokens_cons hc, beq_false_of_ne hrest]
    rfl
  | case2 start =>
    rw [List.singleton_append, List.singleton_append, tokens_escaped, tokens_escaped,
      beq_false_of_ne hrest]
    rfl
  | case3 d before start ih =>
    rw [List.cons_append, List.cons_append, List.cons_append, List.cons_append, tokens_escaped,
      tokens_escaped, hlone, hlone, ih, List.cons_append, List.length_cons, List.length_cons]
    congr 3
    omega
  | case4 d before start hend hnext ih =>
    have hd := ne_backslash hend hnext
    rw [List.cons_append, List.cons_append, tokens_cons hd, tokens_cons hd, hlone, hlone, ih,
      List.cons_append, List.length_cons]
    congr 3
    omega

/-- A text that is cut up into all of itself is no lone backslash, and neither is what it
begins if more tokens come. -/
theorem append_beq_lone {ts : List Token} {n n' : Nat}
    (hts : tokens (ts.flatMap Token.text) n = ts) (hrest : tokens rest n' ≠ []) :
  (ts.flatMap Token.text ++ rest == ['\\']) = (ts.flatMap Token.text == ['\\'])
  := by
  have htext : ts.flatMap Token.text ≠ ['\\'] := by
    intro h
    rw [h, tokens] at hts
    rw [← hts] at h
    cases h
  have hne : ts.flatMap Token.text ++ rest ≠ ['\\'] := by
    intro h
    obtain ⟨-, rfl⟩ | ⟨hlone, -⟩ := List.append_eq_singleton_iff.mp h
    · apply hrest
      rw [tokens]
    · apply htext hlone
  rw [beq_false_of_ne htext, beq_false_of_ne hne]

/-- Tokens before others are all tokens of a text, and the others of what follows it. -/
theorem exists_of_tokens_eq_append {pattern : List Char} {ts us : List Token}
    (h : tokens pattern start = ts ++ us) (hus : us ≠ []) :
  ∃ rest, pattern = ts.flatMap Token.text ++ rest ∧
    tokens (ts.flatMap Token.text) start = ts ∧
    tokens rest (start + (ts.flatMap Token.text).length) = us
  := by
  induction pattern, start using tokens.induct generalizing ts with
  | case1 start | case2 start =>
    rw [tokens] at h
    obtain ⟨-, rfl⟩ := List.nil_eq_append_iff.mp h
    exact absurd rfl hus
  | case3 c pattern start ih =>
    cases ts with
    | nil => exact ⟨_, rfl, rfl, h⟩
    | cons t ts =>
      rw [tokens_escaped, List.cons_append, List.cons.injEq] at h
      obtain ⟨rfl, h⟩ := h
      obtain ⟨rest, rfl, hts, hrest⟩ := ih h
      refine ⟨rest, rfl, ?_, ?_⟩
      · rw [append_beq_lone hts (by rwa [hrest]), List.flatMap_cons]
        change tokens ('\\' :: c :: ts.flatMap Token.text) start = _
        rw [tokens_escaped, hts]
      · rw [List.flatMap_cons, List.length_append, ← Nat.add_assoc]
        exact hrest
  | case4 c pattern start hend hnext ih =>
    have hc := ne_backslash hend hnext
    cases ts with
    | nil => exact ⟨_, rfl, rfl, h⟩
    | cons t ts =>
      rw [tokens_cons hc, List.cons_append, List.cons.injEq] at h
      obtain ⟨rfl, h⟩ := h
      obtain ⟨rest, rfl, hts, hrest⟩ := ih h
      refine ⟨rest, rfl, ?_, ?_⟩
      · rw [append_beq_lone hts (by rwa [hrest]), List.flatMap_cons]
        change tokens (c :: ts.flatMap Token.text) start = _
        rw [tokens_cons hc, hts]
      · rw [List.flatMap_cons, List.length_append, ← Nat.add_assoc]
        exact hrest

/-- A token of one character is the first character of the rest. -/
theorem exists_of_tokens_eq_cons {c : Char} (hc : c ≠ '\\') {t : Token} {ts : List Token}
    (h : tokens rest start = t :: ts) (ht : t.text = [c]) :
  ∃ after, rest = c :: after ∧ t.beforeLoneBackslash = (after == ['\\'])
  := by
  have hhead := head?_text_of_tokens h
  rw [ht] at hhead
  obtain ⟨after, rfl⟩ := List.head?_eq_some_iff.mp hhead.symm
  rw [tokens_cons hc] at h
  obtain ⟨rfl, -⟩ := List.cons.inj h
  exact ⟨after, rfl, rfl⟩

/-! ### Reading bounds -/

namespace Draft

theorem readRest_cons {c : Char} (hc : c ≠ '\\') (s : Draft) (rest : List Char) (start : Nat) :
  s.readRest (c :: rest) start
    = (s.step ⟨[c], start, rest == ['\\']⟩).bind fun s => s.readRest rest (start + 1)
  := by
  rw [readRest, tokens_cons hc, List.foldlM_cons]
  cases s.step ⟨[c], start, rest == ['\\']⟩ with
  | error e => rfl
  | ok s' =>
    rw [List.length_cons, Nat.add_comm rest.length, ← Nat.add_assoc]
    rfl

/-- A character that continues bounds is read as a part of them, unless a lone backslash
follows it. -/
theorem readRest_continues {c : Char} {begun : Nat} {low : List Char} {high : Option (List Char)}
    (hpending : s.pending = .bounds begun low high) (hrest : rest ≠ ['\\'])
    (hcontinues : ∀ t : Token, t.text = [c] → continuesBounds low high t) :
  ∃ t : Token, t.text = [c] ∧ s.readRest (c :: rest) start
    = (s.readBounds begun low high t).bind fun s => s.readRest rest (start + 1)
  := by
  have hc : c ≠ '\\' := by
    rintro rfl
    obtain ⟨d, hd, ht⟩ | ⟨ht, -⟩ | ⟨ht, -⟩ :=
      continuesBounds_iff.mp (hcontinues ⟨['\\'], 0, false⟩ rfl)
    · obtain rfl := List.head_eq_of_cons_eq ht
      cases hd
    · cases ht
    · cases ht
  refine ⟨⟨[c], start, rest == ['\\']⟩, rfl, ?_⟩
  rw [readRest_cons hc, step_of_continuesBounds hpending (hcontinues _ rfl) (beq_false_of_ne hrest)]

theorem readRest_digits {digits : List Char} (hdigits : ∀ c ∈ digits, c.isDigit) {begun : Nat}
    {low : List Char} {high : Option (List Char)} (hpending : s.pending = .bounds begun low high)
    (hrest : ∀ before : List Char, before ++ rest ≠ ['\\']) :
  s.readRest (digits ++ rest) start
    = (s.await (boundsWith begun digits.reverse low high)).readRest rest
        (start + digits.length)
  := by
  induction digits generalizing s start low high with
  | nil =>
    have hsame : s.await (boundsWith begun [] low high) = s := by
      have hbounds : boundsWith begun [] low high = s.pending := by
        rw [hpending]
        cases high <;> rfl
      rw [hbounds]
      rfl
    rw [List.reverse_nil, hsame]
    rfl
  | cons c digits ih =>
    obtain ⟨hc, hdigits⟩ := List.forall_mem_cons.mp hdigits
    obtain ⟨t, ht, hread⟩ := readRest_continues hpending (hrest digits)
      fun t ht => continuesBounds_iff.mpr (.inl ⟨c, hc, ht⟩)
    rw [List.cons_append, hread, readBounds_digit hc ht, List.length_cons,
      Nat.add_comm digits.length, ← Nat.add_assoc, List.reverse_cons]
    cases high with
    | none =>
      simp only [boundsWith, List.append_assoc]
      exact @ih (s.await (.bounds begun ([c] ++ low) none)) (start + 1) hdigits _ none rfl
    | some high =>
      simp only [boundsWith, List.append_assoc]
      exact @ih (s.await (.bounds begun low (some ([c] ++ high)))) (start + 1) hdigits _ _ rfl

theorem readRest_close {begun : Nat} {low : List Char} {high : Option (List Char)}
    {after : List Char} (hpending : s.pending = .bounds begun low high)
    (hlarge : AreTooLarge low.reverse (high.map List.reverse)) (hafter : after ≠ ['\\']) :
  s.readRest ('}' :: after) start = .error .countTooLarge
  := by
  have hsome : low ≠ [] ∨ high ≠ none := by
    by_contra hnone
    simp only [not_or, not_not] at hnone
    obtain ⟨rfl, rfl⟩ := hnone
    simp [AreTooLarge, not_isTooLarge_nil] at hlarge
  obtain ⟨t, ht, hread⟩ := readRest_continues hpending hafter
    fun t ht => continuesBounds_iff.mpr (.inr (.inr ⟨ht, hsome⟩))
  rw [hread, readBounds_close ht]
  obtain ⟨herror, -⟩ | ⟨-, hfits⟩ := @closeBounds_cases s begun low high
  · rw [herror]
    rfl
  · exact absurd hlarge hfits

/-- Bounds with a count that is too large to be kept are refused for it. -/
theorem readRest_bounds {begun : Nat} {low : List Char} {high : Option (List Char)}
    {after : List Char} (hpending : s.pending = .bounds begun [] none)
    (hlow : ∀ c ∈ low, c.isDigit) (hhigh : ∀ digits ∈ high, ∀ c ∈ digits, c.isDigit)
    (hlarge : AreTooLarge low high) (hafter : after ≠ ['\\']) :
  s.readRest (boundsText low high ++ '}' :: after) start = .error .countTooLarge
  := by
  have hrest : ∀ before inside : List Char, before ++ (inside ++ '}' :: after) ≠ ['\\'] :=
    fun before inside => @ne_lone_of_mem '}' (by decide) _ (by simp)
  rw [boundsText, List.append_assoc, readRest_digits hlow hpending fun before => hrest before _]
  cases high with
  | none =>
    apply readRest_close rfl _ hafter
    simpa using hlarge
  | some digits =>
    obtain ⟨t, ht, hread⟩ := @readRest_continues (s.await (boundsWith begun low.reverse [] none))
      (digits ++ '}' :: after) (start + low.length) ',' begun (low.reverse ++ []) none rfl
      (hrest [] digits) fun t ht => continuesBounds_iff.mpr (.inr (.inl ⟨ht, rfl⟩))
    simp only [Option.map_some, Option.getD_some, List.cons_append]
    rw [hread, readBounds_comma ht]
    have hdigits := @readRest_digits
      (s.await (.bounds begun (low.reverse ++ []) (some []))) ('}' :: after)
      (start + low.length + 1) digits (hhigh digits rfl) begun _ _ rfl fun before => hrest before []
    apply hdigits.trans
    apply readRest_close rfl _ hafter
    simpa using hlarge

end Draft

/-! ### Patterns with counts that are too large -/

/-- Behind a text a brace opens bounds. -/
def OpensBounds (before : List Char) : Prop :=
  ∃ s start, (tokens (before ++ ['{']) 0).foldlM Draft.step (Draft.start [.ignoreCase, .ascii])
      = .ok s ∧ s.pending = .bounds start [] none

/-- A pattern has bounds with a count that is too large to be kept, and the end of the bounds
does not stand before a backslash that ends the pattern. -/
def HasLargeCount (pattern : List Char) : Prop :=
  ∃ before low high after, pattern = before ++ '{' :: (boundsText low high ++ '}' :: after) ∧
    OpensBounds before ∧ (∀ c ∈ low, c.isDigit) ∧ (∀ digits ∈ high, ∀ c ∈ digits, c.isDigit) ∧
    AreTooLarge low high ∧ after ≠ ['\\']

/-- A run that fails does so at a token, and those before it have been read. -/
theorem exists_of_foldlM_error {ts : List Token} {r : Rejection}
    (h : ts.foldlM Draft.step s = .error r) :
  ∃ before t after s', ts = before ++ t :: after ∧ before.foldlM Draft.step s = .ok s' ∧
    s'.step t = .error r
  := by
  induction ts generalizing s with
  | nil => cases h
  | cons t ts ih =>
    rw [List.foldlM_cons] at h
    cases ht : s.step t with
    | error r' =>
      rw [ht] at h
      obtain rfl := Except.error.inj h
      exact ⟨[], t, ts, s, rfl, rfl, ht⟩
    | ok s' =>
      rw [ht] at h
      obtain ⟨before, t', after, s'', rfl, hbefore, ht'⟩ := ih h
      refine ⟨t :: before, t', after, s'', rfl, ?_, ht'⟩
      rw [List.foldlM_cons, ht]
      exact hbefore

/-- A step that finds a count too large to be kept ends the bounds that have it. -/
theorem exists_of_step_error {t : Token} (h : s.step t = .error .countTooLarge) :
  ∃ start low high, s.pending = .bounds start low high ∧ t.text = ['}'] ∧
    t.beforeLoneBackslash = false ∧ AreTooLarge low.reverse (high.map List.reverse)
  := by
  obtain hclear | ⟨-, s', hs', -⟩ | ⟨start, low, high, hpending, hcontinues, hlone, hread⟩ :=
    s.step_cases t
  · rw [h] at hclear
    exact absurd rfl hclear
  · cases h.symm.trans hs'
  · rw [h] at hread
    obtain ⟨ht, hclose⟩ | ⟨low', high', hmore, -⟩ := Draft.readBounds_cases hcontinues s start
    · obtain ⟨-, hlarge⟩ | ⟨hclear, -⟩ := @Draft.closeBounds_cases s start low high
      · exact ⟨start, low, high, hpending, ht, hlone, hlarge⟩
      · rw [← hclose, ← hread] at hclear
        exact absurd rfl hclear
    · cases hread.trans hmore

theorem foldlM_of_parse {pattern : List Char} (h : parse pattern = .error .countTooLarge) :
  (tokens pattern 0).foldlM Draft.step (Draft.start [.ignoreCase, .ascii])
    = .error .countTooLarge
  := by
  have hlone : pattern ≠ ['\\'] := by
    rintro rfl
    cases h
  rw [Draft.parse_eq_readRest hlone, Draft.readRest] at h
  cases hrun : (tokens pattern 0).foldlM Draft.step (Draft.between []) with
  | error r =>
    rw [hrun] at h
    cases h
    exact hrun
  | ok s =>
    rw [hrun] at h
    exact absurd h (s.isCheck_finish _)

theorem hasLargeCount_of_parse {pattern : List Char}
    (h : parse pattern = .error .countTooLarge) :
  HasLargeCount pattern
  := by
  obtain ⟨ts, close, rest, s, htokens, hrun, hstep⟩ := exists_of_foldlM_error (foldlM_of_parse h)
  obtain ⟨start, low, high, hpending, hclose, hlone, hlarge⟩ := exists_of_step_error hstep
  have hclear : (Draft.start [.ignoreCase, .ascii]).IsClear := by
    rintro start low high ⟨⟩
  obtain ⟨before, brace, inside, rfl, hbrace, ⟨s', hopen, hopening⟩, htext, hlow, hhigh⟩ :=
    Draft.exists_of_foldlM_bounds hclear hrun hpending
  -- the texts of the tokens are cut out one after the other
  have hsplit : tokens pattern 0 = (before ++ [brace]) ++ (inside ++ close :: rest) := by
    simp [htokens]
  obtain ⟨behind, rfl, hfirst, hbehind⟩ := exists_of_tokens_eq_append hsplit (by simp)
  obtain ⟨tail, rfl, -, htail⟩ := exists_of_tokens_eq_append hbehind (by simp)
  obtain ⟨after, rfl, hafter⟩ := exists_of_tokens_eq_cons (by decide) htail hclose
  rw [htext]
  refine ⟨before.flatMap Token.text, low.reverse, high.map List.reverse, after, ?_,
    ⟨s', start, ?_, hopening⟩, by simpa using hlow, ?_, hlarge, ?_⟩
  · simp [hbrace]
  · have hopened : (before ++ [brace]).flatMap Token.text
        = before.flatMap Token.text ++ ['{'] := by
      simp [hbrace]
    rw [← hopened, hfirst, hopen]
  · intro digits hdigits
    obtain ⟨digits, hmem, rfl⟩ := Option.mem_map.mp hdigits
    simpa using hhigh digits hmem
  · rintro rfl
    rw [hlone] at hafter
    cases hafter

theorem parse_of_hasLargeCount {pattern : List Char} (h : HasLargeCount pattern) :
  parse pattern = .error .countTooLarge
  := by
  obtain ⟨before, low, high, after, rfl, ⟨s, start, hopen, hpending⟩, hlow, hhigh, hlarge,
    hafter⟩ := h
  have hbehind : boundsText low high ++ '}' :: after ≠ ['\\'] :=
    @ne_lone_of_mem '}' (by decide) _ (by simp)
  have hlone : before ++ '{' :: (boundsText low high ++ '}' :: after) ≠ ['\\'] :=
    @ne_lone_of_mem '{' (by decide) _ (by simp)
  have hread := @Draft.readRest_bounds s (before.length + 1) start low high after hpending hlow
    hhigh hlarge hafter
  have hrun : (tokens (before ++ '{' :: (boundsText low high ++ '}' :: after)) 0).foldlM
      Draft.step (Draft.between [])
        = (tokens (boundsText low high ++ '}' :: after) (before.length + 1)).foldlM
            Draft.step s := by
    rw [tokens_append (by decide) hbehind, List.foldlM_append, Nat.zero_add]
    exact bind_eq_of_eq_ok hopen
  have hlength : 0 + (before ++ '{' :: (boundsText low high ++ '}' :: after)).length
      = before.length + 1 + (boundsText low high ++ '}' :: after).length := by
    simp only [List.length_append, List.length_cons]
    omega
  rw [Draft.parse_eq_readRest hlone, Draft.readRest, hrun, hlength]
  exact hread

/-- A pattern is refused for a count that is too large to be kept exactly if it has bounds with
such a count. -/
theorem ofString_eq_countTooLarge_iff {written : String} :
  ofString written = .error .countTooLarge ↔ HasLargeCount written.toList
  := by
  rw [ofString]
  constructor
  · intro h
    apply hasLargeCount_of_parse
    cases hparse : parse written.toList with
    | error r =>
      rw [hparse] at h
      cases h
      rfl
    | ok p =>
      rw [hparse] at h
      cases h
  · intro h
    rw [parse_of_hasLargeCount h]
    rfl

end NamePattern

namespace Config

open NamePattern

variable {fields : Fields} {written : String}

/-! ### Configurations with a given pattern -/

/-- A pattern that is not read is complained of with a reason, unless it has a count that is
too large to be kept. -/
theorem readPattern_text_cases (written : String) :
  (∃ p, NamePattern.ofString written = .ok p) ∨
    NamePattern.ofString written ≠ .error .countTooLarge ∧
      (∃ reason, readPattern (some (.text written)) = .error (.complaint (.refused reason))) ∨
    NamePattern.ofString written = .error .countTooLarge ∧
      readPattern (some (.text written)) = .error .countTooLarge
  := by
  simp only [readPattern, FieldValue.asText]
  cases NamePattern.ofString written with
  | ok p => exact .inl ⟨p, rfl⟩
  | error r =>
    cases r with
    | countTooLarge => exact .inr (.inr ⟨rfl, rfl⟩)
    | malformed m => exact .inr (.inl ⟨by rintro ⟨⟩, _, rfl⟩)
    | twoCharacterSets => exact .inr (.inl ⟨by rintro ⟨⟩, _, rfl⟩)
    | countTooLong digits => exact .inr (.inl ⟨by rintro ⟨⟩, _, rfl⟩)

/-- A count that is too large to be kept ends the reading of all fields. -/
theorem ofFields_of_countTooLarge
    (h : readPattern (some (ConfigField.resourceName.value fields)) = .error .countTooLarge) :
  ofFields fields = .error .countTooLarge
  := by
  unfold ofFields
  rw [readPattern_value, h]

/-- When all other fields are accepted, a pattern that is accepted is kept. -/
theorem exists_ofFields_of_pattern {p : NamePattern}
    (hwritten : ConfigField.resourceName.value fields = .text written)
    (hothers : ∀ f : ConfigField, f ≠ .resourceName → f.Accepts (f.value fields))
    (hread : NamePattern.ofString written = .ok p) :
  ∃ config, ofFields fields = .ok config ∧ config.resourceName = p
  := by
  obtain ⟨config, hconfig⟩ : ∃ config, ofFields fields = .ok config := by
    rw [exists_ofFields_iff]
    intro f
    by_cases hf : f = .resourceName
    · subst hf
      exact ⟨written, p, hwritten, hread⟩
    · apply hothers f hf
  obtain ⟨-, hgives, hkept⟩ := ofFields_eq_ok_iff.mp hconfig .resourceName
  obtain rfl := FieldValue.text.inj (hwritten.symm.trans hgives)
  exact ⟨config, hconfig, Except.ok.inj (hkept.symm.trans hread)⟩

/-- When all other fields are accepted, a pattern that is refused for anything but a count too
large to be kept is all that is complained of. -/
theorem exists_refused_of_pattern {reason : String}
    (hwritten : ConfigField.resourceName.value fields = .text written)
    (hothers : ∀ f : ConfigField, f ≠ .resourceName → f.Accepts (f.value fields))
    (hcount : NamePattern.ofString written ≠ .error .countTooLarge)
    (hread : readPattern (some (.text written)) = .error (.complaint (.refused reason))) :
  ofFields fields = .error (.invalid [⟨"resource_name_pattern", .refused reason⟩])
  := by
  have hcount' : ∀ s, ConfigField.resourceName.value fields = .text s →
      NamePattern.ofString s ≠ .error .countTooLarge := by
    intro s hs
    obtain rfl := FieldValue.text.inj (hwritten.symm.trans hs)
    exact hcount
  cases h : ofFields fields with
  | ok config =>
    have hreads := (ConfigField.reads_value _).mp (ofFields_eq_ok_iff_reads.mp h .resourceName)
    rw [ConfigField.Reads, hwritten, hread] at hreads
    cases hreads
  | error failure =>
    have hnone : ∀ f : ConfigField, f ≠ .resourceName →
        f.details (some (f.value fields)) = [] := by
      intro f hf
      obtain ⟨-, hnone⟩ | ⟨hnot, -⟩ := accepts_or_details hcount' f
      · exact hnone
      · exact absurd (hothers f hf) hnot
    have hone : ConfigField.resourceName.details (some (ConfigField.resourceName.value fields))
        = [⟨"resource_name_pattern", .refused reason⟩] := by
      rw [hwritten, ConfigField.details, hread]
      rfl
    rw [ofFields_error h (readPattern_ne_countTooLarge hcount')]
    simp only [ConfigField.details_value]
    simp [ConfigField.all, hnone, hone]

/-- When all other fields are accepted, a pattern is kept as it was written, or it is all that
is complained of; only one that has a count too large to be kept is refused with no detail. -/
theorem ofFields_of_pattern (fields : Fields) (written : String)
    (hwritten : ConfigField.resourceName.value fields = .text written)
    (hothers : ∀ f : ConfigField, f ≠ .resourceName → f.Accepts (f.value fields)) :
  (ofFields fields = .error .countTooLarge ↔ HasLargeCount written.toList) ∧
    (¬ HasLargeCount written.toList →
      (∃ config, ofFields fields = .ok config ∧ config.resourceName.written = written) ∨
      ∃ reason, ofFields fields
        = .error (.invalid [⟨"resource_name_pattern", .refused reason⟩]))
  := by
  rw [← ofString_eq_countTooLarge_iff]
  obtain ⟨p, hread⟩ | ⟨hcount, reason, hread⟩ | ⟨hlarge, hread⟩ := readPattern_text_cases written
  · obtain ⟨config, hconfig, hkept⟩ := exists_ofFields_of_pattern hwritten hothers hread
    refine ⟨by simp [hconfig, hread], fun _ => .inl ⟨config, hconfig, ?_⟩⟩
    rw [hkept, written_of_ofString hread]
  · have hrefused := exists_refused_of_pattern hwritten hothers hcount hread
    exact ⟨by simp [hrefused, hcount], fun _ => .inr ⟨reason, hrefused⟩⟩
  · have hfailed := ofFields_of_countTooLarge (by rwa [hwritten])
    exact ⟨iff_of_true hfailed hlarge, fun h => absurd hlarge h⟩

/-- Values with a pattern whose second count is too large to be kept. -/
def largeCountFields : Fields :=
  [("exact_package", .whole 1), ("resource_name_pattern", .text "x\x7b1,4294967295\x7d")]

/-- The pattern is refused, and so it has bounds with such a count. -/
theorem ofFields_of_pattern_largeCountFields :
  ConfigField.resourceName.value largeCountFields = .text "x\x7b1,4294967295\x7d" ∧
    (∀ f : ConfigField, f ≠ .resourceName → f.Accepts (f.value largeCountFields)) ∧
    HasLargeCount "x\x7b1,4294967295\x7d".toList
  := by
  have hwritten : ConfigField.resourceName.value largeCountFields
      = .text "x\x7b1,4294967295\x7d" := rfl
  have hothers : ∀ f : ConfigField, f ≠ .resourceName → f.Accepts (f.value largeCountFields) := by
    intro f hf
    cases f with
    | resourceName => exact absurd rfl hf
    | exact => exact ⟨true, rfl⟩
    | extension => exact accepts_default .extension
    | keyword => exact accepts_default .keyword
    | links => exact accepts_default .links
  have hfailed : ofFields largeCountFields = .error .countTooLarge := rfl
  exact ⟨hwritten, hothers, (ofFields_of_pattern _ _ hwritten hothers).1.mp hfailed⟩

/-- Not every pattern is accepted or complained of. -/
theorem not_forall_accepted_or_refused :
  ¬ ∀ written : String,
    (∃ config, ofFields [("resource_name_pattern", .text written)] = .ok config) ∨
      ∃ complaint, ofFields [("resource_name_pattern", .text written)]
        = .error (.invalid [⟨"resource_name_pattern", complaint⟩])
  := by
  intro h
  have hfailed : ofFields [("resource_name_pattern", .text "a\x7b4294967295\x7d")]
      = .error .countTooLarge := rfl
  obtain ⟨config, hconfig⟩ | ⟨complaint, hcomplaint⟩ := h "a\x7b4294967295\x7d"
  · cases hfailed.symm.trans hconfig
  · cases hfailed.symm.trans hcomplaint

end Config

end SourceLocator
