import SourceLocator.Proofs.DeclaringFiles

/-!
# Where bytes are no text

Bytes that are those of no text have a fault.  Up to it they are well-formed, and no further; from
it on there is no whole character, and the bytes at fault are as many as begin one
(`Text.Utf8.Fault.StandsIn`).  That is how `decode` finds it: a character that has been begun can
always be completed, and the first byte that it refuses can never go on it
(`Text.Utf8.Stops.length_le`).  A file with such bytes is outside every package, and the fault is
kept as the reason (`Config.check_of_file`).
-/

namespace SourceLocator

open Text

namespace Text.Utf8

/-! ### Bytes that begin a text -/

/-- Bytes begin those of some text. -/
def Begins (run : List UInt8) : Prop :=
  ∃ more, IsWellFormed (run ++ more)

/-- The part of some bytes up to a place is well-formed, and none up to a later place is. -/
def IsLongestWellFormed (front bytes : List UInt8) : Prop :=
  front <+: bytes ∧ IsWellFormed front ∧
    ∀ other, other <+: bytes → IsWellFormed other → other.length ≤ front.length

/-- The bytes up to a place are the most that begin a text, or one byte if none do. -/
def IsLongestBeginning (run bytes : List UInt8) : Prop :=
  run <+: bytes ∧ run ≠ [] ∧ (¬ Begins run → run.length = 1) ∧
    ∀ other, other <+: bytes → other ≠ [] → Begins other →
      Begins run ∧ other.length ≤ run.length

/-- A fault stands behind well-formed bytes and before the rest. -/
structure Fault.StandsIn (f : Fault) (front rest : List UInt8) : Prop where
  start : f.start = front.length
  front : IsLongestWellFormed front (front ++ (f.bytes ++ rest))
  bytes : IsLongestBeginning f.bytes (f.bytes ++ rest)
  invalidStart : f.reason.message = "invalid start byte" ↔ ¬ Begins (f.bytes.take 1)
  endOfData : f.reason.message = "unexpected end of data" ↔ Begins f.bytes ∧ rest = []
  invalidContinuation :
    f.reason.message = "invalid continuation byte" ↔ Begins f.bytes ∧ rest ≠ []

/-- A reason is told from the others by its wording. -/
theorem Reason.message_inj {r r' : Reason} :
  r.message = r'.message ↔ r = r'
  := by
  cases r <;> cases r' <;> decide

theorem Begins.of_isPrefix {run longer : List UInt8} (h : Begins longer) (hrun : run <+: longer) :
  Begins run
  := by
  obtain ⟨between, rfl⟩ := hrun
  obtain ⟨more, hmore⟩ := h
  exact ⟨between ++ more, by rwa [← List.append_assoc]⟩

/-- The bytes of a character are told from what stands behind them. -/
theorem utf8EncodeChar_append_inj {c d : Char} {u v : List UInt8}
    (h : String.utf8EncodeChar c ++ u = String.utf8EncodeChar d ++ v) :
  c = d ∧ u = v
  := by
  have hchar := @ByteArray.utf8DecodeChar?_utf8EncodeChar_append u.toByteArray c
  rw [← List.toByteArray_append, h, List.toByteArray_append,
    ByteArray.utf8DecodeChar?_utf8EncodeChar_append] at hchar
  obtain rfl := Option.some.inj hchar
  exact ⟨rfl, List.append_cancel_left h⟩

/-- Where no whole character stands, what begins a text goes on a character that its first byte
has begun. -/
theorem Begins.exists_completes {b : UInt8} {run : List UInt8} (h : Begins (b :: run))
    (hnone : ∀ c, ¬ String.utf8EncodeChar c <+: b :: run) :
  ∃ l tail c, Lead.ofByte? b = some l ∧ (l.begun b).Completes (run ++ tail) c
  := by
  obtain ⟨more, hmore⟩ := h
  obtain ⟨cs, hcs⟩ := isWellFormed_iff.mp hmore
  have hb : ¬ b < 0x80 := by
    intro hb
    apply hnone (Char.ofNat b.toNat)
    rw [utf8EncodeChar_eq_one_iff.mpr ⟨hb, rfl⟩]
    exact ⟨run, rfl⟩
  cases cs with
  | nil => cases hcs
  | cons c cs =>
    rw [encode_cons] at hcs
    obtain ⟨tail, htail, -⟩ | ⟨tail, htail, -⟩ := List.append_eq_append_iff.mp hcs
    · obtain ⟨l, hl, hcompletes⟩ := (utf8EncodeChar_eq_cons_iff hb).mp htail
      exact ⟨l, tail, c, hl, hcompletes⟩
    · apply absurd ⟨tail, htail.symm⟩ (hnone c)

/-- What says nothing as a first byte begins no character. -/
theorem utf8EncodeChar_ne_cons {b : UInt8} (hb : ¬ b < 0x80) (hl : Lead.ofByte? b = none) (c : Char)
    (tail : List UInt8) :
  String.utf8EncodeChar c ≠ b :: tail
  := by
  intro hc
  obtain ⟨l, hl', -⟩ := (utf8EncodeChar_eq_cons_iff hb).mp hc
  rw [hl] at hl'
  cases hl'

/-- What begins no character begins no text. -/
theorem not_begins_of_ofByte?_eq_none {b : UInt8} (hb : ¬ b < 0x80) (hl : Lead.ofByte? b = none)
    (run : List UInt8) :
  ¬ Begins (b :: run)
  := by
  rintro ⟨more, hmore⟩
  obtain ⟨cs, hcs⟩ := isWellFormed_iff.mp hmore
  cases cs with
  | nil => cases hcs
  | cons c cs =>
    obtain ⟨hc, -⟩ | ⟨tail, hc, -⟩ := List.append_eq_cons_iff.mp hcs.symm
    · apply String.utf8EncodeChar_ne_nil hc
    · apply utf8EncodeChar_ne_cons hb hl c tail hc

/-- Where no whole character stands behind a text, no longer part is well-formed. -/
theorem isLongestWellFormed_of_not_isPrefix {cs : List Char} {bytes : List UInt8}
    (hnone : ∀ c, ¬ String.utf8EncodeChar c <+: bytes) :
  IsLongestWellFormed (encode cs) (encode cs ++ bytes)
  := by
  refine ⟨⟨bytes, rfl⟩, isWellFormed_iff.mpr ⟨cs, rfl⟩, ?_⟩
  intro other hother hwell
  obtain ⟨ds, rfl⟩ := isWellFormed_iff.mp hwell
  clear hwell
  -- the characters of both are the same until one of them ends
  induction cs generalizing ds with
  | nil =>
    cases ds with
    | nil => apply Nat.le_refl
    | cons d ds =>
      apply absurd _ (hnone d)
      apply (List.prefix_append _ _).trans hother
  | cons c cs ih =>
    cases ds with
    | nil => apply Nat.zero_le
    | cons d ds =>
      obtain ⟨rest, hrest⟩ := hother
      rw [encode_cons, encode_cons, List.append_assoc, List.append_assoc] at hrest
      obtain ⟨rfl, hbehind⟩ := utf8EncodeChar_append_inj hrest
      rw [encode_cons, encode_cons, List.length_append, List.length_append]
      apply Nat.add_le_add_left
      apply ih ds ⟨rest, hbehind⟩

/-! ### Characters that have been begun -/

/-- Bytes go on a begun character, without completing it, to another state of it. -/
inductive Begun.Reaches : Begun → List UInt8 → Begun → Prop where
  | here {s} : Reaches s [] s
  | next {s b more s'} :
      s.low ≤ b ∧ b ≤ s.high → ¬ s.following ≤ 1 → Reaches (s.next b) more s' →
      Reaches s (b :: more) s'

/-- A begun character is not gone on, since there are no more bytes or the next one is no byte of
it. -/
def Begun.Refuses (s : Begun) : List UInt8 → Reason → Prop
  | [], reason => reason = .endOfData
  | b :: _, reason => ¬ (s.low ≤ b ∧ b ≤ s.high) ∧ reason = .invalidContinuation

namespace Begun

variable {s s' : Begun} {more rest tail : List UInt8} {c : Char} {reason : Reason}

/-- What completes a later state of a character completes an earlier one behind the bytes
between. -/
theorem Reaches.completes (h : s.Reaches more s') (hc : s'.Completes tail c) :
  s.Completes (more ++ tail) c
  := by
  induction h with
  | here => exact hc
  | next hrange hmore _ ih =>
    refine ⟨hrange, ?_⟩
    rw [if_neg hmore]
    apply ih hc

/-- What completes a character and goes on as some bytes do goes on behind them. -/
theorem Reaches.exists_completes {u v : List UInt8} (h : s.Reaches more s')
    (hc : s.Completes tail c) (happend : tail ++ u = more ++ v) :
  ∃ tail', v = tail' ++ u ∧ s'.Completes tail' c
  := by
  induction h generalizing tail with
  | here => exact ⟨tail, happend.symm, hc⟩
  | @next s b more s' hrange hmore _ ih =>
    cases tail with
    | nil => cases hc
    | cons x tail =>
      obtain ⟨rfl, hbehind⟩ := List.cons.inj happend
      obtain ⟨-, hc⟩ := hc
      rw [if_neg hmore] at hc
      apply ih hc hbehind

theorem Refuses.ne_invalidStart (h : s.Refuses rest reason) :
  reason ≠ .invalidStart
  := by
  rintro rfl
  cases rest with
  | nil => cases h
  | cons b rest => cases h.2

theorem Refuses.endOfData_iff (h : s.Refuses rest reason) :
  reason = .endOfData ↔ rest = []
  := by
  cases rest with
  | nil => exact iff_of_true h rfl
  | cons b rest =>
    obtain ⟨-, rfl⟩ := h
    simp

/-- What a begun character refuses does not complete it. -/
theorem Refuses.not_completes {u : List UInt8} (h : s.Refuses rest reason)
    (hc : s.Completes tail c) :
  tail ++ u ≠ rest
  := by
  rintro rfl
  cases tail with
  | nil => cases hc
  | cons b tail => exact h.1 hc.1

theorem low_le_high_next (s : Begun) (b : UInt8) :
  (s.next b).low ≤ (s.next b).high
  := (by decide : (0x80 : UInt8) ≤ 0xBF)

theorem Reaches.low_le_high (h : s.Reaches more s') (hs : s.low ≤ s.high) :
  s'.low ≤ s'.high
  := by
  induction h with
  | here => exact hs
  | @next s b _ _ _ _ _ ih => exact ih (low_le_high_next s b)

/-- If one byte is to follow, the least in the range completes the character. -/
theorem completes_low (h : s.low ≤ s.high) (hlast : s.following ≤ 1) :
  s.Completes [s.low] (Char.ofNat (s.next s.low).bits)
  := by
  refine ⟨⟨UInt8.le_refl _, h⟩, ?_⟩
  rw [if_pos hlast]
  exact ⟨rfl, rfl⟩

/-- A begun character can be completed, by the least byte in the range each time. -/
theorem exists_completes (h : s.low ≤ s.high) :
  ∃ tail c, s.Completes tail c
  := by
  induction hn : s.following generalizing s with
  | zero => exact ⟨_, _, completes_low h (by omega)⟩
  | succ n ih =>
    by_cases hlast : s.following ≤ 1
    · exact ⟨_, _, completes_low h hlast⟩
    · have hnext : (s.next s.low).following = n := by simp [next, hn]
      obtain ⟨tail, c, hc⟩ := ih (low_le_high_next s s.low) hnext
      refine ⟨s.low :: tail, c, ⟨UInt8.le_refl _, h⟩, ?_⟩
      rwa [if_neg hlast]

end Begun

theorem Lead.low_le_high {b : UInt8} {l : Lead} (h : Lead.ofByte? b = some l) :
  l.low ≤ l.high
  := by
  unfold Lead.ofByte? at h
  repeat' split at h
  all_goals cases h
  all_goals simp

theorem Lead.not_lt_of_ofByte? {b : UInt8} {l : Lead} (h : Lead.ofByte? b = some l) :
  ¬ b < 0x80
  := by
  intro hb
  have hlow : b < 0xC2 := UInt8.lt_trans hb (by decide)
  rw [Lead.ofByte?, if_pos hlow] at h
  cases h

/-! ### Where decoding stops -/

/-- Decoding stops with a run of bytes before the rest, for a reason. -/
inductive Stops : List UInt8 → List UInt8 → Reason → Prop where
  | atFirst {b rest} : ¬ b < 0x80 → Lead.ofByte? b = none → Stops [b] rest .invalidStart
  | within {b l more rest s reason} :
      Lead.ofByte? b = some l → (l.begun b).Reaches more s → s.Refuses rest reason →
      Stops (b :: more) rest reason

namespace Stops

variable {run rest : List UInt8} {reason : Reason}

theorem ne_nil (h : Stops run rest reason) :
  run ≠ []
  := by
  cases h <;> simp

/-- No character stands where decoding stops. -/
theorem not_isPrefix (h : Stops run rest reason) (c : Char) :
  ¬ String.utf8EncodeChar c <+: run ++ rest
  := by
  rintro ⟨u, hu⟩
  cases h with
  | @atFirst b rest hb hl =>
    obtain ⟨hc, -⟩ | ⟨tail, hc, -⟩ := List.append_eq_cons_iff.mp hu
    · apply String.utf8EncodeChar_ne_nil hc
    · apply utf8EncodeChar_ne_cons hb hl c tail hc
  | @within b l more rest s reason hl hreaches hrefuses =>
    obtain ⟨hc, -⟩ | ⟨tail, hc, htail⟩ := List.append_eq_cons_iff.mp hu
    · apply String.utf8EncodeChar_ne_nil hc
    · obtain ⟨l', hl', hcompletes⟩ :=
        (utf8EncodeChar_eq_cons_iff (Lead.not_lt_of_ofByte? hl)).mp hc
      obtain rfl := Option.some.inj (hl.symm.trans hl')
      obtain ⟨tail', hrest, hcompletes'⟩ := hreaches.exists_completes hcompletes htail.symm
      apply hrefuses.not_completes hcompletes' hrest.symm

/-- The run and the next byte begin no text. -/
theorem not_begins_append {x : UInt8} (h : Stops run (x :: rest) reason) :
  ¬ Begins (run ++ [x])
  := by
  have hnone (c : Char) : ¬ String.utf8EncodeChar c <+: run ++ [x] := by
    intro hc
    apply h.not_isPrefix c (hc.trans ⟨rest, by simp⟩)
  cases h with
  | atFirst hb hl => apply not_begins_of_ofByte?_eq_none hb hl
  | @within b l more rest s reason hl hreaches hrefuses =>
    intro hbegins
    obtain ⟨l', tail, c, hl', hcompletes⟩ := hbegins.exists_completes hnone
    obtain rfl := Option.some.inj (hl.symm.trans hl')
    have happend : more ++ [x] ++ tail ++ [] = more ++ (x :: tail) := by simp
    obtain ⟨tail', hbehind, hcompletes'⟩ := hreaches.exists_completes hcompletes happend
    rw [List.append_nil] at hbehind
    obtain rfl := hbehind
    exact hrefuses.1 hcompletes'.1

/-- Whatever begins a text where decoding stops goes no further than the run does. -/
theorem length_le (h : Stops run rest reason) {other : List UInt8} (hother : other <+: run ++ rest)
    (hbegins : Begins other) :
  other.length ≤ run.length
  := by
  obtain hshort | hlong := List.prefix_or_prefix_of_prefix hother (List.prefix_append run rest)
  · apply hshort.length_le
  · obtain ⟨beyond, rfl⟩ := hlong
    obtain ⟨rest, rfl⟩ := (List.prefix_append_right_inj run).mp hother
    cases beyond with
    | nil => rw [List.append_nil]
    | cons x beyond =>
      apply absurd (hbegins.of_isPrefix ⟨beyond, by simp⟩) h.not_begins_append

/-- The run begins a text unless the first byte is at fault. -/
theorem begins_iff (h : Stops run rest reason) :
  Begins run ↔ reason ≠ .invalidStart
  := by
  cases h with
  | atFirst hb hl =>
    exact iff_of_false (not_begins_of_ofByte?_eq_none hb hl []) (not_not_intro rfl)
  | within hl hreaches hrefuses =>
    refine iff_of_true ?_ hrefuses.ne_invalidStart
    obtain ⟨tail, c, hcompletes⟩ :=
      Begun.exists_completes (hreaches.low_le_high (Lead.low_le_high hl))
    have hc := (utf8EncodeChar_eq_cons_iff (Lead.not_lt_of_ofByte? hl)).mpr
      ⟨_, hl, hreaches.completes hcompletes⟩
    refine ⟨tail, isWellFormed_iff.mpr ⟨[c], ?_⟩⟩
    rw [encode_cons, encode_nil, List.append_nil, hc]
    rfl

/-- The first byte begins a text unless it is at fault. -/
theorem begins_take_iff (h : Stops run rest reason) :
  Begins (run.take 1) ↔ reason ≠ .invalidStart
  := by
  constructor
  · intro htake
    cases h with
    | atFirst hb hl => exact (@atFirst _ rest hb hl).begins_iff.mp htake
    | within _ _ hrefuses => exact hrefuses.ne_invalidStart
  · intro hreason
    apply (h.begins_iff.mpr hreason).of_isPrefix (List.take_prefix 1 run)

/-- The reason tells whether a run that begins a text ends with the bytes. -/
theorem endOfData_iff (h : Stops run rest reason) :
  reason = .endOfData ↔ Begins run ∧ rest = []
  := by
  rw [h.begins_iff]
  cases h with
  | atFirst => simp
  | within _ _ hrefuses =>
    rw [hrefuses.endOfData_iff]
    simp [hrefuses.ne_invalidStart]

theorem invalidContinuation_iff (h : Stops run rest reason) :
  reason = .invalidContinuation ↔ Begins run ∧ rest ≠ []
  := by
  have hend := h.endOfData_iff
  have hbegins := h.begins_iff
  cases reason <;> simp_all

/-- The run is the most that begins a text, or one byte. -/
theorem isLongestBeginning (h : Stops run rest reason) :
  IsLongestBeginning run (run ++ rest)
  := by
  refine ⟨⟨rest, rfl⟩, h.ne_nil, ?_, ?_⟩
  · intro hrun
    rw [h.begins_iff, not_not] at hrun
    cases h with
    | atFirst => rfl
    | within _ _ hrefuses => apply absurd hrun hrefuses.ne_invalidStart
  · intro other hother hne hbegins
    refine ⟨?_, h.length_le hother hbegins⟩
    have hfirst : run.take 1 <+: run ++ rest :=
      (List.take_prefix 1 run).trans (List.prefix_append run rest)
    have hlength : (run.take 1).length ≤ other.length :=
      (List.length_take_le 1 run).trans (List.length_pos_of_ne_nil hne)
    have htake := hbegins.of_isPrefix (List.prefix_of_prefix_length_le hfirst hother hlength)
    exact h.begins_iff.mpr (h.begins_take_iff.mp htake)

/-- Decoding stops behind a text at a fault. -/
theorem standsIn {f : Fault} {cs : List Char} (h : Stops f.bytes rest f.reason)
    (hstart : f.start = (encode cs).length) :
  f.StandsIn (encode cs) rest
  where
    start := hstart
    front := isLongestWellFormed_of_not_isPrefix h.not_isPrefix
    bytes := h.isLongestBeginning
    invalidStart := by
      rw [h.begins_take_iff, not_not]
      exact @Reason.message_inj _ .invalidStart
    endOfData := by
      rw [← h.endOfData_iff]
      exact @Reason.message_inj _ .endOfData
    invalidContinuation := by
      rw [← h.invalidContinuation_iff]
      exact @Reason.message_inj _ .invalidContinuation

end Stops

/-! ### The fault that is found -/

theorem map_eq_error_iff {ε α β : Type} {x : Except ε α} {f : α → β} {e : ε} :
  x.map f = .error e ↔ x = .error e
  := by
  cases x <;> simp [Except.map]

/-- Reading on from a begun character fails behind that character or inside it. -/
theorem decodeFrom_some_eq_error {pos : Nat} {s : Begun} {bytes : List UInt8} {f : Fault}
    (h : decodeFrom pos (some s) bytes = .error f) :
  (∃ tail c rest, bytes = tail ++ rest ∧ s.Completes tail c ∧
      decodeFrom (pos + tail.length) none rest = .error f) ∨
    ∃ more rest s', bytes = more ++ rest ∧ s.Reaches more s' ∧ s'.Refuses rest f.reason ∧
      f.start = pos - s.bytes.length ∧ f.bytes = s.bytes.reverse ++ more
  := by
  induction bytes generalizing pos s with
  | nil =>
    obtain rfl := Except.error.inj h
    exact .inr ⟨[], [], s, rfl, .here, rfl, rfl, by simp⟩
  | cons b bytes ih =>
    rw [decodeFrom] at h
    split at h
    · rename_i hrange
      dsimp only at h
      split at h
      · rename_i hlast
        rw [map_eq_error_iff] at h
        refine .inl ⟨[b], Char.ofNat (s.next b).bits, bytes, rfl, ⟨hrange, ?_⟩, h⟩
        rw [if_pos hlast]
        exact ⟨rfl, rfl⟩
      · rename_i hlast
        obtain ⟨tail, c, rest, rfl, hcompletes, hrest⟩ |
          ⟨more, rest, s', rfl, hreaches, hrefuses, hstart, hbytes⟩ := ih h
        · refine .inl ⟨b :: tail, c, rest, rfl, ⟨hrange, ?_⟩, ?_⟩
          · rw [if_neg hlast]
            apply hcompletes
          · rw [List.length_cons, ← Nat.add_assoc, Nat.add_right_comm]
            apply hrest
        · refine .inr ⟨b :: more, rest, s', rfl, .next hrange hlast hreaches, hrefuses, ?_, ?_⟩
          · rw [hstart, List.length_cons, Nat.add_sub_add_right]
          · rw [hbytes, List.reverse_cons, List.append_assoc]
            rfl
    · rename_i hrange
      obtain rfl := Except.error.inj h
      exact .inr ⟨[], b :: bytes, s, rfl, .here, ⟨hrange, rfl⟩, rfl, by simp⟩

/-- Decoding fails behind the first character, or it stops before it. -/
theorem decodeFrom_none_cons_eq_error {pos : Nat} {b : UInt8} {bytes : List UInt8} {f : Fault}
    (h : decodeFrom pos none (b :: bytes) = .error f) :
  (∃ tail c rest, bytes = tail ++ rest ∧ String.utf8EncodeChar c = b :: tail ∧
      decodeFrom (pos + 1 + tail.length) none rest = .error f) ∨
    ∃ rest, b :: bytes = f.bytes ++ rest ∧ f.start = pos ∧ Stops f.bytes rest f.reason
  := by
  rw [decodeFrom] at h
  by_cases hb : b < 0x80
  · rw [if_pos hb, map_eq_error_iff] at h
    exact .inl ⟨[], _, bytes, rfl, utf8EncodeChar_eq_one_iff.mpr ⟨hb, rfl⟩, h⟩
  · rw [if_neg hb] at h
    cases hl : Lead.ofByte? b with
    | none =>
      rw [hl] at h
      obtain rfl := Except.error.inj h
      exact .inr ⟨bytes, rfl, rfl, .atFirst hb hl⟩
    | some l =>
      rw [hl] at h
      obtain ⟨tail, c, rest, hbytes, hcompletes, hrest⟩ |
        ⟨more, rest, s, rfl, hreaches, hrefuses, hstart, hrun⟩ := decodeFrom_some_eq_error h
      · exact .inl ⟨tail, c, rest, hbytes,
          (utf8EncodeChar_eq_cons_iff hb).mpr ⟨l, hl, hcompletes⟩, hrest⟩
      · replace hrun : f.bytes = b :: more := hrun
        refine .inr ⟨rest, by rw [hrun]; rfl, hstart, ?_⟩
        rw [hrun]
        apply Stops.within hl hreaches hrefuses

/-- Decoding fails behind a text, where it stops. -/
theorem exists_stops_of_decodeFrom {pos : Nat} {bytes : List UInt8} {f : Fault}
    (h : decodeFrom pos none bytes = .error f) :
  ∃ cs rest, bytes = encode cs ++ (f.bytes ++ rest) ∧ f.start = pos + (encode cs).length ∧
    Stops f.bytes rest f.reason
  := by
  induction hn : bytes.length using Nat.strongRecOn generalizing pos bytes with
  | ind n ih =>
    subst hn
    cases bytes with
    | nil => cases h
    | cons b bytes =>
      obtain ⟨tail, c, rest, rfl, hc, hrest⟩ | ⟨rest, hbytes, hstart, hstops⟩ :=
        decodeFrom_none_cons_eq_error h
      · have hshorter : rest.length < (b :: (tail ++ rest)).length := by
          rw [List.length_cons, List.length_append]
          omega
        obtain ⟨cs, rest, rfl, hstart, hstops⟩ := ih _ hshorter hrest rfl
        refine ⟨c :: cs, rest, ?_, ?_, hstops⟩
        · rw [encode_cons, hc, List.append_assoc]
          rfl
        · rw [hstart, encode_cons, hc, List.length_append, List.length_cons]
          omega
      · exact ⟨[], rest, hbytes, hstart, hstops⟩

/-- The fault that decoding finds stands in the bytes. -/
theorem exists_standsIn_of_decode {bytes : List UInt8} {f : Fault} (h : decode bytes = .error f) :
  ∃ front rest, bytes = front ++ (f.bytes ++ rest) ∧ f.StandsIn front rest
  := by
  obtain ⟨cs, rest, hbytes, hstart, hstops⟩ := exists_stops_of_decodeFrom h
  exact ⟨encode cs, rest, hbytes, hstops.standsIn (by rw [hstart, Nat.zero_add])⟩

/-- Only one part of some bytes is the longest that is well-formed. -/
theorem IsLongestWellFormed.unique {front front' bytes : List UInt8}
    (h : IsLongestWellFormed front bytes) (h' : IsLongestWellFormed front' bytes) :
  front = front'
  := by
  obtain ⟨hfront, hwell, hlongest⟩ := h
  obtain ⟨hfront', hwell', hlongest'⟩ := h'
  have hlength : front.length = front'.length :=
    Nat.le_antisymm (hlongest' front hfront hwell) (hlongest front' hfront' hwell')
  exact (List.prefix_of_prefix_length_le hfront hfront' hlength.le).eq_of_length hlength

/-- Only one run of bytes is the most that begins a text. -/
theorem IsLongestBeginning.unique {run run' bytes : List UInt8}
    (h : IsLongestBeginning run bytes) (h' : IsLongestBeginning run' bytes) :
  run = run'
  := by
  obtain ⟨hfront, hne, hsingle, hlongest⟩ := h
  obtain ⟨hfront', hne', hsingle', hlongest'⟩ := h'
  have hlength : run.length = run'.length := by
    by_cases hbegins : Begins run
    · obtain ⟨hbegins', hle⟩ := hlongest' run hfront hne hbegins
      exact Nat.le_antisymm hle (hlongest run' hfront' hne' hbegins').2
    · have hbegins' : ¬ Begins run' := fun h => hbegins (hlongest run' hfront' hne' h).1
      rw [hsingle hbegins, hsingle' hbegins']
  exact (List.prefix_of_prefix_length_le hfront hfront' hlength.le).eq_of_length hlength

/-- Only one fault stands in some bytes. -/
theorem Fault.StandsIn.unique {f f' : Fault} {front front' rest rest' : List UInt8}
    (h : f.StandsIn front rest) (h' : f'.StandsIn front' rest')
    (hbytes : front ++ (f.bytes ++ rest) = front' ++ (f'.bytes ++ rest')) :
  f = f'
  := by
  obtain rfl : front = front' := h.front.unique (hbytes ▸ h'.front)
  have hbehind := List.append_cancel_left hbytes
  have hrun : f.bytes = f'.bytes := h.bytes.unique (hbehind ▸ h'.bytes)
  obtain rfl : rest = rest' := by
    rw [hrun] at hbehind
    apply List.append_cancel_left hbehind
  have hstart : f.start = f'.start := h.start.trans h'.start.symm
  have hreason : f.reason = f'.reason := by
    apply Reason.message_inj.mp
    cases hr : f.reason with
    | invalidStart =>
      symm
      apply h'.invalidStart.mpr
      rw [← hrun]
      apply h.invalidStart.mp (congrArg Reason.message hr)
    | invalidContinuation =>
      symm
      apply h'.invalidContinuation.mpr
      rw [← hrun]
      apply h.invalidContinuation.mp (congrArg Reason.message hr)
    | endOfData =>
      symm
      apply h'.endOfData.mpr
      rw [← hrun]
      apply h.endOfData.mp (congrArg Reason.message hr)
  cases f
  cases f'
  simp_all

theorem not_isWellFormed_of_decode {bytes : List UInt8} {f : Fault} (h : decode bytes = .error f) :
  ¬ IsWellFormed bytes
  := by
  intro hwell
  obtain ⟨text, htext⟩ := isWellFormed_iff.mp hwell
  rw [decode_eq_ok_iff.mpr htext] at h
  cases h

/-- Decoding fails with the fault that stands in the bytes. -/
theorem decode_eq_error_iff {bytes : List UInt8} {f : Fault} :
  decode bytes = .error f ↔ ∃ front rest, bytes = front ++ (f.bytes ++ rest) ∧ f.StandsIn front rest
  := by
  constructor
  · apply exists_standsIn_of_decode
  · rintro ⟨front, rest, rfl, hstands⟩
    cases hdecode : decode (front ++ (f.bytes ++ rest)) with
    | ok text =>
      have hwell := isWellFormed_iff.mpr ⟨text, decode_eq_ok_iff.mp hdecode⟩
      have hlonger := hstands.front.2.2 _ List.prefix_rfl hwell
      have hpos := List.length_pos_of_ne_nil hstands.bytes.2.1
      simp only [List.length_append] at hlonger
      omega
    | error f' =>
      obtain ⟨front', rest', hbytes, hstands'⟩ := exists_standsIn_of_decode hdecode
      rw [hstands.unique hstands' hbytes]

end Text.Utf8

/-! ### Files with bytes of no text -/

namespace Config

variable {t : FileTree} {p : Path}

/-- Whatever a file holds, a test of it gives an answer.  The file can be read exactly when its
bytes are well-formed; otherwise it is outside the package, and the reason is the fault that
stands in its bytes. -/
theorem check_of_file {bytes : List UInt8} (h : t.stat p = .ok (.file bytes)) (config : Config)
    (package : String) :
  ∃ m, config.check t p package = .ok m ∧ m.path = p ∧ m.package = package ∧
    (Utf8.IsWellFormed bytes → m.error = none) ∧
    (¬ Utf8.IsWellFormed bytes →
      m.member = false ∧ ∃ f front rest, m.error = some (.encoding f) ∧
        bytes = front ++ (f.bytes ++ rest) ∧ f.StandsIn front rest)
  := by
  rw [check_of_stat h]
  cases hdecode : Utf8.decode bytes with
  | ok text =>
    have hwell : Utf8.IsWellFormed bytes :=
      Utf8.isWellFormed_iff.mpr ⟨text, Utf8.decode_eq_ok_iff.mp hdecode⟩
    have hread : t.readLines p = .ok (lines text) := by
      rw [FileTree.readLines_of_stat h, hdecode]
      rfl
    refine ⟨_, rfl, ?_⟩
    rw [membership, hread]
    exact ⟨rfl, rfl, fun _ => rfl, fun hno => absurd hwell hno⟩
  | error f =>
    have hread : t.readLines p = .error (.encoding f) := by
      rw [FileTree.readLines_of_stat h, hdecode]
      rfl
    obtain ⟨front, rest, hbytes, hfault⟩ := Utf8.exists_standsIn_of_decode hdecode
    refine ⟨_, rfl, ?_⟩
    rw [membership, hread]
    refine ⟨rfl, rfl, ?_, fun _ => ⟨rfl, f, front, rest, rfl, hbytes, hfault⟩⟩
    intro hwell
    apply absurd hwell (Utf8.not_isWellFormed_of_decode hdecode)

/-- A tree with a file that holds half of a surrogate pair behind a letter. -/
def surrogateTree : FileTree where
  entries :=
    [([⟨"bytes", by decide⟩], .directory),
     ([⟨"half", by decide⟩, ⟨"bytes", by decide⟩], .file [0xC3, 0xA9, 0xED, 0xA0, 0x80])]
  here := [⟨"bytes", by decide⟩]

/-- The first byte of the surrogate begins other characters, and the second does not go on it. -/
theorem check_of_file_surrogateTree :
  ∃ bytes m f, surrogateTree.stat (.ofString "half") = .ok (.file bytes) ∧
    ¬ Utf8.IsWellFormed bytes ∧
    Config.default.check surrogateTree (.ofString "half") "p" = .ok m ∧ m.member = false ∧
    m.error = some (.encoding f) ∧ f = ⟨2, [0xED], .invalidContinuation⟩ ∧
    f.StandsIn [0xC3, 0xA9] [0xA0, 0x80]
  := by
  have hfile : surrogateTree.stat (.ofString "half")
      = .ok (.file [0xC3, 0xA9, 0xED, 0xA0, 0x80]) := rfl
  have hdecode : Utf8.decode [0xC3, 0xA9, 0xED, 0xA0, 0x80]
      = .error ⟨2, [0xED], .invalidContinuation⟩ := rfl
  have hcheck : Config.default.check surrogateTree (.ofString "half") "p"
      = .ok ⟨.ofString "half", "p", false,
          some (.encoding ⟨2, [0xED], .invalidContinuation⟩)⟩ := rfl
  have hno := Utf8.not_isWellFormed_of_decode hdecode
  obtain ⟨m, hm, -, -, -, hfault⟩ := check_of_file hfile Config.default "p"
  obtain ⟨hmember, f, front, rest, herror, hbytes, hstands⟩ := hfault hno
  obtain rfl := Except.ok.inj (hcheck.symm.trans hm)
  obtain rfl := ReadError.encoding.inj (Option.some.inj herror)
  obtain ⟨rfl, hbehind⟩ := @List.append_inj _ [0xC3, 0xA9] front _ _ hbytes hstands.start
  obtain rfl : [0xA0, 0x80] = rest := @List.append_cancel_left _ [0xED] _ rest hbehind
  exact ⟨_, _, _, hfile, hno, hm, hmember, rfl, rfl, hstands⟩

end Config

end SourceLocator
