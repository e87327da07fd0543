import Mathlib.Data.List.Basic
import SourceLocator.Text.Utf8

/-!
# Texts as bytes

The bytes of a text are those of its characters one after the other (`encode`), and bytes are
well-formed when they are those of some text (`IsWellFormed`).  That is what `decode` reads:
from well-formed bytes the text, and from no other bytes anything (`decode_eq_ok_iff`).  A
byte of ASCII stands for itself wherever it occurs, so that a text falls into two where its
bytes do (`encode_eq_append_cons_iff`).
-/

namespace SourceLocator.Text.Utf8

/-- The bytes of a text. -/
def encode (cs : List Char) : List UInt8 :=
  cs.flatMap String.utf8EncodeChar

/-- Bytes are those of some text. -/
def IsWellFormed (bytes : List UInt8) : Prop :=
  bytes.toByteArray.IsValidUTF8

theorem isWellFormed_iff {bytes : List UInt8} :
  IsWellFormed bytes ↔ ∃ cs, bytes = encode cs
  := by
  constructor
  · rintro ⟨cs, hcs⟩
    exact ⟨cs, List.toByteArray_inj.mp hcs⟩
  · rintro ⟨cs, rfl⟩
    exact ⟨cs, rfl⟩

@[simp]
theorem encode_nil :
  encode [] = []
  := rfl

@[simp]
theorem encode_cons (c : Char) (cs : List Char) :
  encode (c :: cs) = String.utf8EncodeChar c ++ encode cs
  := rfl

@[simp]
theorem encode_append (cs ds : List Char) :
  encode (cs ++ ds) = encode cs ++ encode ds
  := List.flatMap_append

/-! ### Characters from bytes -/

/-- The character that a first byte begins. -/
def Lead.begun (l : Lead) (b : UInt8) : Begun :=
  ⟨[b], l.following, l.low, l.high, l.bits⟩

/-- A begun character with one more byte. -/
def Begun.next (s : Begun) (b : UInt8) : Begun :=
  ⟨b :: s.bytes, s.following - 1, 0x80, 0xBF, s.bits * 64 + b.toNat % 64⟩

/-- Bytes that follow a begun character make it a certain character. -/
def Begun.Completes : Begun → List UInt8 → Char → Prop
  | _, [], _ => False
  | s, b :: rest, c =>
    (s.low ≤ b ∧ b ≤ s.high) ∧
      if s.following ≤ 1 then rest = [] ∧ c = Char.ofNat (s.next b).bits
      else (s.next b).Completes rest c

/-- A byte goes on a character. -/
def IsContinuation (b : UInt8) : Prop :=
  0x80 ≤ b.toNat ∧ b.toNat ≤ 0xBF

/-- Two bytes begin a character of two bytes. -/
def BeginsTwo (b x : UInt8) : Prop :=
  (0xC2 ≤ b.toNat ∧ b.toNat < 0xE0) ∧ IsContinuation x

/-- Two bytes begin a character of three bytes, one that needs so many and is no surrogate. -/
def BeginsThree (b x : UInt8) : Prop :=
  (0xE0 ≤ b.toNat ∧ b.toNat < 0xF0) ∧ IsContinuation x ∧
    (b.toNat = 0xE0 → 0xA0 ≤ x.toNat) ∧ (b.toNat = 0xED → x.toNat ≤ 0x9F)

/-- Two bytes begin a character of four bytes, one that needs so many and is not beyond
U+10FFFF. -/
def BeginsFour (b x : UInt8) : Prop :=
  (0xF0 ≤ b.toNat ∧ b.toNat ≤ 0xF4) ∧ IsContinuation x ∧
    (b.toNat = 0xF0 → 0x90 ≤ x.toNat) ∧ (b.toNat = 0xF4 → x.toNat ≤ 0x8F)

/-- What a first byte says, and which second bytes it allows. -/
theorem Lead.exists_ofByte?_iff {b x : UInt8} {following bits : Nat} :
  (∃ low high, Lead.ofByte? b = some ⟨following, low, high, bits⟩ ∧ low ≤ x ∧ x ≤ high) ↔
    (following = 1 ∧ bits = b.toNat % 32 ∧ BeginsTwo b x) ∨
    (following = 2 ∧ bits = b.toNat % 16 ∧ BeginsThree b x) ∨
    (following = 3 ∧ bits = b.toNat % 8 ∧ BeginsFour b x)
  := by
  simp only [Lead.ofByte?, BeginsTwo, BeginsThree, BeginsFour, IsContinuation,
    UInt8.lt_iff_toNat_lt, UInt8.le_iff_toNat_le, ← UInt8.toNat_inj, UInt8.reduceToNat]
  repeat' split
  all_goals simp
  all_goals omega

/-- A character is the one with its code point. -/
theorem eq_ofNat_of_toNat_eq {c : Char} {n : Nat} (h : c.toNat = n) :
  c = Char.ofNat n
  := by
  rw [← h, Char.ofNat_toNat]

theorem eq_ofNat_iff {c : Char} {n : Nat} (h : n.isValidChar) :
  c = Char.ofNat n ↔ c.toNat = n
  := by
  constructor
  · rintro rfl
    rw [Char.ofNat, dif_pos h]
    rfl
  · exact eq_ofNat_of_toNat_eq

/-- The characters of one byte are those of ASCII. -/
theorem utf8EncodeChar_eq_one_iff {c : Char} {b : UInt8} :
  String.utf8EncodeChar c = [b] ↔ b < 0x80 ∧ c = Char.ofNat b.toNat
  := by
  simp only [String.utf8EncodeChar, Char.toNat_val, UInt8.lt_iff_toNat_lt, UInt8.reduceToNat]
  constructor
  · intro h
    repeat' split at h
    all_goals simp only [List.cons.injEq, UInt8.ofNat_eq_iff_mod_eq_toNat, reduceCtorEq,
      and_false, and_true] at h
    exact ⟨by omega, eq_ofNat_of_toNat_eq (by omega)⟩
  · rintro ⟨hb, hc⟩
    rw [eq_ofNat_iff (.inl (by omega))] at hc
    rw [if_pos (by omega)]
    simp only [List.cons.injEq, UInt8.ofNat_eq_iff_mod_eq_toNat, and_true]
    omega

theorem utf8EncodeChar_eq_two_iff {c : Char} {b x : UInt8} :
  String.utf8EncodeChar c = [b, x] ↔
    BeginsTwo b x ∧ c = Char.ofNat (b.toNat % 32 * 64 + x.toNat % 64)
  := by
  simp only [String.utf8EncodeChar, Char.toNat_val, BeginsTwo, IsContinuation]
  constructor
  · intro h
    repeat' split at h
    all_goals simp only [List.cons.injEq, UInt8.ofNat_eq_iff_mod_eq_toNat, reduceCtorEq,
      and_false, and_true] at h
    exact ⟨by omega, eq_ofNat_of_toNat_eq (by omega)⟩
  · rintro ⟨hb, hc⟩
    rw [eq_ofNat_iff (.inl (by omega))] at hc
    rw [if_neg (by omega), if_pos (by omega)]
    simp only [List.cons.injEq, UInt8.ofNat_eq_iff_mod_eq_toNat, and_true]
    omega

theorem utf8EncodeChar_eq_three_iff {c : Char} {b x y : UInt8} :
  String.utf8EncodeChar c = [b, x, y] ↔
    BeginsThree b x ∧ IsContinuation y ∧
      c = Char.ofNat ((b.toNat % 16 * 64 + x.toNat % 64) * 64 + y.toNat % 64)
  := by
  have hvalid : c.toNat < 0xD800 ∨ 0xDFFF < c.toNat ∧ c.toNat < 0x110000 := c.valid
  simp only [String.utf8EncodeChar, Char.toNat_val, BeginsThree, IsContinuation]
  constructor
  · intro h
    repeat' split at h
    all_goals simp only [List.cons.injEq, UInt8.ofNat_eq_iff_mod_eq_toNat, reduceCtorEq,
      and_false, and_true] at h
    exact ⟨by omega, by omega, eq_ofNat_of_toNat_eq (by omega)⟩
  · rintro ⟨hb, hy, hc⟩
    rw [eq_ofNat_iff (by unfold Nat.isValidChar; omega)] at hc
    rw [if_neg (by omega), if_neg (by omega), if_pos (by omega)]
    simp only [List.cons.injEq, UInt8.ofNat_eq_iff_mod_eq_toNat, and_true]
    omega

theorem utf8EncodeChar_eq_four_iff {c : Char} {b x y z : UInt8} :
  String.utf8EncodeChar c = [b, x, y, z] ↔
    BeginsFour b x ∧ IsContinuation y ∧ IsContinuation z ∧
      c = Char.ofNat
        (((b.toNat % 8 * 64 + x.toNat % 64) * 64 + y.toNat % 64) * 64 + z.toNat % 64)
  := by
  have hvalid : c.toNat < 0xD800 ∨ 0xDFFF < c.toNat ∧ c.toNat < 0x110000 := c.valid
  simp only [String.utf8EncodeChar, Char.toNat_val, BeginsFour, IsContinuation]
  constructor
  · intro h
    repeat' split at h
    all_goals simp only [List.cons.injEq, UInt8.ofNat_eq_iff_mod_eq_toNat, reduceCtorEq,
      and_false, and_true] at h
    exact ⟨by omega, by omega, by omega, eq_ofNat_of_toNat_eq (by omega)⟩
  · rintro ⟨hb, hy, hz, hc⟩
    rw [eq_ofNat_iff (by unfold Nat.isValidChar; omega)] at hc
    rw [if_neg (by omega), if_neg (by omega), if_neg (by omega)]
    simp only [List.cons.injEq, UInt8.ofNat_eq_iff_mod_eq_toNat, and_true]
    omega

/-- No character has more than four bytes. -/
theorem utf8EncodeChar_ne_five {c : Char} {b x y z w : UInt8} {rest : List UInt8} :
  String.utf8EncodeChar c ≠ b :: x :: y :: z :: w :: rest
  := by
  intro h
  simp only [String.utf8EncodeChar] at h
  repeat' split at h
  all_goals cases h

/-- One more byte completes a character. -/
theorem Begun.completes_one_iff {bytes tail : List UInt8} {bits : Nat} {c : Char} :
  (Begun.mk bytes 1 0x80 0xBF bits).Completes tail c
    ↔ ∃ y, tail = [y] ∧ IsContinuation y ∧ c = Char.ofNat (bits * 64 + y.toNat % 64)
  := by
  cases tail with
  | nil => simp [Completes]
  | cons y rest =>
    constructor
    · rintro ⟨hy, rfl, hc⟩
      exact ⟨y, rfl, hy, hc⟩
    · rintro ⟨_, heq, hy, hc⟩
      obtain ⟨rfl, rfl⟩ := List.cons.inj heq
      exact ⟨hy, rfl, hc⟩

/-- Two more bytes complete a character. -/
theorem Begun.completes_two_iff {bytes tail : List UInt8} {bits : Nat} {c : Char} :
  (Begun.mk bytes 2 0x80 0xBF bits).Completes tail c
    ↔ ∃ y z, tail = [y, z] ∧ IsContinuation y ∧ IsContinuation z ∧
        c = Char.ofNat ((bits * 64 + y.toNat % 64) * 64 + z.toNat % 64)
  := by
  cases tail with
  | nil => simp [Completes]
  | cons y rest =>
    constructor
    · rintro ⟨hy, hrest⟩
      obtain ⟨z, rfl, hz, hc⟩ := completes_one_iff.mp hrest
      exact ⟨y, z, rfl, hy, hz, hc⟩
    · rintro ⟨_, z, heq, hy, hz, hc⟩
      obtain ⟨rfl, rfl⟩ := List.cons.inj heq
      exact ⟨hy, completes_one_iff.mpr ⟨z, rfl, hz, hc⟩⟩

/-- The bytes of a character outside ASCII are a first byte and what completes it. -/
theorem utf8EncodeChar_eq_cons_iff {c : Char} {b : UInt8} {tail : List UInt8}
    (hb : ¬ b < 0x80) :
  String.utf8EncodeChar c = b :: tail
    ↔ ∃ l, Lead.ofByte? b = some l ∧ (l.begun b).Completes tail c
  := by
  cases tail with
  | nil => simp [utf8EncodeChar_eq_one_iff, hb, Begun.Completes]
  | cons x rest =>
    constructor
    · intro h
      match rest with
      | [] =>
        obtain ⟨hbegins, hc⟩ := utf8EncodeChar_eq_two_iff.mp h
        obtain ⟨low, high, hl, hx⟩ := Lead.exists_ofByte?_iff.mpr (.inl ⟨rfl, rfl, hbegins⟩)
        exact ⟨_, hl, hx, rfl, hc⟩
      | [y] =>
        obtain ⟨hbegins, hy, hc⟩ := utf8EncodeChar_eq_three_iff.mp h
        obtain ⟨low, high, hl, hx⟩ :=
          Lead.exists_ofByte?_iff.mpr (.inr (.inl ⟨rfl, rfl, hbegins⟩))
        exact ⟨_, hl, hx, Begun.completes_one_iff.mpr ⟨y, rfl, hy, hc⟩⟩
      | [y, z] =>
        obtain ⟨hbegins, hy, hz, hc⟩ := utf8EncodeChar_eq_four_iff.mp h
        obtain ⟨low, high, hl, hx⟩ :=
          Lead.exists_ofByte?_iff.mpr (.inr (.inr ⟨rfl, rfl, hbegins⟩))
        exact ⟨_, hl, hx, Begun.completes_two_iff.mpr ⟨y, z, rfl, hy, hz, hc⟩⟩
      | y :: z :: w :: rest => apply absurd h utf8EncodeChar_ne_five
    · rintro ⟨⟨following, low, high, bits⟩, hl, hx, h⟩
      obtain ⟨rfl, rfl, hbegins⟩ | ⟨rfl, rfl, hbegins⟩ | ⟨rfl, rfl, hbegins⟩ :=
        Lead.exists_ofByte?_iff.mp ⟨low, high, hl, hx⟩
      · obtain ⟨rfl, hc⟩ := h
        apply utf8EncodeChar_eq_two_iff.mpr ⟨hbegins, hc⟩
      · obtain ⟨y, rfl, hy, hc⟩ := Begun.completes_one_iff.mp h
        apply utf8EncodeChar_eq_three_iff.mpr ⟨hbegins, hy, hc⟩
      · obtain ⟨y, z, rfl, hy, hz, hc⟩ := Begun.completes_two_iff.mp h
        apply utf8EncodeChar_eq_four_iff.mpr ⟨hbegins, hy, hz, hc⟩

/-- A character that begins with a byte of ASCII is that byte. -/
theorem utf8EncodeChar_eq_cons_iff_of_lt {c : Char} {b : UInt8} {tail : List UInt8}
    (hb : b < 0x80) :
  String.utf8EncodeChar c = b :: tail ↔ tail = [] ∧ c = Char.ofNat b.toNat
  := by
  have hlow : b.toNat < 0x80 := UInt8.lt_iff_toNat_lt.mp hb
  match tail with
  | [] => simp [utf8EncodeChar_eq_one_iff, hb]
  | [x] =>
    simp only [utf8EncodeChar_eq_two_iff, BeginsTwo, reduceCtorEq, false_and, iff_false]
    omega
  | [x, y] =>
    simp only [utf8EncodeChar_eq_three_iff, BeginsThree, reduceCtorEq, false_and, iff_false]
    omega
  | [x, y, z] =>
    simp only [utf8EncodeChar_eq_four_iff, BeginsFour, reduceCtorEq, false_and, iff_false]
    omega
  | x :: y :: z :: w :: rest => simp [utf8EncodeChar_ne_five]

/-! ### Texts from bytes -/

theorem map_eq_ok_iff {ε α β : Type} {x : Except ε α} {f : α → β} {b : β} :
  x.map f = .ok b ↔ ∃ a, x = .ok a ∧ b = f a
  := by
  cases x with
  | error e => simp [Except.map]
  | ok a => simp [Except.map, eq_comm]

/-- Reading on from a begun character reads that character and what follows it. -/
theorem decodeFrom_some_eq_ok_iff {pos : Nat} {s : Begun} {bytes : List UInt8}
    {cs : List Char} :
  decodeFrom pos (some s) bytes = .ok cs ↔
    ∃ tail c rest ds, bytes = tail ++ rest ∧ s.Completes tail c ∧
      decodeFrom (pos + tail.length) none rest = .ok ds ∧ cs = c :: ds
  := by
  induction bytes generalizing pos s with
  | nil =>
    constructor
    · rintro ⟨⟩
    · rintro ⟨tail, c, rest, ds, hbytes, hcompletes, -⟩
      obtain ⟨rfl, rfl⟩ := List.append_eq_nil_iff.mp hbytes.symm
      cases hcompletes
  | cons b bytes ih =>
    rw [decodeFrom]
    constructor
    · intro h
      split at h
      · rename_i hrange
        dsimp only at h
        split at h
        · rename_i hlast
          obtain ⟨ds, hds, rfl⟩ := map_eq_ok_iff.mp h
          refine ⟨[b], _, bytes, ds, rfl, ⟨hrange, ?_⟩, hds, rfl⟩
          rw [if_pos hlast]
          exact ⟨rfl, rfl⟩
        · rename_i hlast
          obtain ⟨tail, c, rest, ds, rfl, hcompletes, hds, rfl⟩ := ih.mp h
          refine ⟨b :: tail, c, rest, ds, rfl, ⟨hrange, ?_⟩, ?_, rfl⟩
          · rw [if_neg hlast]
            apply hcompletes
          · rw [List.length_cons, ← Nat.add_assoc, Nat.add_right_comm]
            apply hds
      · cases h
    · rintro ⟨tail, c, rest, ds, hbytes, hcompletes, hds, rfl⟩
      cases tail with
      | nil => cases hcompletes
      | cons b' tail =>
        obtain ⟨rfl, rfl⟩ := List.cons.inj hbytes
        obtain ⟨hrange, hcompletes⟩ := hcompletes
        rw [if_pos hrange]
        dsimp only
        split at hcompletes
        · rename_i hlast
          obtain ⟨rfl, rfl⟩ := hcompletes
          rw [if_pos hlast]
          apply map_eq_ok_iff.mpr ⟨ds, hds, rfl⟩
        · rename_i hlast
          rw [if_neg hlast]
          apply ih.mpr ⟨tail, c, rest, ds, rfl, hcompletes, ?_, rfl⟩
          rw [Nat.add_right_comm, Nat.add_assoc]
          apply hds

/-- Bytes are read one character at a time. -/
theorem decodeFrom_none_cons_eq_ok_iff {pos : Nat} {b : UInt8} {bytes : List UInt8}
    {cs : List Char} :
  decodeFrom pos none (b :: bytes) = .ok cs ↔
    ∃ tail c rest ds, bytes = tail ++ rest ∧ String.utf8EncodeChar c = b :: tail ∧
      decodeFrom (pos + 1 + tail.length) none rest = .ok ds ∧ cs = c :: ds
  := by
  rw [decodeFrom]
  by_cases hb : b < 0x80
  · rw [if_pos hb, map_eq_ok_iff]
    simp only [utf8EncodeChar_eq_cons_iff_of_lt hb]
    constructor
    · rintro ⟨ds, hds, rfl⟩
      exact ⟨[], _, bytes, ds, rfl, ⟨rfl, rfl⟩, hds, rfl⟩
    · rintro ⟨_, _, rest, ds, rfl, ⟨rfl, rfl⟩, hds, rfl⟩
      exact ⟨ds, hds, rfl⟩
  · rw [if_neg hb]
    simp only [utf8EncodeChar_eq_cons_iff hb]
    cases hl : Lead.ofByte? b with
    | none => simp
    | some l =>
      apply Iff.trans decodeFrom_some_eq_ok_iff
      simp only [Option.some.injEq, exists_eq_left', Lead.begun]

/-- What is read from bytes is the text whose bytes they are. -/
theorem decodeFrom_eq_ok_iff {pos : Nat} {bytes : List UInt8} {cs : List Char} :
  decodeFrom pos none bytes = .ok cs ↔ bytes = encode cs
  := by
  induction cs generalizing pos bytes with
  | nil =>
    cases bytes with
    | nil => simp [decodeFrom]
    | cons b bytes => simp [decodeFrom_none_cons_eq_ok_iff]
  | cons c cs ih =>
    cases bytes with
    | nil => simp [decodeFrom]
    | cons b bytes =>
      rw [decodeFrom_none_cons_eq_ok_iff, encode_cons, List.cons_eq_append_iff]
      constructor
      · rintro ⟨tail, _, rest, _, rfl, hc, hrest, heq⟩
        obtain ⟨rfl, rfl⟩ := List.cons.inj heq
        obtain rfl := ih.mp hrest
        exact .inr ⟨tail, hc, rfl⟩
      · rintro (⟨hc, -⟩ | ⟨tail, hc, rfl⟩)
        · apply absurd hc String.utf8EncodeChar_ne_nil
        · exact ⟨tail, c, _, cs, rfl, hc, ih.mpr rfl, rfl⟩

theorem decode_eq_ok_iff {bytes : List UInt8} {cs : List Char} :
  decode bytes = .ok cs ↔ bytes = encode cs
  := decodeFrom_eq_ok_iff

/-- The bytes of a text are those of no other text. -/
theorem encode_injective {cs ds : List Char} (h : encode cs = encode ds) :
  cs = ds
  := by
  have hcs : decode (encode cs) = .ok cs := decode_eq_ok_iff.mpr rfl
  rw [decode_eq_ok_iff.mpr h] at hcs
  exact (Except.ok.inj hcs).symm

/-! ### Bytes of ASCII among others -/

/-- After its first byte, a character only goes on. -/
theorem isContinuation_of_mem_tail {c : Char} {b x : UInt8} {tail : List UInt8}
    (h : String.utf8EncodeChar c = b :: tail) (hx : x ∈ tail) :
  IsContinuation x
  := by
  match tail with
  | [y] =>
    obtain ⟨hbegins, -⟩ := utf8EncodeChar_eq_two_iff.mp h
    obtain rfl := List.mem_singleton.mp hx
    apply hbegins.2
  | [y, z] =>
    obtain ⟨hbegins, hz, -⟩ := utf8EncodeChar_eq_three_iff.mp h
    obtain rfl | rfl : x = y ∨ x = z := by simpa using hx
    · apply hbegins.2.1
    · apply hz
  | [y, z, w] =>
    obtain ⟨hbegins, hz, hw, -⟩ := utf8EncodeChar_eq_four_iff.mp h
    obtain rfl | rfl | rfl : x = y ∨ x = z ∨ x = w := by simpa using hx
    · apply hbegins.2.1
    · apply hz
    · apply hw
  | y :: z :: w :: v :: rest => apply absurd h utf8EncodeChar_ne_five

/-- A byte of ASCII among those of a character is the whole of it. -/
theorem utf8EncodeChar_eq_append_cons {c : Char} {b : UInt8} {before after : List UInt8}
    (hb : b < 0x80) (h : String.utf8EncodeChar c = before ++ b :: after) :
  before = [] ∧ after = [] ∧ c = Char.ofNat b.toNat
  := by
  cases before with
  | nil =>
    obtain ⟨rfl, hc⟩ := (utf8EncodeChar_eq_cons_iff_of_lt hb).mp h
    exact ⟨rfl, rfl, hc⟩
  | cons x before =>
    have hgoes : IsContinuation b := isContinuation_of_mem_tail h (by simp)
    have hlow : b.toNat < 0x80 := UInt8.lt_iff_toNat_lt.mp hb
    apply absurd hgoes.1 (by omega)

/-- A byte of ASCII among those of a text is a character of the text, and the bytes on either
side are those of the texts around it. -/
theorem encode_eq_append_cons_iff {cs : List Char} {b : UInt8} {before after : List UInt8}
    (hb : b < 0x80) :
  encode cs = before ++ b :: after ↔
    ∃ ds es, cs = ds ++ Char.ofNat b.toNat :: es ∧ before = encode ds ∧ after = encode es
  := by
  constructor
  · intro h
    induction cs generalizing before with
    | nil => simp at h
    | cons c cs ih =>
      rw [encode_cons, List.append_eq_append_iff] at h
      obtain ⟨before, rfl, h⟩ | ⟨rest, hc, h⟩ := h
      · obtain ⟨ds, es, rfl, rfl, rfl⟩ := ih h
        exact ⟨c :: ds, es, rfl, rfl, rfl⟩
      · cases rest with
        | nil =>
          obtain ⟨ds, es, rfl, hds, rfl⟩ := @ih [] h.symm
          refine ⟨c :: ds, es, rfl, ?_, rfl⟩
          rw [encode_cons, ← hds, hc, List.append_nil, List.append_nil]
        | cons x rest =>
          obtain ⟨rfl, rfl⟩ := List.cons.inj h
          obtain ⟨rfl, rfl, rfl⟩ := utf8EncodeChar_eq_append_cons hb hc
          exact ⟨[], cs, rfl, rfl, rfl⟩
  · rintro ⟨ds, es, rfl, rfl, rfl⟩
    rw [encode_append, encode_cons, utf8EncodeChar_eq_one_iff.mpr ⟨hb, rfl⟩]
    rfl

end SourceLocator.Text.Utf8
