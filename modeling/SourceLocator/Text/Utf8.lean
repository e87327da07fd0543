/-!
# UTF-8

`decode` reads bytes as UTF-8.  It refuses overlong forms, surrogates and code points beyond
U+10FFFF, and reports the place where decoding fails: the longest run of bytes there that
begins the encoding of some character, or one byte if there is none.  `Lead.ofByte?` tells
how many bytes follow a first byte and in which range the second one lies; the later ones
are the continuation bytes `80`–`BF`.
-/

namespace SourceLocator.Text.Utf8

/-- Why a run of bytes is no character. -/
inductive Reason where
  | invalidStart
  | invalidContinuation
  | endOfData
deriving DecidableEq

/-- The wording of a reason. -/
def Reason.message : Reason → String
  | .invalidStart => "invalid start byte"
  | .invalidContinuation => "invalid continuation byte"
  | .endOfData => "unexpected end of data"

/-- A place where bytes are not UTF-8: the bytes from `start` on that are at fault. -/
structure Fault where
  start : Nat
  bytes : List UInt8
  reason : Reason
deriving DecidableEq

/-- What a first byte says: how many bytes are to follow, the range of the second byte, and
the bits it contributes to the code point. -/
structure Lead where
  following : Nat
  low : UInt8
  high : UInt8
  bits : Nat
deriving DecidableEq

/-- What a byte outside ASCII says as a first byte; `none` when no character begins with it. -/
def Lead.ofByte? (b : UInt8) : Option Lead :=
  if b < 0xC2 then none
  else if b < 0xE0 then some ⟨1, 0x80, 0xBF, b.toNat % 32⟩
  else if b = 0xE0 then some ⟨2, 0xA0, 0xBF, b.toNat % 16⟩
  else if b = 0xED then some ⟨2, 0x80, 0x9F, b.toNat % 16⟩
  else if b < 0xF0 then some ⟨2, 0x80, 0xBF, b.toNat % 16⟩
  else if b = 0xF0 then some ⟨3, 0x90, 0xBF, b.toNat % 8⟩
  else if b < 0xF4 then some ⟨3, 0x80, 0xBF, b.toNat % 8⟩
  else if b = 0xF4 then some ⟨3, 0x80, 0x8F, b.toNat % 8⟩
  else none

/-- A character that has been begun: its bytes so far with the last first, how many are to
follow, the range of the next one, and the bits read. -/
structure Begun where
  bytes : List UInt8
  following : Nat
  low : UInt8
  high : UInt8
  bits : Nat

/-- Decodes bytes from position `pos` on, the bytes of a begun character lying before. -/
def decodeFrom (pos : Nat) : Option Begun → List UInt8 → Except Fault (List Char)
  | none, [] => .ok []
  | none, b :: rest =>
    if b < 0x80 then (decodeFrom (pos + 1) none rest).map (Char.ofNat b.toNat :: ·)
    else
      match Lead.ofByte? b with
      | none => .error ⟨pos, [b], .invalidStart⟩
      | some l => decodeFrom (pos + 1) (some ⟨[b], l.following, l.low, l.high, l.bits⟩) rest
  | some s, [] => .error ⟨pos - s.bytes.length, s.bytes.reverse, .endOfData⟩
  | some s, b :: rest =>
    if s.low ≤ b ∧ b ≤ s.high then
      let bits := s.bits * 64 + b.toNat % 64
      if s.following ≤ 1 then (decodeFrom (pos + 1) none rest).map (Char.ofNat bits :: ·)
      else decodeFrom (pos + 1) (some ⟨b :: s.bytes, s.following - 1, 0x80, 0xBF, bits⟩) rest
    else .error ⟨pos - s.bytes.length, s.bytes.reverse, .invalidContinuation⟩

/-- Decodes bytes as UTF-8. -/
def decode (bytes : List UInt8) : Except Fault (List Char) :=
  decodeFrom 0 none bytes

end SourceLocator.Text.Utf8
