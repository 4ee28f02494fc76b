/-!
# Decoding bytes as text

Bytes are read as UTF-8.  Every longest run of bytes that begins a character but cannot be
completed, and every byte that begins none, becomes one replacement character U+FFFD, so decoding
never fails and valid text is unchanged.

The decoder is a machine over bytes.  Between characters it is at `start`; inside one it knows how
many continuation bytes are missing, which range the next one must lie in (this excludes overlong
forms, surrogates and values above U+10FFFF) and the bits read so far.
-/

namespace Turnstile.Text.Utf8

/-- Where the decoder stands inside a character. -/
structure Partial where
  missing : Nat
  low : UInt8
  high : UInt8
  bits : UInt32

/-- Where the decoder stands. -/
inductive State where
  | start
  | within (p : Partial)

/-- The replacement character. -/
def replacement : Char := '\uFFFD'

/-- The first byte of a character: the state after it and the character it completes, if any. -/
def first (b : UInt8) : State × Option Char :=
  let bits := b.toUInt32
  if b < 0x80 then (.start, some (Char.ofNat b.toNat))
  else if b < 0xC2 then (.start, some replacement)
  else if b < 0xE0 then (.within ⟨1, 0x80, 0xBF, bits &&& 0x1F⟩, none)
  else if b == 0xE0 then (.within ⟨2, 0xA0, 0xBF, bits &&& 0x0F⟩, none)
  else if b == 0xED then (.within ⟨2, 0x80, 0x9F, bits &&& 0x0F⟩, none)
  else if b < 0xF0 then (.within ⟨2, 0x80, 0xBF, bits &&& 0x0F⟩, none)
  else if b == 0xF0 then (.within ⟨3, 0x90, 0xBF, bits &&& 0x07⟩, none)
  else if b < 0xF4 then (.within ⟨3, 0x80, 0xBF, bits &&& 0x07⟩, none)
  else if b == 0xF4 then (.within ⟨3, 0x80, 0x8F, bits &&& 0x07⟩, none)
  else (.start, some replacement)

/-- One byte on, the characters decoded so far being kept in reverse. -/
def step : State × List Char → UInt8 → State × List Char
  | (.start, out), b =>
    match first b with
    | (state, none) => (state, out)
    | (state, some c) => (state, c :: out)
  | (.within p, out), b =>
    if p.low ≤ b && b ≤ p.high then
      let bits := (p.bits <<< 6) ||| (b.toUInt32 &&& 0x3F)
      if p.missing ≤ 1 then (.start, Char.ofNat bits.toNat :: out)
      else (.within ⟨p.missing - 1, 0x80, 0xBF, bits⟩, out)
    else
      match first b with
      | (state, none) => (state, replacement :: out)
      | (state, some c) => (state, c :: replacement :: out)

/-- The text of the bytes, with replacement characters where they are not UTF-8. -/
def decode (bytes : List UInt8) : List Char :=
  match bytes.foldl step (.start, []) with
  | (.start, out) => out.reverse
  | (.within _, out) => (replacement :: out).reverse

/-- The text of a byte array. -/
def decodeBytes (bytes : ByteArray) : String :=
  String.ofList (decode bytes.toList)

end Turnstile.Text.Utf8
