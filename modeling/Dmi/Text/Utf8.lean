/-
**UTF-8.**

`decode` reads any bytes as text: every maximal run of bytes that starts a character and cannot be
continued becomes one U+FFFD, and so does every byte that starts none. `encode` writes a text, and
`decode?` reads only bytes that `encode` can write.

The decoder is a machine that takes one byte at a time. Between characters it holds nothing; inside
one it holds how many bytes are owed, the bits so far and the range that the next byte must fall in.
The range is narrower than that of a continuation byte only after the first bytes E0, ED, F0 and F4,
where it shuts out overlong forms, surrogates and code points above U+10FFFF.
-/

namespace Dmi.Utf8

/-- The character that stands for bytes that are not UTF-8. -/
def replacement : Char := '\uFFFD'

/-- A character of which the first bytes have been read. -/
structure Pending where
  /-- Bytes still owed after the next one. -/
  owed : Nat
  /-- The bits read so far. -/
  bits : Nat
  /-- The least byte that continues the character. -/
  low : UInt8
  /-- The greatest byte that continues the character. -/
  high : UInt8
  deriving DecidableEq, Repr

/-- The characters that a first byte completes, and the character that it begins. -/
def enter (byte : UInt8) : List Char × Option Pending :=
  if byte < 0x80 then ([Char.ofNat byte.toNat], none)
  else if byte < 0xC2 then ([replacement], none)
  else if byte < 0xE0 then ([], some ⟨0, byte.toNat % 32, 0x80, 0xBF⟩)
  else if byte = 0xE0 then ([], some ⟨1, 0, 0xA0, 0xBF⟩)
  else if byte = 0xED then ([], some ⟨1, 13, 0x80, 0x9F⟩)
  else if byte < 0xF0 then ([], some ⟨1, byte.toNat % 16, 0x80, 0xBF⟩)
  else if byte = 0xF0 then ([], some ⟨2, 0, 0x90, 0xBF⟩)
  else if byte < 0xF4 then ([], some ⟨2, byte.toNat % 8, 0x80, 0xBF⟩)
  else if byte = 0xF4 then ([], some ⟨2, 4, 0x80, 0x8F⟩)
  else ([replacement], none)

/-- The characters that one byte completes, and the character that is open after it. A byte that
does not continue the open character ends it and is read again as a first byte. -/
def step : Option Pending → UInt8 → List Char × Option Pending
  | none, byte => enter byte
  | some pending, byte =>
    if pending.low ≤ byte ∧ byte ≤ pending.high then
      let bits := pending.bits * 64 + byte.toNat % 64
      match pending.owed with
      | 0 => ([Char.ofNat bits], none)
      | owed + 1 => ([], some ⟨owed, bits, 0x80, 0xBF⟩)
    else
      let (characters, next) := enter byte
      (replacement :: characters, next)

/-- The characters of the bytes that follow an open character. -/
def decodeFrom : Option Pending → List UInt8 → List Char
  | none, [] => []
  | some _, [] => [replacement]
  | pending, byte :: rest =>
    let (characters, next) := step pending byte
    characters ++ decodeFrom next rest

/-- The text of any bytes, with U+FFFD where they are not UTF-8. -/
def decode (bytes : List UInt8) : String :=
  String.ofList (decodeFrom none bytes)

/-- The bytes of a text. -/
def encode (text : String) : List UInt8 :=
  text.toList.flatMap String.utf8EncodeChar

/-- The text of bytes that are UTF-8 throughout. -/
def decode? (bytes : List UInt8) : Option String :=
  let text := decode bytes
  if encode text = bytes then some text else none

end Dmi.Utf8
