/-!
# UTF-8

Texts as bytes and back. Reading bytes eats one byte at a time and remembers what the character
that was begun still needs; where it breaks off, the bytes eaten so far are marked as no text and
the byte that broke it is taken as a new start.
-/

namespace Scaffold.Text

/-- The bytes of a code point. -/
def encodeCode (code : Nat) : List UInt8 :=
  if code < 0x80 then [code.toUInt8]
  else if code < 0x800 then [(0xC0 + code / 0x40).toUInt8, (0x80 + code % 0x40).toUInt8]
  else if code < 0x10000 then
    [(0xE0 + code / 0x1000).toUInt8, (0x80 + code / 0x40 % 0x40).toUInt8,
      (0x80 + code % 0x40).toUInt8]
  else
    [(0xF0 + code / 0x40000).toUInt8, (0x80 + code / 0x1000 % 0x40).toUInt8,
      (0x80 + code / 0x40 % 0x40).toUInt8, (0x80 + code % 0x40).toUInt8]

/-- The bytes of characters. -/
def encode (chars : List Char) : List UInt8 := chars.flatMap fun char => encodeCode char.toNat

/-- A character that was begun. -/
structure PartialChar where
  /-- How many bytes are missing, less one. -/
  more : Nat
  /-- The least value of the next byte. -/
  least : Nat
  /-- The greatest value of the next byte. -/
  greatest : Nat
  /-- The bits eaten so far. -/
  bits : Nat
  deriving Repr, DecidableEq

/-- What the first byte of a character means. -/
inductive LeadByte where
  /-- A whole character. -/
  | whole (char : Char)
  /-- A character with more bytes. -/
  | opens (begun : PartialChar)
  /-- No character starts so. -/
  | invalid

/-- Look at a byte as the first one of a character. -/
def leadByte (byte : UInt8) : LeadByte :=
  let value := byte.toNat
  if value < 0x80 then .whole (Char.ofNat value)
  else if value < 0xC2 then .invalid
  else if value < 0xE0 then .opens ⟨0, 0x80, 0xBF, value - 0xC0⟩
  else if value < 0xF0 then
    .opens ⟨1, if value = 0xE0 then 0xA0 else 0x80, if value = 0xED then 0x9F else 0xBF,
      value - 0xE0⟩
  else if value < 0xF5 then
    .opens ⟨2, if value = 0xF0 then 0x90 else 0x80, if value = 0xF4 then 0x8F else 0xBF,
      value - 0xF0⟩
  else .invalid

/-- The characters of bytes, with a mark for every sequence that is no text. -/
def decodeFrom : Option PartialChar → List UInt8 → List (Option Char)
  | none, [] => []
  | some _, [] => [none]
  | none, byte :: rest =>
    match leadByte byte with
    | .whole char => some char :: decodeFrom none rest
    | .opens begun => decodeFrom (some begun) rest
    | .invalid => none :: decodeFrom none rest
  | some begun, byte :: rest =>
    if begun.least ≤ byte.toNat ∧ byte.toNat ≤ begun.greatest then
      let bits := begun.bits * 0x40 + (byte.toNat - 0x80)
      match begun.more with
      | 0 => some (Char.ofNat bits) :: decodeFrom none rest
      | more + 1 => decodeFrom (some ⟨more, 0x80, 0xBF, bits⟩) rest
    else
      match leadByte byte with
      | .whole char => none :: some char :: decodeFrom none rest
      | .opens begun => none :: decodeFrom (some begun) rest
      | .invalid => none :: none :: decodeFrom none rest

/-- The text of bytes, if they are one. -/
def decode? (bytes : List UInt8) : Option String :=
  ((decodeFrom none bytes).mapM id).map String.ofList

/-- The character shown for bytes that are no text. -/
def replacementChar : Char := '\ufffd'

/-- The text of bytes, with a replacement character for every sequence that is no text. -/
def decodeLossy (bytes : List UInt8) : String :=
  String.ofList ((decodeFrom none bytes).map (·.getD replacementChar))

end Scaffold.Text
