/-!
Bytes read as text. Bytes that encode no character become the replacement character, one for each
longest run of bytes that begins like the encoding of a character.

* `Utf8.Lead` describes what may follow a first byte.
* `Utf8.decode` reads a list of bytes.
* `Utf8.ofBytes` is the text that the bytes spell.
-/

namespace EventLoop.Text.Utf8

/-- The character that stands for bytes which encode none. -/
def replacement : Char := '\uFFFD'

/-- What a first byte announces: its share of the code point, how many bytes follow, and the range
that the next byte lies in. -/
structure Lead where
  bits : Nat
  more : Nat
  low : Nat
  high : Nat

/-- The announcement of a first byte above the seven-bit range; most such bytes begin nothing. The
narrowed ranges rule out longer spellings than needed, surrogates and numbers that are too large. -/
def Lead.of? (b : Nat) : Option Lead :=
  if b < 0xC2 then none
  else if b < 0xE0 then some ⟨b - 0xC0, 1, 0x80, 0xBF⟩
  else if b = 0xE0 then some ⟨0, 2, 0xA0, 0xBF⟩
  else if b = 0xED then some ⟨0xD, 2, 0x80, 0x9F⟩
  else if b < 0xF0 then some ⟨b - 0xE0, 2, 0x80, 0xBF⟩
  else if b = 0xF0 then some ⟨0, 3, 0x90, 0xBF⟩
  else if b < 0xF4 then some ⟨b - 0xF0, 3, 0x80, 0xBF⟩
  else if b = 0xF4 then some ⟨4, 3, 0x80, 0x8F⟩
  else none

/-- An announcement allows the next byte when the byte lies in its range. -/
def Lead.allows (lead : Lead) (b : Nat) : Bool := lead.low ≤ b && b ≤ lead.high

/-- Reads the bytes in order. A pending announcement is completed by the bytes that it allows, and
given up for the replacement character at the first byte that it does not; that byte is then read
afresh. -/
def decodeFrom : Option Lead → List UInt8 → List Char
  | none, [] => []
  | some _, [] => [replacement]
  | pending, byte :: rest =>
    let b := byte.toNat
    let broken := pending.any fun lead => !lead.allows b
    (if broken then [replacement] else []) ++
      match pending.filter (·.allows b) with
      | some lead =>
        let bits := lead.bits * 64 + (b - 0x80)
        if lead.more = 1 then Char.ofNat bits :: decodeFrom none rest
        else decodeFrom (some ⟨bits, lead.more - 1, 0x80, 0xBF⟩) rest
      | none =>
        if b < 0x80 then Char.ofNat b :: decodeFrom none rest
        else match Lead.of? b with
          | none => replacement :: decodeFrom none rest
          | some lead => decodeFrom (some lead) rest

/-- The characters that a list of bytes spells. -/
def decode (bytes : List UInt8) : List Char := decodeFrom none bytes

/-- The text that a list of bytes spells. -/
def ofBytes (bytes : List UInt8) : String := String.ofList (decode bytes)

/-- The bytes that spell a text. -/
def toBytes (s : String) : List UInt8 := s.toUTF8.toList

end EventLoop.Text.Utf8
