import EventLoop.Text.Unprintable

/-!
Texts in quotes, with the characters escaped that could not be read back otherwise.

* `quotedChar` is the written form of one character.
* `quoted` is the written form of a text.
-/

namespace EventLoop.Text

/-- The written form of one character: a short escape where there is one, the code point in
hexadecimal for a character without a shape, the character itself otherwise. -/
def quotedChar (c : Char) : List Char :=
  if c = '\x00' then ['\\', '0']
  else if c = '\t' then ['\\', 't']
  else if c = '\r' then ['\\', 'r']
  else if c = '\n' then ['\\', 'n']
  else if c = '"' then ['\\', '"']
  else if c = '\\' then ['\\', '\\']
  else if isUnprintable c then
    '\\' :: 'u' :: '\x7b' :: (Nat.toDigits 16 c.toNat ++ ['\x7d'])
  else [c]

/-- The written form of a text: its characters, escaped where needed, between two quotes. -/
def quoted (s : String) : String :=
  String.ofList ('"' :: (s.toList.flatMap quotedChar ++ ['"']))

end EventLoop.Text
