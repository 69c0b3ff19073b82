import Projector.Text.Shown

/-!
# Quoted text

A message that quotes what it was given writes it between double quotes
and escapes what would not be read back: the quote, the backslash, four
controls with a letter of their own, and every other character that is not
shown by its code point.
-/

namespace Projector.Text

/-- A character inside double quotes. -/
def escape (c : Char) : List Char :=
  if c = '\x00' then ['\\', '0']
  else if c = '\t' then ['\\', 't']
  else if c = '\r' then ['\\', 'r']
  else if c = '\n' then ['\\', 'n']
  else if c = '"' then ['\\', '"']
  else if c = '\\' then ['\\', '\\']
  else if isShown c then [c]
  else '\\' :: 'u' :: '\x7b' :: (Nat.toDigits 16 c.toNat ++ ['\x7d'])

/-- **A text between double quotes.** -/
def quote (s : List Char) : List Char := '"' :: (s.flatMap escape ++ ['"'])

/-- A string between double quotes. -/
def quoted (s : String) : String := String.ofList (quote s.toList)

end Projector.Text
