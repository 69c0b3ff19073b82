import Projector.FlagSet

/-!
# JSON values

A value as it stands in a text. Numbers and strings keep their spelling,
for what a spelling means is asked only where the value is used: a number
may exceed every number type, and a string may have escapes that stand for
no character, and neither matters in a field that nobody reads.

`Value.render` writes a value with every element on a line of its own.
-/

namespace Projector.Json

/-- **A piece of a string**: a character, or an escape by a number of
16 bits. -/
inductive Part where
  /-- A character, as itself or by its letter. -/
  | char (c : Char)
  /-- An escape by number. -/
  | unit (n : Nat)
  deriving DecidableEq, Repr

/-- **A JSON value.** -/
inductive Value where
  /-- Nothing. -/
  | null
  /-- A truth value. -/
  | bool (b : Bool)
  /-- A number, by its spelling. -/
  | number (spelling : List Char)
  /-- A string, by its pieces. -/
  | text (parts : List Part)
  /-- A list. -/
  | list (items : List Value)
  /-- Members with names, in order. -/
  | object (members : List (List Part × Value))

/-- A string of characters. -/
def Value.ofString (s : String) : Value := .text (s.toList.map .char)

/-- An object with plain names. -/
def Value.ofMembers (members : List (String × Value)) : Value :=
  .object (members.map fun m => (m.1.toList.map .char, m.2))

/-- An integer. -/
def Value.ofInt (n : Int) : Value :=
  .number (if n < 0 then '-' :: Nat.toDigits 10 n.natAbs else Nat.toDigits 10 n.natAbs)

/-! ## Strings -/

/-- **The characters of a string.** Two escapes by number may stand for
one character together; half of such a pair stands for none. -/
def characters? : List Part → Option (List Char)
  | [] => some []
  | .char c :: parts => (c :: ·) <$> characters? parts
  | .unit high :: .unit low :: parts =>
    if 0xd800 ≤ high ∧ high < 0xdc00 then
      if 0xdc00 ≤ low ∧ low < 0xe000 then
        (Char.ofNat (0x10000 + (high - 0xd800) * 0x400 + (low - 0xdc00)) :: ·) <$> characters? parts
      else none
    else if 0xdc00 ≤ high ∧ high < 0xe000 then none
    else (Char.ofNat high :: ·) <$> characters? (.unit low :: parts)
  | .unit n :: parts =>
    if 0xd800 ≤ n ∧ n < 0xe000 then none else (Char.ofNat n :: ·) <$> characters? parts

/-- A character inside a string. -/
def escapeChar (c : Char) : List Char :=
  if c = '"' then ['\\', '"']
  else if c = '\\' then ['\\', '\\']
  else if c.toNat < 0x20 then
    let ds := Nat.toDigits 16 c.toNat
    '\\' :: 'u' :: (List.replicate (4 - ds.length) '0' ++ ds)
  else [c]

/-- A piece inside a string. -/
def escapePart : Part → List Char
  | .char c => escapeChar c
  | .unit n =>
    let ds := Nat.toDigits 16 n
    '\\' :: 'u' :: (List.replicate (4 - ds.length) '0' ++ ds)

/-- A string between its quotes. -/
def renderParts (parts : List Part) : List Char := '"' :: (parts.flatMap escapePart ++ ['"'])

/-! ## Writing -/

/-- The beginning of a line at a depth. -/
def newline (depth : Nat) : List Char := '\n' :: List.replicate (2 * depth) ' '

mutual

/-- **A value as text**, at a depth. -/
def render (depth : Nat) : Value → List Char
  | .null => "null".toList
  | .bool b => (if b then "true" else "false").toList
  | .number spelling => spelling
  | .text parts => renderParts parts
  | .list [] => ['[', ']']
  | .list (v :: vs) =>
    '[' :: (newline (depth + 1) ++ render (depth + 1) v ++ renderItems (depth + 1) vs ++
      newline depth ++ [']'])
  | .object [] => ['\x7b', '\x7d']
  | .object ((name, v) :: ms) =>
    '\x7b' :: (newline (depth + 1) ++ renderParts name ++ ':' :: ' ' :: render (depth + 1) v ++
      renderMembers (depth + 1) ms ++ newline depth ++ ['\x7d'])

/-- The elements after the first one. -/
def renderItems (depth : Nat) : List Value → List Char
  | [] => []
  | v :: vs => ',' :: (newline depth ++ render depth v ++ renderItems depth vs)

/-- The members after the first one. -/
def renderMembers (depth : Nat) : List (List Part × Value) → List Char
  | [] => []
  | (name, v) :: ms =>
    ',' :: (newline depth ++ renderParts name ++ ':' :: ' ' :: render depth v ++
      renderMembers depth ms)

end

/-- A value as a text of its own. -/
def Value.render (v : Value) : String := String.ofList (Json.render 0 v)

end Projector.Json
