import Projector.Json.Number
import Projector.Json.Value

/-!
# Reading JSON

The reader takes one value and nothing behind it. Each part of it answers
with what it read and the text that is left. A value holds values, so the
recursion is bounded by a number; every step takes a character, and twice
the length of the text is more than enough.
-/

namespace Projector.Json

/-- A text without the blanks at its beginning. -/
def skipBlanks (s : List Char) : List Char :=
  s.dropWhile fun c => c == ' ' || c == '\n' || c == '\t' || c == '\r'

/-- The character of a letter behind a backslash. -/
def shortEscape? : Char → Option Char
  | '"' => some '"'
  | '\\' => some '\\'
  | '/' => some '/'
  | 'b' => some '\x08'
  | 'f' => some '\x0c'
  | 'n' => some '\n'
  | 'r' => some '\r'
  | 't' => some '\t'
  | _ => none

/-- The number of four hexadecimal digits. -/
def hex4? (a b c d : Char) : Option Nat := do
  let a ← FlagSet.hexDigit? a
  let b ← FlagSet.hexDigit? b
  let c ← FlagSet.hexDigit? c
  let d ← FlagSet.hexDigit? d
  return ((a * 16 + b) * 16 + c) * 16 + d

/-- The pieces of a string up to its closing quote, behind those that were
read before, which are in reverse order. -/
def readParts (before : List Part) : List Char → Option (List Part × List Char)
  | '"' :: s => some (before.reverse, s)
  | '\\' :: 'u' :: a :: b :: c :: d :: s =>
    match hex4? a b c d with
    | some n => readParts (.unit n :: before) s
    | none => none
  | '\\' :: c :: s =>
    match shortEscape? c with
    | some e => readParts (.char e :: before) s
    | none => none
  | c :: s => if c.toNat < 0x20 || c == '\\' then none else readParts (.char c :: before) s
  | [] => none

/-- A string with its quotes. -/
def readString (s : List Char) : Option (List Part × List Char) :=
  match s with
  | '"' :: t => readParts [] t
  | _ => none

/-- What follows a word at the beginning of a text. -/
def afterWord? (word : String) (s : List Char) : Option (List Char) :=
  let w := word.toList
  if w.isPrefixOf s then some (s.drop w.length) else none

/-- A number at the beginning of a text. -/
def readNumber (s : List Char) : Option (Value × List Char) :=
  let spelling := s.takeWhile isNumberChar
  (Number.ofSpelling? spelling).map fun _ => (.number spelling, s.dropWhile isNumberChar)

mutual

/-- One value, behind blanks. -/
def readValue : Nat → List Char → Option (Value × List Char)
  | 0, _ => none
  | fuel + 1, s =>
    match skipBlanks s with
    | [] => none
    | '"' :: t => (readParts [] t).map fun (parts, rest) => (.text parts, rest)
    | '[' :: t =>
      match skipBlanks t with
      | ']' :: rest => some (.list [], rest)
      | rest => (readItems fuel rest).map fun (items, rest) => (.list items, rest)
    | '\x7b' :: t =>
      match skipBlanks t with
      | '\x7d' :: rest => some (.object [], rest)
      | rest => (readMembers fuel rest).map fun (members, rest) => (.object members, rest)
    | 'n' :: t => (afterWord? "ull" t).map fun rest => (.null, rest)
    | 't' :: t => (afterWord? "rue" t).map fun rest => (.bool true, rest)
    | 'f' :: t => (afterWord? "alse" t).map fun rest => (.bool false, rest)
    | c :: t => readNumber (c :: t)

/-- The elements of a list up to its closing bracket; there is at least
one. -/
def readItems : Nat → List Char → Option (List Value × List Char)
  | 0, _ => none
  | fuel + 1, s =>
    match readValue fuel s with
    | none => none
    | some (v, t) =>
      match skipBlanks t with
      | ',' :: rest => (readItems fuel rest).map fun (vs, rest) => (v :: vs, rest)
      | ']' :: rest => some ([v], rest)
      | _ => none

/-- The members of an object up to its closing brace; there is at least
one. -/
def readMembers : Nat → List Char → Option (List (List Part × Value) × List Char)
  | 0, _ => none
  | fuel + 1, s =>
    match readString (skipBlanks s) with
    | none => none
    | some (name, t) =>
      match skipBlanks t with
      | ':' :: t =>
        match readValue fuel t with
        | none => none
        | some (v, t) =>
          match skipBlanks t with
          | ',' :: rest =>
            (readMembers fuel rest).map fun (ms, rest) => ((name, v) :: ms, rest)
          | '\x7d' :: rest => some ([(name, v)], rest)
          | _ => none
      | _ => none

end

/-- **The value of a text**, which holds one value and blanks. -/
def Value.parse? (text : String) : Option Value :=
  let s := text.toList
  match readValue (2 * s.length + 2) s with
  | some (v, rest) => if (skipBlanks rest).isEmpty then some v else none
  | none => none

end Projector.Json
