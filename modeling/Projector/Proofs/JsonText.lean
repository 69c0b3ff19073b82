import Mathlib.Tactic.ByCases
import Projector.Json.Reader
import Projector.Proofs.Words

/-!
# JSON values as texts

A value is written with blanks only where the reader skips them, and behind it
stands something that ends it: a mark, the end of a line, or nothing. So the reader
finds the value again. This is said of one kind of value after the other: numbers and
strings first, and then, over the way in which a value is made of others, all of
them.

The number that bounds the recursion of the reader is taken as large as the text is
long; every step takes a character.
-/

namespace Projector.Json

/-! ## Numbers -/

theorem all_isNumberChar_cons {c : Char} {s : List Char} (mark : isNumberChar c = true)
    (h : s.all isNumberChar = true) : (c :: s).all isNumberChar = true := by
  rw [List.all_cons, mark, h]
  rfl

/-- Behind its digits a text may go on with what can occur in a number. -/
theorem all_isNumberChar_of_dropWhile {s : List Char}
    (h : (s.dropWhile Char.isDigit).all isNumberChar = true) : s.all isNumberChar = true := by
  have digits : (s.takeWhile Char.isDigit).all isNumberChar = true := by
    refine List.all_eq_true.2 fun c hc => ?_
    have digit := List.all_eq_true.1 List.all_takeWhile c hc
    simp [isNumberChar, digit]
  rw [← @List.takeWhile_append_dropWhile _ Char.isDigit s, List.all_append, digits, h]
  rfl

/-- The exponent of a number. -/
theorem all_isNumberChar_of_readExponent? {s : List Char} {e : Int}
    (h : Number.readExponent? s = some e) : s.all isNumberChar = true := by
  unfold Number.readExponent? at h
  dsimp only at h
  -- the sign, if there is one
  split at h
  on_goal 1 => refine all_isNumberChar_cons (by decide) ?_
  on_goal 2 => refine all_isNumberChar_cons (by decide) ?_
  all_goals
    dsimp only at h
    split at h
    · cases h
    · next digits =>
      rw [Bool.or_eq_true, not_or, Bool.not_eq_true', Bool.not_eq_false] at digits
      refine List.all_eq_true.2 fun c hc => ?_
      simp [isNumberChar, List.all_eq_true.1 digits.2 c hc]

/-- **Every character of a number is one that can occur in a number.** -/
theorem all_isNumberChar_of_ofSpelling? {s : List Char} {x : Number}
    (h : Number.ofSpelling? s = some x) : s.all isNumberChar = true := by
  unfold Number.ofSpelling? at h
  dsimp only at h
  -- the sign, if there is one
  split at h
  on_goal 1 => refine all_isNumberChar_cons (by decide) ?_
  all_goals
    dsimp only at h
    split at h
    · cases h
    refine all_isNumberChar_of_dropWhile ?_
    -- the fraction, if there is one
    split at h
    on_goal 1 =>
      rename_i fraction
      rw [fraction]
      split at h
      · cases h
      refine all_isNumberChar_cons (by decide) (all_isNumberChar_of_dropWhile ?_)
    all_goals
      dsimp only [Option.bind_eq_bind, Option.bind_some] at h
      split at h
      · next last =>
        rw [last]
        rfl
      · next c t last =>
        rw [last]
        split at h
        · next letter =>
          obtain ⟨e, exponent, -⟩ := Option.map_eq_some_iff.1 h
          refine all_isNumberChar_cons ?_ (all_isNumberChar_of_readExponent? exponent)
          rw [Bool.or_eq_true, decide_eq_true_eq, decide_eq_true_eq] at letter
          obtain rfl | rfl := letter <;> rfl
        · cases h

/-- What ends a number: nothing, or a character that cannot occur in one. -/
def Ends (rest : List Char) : Prop := ∀ c, rest.head? = some c → isNumberChar c = false

/-- **A number is read up to its end.** -/
theorem readNumber_append {s rest : List Char} {x : Number} (h : Number.ofSpelling? s = some x)
    (ends : Ends rest) : readNumber (s ++ rest) = some (.number s, rest) := by
  have characters := List.all_eq_true.1 (all_isNumberChar_of_ofSpelling? h)
  have front : rest.takeWhile isNumberChar = [] := by
    cases rest with
    | nil => rfl
    | cons c rest => exact List.takeWhile_cons_of_neg (Bool.eq_false_iff.1 (ends c rfl))
  have back : rest.dropWhile isNumberChar = rest := by
    cases rest with
    | nil => rfl
    | cons c rest => exact List.dropWhile_cons_of_neg (Bool.eq_false_iff.1 (ends c rfl))
  unfold readNumber
  dsimp only
  rw [List.takeWhile_append_of_pos characters, List.dropWhile_append_of_pos characters, front,
    back, List.append_nil, h]
  rfl

/-! ## Integers -/

/-- A number other than zero is written without a leading zero. -/
theorem head?_toDigits {n : Nat} (pos : 0 < n) : (Nat.toDigits 10 n).head? ≠ some '0' := by
  have digit : ∀ d < 10, 0 < d → [Nat.digitChar d].head? ≠ some '0' := by decide
  have first : Nat.toDigits 10 n ≠ [] ∧ (Nat.toDigits 10 n).head? ≠ some '0' := by
    induction n using Text.digits_induction (show 1 < 10 by decide) with
    | one n small => exact ⟨List.cons_ne_nil _ _, digit n small pos⟩
    | more n ds large ih =>
      obtain ⟨filled, front⟩ := ih (Nat.div_pos large (by decide))
      obtain ⟨c, s, rfl⟩ := List.exists_cons_of_ne_nil filled
      exact ⟨List.cons_ne_nil _ _, front⟩
  exact first.2

/-- The parts of a number that is written with digits alone, perhaps behind a sign. -/
theorem ofSpelling?_digits {s : List Char} (digits : ∀ c ∈ s, c.isDigit = true) (filled : s ≠ [])
    (zero : s.length ≠ 1 → s.head? ≠ some '0') :
    Number.ofSpelling? s = some ⟨false, s, [], none⟩ ∧
      Number.ofSpelling? ('-' :: s) = some ⟨true, s, [], none⟩ := by
  have whole : s.takeWhile Char.isDigit = s := by
    have all := @List.takeWhile_append_of_pos _ _ s [] digits
    rwa [List.takeWhile_nil, List.append_nil] at all
  have nothing : s.dropWhile Char.isDigit = [] := by
    have all := @List.dropWhile_append_of_pos _ _ s [] digits
    rwa [List.append_nil] at all
  have plain : ¬ (s.isEmpty || s.length ≠ 1 && s.head? == some '0') = true := by
    simpa [filled] using zero
  constructor
  · unfold Number.ofSpelling?
    dsimp only
    split
    · -- a sign is no digit
      cases digits '-' List.mem_cons_self
    · dsimp only
      rw [whole, nothing, if_neg plain]
      rfl
  · unfold Number.ofSpelling?
    dsimp only
    split
    · next same =>
      obtain rfl := (List.cons.inj same).2
      dsimp only
      rw [whole, nothing, if_neg plain]
      rfl
    · next other => exact (other s rfl).elim

/-- **Digits are collected** to the number that they were made from, if a word holds it. -/
theorem collect_toDigits {n : Nat} (small : n < UInt64.size) (rest : List Char) :
    Number.collect 0 (Nat.toDigits 10 n ++ rest) = Number.collect n rest := by
  have digit : ∀ d < 10, digitValue (Nat.digitChar d) = d := by decide
  induction n using Text.digits_induction (show 1 < 10 by decide) generalizing rest with
  | one n least =>
    rw [List.singleton_append, Number.collect, digit n least, Nat.mul_zero, Nat.zero_add]
    exact if_pos small
  | more n ds large ih =>
    rw [List.append_assoc, ih (by omega), List.singleton_append, Number.collect,
      digit (n % 10) (Nat.mod_lt n (by decide)), Nat.div_add_mod]
    exact if_pos small

/-- **An integer is read as it was written**, if a word holds it, with its sign. -/
theorem exists_ofInt {n : Int} (small : n.natAbs ≤ UInt64.size / 2) :
    ∃ spelling x, Value.ofInt n = .number spelling ∧ Number.ofSpelling? spelling = some x ∧
      x.toInt? = some n := by
  have fits : n.natAbs < UInt64.size := Nat.lt_of_le_of_lt small (by decide)
  have value : Number.collect 0 (Nat.toDigits 10 n.natAbs) = (n.natAbs, 0) := by
    have all := collect_toDigits fits []
    rwa [List.append_nil] at all
  obtain ⟨plain, signed⟩ := @ofSpelling?_digits (Nat.toDigits 10 n.natAbs)
    (fun _ hc => Nat.isDigit_of_mem_toDigits (by decide) (by decide) hc) Nat.toDigits_ne_nil
    (fun long => by
      refine head?_toDigits (Nat.pos_of_ne_zero fun zero => long ?_)
      rw [zero]
      rfl)
  unfold Value.ofInt
  split
  · next below =>
    refine ⟨_, _, rfl, signed, ?_⟩
    have sign : -(n.natAbs : Int) = n := by omega
    have inside : ¬ (n.natAbs = 0 ∨ UInt64.size / 2 < n.natAbs) := by omega
    simp only [Number.toInt?, value]
    exact (if_neg inside).trans (congrArg some sign)
  · next above =>
    refine ⟨_, _, rfl, plain, ?_⟩
    have sign : (n.natAbs : Int) = n := by omega
    simp only [Number.toInt?, value]
    exact congrArg some sign

/-! ## Strings -/

/-- **A string without escapes**, of characters that need none by number. -/
def Plain (parts : List Part) : Prop := ∀ part ∈ parts, ∃ c : Char, part = .char c ∧ 0x20 ≤ c.toNat

/-- The characters of a text are a string, if no control character is among them. -/
theorem plain_map_char {s : List Char} (printed : Text.isPrinted s = true) :
    Plain (s.map .char) := fun _ among => by
  obtain ⟨c, hc, rfl⟩ := List.mem_map.1 among
  exact ⟨c, rfl, Text.isPrinted_iff.1 printed c hc⟩

/-- **A string is read up to its closing quote.** -/
theorem readParts_escapePart {parts : List Part} (plain : Plain parts) (before : List Part)
    (rest : List Char) : readParts before (parts.flatMap escapePart ++ '"' :: rest) =
      some (before.reverse ++ parts, rest) := by
  induction parts generalizing before with
  | nil => rw [List.append_nil]; rfl
  | cons part parts ih =>
    obtain ⟨⟨c, rfl, printed⟩, others⟩ := List.forall_mem_cons.1 plain
    have next := ih others (.char c :: before)
    rw [List.reverse_cons, List.append_assoc] at next
    rw [List.flatMap_cons, List.append_assoc]
    by_cases quote : c = '"'
    · rw [quote] at next ⊢
      exact next
    by_cases backslash : c = '\\'
    · rw [backslash] at next ⊢
      exact next
    have itself : escapePart (.char c) = [c] := by
      show escapeChar c = [c]
      rw [escapeChar, if_neg quote, if_neg backslash, if_neg (Nat.not_lt.2 printed)]
    rw [itself, List.singleton_append, readParts]
    · simpa [backslash, Nat.not_lt.2 printed] using next
    · exact quote
    · exact fun _ _ _ _ _ same _ => backslash same
    · exact fun _ _ same _ => backslash same

/-- A string is read with its quotes. -/
theorem readString_renderParts {parts : List Part} (plain : Plain parts) (rest : List Char) :
    readString (renderParts parts ++ rest) = some (parts, rest) := by
  have read := readParts_escapePart plain [] rest
  rw [List.reverse_nil, List.nil_append] at read
  rw [renderParts, List.cons_append, List.append_assoc]
  exact read

/-! ## Blanks -/

/-- Blanks at the beginning are skipped. -/
theorem skipBlanks_newline (depth : Nat) (s : List Char) :
    skipBlanks (newline depth ++ s) = skipBlanks s := by
  refine List.dropWhile_append_of_pos fun c hc => ?_
  obtain rfl | among := List.mem_cons.1 hc
  · rfl
  · rw [List.eq_of_mem_replicate among]
    rfl

theorem ends_newline (depth : Nat) (s : List Char) : Ends (newline depth ++ s) := by
  rintro c h
  cases h
  rfl

/-- Whether a value can begin with a character. -/
def opens (c : Char) : Bool := isNumberChar c || ['"', '[', '\x7b', 'n', 't', 'f'].contains c

theorem skipBlanks_of_opens {c : Char} (h : opens c = true) (s : List Char) :
    skipBlanks (c :: s) = c :: s := by
  refine List.dropWhile_cons_of_neg fun blank => ?_
  simp only [Bool.or_eq_true, beq_iff_eq] at blank
  obtain ((rfl | rfl) | rfl) | rfl := blank <;> cases h

/-! ## Values -/

/-- **A value that can be read back**: its numbers are numbers, and its strings need no
escapes by number. -/
inductive Value.Legible : Value → Prop
  /-- Nothing. -/
  | null : Legible .null
  /-- A truth value. -/
  | bool (b : Bool) : Legible (.bool b)
  /-- A number. -/
  | number {spelling : List Char} {x : Number} (h : Number.ofSpelling? spelling = some x) :
    Legible (.number spelling)
  /-- A string. -/
  | text {parts : List Part} (h : Plain parts) : Legible (.text parts)
  /-- A list of such values. -/
  | list {items : List Value} (h : ∀ v ∈ items, Legible v) : Legible (.list items)
  /-- Members of which every name and every value is such a one. -/
  | object {members : List (List Part × Value)} (names : ∀ m ∈ members, Plain m.1)
    (h : ∀ m ∈ members, Legible m.2) : Legible (.object members)

theorem Value.Legible.ofString {s : String} (printed : Text.isPrinted s.toList = true) :
    (Value.ofString s).Legible :=
  .text (plain_map_char printed)

theorem Value.Legible.ofMembers {members : List (String × Value)}
    (names : ∀ name ∈ members.map Prod.fst, Text.isPrinted name.toList = true)
    (values : ∀ m ∈ members, Legible m.2) : (Value.ofMembers members).Legible := by
  refine .object (fun m hm => ?_) fun m hm => ?_
  · obtain ⟨n, hn, rfl⟩ := List.mem_map.1 hm
    exact plain_map_char (names n.1 (List.mem_map_of_mem hn))
  · obtain ⟨n, hn, rfl⟩ := List.mem_map.1 hm
    exact values n hn

/-- Every text of a value begins as values do. -/
theorem exists_render {v : Value} (legible : v.Legible) (depth : Nat) :
    ∃ c s, render depth v = c :: s ∧ opens c = true := by
  cases legible with
  | null => exact ⟨_, _, rfl, rfl⟩
  | bool b => cases b <;> exact ⟨_, _, rfl, rfl⟩
  | @number spelling x h =>
    have characters := all_isNumberChar_of_ofSpelling? h
    cases spelling with
    | nil => cases h
    | cons c s =>
      rw [List.all_cons, Bool.and_eq_true] at characters
      refine ⟨c, s, by rw [render], ?_⟩
      rw [opens, characters.1]
      rfl
  | text h => exact ⟨_, _, by rw [render, renderParts], rfl⟩
  | @list items h => cases items <;> exact ⟨_, _, by rw [render], rfl⟩
  | @object members names h => cases members <;> exact ⟨_, _, by rw [render], rfl⟩

/-- **A value is read wherever it stands**, if something behind it ends it. -/
def Reads (v : Value) : Prop :=
  ∀ (depth fuel : Nat) (rest : List Char), (render depth v).length ≤ fuel → Ends rest →
    readValue fuel (render depth v ++ rest) = some (v, rest)

/-- Blanks in front of a value do not count. -/
theorem readValue_newline (depth fuel : Nat) (s : List Char) :
    readValue fuel (newline depth ++ s) = readValue fuel s := by
  cases fuel with
  | zero => rw [readValue, readValue]
  | succ fuel => rw [readValue, readValue, skipBlanks_newline]

theorem readItems_newline (depth fuel : Nat) (s : List Char) :
    readItems fuel (newline depth ++ s) = readItems fuel s := by
  cases fuel with
  | zero => rw [readItems, readItems]
  | succ fuel => rw [readItems, readItems, readValue_newline]

theorem readMembers_newline (depth fuel : Nat) (s : List Char) :
    readMembers fuel (newline depth ++ s) = readMembers fuel s := by
  cases fuel with
  | zero => rw [readMembers, readMembers]
  | succ fuel => rw [readMembers, readMembers, skipBlanks_newline]

theorem readValue_of_isNumberChar {c : Char} (h : isNumberChar c = true) (fuel : Nat)
    (s : List Char) : readValue (fuel + 1) (c :: s) = readNumber (c :: s) := by
  have other {d : Char} {t : List Char} (hd : isNumberChar d = false) (same : c :: s = d :: t) :
      False := Bool.false_ne_true (hd ▸ (List.cons.inj same).1 ▸ h)
  have opening : opens c = true := by
    rw [opens, h]
    rfl
  rw [readValue, skipBlanks_of_opens opening]
  split
  · next same => cases same
  · next same => exact (other rfl same).elim
  · next same => exact (other rfl same).elim
  · next same => exact (other rfl same).elim
  · next same => exact (other rfl same).elim
  · next same => exact (other rfl same).elim
  · next same => exact (other rfl same).elim
  · next same => rw [← same]

section

variable {fuel : Nat} {s t u w rest : List Char} {v : Value} {parts : List Part}

/-- The last element of a list. -/
theorem readItems_last (read : readValue fuel s = some (v, t))
    (mark : skipBlanks t = ']' :: rest) : readItems (fuel + 1) s = some ([v], rest) := by
  rw [readItems]
  simp only [read, mark]

/-- An element with others behind it. -/
theorem readItems_more {vs : List Value} (read : readValue fuel s = some (v, t))
    (mark : skipBlanks t = ',' :: u) (more : readItems fuel u = some (vs, rest)) :
    readItems (fuel + 1) s = some (v :: vs, rest) := by
  rw [readItems]
  simp only [read, mark, more, Option.map_some]

/-- The last member of an object. -/
theorem readMembers_last (name : readString (skipBlanks s) = some (parts, ':' :: t))
    (read : readValue fuel t = some (v, u)) (mark : skipBlanks u = '\x7d' :: rest) :
    readMembers (fuel + 1) s = some ([(parts, v)], rest) := by
  have colon : skipBlanks (':' :: t) = ':' :: t := rfl
  rw [readMembers]
  simp only [name, colon, read, mark]

/-- A member with others behind it. -/
theorem readMembers_more {ms : List (List Part × Value)}
    (name : readString (skipBlanks s) = some (parts, ':' :: t))
    (read : readValue fuel t = some (v, u)) (mark : skipBlanks u = ',' :: w)
    (more : readMembers fuel w = some (ms, rest)) :
    readMembers (fuel + 1) s = some ((parts, v) :: ms, rest) := by
  have colon : skipBlanks (':' :: t) = ':' :: t := rfl
  rw [readMembers]
  simp only [name, colon, read, mark, more, Option.map_some]

end

theorem ends_comma (s : List Char) : Ends (',' :: s) := by
  rintro c h
  cases h
  rfl

/-- **Elements are read** up to the bracket behind them. -/
theorem readItems_render {v : Value} {vs : List Value} (h : ∀ w ∈ v :: vs, Reads w)
    (depth outer : Nat) {fuel : Nat} (rest : List Char)
    (far : (render depth v).length + (renderItems depth vs).length < fuel) :
    readItems fuel (render depth v ++ (renderItems depth vs ++ (newline outer ++ ']' :: rest))) =
      some (v :: vs, rest) := by
  induction vs generalizing v fuel with
  | nil =>
    obtain ⟨fuel, rfl⟩ := Nat.exists_eq_add_one_of_ne_zero (Nat.ne_of_gt (Nat.zero_lt_of_lt far))
    rw [renderItems, List.nil_append]
    exact readItems_last
      (h v List.mem_cons_self depth fuel _ (by omega) (ends_newline outer (']' :: rest)))
      (skipBlanks_newline outer (']' :: rest))
  | cons w vs ih =>
    obtain ⟨here, others⟩ := List.forall_mem_cons.1 h
    obtain ⟨fuel, rfl⟩ := Nat.exists_eq_add_one_of_ne_zero (Nat.ne_of_gt (Nat.zero_lt_of_lt far))
    rw [renderItems, List.length_cons, List.length_append, List.length_append] at far
    have more := ih others (show _ < fuel by omega)
    rw [← readItems_newline depth] at more
    rw [renderItems, List.cons_append, List.append_assoc, List.append_assoc]
    exact readItems_more (here depth fuel _ (by omega) (ends_comma _)) rfl more

/-- **Members are read** up to the brace behind them. -/
theorem readMembers_render {m : List Part × Value} {ms : List (List Part × Value)}
    (names : ∀ w ∈ m :: ms, Plain w.1) (h : ∀ w ∈ m :: ms, Reads w.2) (depth outer : Nat)
    {fuel : Nat} (rest : List Char)
    (far : (render depth m.2).length + (renderMembers depth ms).length < fuel) :
    readMembers fuel (renderParts m.1 ++ ':' :: ' ' :: (render depth m.2 ++
      (renderMembers depth ms ++ (newline outer ++ '\x7d' :: rest)))) = some (m :: ms, rest) := by
  -- the blank behind the colon
  have blank (fuel : Nat) (s : List Char) : readValue fuel (' ' :: s) = readValue fuel s := by
    cases fuel with
    | zero => rw [readValue, readValue]
    | succ fuel => rw [readValue, readValue, show skipBlanks (' ' :: s) = skipBlanks s from rfl]
  induction ms generalizing m fuel with
  | nil =>
    obtain ⟨fuel, rfl⟩ := Nat.exists_eq_add_one_of_ne_zero (Nat.ne_of_gt (Nat.zero_lt_of_lt far))
    have read := h m List.mem_cons_self depth fuel _ (by omega)
      (ends_newline outer ('\x7d' :: rest))
    rw [renderMembers, List.nil_append]
    exact readMembers_last (readString_renderParts (names m List.mem_cons_self) _)
      ((blank fuel _).trans read) (skipBlanks_newline outer ('\x7d' :: rest))
  | cons w ms ih =>
    obtain ⟨here, others⟩ := List.forall_mem_cons.1 h
    obtain ⟨name, names⟩ := List.forall_mem_cons.1 names
    obtain ⟨fuel, rfl⟩ := Nat.exists_eq_add_one_of_ne_zero (Nat.ne_of_gt (Nat.zero_lt_of_lt far))
    rw [renderMembers] at far
    simp only [List.length_cons, List.length_append] at far
    have more := ih names others (show _ < fuel by omega)
    rw [← readMembers_newline depth] at more
    rw [renderMembers]
    simp only [List.cons_append, List.append_assoc]
    exact readMembers_more (readString_renderParts name _)
      ((blank fuel _).trans (here depth fuel _ (by omega) (ends_comma _))) rfl more

/-- A list that is not empty. -/
theorem readValue_list {fuel : Nat} {c : Char} {s t rest : List Char} {items : List Value}
    (first : skipBlanks t = c :: s) (more : c ≠ ']')
    (read : readItems fuel (c :: s) = some (items, rest)) :
    readValue (fuel + 1) ('[' :: t) = some (.list items, rest) := by
  have bracket : skipBlanks ('[' :: t) = '[' :: t := rfl
  rw [readValue]
  simp only [bracket, first]
  split
  · next same => exact absurd (List.cons.inj same).1 more
  · rw [read]
    rfl

/-- An object that is not empty. -/
theorem readValue_object {fuel : Nat} {c : Char} {s t rest : List Char}
    {members : List (List Part × Value)} (first : skipBlanks t = c :: s) (more : c ≠ '\x7d')
    (read : readMembers fuel (c :: s) = some (members, rest)) :
    readValue (fuel + 1) ('\x7b' :: t) = some (.object members, rest) := by
  have brace : skipBlanks ('\x7b' :: t) = '\x7b' :: t := rfl
  rw [readValue]
  simp only [brace, first]
  split
  · next same => exact absurd (List.cons.inj same).1 more
  · rw [read]
    rfl

/-- Every text takes some room, so a reader that may take as many steps may take one. -/
theorem reads_of_succ {v : Value} (legible : v.Legible)
    (h : ∀ (depth fuel : Nat) (rest : List Char), (render depth v).length ≤ fuel + 1 →
      Ends rest → readValue (fuel + 1) (render depth v ++ rest) = some (v, rest)) : Reads v := by
  intro depth fuel rest far ends
  obtain ⟨c, s, text, -⟩ := exists_render legible depth
  cases fuel with
  | zero =>
    rw [text] at far
    cases far
  | succ fuel => exact h depth fuel rest far ends

/-- **Every value that can be read back is read** as what it is. -/
theorem Value.Legible.reads {v : Value} (legible : v.Legible) : Reads v := by
  induction legible with
  | null => exact reads_of_succ .null fun depth fuel rest far ends => rfl
  | bool b =>
    refine reads_of_succ (.bool b) fun depth fuel rest far ends => ?_
    cases b <;> rfl
  | @number spelling x h =>
    refine reads_of_succ (.number h) fun depth fuel rest far ends => ?_
    have read := readNumber_append h ends
    rw [Json.render]
    cases spelling with
    | nil => cases h
    | cons c s =>
      have first := List.all_eq_true.1 (all_isNumberChar_of_ofSpelling? h) c List.mem_cons_self
      exact (readValue_of_isNumberChar first fuel (s ++ rest)).trans read
  | @text parts h =>
    refine reads_of_succ (.text h) fun depth fuel rest far ends => ?_
    have read := readParts_escapePart h [] rest
    rw [Json.render, renderParts, List.cons_append, List.append_assoc]
    exact congrArg (Option.map fun x => (Value.text x.1, x.2)) read
  | @list items h ih =>
    refine reads_of_succ (.list h) fun depth fuel rest far ends => ?_
    cases items with
    | nil => rfl
    | cons v vs =>
      obtain ⟨c, s, text, opening⟩ := exists_render (h v List.mem_cons_self) (depth + 1)
      rw [Json.render] at far ⊢
      simp only [List.length_cons, List.length_append] at far
      have read := readItems_render ih (depth + 1) depth rest (show _ < fuel by omega)
      simp only [List.cons_append, List.append_assoc, List.nil_append]
      rw [text] at read ⊢
      refine readValue_list ((skipBlanks_newline (depth + 1) _).trans
        (skipBlanks_of_opens opening _)) ?_ read
      rintro rfl
      cases opening
  | @object members names h ih =>
    refine reads_of_succ (.object names h) fun depth fuel rest far ends => ?_
    cases members with
    | nil => rfl
    | cons m ms =>
      rw [Json.render] at far ⊢
      simp only [List.length_cons, List.length_append] at far
      have read := readMembers_render names ih (depth + 1) depth rest (show _ < fuel by omega)
      simp only [List.cons_append, List.append_assoc, List.nil_append]
      exact readValue_object (skipBlanks_newline (depth + 1) _) (by decide) read

/-- **A text is read as the value that it was written for.** -/
theorem Value.Legible.parse?_render {v : Value} (legible : v.Legible) :
    Value.parse? v.render = some v := by
  have text : v.render.toList = Json.render 0 v := String.toList_ofList
  have read := legible.reads 0 (2 * (Json.render 0 v).length + 2) [] (by omega) (by rintro c ⟨⟩)
  rw [List.append_nil] at read
  unfold Value.parse?
  dsimp only
  rw [text, read]
  rfl

end Projector.Json
