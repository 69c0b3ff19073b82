/-!
# Faults

Sizes of pictures and buffers are machine words: a width has 32 bits, a
length in memory 64. Sizes are natural numbers here, and every product
and sum that a word must hold goes through a check. A result that does
not fit is a **fault**: it ends the call, and nothing the call did
remains. A fault is not an error. An error is an answer, which the caller
sees with the state as it then is.
-/

namespace Projector

/-- **Why a call ends without an answer.** -/
inductive Fault where
  /-- A product or sum of sizes exceeds its word. -/
  | overflow
  /-- A position beyond the end of a buffer was asked for. -/
  | outOfRange
  /-- More memory was asked for than can be addressed. -/
  | tooLarge
  deriving DecidableEq, Repr

/-- **A value or a fault.** -/
abbrev Checked (α : Type) := Except Fault α

namespace Checked

/-- `n`, if 32 bits hold it. -/
def fit32 (n : Nat) : Checked Nat :=
  if n < UInt32.size then .ok n else .error .overflow

/-- `n`, if 64 bits hold it. -/
def fit64 (n : Nat) : Checked Nat :=
  if n < UInt64.size then .ok n else .error .overflow

/-- `n`, if a buffer of `n` bytes can be addressed: a length is a word,
and the last byte of a buffer lies in the lower half of the words. -/
def addressable (n : Nat) : Checked Nat := do
  let n ← fit64 n
  if n < UInt64.size / 2 then .ok n else .error .tooLarge

theorem fit32_eq_ok {n m : Nat} : fit32 n = .ok m ↔ n < UInt32.size ∧ n = m := by
  constructor
  · intro e
    by_cases h : n < UInt32.size
    · rw [fit32, if_pos h] at e
      exact ⟨h, Except.ok.inj e⟩
    · rw [fit32, if_neg h] at e
      cases e
  · rintro ⟨h, rfl⟩
    rw [fit32, if_pos h]

theorem le_of_fit32_eq_error {n : Nat} {f : Fault} (e : fit32 n = .error f) : UInt32.size ≤ n := by
  by_cases h : n < UInt32.size
  · rw [fit32, if_pos h] at e
    cases e
  · exact Nat.le_of_not_lt h

theorem fit64_eq_ok {n m : Nat} : fit64 n = .ok m ↔ n < UInt64.size ∧ n = m := by
  constructor
  · intro e
    by_cases h : n < UInt64.size
    · rw [fit64, if_pos h] at e
      exact ⟨h, Except.ok.inj e⟩
    · rw [fit64, if_neg h] at e
      cases e
  · rintro ⟨h, rfl⟩
    rw [fit64, if_pos h]

/-- **One check after another** has a value if both have one. -/
theorem bind_eq_ok {α β : Type} {c : Checked α} {f : α → Checked β} {b : β} :
    c >>= f = .ok b ↔ ∃ a, c = .ok a ∧ f a = .ok b := by
  cases c with
  | error e => exact ⟨fun h => (nomatch h), fun ⟨_, h, _⟩ => nomatch h⟩
  | ok a =>
    constructor
    · intro h
      exact ⟨a, rfl, h⟩
    · rintro ⟨_, e, h⟩
      cases e
      exact h

/-- **What is found of a value** is found of one that is there. -/
theorem exists_ok_of_any {α : Type} {c : Checked α} {p : α → Bool}
    (h : c.toOption.any p = true) : ∃ a, c = .ok a ∧ p a = true := by
  cases c with
  | error f => cases h
  | ok a => exact ⟨a, rfl, h⟩

theorem addressable_eq_ok {n m : Nat} :
    addressable n = .ok m ↔ n < UInt64.size / 2 ∧ n = m := by
  unfold addressable
  rw [bind_eq_ok]
  constructor
  · rintro ⟨k, hk, e⟩
    obtain ⟨-, rfl⟩ := fit64_eq_ok.1 hk
    split at e
    · next h => exact ⟨h, Except.ok.inj e⟩
    · cases e
  · rintro ⟨h, rfl⟩
    have hn : n < UInt64.size := by
      have : UInt64.size / 2 ≤ UInt64.size := Nat.div_le_self _ _
      omega
    exact ⟨n, fit64_eq_ok.2 ⟨hn, rfl⟩, if_pos h⟩

/-- **A check of every element** has a value if every element passes, one for each. -/
theorem mapM_eq_ok_iff {α β : Type} {f : α → Checked β} {p : α → Prop} {g : α → β}
    (check : ∀ a b, f a = .ok b ↔ p a ∧ b = g a) {l : List α} {out : List β} :
    l.mapM f = .ok out ↔ (∀ a ∈ l, p a) ∧ out = l.map g := by
  induction l generalizing out with
  | nil =>
    rw [List.mapM_nil]
    constructor
    · rintro ⟨⟩
      exact ⟨fun a h => (nomatch h), rfl⟩
    · rintro ⟨-, rfl⟩
      rfl
  | cons a l ih =>
    rw [List.mapM_cons, bind_eq_ok, List.forall_mem_cons]
    constructor
    · rintro ⟨b, hb, e⟩
      obtain ⟨bs, hbs, e⟩ := bind_eq_ok.1 e
      cases e
      obtain ⟨first, rfl⟩ := (check a b).1 hb
      obtain ⟨rest, rfl⟩ := ih.1 hbs
      exact ⟨⟨first, rest⟩, rfl⟩
    · rintro ⟨⟨first, rest⟩, rfl⟩
      exact ⟨g a, (check a _).2 ⟨first, rfl⟩, bind_eq_ok.2 ⟨l.map g, ih.2 ⟨rest, rfl⟩, rfl⟩⟩

end Checked

end Projector
