/-!
# Registries

A registry keeps at most one entry a key. It is a list of pairs, so that a
closed one can be evaluated, and it is read through `get?`: an entry that
was put is found, and one that was erased is not.
-/

namespace Projector

/-- **At most one entry a key.** -/
structure Registry (κ α : Type) where
  /-- The entries. -/
  entries : List (κ × α)

namespace Registry

variable {κ α : Type} [DecidableEq κ]

/-- No entry. -/
def empty : Registry κ α := ⟨[]⟩

instance : Inhabited (Registry κ α) := ⟨empty⟩

/-- The entry of a key. -/
def get? (r : Registry κ α) (k : κ) : Option α :=
  (r.entries.find? fun e => e.1 = k).map Prod.snd

/-- Whether a key has an entry. -/
def contains (r : Registry κ α) (k : κ) : Bool := (r.get? k).isSome

/-- The registry without the entry of a key. -/
def erase (r : Registry κ α) (k : κ) : Registry κ α := ⟨r.entries.filter fun e => e.1 ≠ k⟩

/-- The registry with a new entry for a key. -/
def put (r : Registry κ α) (k : κ) (a : α) : Registry κ α := ⟨(k, a) :: (r.erase k).entries⟩

/-- How many entries there are. -/
def size (r : Registry κ α) : Nat := r.entries.length

@[simp] theorem get?_empty (k : κ) : (empty : Registry κ α).get? k = none := rfl

@[simp] theorem get?_erase (r : Registry κ α) (k l : κ) :
    (r.erase k).get? l = if l = k then none else r.get? l := by
  unfold get? erase
  rw [List.find?_filter]
  split
  · next h =>
    subst h
    simp
  · next h =>
    congr 1
    congr 1
    funext e
    by_cases he : e.1 = l <;> simp_all

@[simp] theorem get?_put (r : Registry κ α) (k l : κ) (a : α) :
    (r.put k a).get? l = if l = k then some a else r.get? l := by
  by_cases h : l = k
  · subst h
    simp [get?, put]
  · have h' : ¬ k = l := fun e => h e.symm
    have he := get?_erase r k l
    rw [if_neg h] at he ⊢
    rw [← he]
    simp [get?, put, h']

end Registry

end Projector
