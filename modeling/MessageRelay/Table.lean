/-!
# Tables

A finite map kept as a list of entries, oldest first. Writing under a key that is present replaces
its entry where it stands; writing under a new key puts an entry at the end. The view of a table is
`find?`, and one lemma says what each operation does to it.
-/

set_option autoImplicit false

namespace MessageRelay

variable {κ α : Type} [DecidableEq κ]

/-- Entries of a finite map. -/
abbrev Table (κ α : Type) : Type := List (κ × α)

namespace Table

/-- The value under a key. -/
def find? (key : κ) : Table κ α → Option α
  | [] => none
  | (k, a) :: rest => if k = key then some a else find? key rest

/-- The table with a value under a key, in place of the value that was there. -/
def put (key : κ) (value : α) : Table κ α → Table κ α
  | [] => [(key, value)]
  | (k, a) :: rest => if k = key then (key, value) :: rest else (k, a) :: put key value rest

/-- The table without a key. -/
def erase (key : κ) (table : Table κ α) : Table κ α :=
  table.filter fun entry => entry.1 ≠ key

/-- Whether a key is present. -/
def has (key : κ) (table : Table κ α) : Bool :=
  (table.find? key).isSome

/-- Nothing is found in an empty table. -/
@[simp] theorem find?_nil (key : κ) : find? key ([] : Table κ α) = none := rfl

/-- What was put under a key is found under it, and every other key keeps its value. -/
theorem find?_put (key key' : κ) (value : α) (table : Table κ α) :
    (put key value table).find? key' = if key = key' then some value else table.find? key' := by
  induction table with
  | nil => simp [put, find?]
  | cons entry rest ih =>
    obtain ⟨k, a⟩ := entry
    by_cases hk : k = key
    · subst hk
      by_cases h : k = key' <;> simp [put, find?, h]
    · by_cases h : k = key'
      · subst h
        have : ¬ key = k := fun e => hk e.symm
        simp [put, find?, hk, this]
      · simp [put, find?, hk, h, ih]

/-- Nothing is found under an erased key, and every other key keeps its value. -/
theorem find?_erase (key key' : κ) (table : Table κ α) :
    (erase key table).find? key' = if key = key' then none else table.find? key' := by
  induction table with
  | nil => simp [erase, find?]
  | cons entry rest ih =>
    obtain ⟨k, a⟩ := entry
    by_cases hk : k = key
    · subst hk
      have he : erase k ((k, a) :: rest) = erase k rest := by simp [erase]
      rw [he, ih]
      by_cases h : k = key' <;> simp [find?, h]
    · have he : erase key ((k, a) :: rest) = (k, a) :: erase key rest := by simp [erase, hk]
      by_cases h : k = key'
      · subst h
        have : ¬ key = k := fun e => hk e.symm
        simp [he, find?, this]
      · simp [he, find?, h, ih]

end Table

end MessageRelay
