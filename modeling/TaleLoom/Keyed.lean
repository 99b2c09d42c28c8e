/-!
Collections in which each item has a key, kept in the order in which the keys first came. Setting
an item under a key that is there puts it in the place of the old one; `get?_set` says what is found
afterwards.
-/

namespace TaleLoom

/-- Items under their keys, in order. -/
abbrev Keyed (κ α : Type) := List (κ × α)

namespace Keyed

variable {κ α : Type} [BEq κ]

def get? (key : κ) : Keyed κ α → Option α
  | [] => none
  | (k, a) :: rest => if k == key then some a else get? key rest

/-- The collection with an item set under a key. -/
def set (key : κ) (a : α) : Keyed κ α → Keyed κ α
  | [] => [(key, a)]
  | (k, old) :: rest => if k == key then (k, a) :: rest else (k, old) :: set key a rest

/-- The collection without the item under a key. -/
def erase (key : κ) : Keyed κ α → Keyed κ α
  | [] => []
  | (k, a) :: rest => if k == key then rest else (k, a) :: erase key rest

def keys (m : Keyed κ α) : List κ := m.map (·.1)

def values (m : Keyed κ α) : List α := m.map (·.2)

/-- What is found after an item has been set: the item under its key, and under any other key what
was there before. -/
theorem get?_set [LawfulBEq κ] (key other : κ) (a : α) (m : Keyed κ α) :
    get? other (set key a m) = if key == other then some a else get? other m := by
  induction m with
  | nil => simp [set, get?]
  | cons entry rest ih =>
    obtain ⟨k, old⟩ := entry
    by_cases hk : k = key
    · subst hk
      by_cases ho : k = other <;> simp [set, get?, ho]
    · by_cases ho : k = other
      · subst ho
        have : key ≠ k := fun h => hk h.symm
        simp [set, get?, hk, this]
      · simp [set, get?, hk, ho, ih]

end Keyed

end TaleLoom
