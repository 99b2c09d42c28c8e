/-!
Cutting a text at a separator and looking for one text inside another. `cut` loses nothing: the
pieces with the separator between them are the text (`joinWith_cut`).
-/

namespace TaleLoom.Text

/-- The pieces between the occurrences of a separator; there is always at least one. -/
def cut (separator : Char) : List Char → List (List Char)
  | [] => [[]]
  | c :: rest =>
    if c = separator then [] :: cut separator rest
    else match cut separator rest with
      | [] => [[c]]
      | piece :: others => (c :: piece) :: others

/-- The pieces with a separator between each two of them. -/
def joinWith (separator : Char) : List (List Char) → List Char
  | [] => []
  | [piece] => piece
  | piece :: next :: others => piece ++ separator :: joinWith separator (next :: others)

theorem cut_ne_nil (separator : Char) (cs : List Char) : cut separator cs ≠ [] := by
  cases cs with
  | nil => simp [cut]
  | cons c rest =>
    rw [cut]
    split
    · simp
    · split <;> simp

/-- Joining the pieces again gives the text. -/
theorem joinWith_cut (separator : Char) (cs : List Char) :
    joinWith separator (cut separator cs) = cs := by
  induction cs with
  | nil => rfl
  | cons c rest ih =>
    rw [cut]
    split
    · next h =>
      subst h
      cases hp : cut c rest with
      | nil => exact absurd hp (cut_ne_nil c rest)
      | cons piece others => rw [joinWith, ← hp, ih, List.nil_append]
    · cases hp : cut separator rest with
      | nil => exact absurd hp (cut_ne_nil separator rest)
      | cons piece others =>
        rw [hp] at ih
        cases others with
        | nil => simpa [joinWith] using ih
        | cons next others => simpa [joinWith] using ih

/-- One text occurs inside another. -/
def occursIn (needle : List Char) : List Char → Bool
  | [] => needle.isEmpty
  | c :: rest => needle.isPrefixOf (c :: rest) || occursIn needle rest

/-- One text occurs inside another. -/
def contains (haystack needle : String) : Bool := occursIn needle.toList haystack.toList

/-- The texts with a separator between each two of them. -/
def join (separator : String) (parts : List String) : String := separator.intercalate parts

end TaleLoom.Text
