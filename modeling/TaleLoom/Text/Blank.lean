/-!
White space and line breaks in authored text. `trim` cuts white space from both ends of a text,
`lines` cuts a text at its line breaks; `trim_of_no_blank` says that a text without white space
is left alone.
-/

namespace TaleLoom.Text

/-- White space: the layout characters, the four information separators and every space of
fixed or variable width. -/
def isBlank (c : Char) : Bool :=
  let n := c.toNat
  (9 ≤ n && n ≤ 13) || (28 ≤ n && n ≤ 32) || n == 0x85 || n == 0xA0 || n == 0x1680 ||
    (0x2000 ≤ n && n ≤ 0x200A) || n == 0x2028 || n == 0x2029 || n == 0x202F || n == 0x205F ||
    n == 0x3000

/-- The text without the white space at its front. -/
def trimStart (cs : List Char) : List Char := cs.dropWhile isBlank

/-- The text without the white space at its end. -/
def trimEnd (cs : List Char) : List Char := (cs.reverse.dropWhile isBlank).reverse

/-- The text without the white space at its two ends. -/
def trim (cs : List Char) : List Char := trimEnd (trimStart cs)

/-- A text without white space has nothing to trim. -/
theorem trim_of_no_blank {cs : List Char} (h : ∀ c ∈ cs, isBlank c = false) : trim cs = cs := by
  have drop_self : ∀ xs : List Char, (∀ c ∈ xs, isBlank c = false) → xs.dropWhile isBlank = xs := by
    intro xs hx
    cases xs with
    | nil => rfl
    | cons x xs => simp [hx x (by simp)]
  rw [trim, trimStart, drop_self cs h, trimEnd, drop_self cs.reverse (by simpa using h),
    List.reverse_reverse]

/-- The text without the white space at its two ends. -/
def strip (s : String) : String := String.ofList (trim s.toList)

/-- A line ends at any of these; carriage return and line feed together end one line. -/
def isLineBreak (c : Char) : Bool :=
  let n := c.toNat
  (10 ≤ n && n ≤ 13) || (28 ≤ n && n ≤ 30) || n == 0x85 || n == 0x2028 || n == 0x2029

/-- The lines of a text, without their line breaks; a break at the very end opens no line. -/
def lines : List Char → List (List Char)
  | [] => []
  | '\r' :: '\n' :: rest => [] :: lines rest
  | c :: rest =>
    if isLineBreak c then [] :: lines rest
    else match lines rest with
      | [] => [[c]]
      | line :: others => (c :: line) :: others

end TaleLoom.Text
