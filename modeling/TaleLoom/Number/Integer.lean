import TaleLoom.Text.Blank
import TaleLoom.Text.Digits
/-!
Integers as text. `readInteger?` reads a number an author wrote: decimal digits of any script, with
a sign in front, single underscores between digits and white space around them; `decimal` writes a
number. Texts of more than `digitLimit` digits are not read, and numbers that would take more
(`isTooLong`) are not written into messages.
-/

namespace TaleLoom.Number

open Text

/-- Numbers of more digits than this are neither read nor written. -/
def digitLimit : Nat := 4300

/-- White space that may stand around a number; the information separators may not. -/
def isSpacing (c : Char) : Bool := isBlank c && !(28 ≤ c.toNat && c.toNat ≤ 31)

/-- The digits of a row that goes on after a digit, an underscore standing between two digits. -/
def moreDigits? : List Char → Option (List Char)
  | [] => some []
  | '_' :: c :: rest => if isDecimal c then (moreDigits? rest).map (c :: ·) else none
  | c :: rest => if isDecimal c then (moreDigits? rest).map (c :: ·) else none

/-- The digits of a whole row, which starts with a digit. -/
def digitRow? : List Char → Option (List Char)
  | [] => none
  | c :: rest => if isDecimal c then (moreDigits? rest).map (c :: ·) else none

/-- The number that a row of digits stands for, if it is not too long. -/
def readDigits? (cs : List Char) : Option Nat :=
  if cs.length ≤ digitLimit then some (digitsValue cs) else none

/-- The number that a text without a sign stands for. -/
def readNatural? (cs : List Char) : Option Nat := (digitRow? cs).bind readDigits?

def readInteger? (cs : List Char) : Option Int :=
  match ((cs.dropWhile isSpacing).reverse.dropWhile isSpacing).reverse with
  | '-' :: rest => (readNatural? rest).map fun n => -(n : Int)
  | '+' :: rest => (readNatural? rest).map Int.ofNat
  | rest => (readNatural? rest).map Int.ofNat

def decimal : Int → String
  | .ofNat n => Nat.repr n
  | .negSucc n => "-" ++ Nat.repr (n + 1)

/-- The least number of more than so many digits. -/
def tenTo (digits : Nat) : Nat := Nat.pow 10 digits

/-- A number has too many digits to be written. -/
def isTooLong (n : Int) : Bool := tenTo digitLimit ≤ n.natAbs

end TaleLoom.Number
