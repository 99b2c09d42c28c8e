import TaleLoom.Number.Binary64
/-!
The shortest decimal text of a floating-point number: the fewest digits that read back as the same
number and, of several such, the nearest. Up to sixteen digits before the point and four zeros
after it the text is positional, beyond that it has an exponent of at least two digits.
-/

namespace TaleLoom.Number.Binary64

/-- The least power of ten above the positive quotient `num / den`. -/
def decimalPoint (num den : Nat) : Int :=
  if den ≤ num then (digitCount (num / den) : Int)
  else
    let size := digitCount (den / num)
    if num * tenTo (size - 1) < den then -((size : Int) - 1) else -((size : Int) - 2)

/-- A decimal of `count` digits that reads back as the number `num / den`: the nearer of the two
neighbours on that grid if both do. -/
def gridPoint? (target : Binary64) (num den : Nat) (point : Int) (count : Nat) :
    Option (Nat × Int) :=
  let unit : Int := point - count
  let (a, b) := if 0 ≤ unit then (num, den * tenTo unit.toNat) else (num * tenTo (-unit).toNat, den)
  let below := a / b
  let twice := 2 * (a % b)
  let belowHits := ofDecimal false below unit == target
  let aboveHits := ofDecimal false (below + 1) unit == target
  let belowNearer := twice < b || (twice == b && below % 2 == 0)
  if belowHits && (belowNearer || !aboveHits) then some (below, unit)
  else if aboveHits then some (below + 1, unit)
  else none

/-- The shortest digits of a positive number and the power of ten of the last one. -/
def shortest (mantissa : Nat) (exponent : Int) : Nat × Int :=
  let (num, den) := magnitude mantissa exponent
  let point := decimalPoint num den
  let target := finite false mantissa exponent
  (((List.range 17).map (· + 1)).findSome? (gridPoint? target num den point)).getD (mantissa, 0)

/-- Digits without the zeros at the end, and the power of ten of the last one left. -/
def dropZeros (digits : List Char) (exponent : Int) : List Char × Int :=
  let kept := (digits.reverse.dropWhile (· == '0')).reverse
  (kept, exponent + (digits.length - kept.length : Nat))

/-- Digits with a decimal point or an exponent; `point` digits stand before the decimal point. -/
def layout (digits : List Char) (point : Int) : List Char :=
  if -4 < point && point ≤ 16 then
    if point ≤ 0 then '0' :: '.' :: List.replicate (-point).toNat '0' ++ digits
    else
      let whole := point.toNat
      if digits.length ≤ whole then
        digits ++ List.replicate (whole - digits.length) '0' ++ ['.', '0']
      else digits.take whole ++ '.' :: digits.drop whole
  else
    let power := point - 1
    let size := Nat.toDigits 10 power.natAbs
    let lead := match digits with
      | [] => []
      | [d] => [d]
      | d :: rest => d :: '.' :: rest
    lead ++ 'e' :: (if power < 0 then '-' else '+') :: (if size.length < 2 then '0' :: size else size)

def finiteText (negative : Bool) (mantissa : Nat) (exponent : Int) : List Char :=
  let unsigned :=
    if mantissa = 0 then ['0', '.', '0']
    else
      let (n, unit) := shortest mantissa exponent
      let (digits, unit) := dropZeros (Nat.toDigits 10 n) unit
      layout digits (digits.length + unit)
  if negative then '-' :: unsigned else unsigned

/-- The text of a number, given the texts of the undefined one and of infinity. -/
def text (undefinedText infinityText : String) : Binary64 → String
  | finite negative m e => String.ofList (finiteText negative m e)
  | infinite negative => if negative then "-" ++ infinityText else infinityText
  | undefined => undefinedText

end TaleLoom.Number.Binary64
