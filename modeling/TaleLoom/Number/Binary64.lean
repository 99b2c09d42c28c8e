import TaleLoom.Number.Integer
/-!
Binary floating-point numbers with 53 significant bits, kept as exact integers: a finite number is
`± mantissa · 2 ^ exponent`. `ofRatio` takes a quotient to the nearest such number, a tie going to
the even mantissa, so every finite value has one form: the mantissa has 53 bits, or the exponent is
the least one.
-/

namespace TaleLoom.Number

/-- A floating-point number. -/
inductive Binary64 where
  | finite (negative : Bool) (mantissa : Nat) (exponent : Int)
  | infinite (negative : Bool)
  | undefined
  deriving DecidableEq, Repr

namespace Binary64

def leastExponent : Int := -1074

def greatestExponent : Int := 971

/-- A zero of either sign. -/
def signedZero (negative : Bool) : Binary64 := finite negative 0 leastExponent

/-- The quotient `num / den` divided by `2 ^ exponent`, as a quotient of naturals. -/
def scaled (num den : Nat) (exponent : Int) : Nat × Nat :=
  if 0 ≤ exponent then (num, den <<< exponent.toNat) else (num <<< (-exponent).toNat, den)

/-- The exponent that leaves 53 bits before the point of `num / den`, kept in range. -/
def exponentFor (num den : Nat) : Int :=
  let guess : Int := (num.log2 : Int) - (den.log2 : Int) - 52
  let (a, b) := scaled num den guess
  let exact := if a / b < 1 <<< 52 then guess - 1 else guess
  max exact leastExponent

/-- A quotient rounded to a natural number, a tie going to the even one. -/
def roundEven (num den : Nat) : Nat :=
  let q := num / den
  let twice := 2 * (num % den)
  if twice < den || (twice == den && q % 2 == 0) then q else q + 1

def ofRatio (negative : Bool) (num den : Nat) : Binary64 :=
  if num = 0 then signedZero negative
  else
    let exponent := exponentFor num den
    let (a, b) := scaled num den exponent
    let m := roundEven a b
    let (m, exponent) := if m = 1 <<< 53 then (1 <<< 52, exponent + 1) else (m, exponent)
    if exponent > greatestExponent then infinite negative
    else if m = 0 then signedZero negative
    else finite negative m exponent

/-- The number of decimal digits of a natural number. -/
def digitCount (n : Nat) : Nat := (Nat.repr n).length

/-- The number nearest to `digits · 10 ^ exponent`. -/
def ofDecimal (negative : Bool) (digits : Nat) (exponent : Int) : Binary64 :=
  let size : Int := exponent + digitCount digits
  if digits = 0 || size < -330 then signedZero negative
  else if size > 310 then infinite negative
  else if 0 ≤ exponent then ofRatio negative (digits * tenTo exponent.toNat) 1
  else ofRatio negative digits (tenTo (-exponent).toNat)

/-- The value without its sign, as a quotient. -/
def magnitude (mantissa : Nat) (exponent : Int) : Nat × Nat :=
  if 0 ≤ exponent then (mantissa <<< exponent.toNat, 1) else (mantissa, 1 <<< (-exponent).toNat)

/-- The value as a quotient with a positive denominator; infinities have none. -/
def fraction? : Binary64 → Option (Int × Nat)
  | finite negative m e =>
    let (num, den) := magnitude m e
    some (if negative then -(num : Int) else (num : Int), den)
  | _ => none

/-- The integer a finite value is cut to, towards zero. -/
def truncate? (x : Binary64) : Option Int := x.fraction?.map fun (num, den) => num.tdiv den

def isWhole (x : Binary64) : Bool :=
  match x.fraction? with
  | some (num, den) => num % (den : Int) == 0
  | none => false

def isZero : Binary64 → Bool
  | finite _ m _ => m == 0
  | _ => false

/-- The place of a value in the order of numbers; an undefined value has none. -/
def compare? (x y : Binary64) : Option Ordering :=
  match x, y with
  | undefined, _ => none
  | _, undefined => none
  | infinite a, infinite b => some (if a = b then .eq else if a then .lt else .gt)
  | infinite a, _ => some (if a then .lt else .gt)
  | _, infinite b => some (if b then .gt else .lt)
  | finite .., finite .. =>
    match x.fraction?, y.fraction? with
    | some (a, b), some (c, d) => some (compare (a * d) (c * b))
    | _, _ => none

/-- An integer as a quotient, compared with a floating-point number. -/
def compareInt? (n : Int) (y : Binary64) : Option Ordering :=
  match y with
  | undefined => none
  | infinite negative => some (if negative then .gt else .lt)
  | finite .. => y.fraction?.map fun (c, d) => compare (n * d) c

def successor (x : Binary64) : Binary64 :=
  match x.fraction? with
  | some (num, den) =>
    let sum := num + den
    ofRatio (sum < 0) sum.natAbs den
  | none => x

end Binary64

end TaleLoom.Number
