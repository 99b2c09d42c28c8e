import TaleLoom.Fault
/-!
Dice formulas such as `3d6+2`: a count, the letter `d`, a number of sides and a modifier, with
white space around each part. `Formula.parts?` cuts a text into these parts, `Formula.ofText` reads
their numbers and checks their limits.
-/

namespace TaleLoom

open Text Number

/-- How many dice of how many sides are rolled, and what is added to their sum. -/
structure Formula where
  count : Nat
  sides : Nat
  modifier : Int := 0
  deriving DecidableEq, Repr

namespace Formula

/-- The most dice of one roll. -/
def maxCount : Nat := 1000

/-- The most sides of one die. -/
def maxSides : Nat := 1000000

/-- The parts of a formula as written. -/
structure Parts where
  count : List Char
  sides : List Char
  /-- A minus sign or not, and the digits after it. -/
  modifier : Option (Bool × List Char)
  deriving DecidableEq, Repr

/-- The modifier at the end of a formula: nothing, or a sign and digits. -/
def modifierPart? : List Char → Option (Option (Bool × List Char))
  | [] => some none
  | sign :: rest =>
    if sign = '+' || sign = '-' then
      let body := trimStart rest
      let digits := body.takeWhile isDecimal
      if !digits.isEmpty && (trimStart (body.dropWhile isDecimal)).isEmpty then
        some (some (sign = '-', digits))
      else none
    else none

def sidesPart? (count : List Char) : List Char → Option Parts
  | [] => none
  | letter :: rest =>
    if letter = 'd' || letter = 'D' then
      let body := trimStart rest
      let sides := body.takeWhile isDecimal
      if sides.isEmpty then none
      else (modifierPart? (trimStart (body.dropWhile isDecimal))).map fun modifier =>
        { count, sides, modifier }
    else none

/-- The parts of a text that has the form of a formula. -/
def parts? (cs : List Char) : Option Parts :=
  let body := trimStart cs
  sidesPart? (body.takeWhile isDecimal) (trimStart (body.dropWhile isDecimal))

/-- The number that a row of digits stands for. -/
def number (digits : List Char) : Except Fault Nat :=
  match readDigits? digits with
  | some n => .ok n
  | none => .error .numeral

/-- A formula within the limits; `written` is what the fault shows. -/
def checked (written : Value) (f : Formula) : Except Fault Formula :=
  if f.count < 1 || f.sides < 1 then .error (.dice written .notPositive)
  else if f.count > maxCount || f.sides > maxSides then .error (.dice written .tooLarge)
  else .ok f

/-- The number of dice, which is one where none is written. -/
def countOf (parts : Parts) : Except Fault Nat :=
  if parts.count.isEmpty then .ok 1 else number parts.count

/-- What is added to the dice: nothing where nothing is written. -/
def modifierOf (parts : Parts) : Except Fault Int :=
  match parts.modifier with
  | none => .ok 0
  | some (negative, digits) => (number digits).map fun n => if negative then -(n : Int) else n

def ofParts (parts : Parts) : Except Fault Formula := do
  let count ← countOf parts
  let sides ← number parts.sides
  let modifier ← modifierOf parts
  return { count, sides, modifier }

def ofText (written : Value) (s : String) : Except Fault Formula :=
  match parts? s.toList with
  | none => .error (.dice written .malformed)
  | some parts => ofParts parts >>= checked written

/-- The formula that a value stands for, which has to be a text; what counts as false is read as an
empty text. -/
def ofValue (v : Value) : Except Fault Formula :=
  match v with
  | .text s => ofText v s
  | v => if v.truthy then .error .wrongKind else ofText v ""

/-- The total of faces that were rolled for the formula. -/
def total (f : Formula) (faces : List Int) : Int := faces.foldr (· + ·) 0 + f.modifier

def least (f : Formula) : Int := f.count + f.modifier

def greatest (f : Formula) : Int := f.count * f.sides + f.modifier

/-- The least and the greatest total of the formula that a value stands for. -/
def bounds (v : Value) : Except Fault (Int × Int) := (ofValue v).map fun f => (f.least, f.greatest)

/-- A text is a formula; only a number of too many digits is a fault. -/
def isFormula (v : Value) : Except Fault Bool :=
  match ofValue v with
  | .ok _ => .ok true
  | .error (.dice ..) => .ok false
  | .error fault => .error fault

end Formula

end TaleLoom
