import TaleLoom.Value.Access
import TaleLoom.Text.Blank
/-!
Bounds of a row: open, a total, or an offset that counts from a difficulty. A bound is written as a
value of a document; `Bound.ofValue` says which values are bounds and `Bound.resolve` what total a
bound stands for.
-/

namespace TaleLoom

open Number

/-- A bound of a row. -/
inductive Bound where
  | unbounded
  | fixed (n : Int)
  | offset (written : String)
  deriving DecidableEq, Repr

namespace Bound

/-- The bound that a value stands for: nothing, a whole number, or a text. -/
def ofValue : Value → Except Fault Bound
  | .null => .ok unbounded
  | .text s => .ok (offset s)
  | .int n => .ok (fixed n)
  | .real x =>
    if x.isWhole then
      match x.truncate? with
      | some n => .ok (fixed n)
      | none => .error (.table (.bound (.real x)))
    else .error (.table (.bound (.real x)))
  | v => .error (.table (.bound v))

def toValue : Bound → Value
  | unbounded => .null
  | fixed n => .int n
  | offset s => .text s

/-- The total that a bound stands for. An offset is added to the difficulty; without a difficulty
it is read as a plain number. -/
def resolve (difficulty : Option Int) : Bound → Except Fault (Option Int)
  | unbounded => .ok none
  | fixed n => .ok (some n)
  | offset s =>
    match readInteger? (Text.trim s.toList) with
    | some n => .ok (some (difficulty.getD 0 + n))
    | none => .error (.table (.bound (.text s)))

/-- The total that a written bound stands for. -/
def resolveValue (difficulty : Option Int) (v : Value) : Except Fault (Option Int) :=
  ofValue v >>= resolve difficulty

end Bound

end TaleLoom
