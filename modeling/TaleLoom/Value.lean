import TaleLoom.Keyed
import TaleLoom.Number.Binary64
/-!
Values of author documents. Documents hold names, numbers, lists and objects that authors wrote by
hand, so a field may hold any kind of value; an object keeps its fields in the order they were
written. `same` is equality as authors see it: numbers are compared by value, truth values count as
0 and 1, and the order of an object's fields does not matter. An undefined number equals no number, but
it is found again where it is looked up, so here it is the same as itself.
-/

namespace TaleLoom

open Number

/-- A value of a document. -/
inductive Value where
  | null
  | bool (b : Bool)
  | int (n : Int)
  | real (x : Binary64)
  | text (s : String)
  | list (items : List Value)
  | object (fields : List (String × Value))
  deriving Repr, Inhabited

namespace Value

/-- Zero, nothing and what is empty count as false. -/
def truthy : Value → Bool
  | null => false
  | bool b => b
  | int n => n != 0
  | real x => !x.isZero
  | text s => !s.isEmpty
  | list items => !items.isEmpty
  | object fields => !fields.isEmpty

/-- A value that can be looked up: anything but lists and objects. -/
def isKey : Value → Bool
  | list _ => false
  | object _ => false
  | _ => true

/-- A number, where a value is one; truth values are 0 and 1. -/
def integer? : Value → Option Int
  | bool b => some b.toNat
  | int n => some n
  | _ => none

/-- The order of two numbers; other values have none. -/
def compare? (v w : Value) : Option (Option Ordering) :=
  match v, w with
  | real x, real y => some (x.compare? y)
  | real x, w => w.integer?.map fun n => (Binary64.compareInt? n x).map Ordering.swap
  | v, real y => v.integer?.map fun n => Binary64.compareInt? n y
  | v, w =>
    match v.integer?, w.integer? with
    | some m, some n => some (some (compare m n))
    | _, _ => none

/-- Two numbers of equal value. -/
def sameNumber (v w : Value) : Bool := v.compare? w == some (some .eq)

mutual

/-- Equality of values as authors see it. -/
def same : Value → Value → Bool
  | null, null => true
  | text s, text t => s == t
  | real .undefined, real .undefined => true
  | list xs, list ys => sameItems xs ys
  | object fs, object gs => fs.length == gs.length && sameFields fs gs
  | v, w => sameNumber v w

def sameItems : List Value → List Value → Bool
  | [], [] => true
  | x :: xs, y :: ys => same x y && sameItems xs ys
  | _, _ => false

/-- Every field of the first object is in the second with the same value. -/
def sameFields : List (String × Value) → List (String × Value) → Bool
  | [], _ => true
  | (key, x) :: rest, gs =>
    match Keyed.get? key gs with
    | some y => same x y && sameFields rest gs
    | none => false

end

instance : BEq Value := ⟨same⟩

@[simp] theorem same_text (s t : String) : same (text s) (text t) = (s == t) := by
  simp [same]

end Value

end TaleLoom
