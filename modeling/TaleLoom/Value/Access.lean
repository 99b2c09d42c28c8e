import TaleLoom.Fault
/-!
Taking values apart, with the fault that each step gives on a value of another kind.
-/

namespace TaleLoom

/-- A number in decimal digits, unless there are too many. -/
def Number.digits (n : Int) : Except Fault String :=
  if isTooLong n then .error .numeral else .ok (decimal n)

namespace Value

/-- The value of a field that has to be there. -/
def require (name : String) : Value → Except Fault Value
  | object fields =>
    match Keyed.get? name fields with
    | some v => .ok v
    | none => .error (.missingField name)
  | _ => .error .wrongKind

/-- The fields of a value that has to be an object. -/
def fields : Value → Except Fault (List (String × Value))
  | object fields => .ok fields
  | _ => .error .missingPart

/-- The value of a field, or another where it is not there. -/
def fieldOr (fields : List (String × Value)) (name : String) (default : Value) : Value :=
  (Keyed.get? name fields).getD default

/-- A value, unless it is null. -/
def present? : Value → Option Value
  | null => none
  | v => some v

@[simp] theorem present?_text (s : String) : (text s).present? = some (text s) := rfl

theorem eq_of_present? {v w : Value} (h : v.present? = some w) : v = w := by
  cases v <;> cases h <;> rfl

/-- The parts of a value that has parts: items, characters or field names. -/
def elements : Value → Except Fault (List Value)
  | list items => .ok items
  | text s => .ok (s.toList.map fun c => text (String.singleton c))
  | object fields => .ok (fields.map fun (key, _) => text key)
  | _ => .error .wrongKind

/-- What a value stands for, unless it counts as false and stands for nothing. -/
def ifTruthy {α : Type} (read : Value → Except Fault α) (v : Value) : Except Fault (Option α) :=
  if v.truthy then (read v).map some else .ok none

/-- The text that a value has to be, where a text is asked for its letters. -/
def asText : Value → Except Fault String
  | text s => .ok s
  | _ => .error .missingPart

/-- The order of two values that have to be numbers. -/
def compareNumbers (v w : Value) : Except Fault (Option Ordering) :=
  match v.compare? w with
  | some order => .ok order
  | none => .error .wrongKind

/-- The first value is greater; an undefined number is greater than none. -/
def greater (v w : Value) : Except Fault Bool := (compareNumbers v w).map (· == some .gt)

/-- A value as a key, which lists and objects cannot be. -/
def asKey (v : Value) : Except Fault Value := if v.isKey then .ok v else .error .wrongKind

def successor : Value → Value
  | bool b => int (b.toNat + 1)
  | int n => int (n + 1)
  | real x => real x.successor
  | v => v

def absolute : Value → Value
  | bool b => int b.toNat
  | int n => int n.natAbs
  | real (.finite _ m e) => real (.finite false m e)
  | real (.infinite _) => real (.infinite false)
  | v => v

mutual

/-- A number of too many digits is somewhere in a value. -/
def hasLongNumber : Value → Bool
  | int n => Number.isTooLong n
  | list items => hasLongItem items
  | object fields => hasLongField fields
  | _ => false

def hasLongItem : List Value → Bool
  | [] => false
  | v :: rest => hasLongNumber v || hasLongItem rest

def hasLongField : List (String × Value) → Bool
  | [] => false
  | (_, v) :: rest => hasLongNumber v || hasLongField rest

end

/-- A value as a text of its own, unless a number in it is too long to write. -/
def writable (v : Value) : Except Fault String :=
  if v.hasLongNumber then .error .numeral else .ok v.plain

/-- The fault that is told in words with a value in them; a value that cannot be written comes first. -/
def refusal (v : Value) (fault : Fault) : Fault := if v.hasLongNumber then .numeral else fault

end Value

end TaleLoom
