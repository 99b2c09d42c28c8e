import TaleLoom.Desk
import TaleLoom.Table.Bound
/-!
Rows of a random table. A row covers the totals between its bounds and describes what they mean:
by a fixed text, or by a text that is made anew for every draw. A row's identity tells it from
other rows wherever draws are remembered.
-/

namespace TaleLoom

/-- How the text of a draw is made, which is the host's own business. It may do one thing after another at
the desk and go on from what each of them gave, be it a result or a fault; in the end it says a text or
fails. -/
inductive Generator where
  | say (text : String)
  | fail (fault : Fault)
  | roll (formula : Value) (reason : String) (next : Except Fault Roll → Generator)
  | draw (low high : Int) (reason : String) (next : Except Fault Int → Generator)
  | choose (texts : List String) (reason : String) (next : Except Fault String → Generator)
  /-- An event of the host's own. -/
  | tell (context : Value) (next : Generator)
  /-- The next text of a wheel. -/
  | turn (wheel : Nat) (next : String → Generator)

/-- What a row stands for. -/
inductive Description where
  | literal (text : String)
  | generated (label generatorName : String) (generator : Generator)

namespace Generator

def run : Generator → Act Desk String
  | say text => pure text
  | fail fault => throw fault
  | roll formula reason next => do
    let result ← Act.attempt (Desk.roll formula reason)
    (next result).run
  | draw low high reason next => do
    let result ← Act.attempt (Desk.draw low high reason)
    (next result).run
  | choose texts reason next => do
    let result ← Act.attempt (Desk.choose texts reason)
    (next result).run
  | tell context next => do
    discard <| Desk.post .custom context
    next.run
  | turn wheel next => do
    let text ← Desk.turnWheel wheel
    (next text).run

/-- A text, unless what it is made of went wrong. -/
def sayOr : Except Fault String → Generator
  | .ok text => say text
  | .error fault => fail fault

/-- So many silver coins, by two dice. -/
def coins : Generator :=
  roll (.text "2d6") "coin purse" fun result => sayOr do
    return (← Number.digits (← result).total) ++ " silver coins"

/-- The next text of a wheel. -/
def wheel (number : Nat) : Generator := turn number say

end Generator

namespace Description

def render : Description → Act Desk String
  | literal text => pure text
  | generated _ _ generator => generator.run

/-- What a description is known by: its text, or its label or else its generator's name. -/
def identity : Description → String
  | literal text => text
  | generated label generatorName _ => if label.isEmpty then generatorName else label

end Description

/-- A row of a random table; its bounds are kept as they were written. -/
structure Row where
  low : Value
  high : Value
  description : Description

namespace Row

def identity (row : Row) : String := row.description.identity

/-- A total lies between two bounds. -/
def isBetween (low high : Option Int) (total : Int) : Bool :=
  (low.all fun n => n ≤ total) && (high.all fun n => total ≤ n)

/-- The row covers a total. -/
def covers (row : Row) (difficulty : Option Int) (total : Int) : Except Fault Bool := do
  let low ← Bound.resolveValue difficulty row.low
  let high ← Bound.resolveValue difficulty row.high
  return isBetween low high total

/-- The last of some rows that covers a total. -/
def lastCovering (difficulty : Option Int) (total : Int) (rows : List Row) :
    Except Fault (Option Row) :=
  rows.foldlM (fun found row => do
    return if ← row.covers difficulty total then some row else found) none

def toValue (row : Row) : Value :=
  .object [("min", row.low), ("max", row.high), ("description", .text row.identity)]

/-- The bound that a field of a row stands for. -/
def readBound (v : Value) : Except Fault Bound := (Bound.ofValue v).mapError v.refusal

/-- The text that a field of a row describes it by. -/
def readText (v : Value) : Except Fault String := if v.truthy then v.writable else .ok ""

/-- The row that a value describes; its bounds have to be bounds, offsets to be numbers. -/
def ofValue : Value → Except Fault Row
  | .object fields => do
    let low ← readBound (Value.fieldOr fields "min" .null)
    let high ← readBound (Value.fieldOr fields "max" .null)
    let _ ← low.resolve none
    let _ ← high.resolve none
    let description ← readText (Value.fieldOr fields "description" .null)
    return { low := low.toValue, high := high.toValue, description := .literal description }
  | v => .error (v.refusal (.table (.row v)))

end Row

end TaleLoom
