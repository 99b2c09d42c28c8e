import TaleLoom.Value.Access
import TaleLoom.Text.Blank
/-!
Spark tables: pools of short keywords with a weight. A pool can be switched off altogether or for
one of the two uses of keywords, and one pool is the default that is never lost.
-/

namespace TaleLoom

open Number

/-- A pool of keywords. -/
structure SparkTable where
  name : Value
  entries : List String := []
  /-- How often each entry counts in a draw. -/
  weight : Int := 1
  oracleEnabled : Bool := true
  sparksEnabled : Bool := true
  categories : List Value := []
  isDefault : Bool := false
  enabled : Bool := true
  source : Value := .text "custom"
  lastModified : Value

namespace SparkTable

/-- The table with a weight of one or more. -/
def withSoundWeight (table : SparkTable) : SparkTable :=
  if table.weight < 1 then { table with weight := 1 } else table

def toValue (table : SparkTable) : Value :=
  .object [("name", table.name), ("source", table.source),
    ("entries", .list (table.entries.map .text)), ("lastModified", table.lastModified),
    ("enabled", .bool table.enabled), ("weight", .int table.weight),
    ("oracleEnabled", .bool table.oracleEnabled), ("sparksEnabled", .bool table.sparksEnabled),
    ("categories", .list table.categories), ("isDefault", .bool table.isDefault)]

/-- The whole number that a value stands for: a number cut to a whole one, or a text that is one. -/
def wholeNumber : Value → Except Fault Int
  | .bool b => .ok b.toNat
  | .int n => .ok n
  | .real (.infinite _) => .error .tooLarge
  | .real x =>
    match x.truncate? with
    | some n => .ok n
    | none => .error .numeral
  | .text s =>
    match readInteger? s.toList with
    | some n => .ok n
    | none => .error .numeral
  | _ => .error .wrongKind

/-- The weight that a value stands for; what counts as false is the least one. -/
def weightOf (v : Value) : Except Fault Int := if v.truthy then wholeNumber v else .ok 1

def ofValue : Value → Except Fault SparkTable
  | .object fields => do
    let name := Value.fieldOr fields "name" .null
    if !name.truthy then throw (.table .sparkUnnamed)
    let .list entries := Value.fieldOr fields "entries" .null
      | throw (name.refusal (.table (.sparkNoEntries name)))
    let entries ← entries.mapM Value.writable
    let weight ← weightOf (Value.fieldOr fields "weight" .null)
    let flag (key : String) (default : Bool) : Bool :=
      (Value.fieldOr fields key (.bool default)).truthy
    let categories ← (Value.fieldOr fields "categories" (.list [])).elements
    return withSoundWeight
      { name, entries, weight
        oracleEnabled := flag "oracleEnabled" true, sparksEnabled := flag "sparksEnabled" true
        categories, isDefault := flag "isDefault" false, enabled := flag "enabled" true
        source := Value.fieldOr fields "source" (.text "custom")
        lastModified := Value.fieldOr fields "lastModified" (.int 0) }
  | v => .error (v.refusal (.table (.sparkDefinition v)))

/-- The entries that are not blank. -/
def keywords (table : SparkTable) : List String :=
  table.entries.filter fun entry => !(Text.trim entry.toList).isEmpty

/-- What each entry puts into a draw: itself, as often as the table's weight says. -/
def pool (table : SparkTable) : List (String × Value) :=
  (List.replicate (max table.weight 1).toNat (table.keywords.map fun entry =>
    (entry, table.name))).flatten

end SparkTable

end TaleLoom
