import TaleLoom.Files
import TaleLoom.Keyed
import TaleLoom.Table
import TaleLoom.Text.Case
/-!
What has been drawn from consumable tables. For each table and story there is one record of the
entries drawn so far; the key of a record joins the table's name, in lower case, and the story.
-/

namespace TaleLoom

open Text

/-- The entries that a table has produced for one story, in the order of the draws. -/
structure ConsumedRecord where
  table : String
  story : String
  items : List String := []
  deriving DecidableEq, Repr

namespace ConsumedRecord

def toValue (r : ConsumedRecord) : Value :=
  .object [("tableId", .text r.table), ("storyId", .text r.story),
    ("consumedItems", .list (r.items.map .text))]

/-- The record that a value describes; names and items are taken as texts. -/
def ofValue (v : Value) : Except Fault ConsumedRecord := do
  let .list items ← v.require "consumedItems" | throw .itemsNotAList
  let table ← v.require "tableId"
  let story ← v.require "storyId"
  return { table := table.plain, story := story.plain, items := items.map Value.plain }

end ConsumedRecord

/-- The records of all tables and stories, and the file that keeps them, if any. -/
structure ConsumptionStore where
  records : Keyed String ConsumedRecord := []
  file : Option Path := none
  /-- The file was there but could not be read. -/
  recovered : Bool := false

namespace ConsumptionStore

/-- The key of a table's record for a story. -/
def key (table story : String) : String := lower table ++ "_" ++ story

/-- The entries drawn from a table for a story. -/
def items (store : ConsumptionStore) (table story : String) : List String :=
  ((Keyed.get? (key table story) store.records).map (·.items)).getD []

/-- The rows of a table that are not among some entries. -/
def remaining (rows : List Row) (consumed : List String) : List Row :=
  rows.filter fun row => !consumed.contains row.identity

def toValue (store : ConsumptionStore) : Value :=
  .object (store.records.map fun (key, r) => (key, r.toValue))

def recordsOf : Value → Except Fault (Keyed String ConsumedRecord)
  | .object fields => fields.mapM fun (key, v) => do return (key, ← ConsumedRecord.ofValue v)
  | _ => .error .notAnObject

end ConsumptionStore

end TaleLoom
