import TaleLoom.Scene
/-!
Drawing keywords from spark tables, without giving one twice. Each entry counts as often as its
table's weight says; what has been drawn is taken out of the pool, and a keyword that differs from
an earlier one only in letter case is passed over.
-/

namespace TaleLoom.SparkLibrary

open Text

def noteUse (name : Value) (keyword : String) : Act Scene Unit := do
  let scene ← get
  let sparks ← scene.sparks.recordUsage scene.desk.clock.millis name keyword
  modify fun scene => { scene with sparks }

/-- Draws keywords until enough are there or the pool is empty. `size` is the size of the pool,
`seen` holds the folded forms of the keywords so far. -/
def drawFrom : Nat → Nat → List (String × Value) → List String → Act Scene (List String)
  | 0, _, _, _ => pure []
  | _, 0, _, _ => pure []
  | size + 1, wanted + 1, pool, seen => do
    let place ← Desk.drawPlace pool.length "spark keyword"
    match pool[place]? with
    | none => pure []
    | some (keyword, name) =>
      let rest := pool.eraseIdx place
      let folded := fold keyword
      if seen.contains folded then drawFrom size (wanted + 1) rest seen
      else do
        noteUse name keyword
        return keyword :: (← drawFrom size wanted rest (folded :: seen))

/-- Draws up to `count` keywords from the given tables, or else from those for a use. -/
def generate (count : Int) (purpose : SparkUse) (given : Option (List SparkTable)) :
    Act Scene (List String) := do
  let tables := (← get).sparks.inUse purpose given
  if tables.isEmpty then
    Desk.warn "No spark tables available for keyword generation"
    return []
  let pool := (tables.map SparkTable.pool).flatten
  drawFrom pool.length count.toNat pool []

/-- The tables under some keys, all of which have to be there. -/
def tablesAt (library : SparkLibrary) (keys : List String) : Except Fault (List SparkTable) :=
  keys.mapM fun key =>
    match Keyed.get? (.text key) library.tables with
    | some table => .ok table
    | none => .error (.unknownKey key)

/-- Draws up to `count` keywords from the tables of the given names, those that are found, or else
from those for sparks. -/
def generateNamed (count : Int) (names : Option (List String)) : Act Scene (List String) := do
  let library := (← get).sparks
  match names with
  | none => generate count .sparks none
  | some [] => generate count .sparks none
  | some names =>
    let found ← Act.ofExcept (names.mapM library.find)
    generate count .sparks (some (found.filterMap id))

end TaleLoom.SparkLibrary
