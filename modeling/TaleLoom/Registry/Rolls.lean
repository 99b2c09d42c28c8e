import TaleLoom.Scene
import TaleLoom.Table.Coverage
/-!
Registering tables and rolling on them. A table with totals that no row covers is taken in with a
warning. A roll on a table is posted as an event; a name that stands for no table leaves a warning
and no result.
-/

namespace TaleLoom.Registry

/-- Warns of totals that no row of a table covers, and of a table that cannot be rolled on. -/
def warnOfGaps (table : RandomTable) : Act Desk Unit := do
  let title := "Table '" ++ table.name.plain ++ "'"
  match table.gaps none with
  | .error (.dice written why) =>
    Desk.warn (title ++ " has an invalid dice formula: " ++ (Fault.dice written why).message)
  | .error (.table why) => Desk.warn (title ++ " has invalid rows: " ++ why.message)
  | .error fault => throw fault
  | .ok [] => pure ()
  | .ok gaps => Desk.warn (title ++ " has no rows for totals " ++ (← describeGaps gaps shownGaps))

/-- Takes a table of the author's in, under a key or else under its name, and gives the key. -/
def register (table : RandomTable) (key : Option Value) : Act Scene Value := do
  let key := match key with
    | some key => if key.truthy then key else table.name
    | none => table.name
  warnOfGaps table
  let key ← key.asKey
  modify fun scene => { scene with registry :=
    { scene.registry with custom := Keyed.set key table scene.registry.custom } }
  return key

/-- Sets the table of outcomes against a difficulty. -/
def setDifficultyTable (table : RandomTable) : Act Scene Unit :=
  modify fun scene => { scene with registry := { scene.registry with difficultyTable := table } }

/-- Rolls on a table and posts what it gave. -/
def rollOn (table : RandomTable) (difficulty : Option Int) (rerolls : Int) :
    Act Desk TableResult := do
  let result ← table.roll difficulty rerolls
  discard <| Desk.post (.tableLookup table.name (.int result.total) (.text result.description)
    ((difficulty.map Value.int).getD .null))
  return result

/-- Rolls on the table that a name stands for. -/
def rollNamed (name : String) (difficulty : Option Int) (rerolls : Int) :
    Act Scene (Option TableResult) := do
  match ← (← get).registry.find name with
  | none =>
    Desk.warn ("Table '" ++ name ++ "' not found")
    return none
  | some table => return some (← rollOn table difficulty rerolls)

def rollDifficulty (difficulty : Int) : Act Scene TableResult := do
  rollOn (← get).registry.difficultyTable (some difficulty) 0

end TaleLoom.Registry
