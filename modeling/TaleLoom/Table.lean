import TaleLoom.Table.Row
/-!
Random tables: a dice formula and rows that cover its totals. Where rows overlap, the last one that
covers a total counts. `RandomTable.roll` rolls on a table, `RandomTable.ofValue` and
`RandomTable.toValue` read and write its description.
-/

namespace TaleLoom

/-- A random table. Name, formula and description are kept as they were written. -/
structure RandomTable where
  name : Value
  formula : Value
  rows : List Row := []
  description : Value := .text ""
  /-- Each entry is drawn once before any is drawn again. -/
  consumable : Bool := false

/-- What a roll on a table gave. -/
structure TableResult where
  tableName : Value
  total : Int
  description : String
  row : Option Row
  dice : Roll
  difficulty : Option Int

namespace TableResult

/-- The identity of the row, if there is one. -/
def identity (result : TableResult) : Option String := result.row.map Row.identity

end TableResult

namespace RandomTable

def rowFor (table : RandomTable) (difficulty : Option Int) (total : Int) :
    Except Fault (Option Row) :=
  Row.lastCovering difficulty total table.rows

def withRows (table : RandomTable) (rows : List Row) : RandomTable := { table with rows }

/-- Rolls until a row covers the total, at most so many times. -/
def reroll (table : RandomTable) (difficulty : Option Int) :
    Nat → Roll → Option Row → Act Desk (Roll × Option Row)
  | 0, dice, row => pure (dice, row)
  | attempts + 1, dice, row =>
    if row.isSome || table.rows.isEmpty then pure (dice, row)
    else do
      let dice ← Desk.roll table.formula ("table reroll: " ++ table.name.plain)
      let row ← table.rowFor difficulty dice.total
      table.reroll difficulty attempts dice row

/-- The row that is chosen where no roll found one, if rolling again was allowed and there are rows. -/
def fallback (table : RandomTable) (rerolls : Int) (row : Option Row) : Act Desk (Option Row) :=
  if row.isNone && 0 < rerolls && !table.rows.isEmpty then
    some <$> Desk.choose table.rows ("fallback row: " ++ table.name.plain)
  else pure row

/-- The text of the row that was found; a total without a row leaves a warning. -/
def describe (table : RandomTable) (total : Int) : Option Row → Act Desk String
  | some row => row.description.render
  | none => do
    Desk.warn ("Table '" ++ table.name.plain ++ "' has no row covering roll " ++
      (← Number.digits total))
    return ""

/-- Rolls on the table. A total without a row is rolled again up to `rerolls` times; after that, if
there are rows and rolling again was allowed, one is chosen. -/
def roll (table : RandomTable) (difficulty : Option Int) (rerolls : Int) :
    Act Desk TableResult := do
  let dice ← Desk.roll table.formula ("table roll: " ++ table.name.plain)
  let row ← table.rowFor difficulty dice.total
  let (dice, row) ← table.reroll difficulty rerolls.toNat dice row
  let row ← table.fallback rerolls row
  let description ← table.describe dice.total row
  return { tableName := table.name, total := dice.total, description, row, dice, difficulty }

def toValue (table : RandomTable) : Value :=
  .object ([("name", table.name), ("description", table.description),
    ("diceFormula", table.formula), ("table", .list (table.rows.map Row.toValue))] ++
    if table.consumable then [("consumable", .bool true)] else [])

/-- The value of a field that has two spellings. -/
def fieldNamed (fields : List (String × Value)) (name otherName : String) : Value :=
  Value.fieldOr fields name (Value.fieldOr fields otherName .null)

/-- The name of a table: its own, or one from outside where it has none. -/
def nameFrom (outerName : Option String) (fields : List (String × Value)) : Value :=
  let given := Value.fieldOr fields "name" .null
  if given.truthy then given else (outerName.map Value.text).getD .null

/-- The table that a value describes; a name that it lacks is taken from outside. -/
def ofValue (outerName : Option String) : Value → Except Fault RandomTable
  | .object fields =>
    let name := nameFrom outerName fields
    let formula := fieldNamed fields "diceFormula" "dice_formula"
    if !name.truthy then .error (.table .unnamed)
    else if !formula.truthy then .error (name.refusal (.table (.noFormula name)))
    else match fieldNamed fields "table" "rows" with
      | .list rows => do
        return { name, formula, rows := ← rows.mapM Row.ofValue
                 description := Value.fieldOr fields "description" (.text "")
                 consumable := (Value.fieldOr fields "consumable" (.bool false)).truthy }
      | _ => .error (name.refusal (.table (.noRows name)))
  | v => .error (v.refusal (.table (.definition v)))

/-- The rows of entries: one total each, counted from one. -/
def entryRows (first : Nat) : List String → List Row
  | [] => []
  | entry :: rest =>
    { low := .int first, high := .int first, description := .literal entry } ::
      entryRows (first + 1) rest

/-- The table in which each entry is a row of its own and equally likely. -/
def ofEntries (name : Value) (entries : List String) (description : Value := .text "")
    (consumable : Bool := false) : RandomTable :=
  { name, formula := .text ("1d" ++ Nat.repr (max entries.length 1))
    rows := entryRows 1 entries, description, consumable }

end RandomTable

end TaleLoom
