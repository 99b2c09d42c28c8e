import TaleLoom.Registry.Rolls
/-!
Loading tables from a file. The file holds a list of tables, an object with such a list, a single
table, or an object with tables under their keys. A table that cannot be used is left out with a
warning, or, where every table has to be sound, ends the loading.
-/

namespace TaleLoom.Registry

/-- The tables of a document, each with the key that it has there, if any. -/
def entriesOf (file : Path) : Value → Except Fault (List (Option String × Value))
  | .list entries => .ok (entries.map (none, ·))
  | .object fields =>
    match Keyed.get? "tables" fields with
    | some (.list entries) => .ok (entries.map (none, ·))
    | _ =>
      if (Keyed.get? "diceFormula" fields).isSome then .ok [(none, .object fields)]
      else .ok (fields.map fun (key, v) => (some key, v))
  | _ => .error (.table (.layout file.text))

/-- The table that an entry describes. Where every table has to be sound, it covers all totals. -/
def tableOf (strict : Bool) (key : Option String) (entry : Value) : Except Fault RandomTable := do
  let table ← RandomTable.ofValue key entry
  if strict then
    let gaps ← table.gaps none
    if !gaps.isEmpty then
      throw (.table (.uncovered table.name (← describeGaps gaps shownGaps)))
  return table

/-- Takes in the tables of some entries and counts them. -/
def takeIn (file : Path) (strict : Bool) : Nat → List (Option String × Value) → Act Scene Nat
  | count, [] => pure count
  | count, (key, entry) :: rest => do
    match tableOf strict key entry with
    | .ok table =>
      discard <| register table (key.map Value.text)
      takeIn file strict (count + 1) rest
    | .error (.table why) => refuse (.table why) count rest
    | .error (.dice written why) => refuse (.table (.formula written why)) count rest
    | .error fault => throw fault
where
  /-- Leaves an entry out, or ends the loading. -/
  refuse (fault : Fault) (count : Nat) (rest : List (Option String × Value)) : Act Scene Nat := do
    if strict then throw fault
    Desk.warn ("Skipping invalid table in " ++ file.text ++ ": " ++ fault.message)
    takeIn file strict count rest

/-- Loads the tables of a file and gives their number. -/
def load (file : Path) (strict : Bool) : Act Scene Nat := do
  let entries ← entriesOf file (← Desk.readDocument file)
  takeIn file strict 0 entries

end TaleLoom.Registry
