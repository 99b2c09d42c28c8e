import TaleLoom.Scene
import TaleLoom.Value.Writer
/-!
Drawing without giving an entry twice. `available` restricts a table to what a story has not drawn
yet, and forgets the draws once nothing is left; `markConsumed` remembers a draw; `reset` and
`resetStory` forget draws. A store with a file writes it after every change.
-/

namespace TaleLoom.ConsumptionStore

/-- Writes the records to the store's file, if it has one. -/
def persist : Act Scene Unit := do
  let store := (← get).store
  match store.file with
  | none => pure ()
  | some file =>
    Desk.makeFolders file
    Desk.writeText file store.toValue.write

def change (f : Keyed String ConsumedRecord → Keyed String ConsumedRecord) : Act Scene Unit :=
  modify fun scene => { scene with store := { scene.store with records := f scene.store.records } }

def note (table : Value) (story action : String) (entry : Value := .null) : Act Scene Unit :=
  discard <| Desk.post (.consumption table (.text story) (.text action) entry)

/-- The table restricted to the rows that a story has not drawn yet. Where none is left the draws
are forgotten and the whole table is there again. -/
def available (table : RandomTable) (story : String) : Act Scene RandomTable := do
  let name ← table.name.asText
  let store := (← get).store
  let consumed := store.items name story
  if consumed.isEmpty then return table
  match remaining table.rows consumed with
  | [] =>
    change (Keyed.erase (key name story))
    persist
    note (.text name) story "exhausted"
    return table
  | rows => return table.withRows rows

/-- Remembers that a table has produced an entry for a story. -/
def markConsumed (table : Value) (story entry : String) : Act Scene Unit := do
  let name ← table.asText
  let store := (← get).store
  let record := (Keyed.get? (key name story) store.records).getD { table := name, story }
  if record.items.contains entry then return ()
  change (Keyed.set (key name story) { record with items := record.items ++ [entry] })
  persist
  note (.text name) story "consumed" (.text entry)

/-- The records left when the draws of a table are forgotten, for one story or for every story. For
every story the name is held against each record, and where there is none it is not looked at. -/
def recordsWithout (table : Value) (records : Keyed String ConsumedRecord) :
    Option String → Except Fault (Keyed String ConsumedRecord)
  | some story => do return Keyed.erase (key (← table.asText) story) records
  | none => do
    if records.isEmpty then return records
    let name ← table.asText
    return records.filter fun (_, r) => Text.lower r.table != Text.lower name

/-- Forgets the draws of a table for one story, or for every story. -/
def reset (table : Value) (story : Option String) : Act Scene Unit := do
  let records := (← get).store.records
  let kept ← recordsWithout table records story
  change fun _ => kept
  if kept.length < records.length then persist
  note table (match story with | some s => if s.isEmpty then "*" else s | none => "*") "reset"

/-- Forgets the draws of every table for one story. -/
def resetStory (story : String) : Act Scene Unit := do
  let records := (← get).store.records
  let kept := records.filter fun (_, r) => r.story != story
  change fun _ => kept
  if kept.length < records.length then persist
  note (.text "*") story "reset"

/-- The store that a file keeps. A file that cannot be read is reported and taken as empty, unless its
document is nested too deep, which is no fault of a file. -/
def openFile (file : Path) : Act Desk ConsumptionStore := do
  if !(← get).files.isAt file then return { file := some file }
  match ← Act.attempt (do recordsOf (← Desk.readDocument file)) with
  | .ok records => return { records, file := some file }
  | .error .tooDeep => throw .tooDeep
  | .error fault =>
    Desk.complain ("Corrupted consumption state in " ++ file.text ++ ", starting empty: " ++
      fault.message)
    return { file := some file, recovered := true }

end TaleLoom.ConsumptionStore
