import TaleLoom.Repository.Basic
/-!
Files of story elements and workbooks. Items are kept as an object under their keys, workbooks as a
list; each file holds the whole collection, and a file that is not there holds none.
-/

namespace TaleLoom

/-- The document of a collection in a file, if the file is there. -/
def Desk.collection? (file : Path) : Act Desk (Option Value) := do
  if (← get).files.isAt file then return some (← Desk.readDocument file) else return none

def Desk.keepCollection (file : Path) (v : Value) : Act Desk Unit := do
  Desk.makeFolders file
  Desk.writeText file v.write

namespace Item

def loadAll (file : Path) : Act Desk (Keyed String Item) := do
  match ← Desk.collection? file with
  | none => return []
  | some (.object fields) => fields.mapM fun (key, v) => do return (key, ← ofValue v)
  | some _ => throw (.otherContent file.text "repository item mapping")

def saveAll (file : Path) (items : Keyed String Item) : Act Desk Unit :=
  Desk.keepCollection file (.object (items.map fun (key, item) => (key, item.toValue)))

end Item

namespace Workbook

def loadAll (file : Path) : Act Desk (List Workbook) := do
  match ← Desk.collection? file with
  | none => return []
  | some (.list entries) => entries.mapM fun v => Act.ofExcept (ofValue v)
  | some _ => throw (.otherContent file.text "workbook list")

def saveAll (file : Path) (workbooks : List Workbook) : Act Desk Unit :=
  Desk.keepCollection file (.list (workbooks.map Workbook.toValue))

end Workbook

end TaleLoom
