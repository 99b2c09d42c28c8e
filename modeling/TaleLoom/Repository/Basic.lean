import TaleLoom.Desk
import TaleLoom.Repository.Item
/-!
The repository of story elements at a position: which items are in scope, and how specific each one
counts. Items are read from the least to the most specific scope. Workbooks change the order alone,
never what is in scope.
-/

namespace TaleLoom

/-- An item in scope, with the level that orders it and the workbook that set the level, if any. -/
structure ScopedItem where
  item : Item
  key : String
  source : ScopeLevel
  overriddenBy : Option Value := none

namespace ScopedItem

def rank (r : ScopedItem) : Nat := r.source.rank

/-- Items from the least to the most specific; equally specific ones keep their order. -/
def sortByScope (items : List ScopedItem) : List ScopedItem :=
  items.mergeSort fun a b => a.rank ≤ b.rank

end ScopedItem

/-- Items as they are handed over: none, a list, or under keys. -/
inductive ItemCollection where
  | nothing
  | list (items : List Item)
  | keyed (items : Keyed String Item)

namespace ItemCollection

/-- The items alone, in order; nothing is told apart from no items. -/
def items? : ItemCollection → Option (List Item)
  | nothing => none
  | list items => some items
  | keyed items => some (Keyed.values items)

/-- The key itself, or the key with the least number from two on that makes it a new one. -/
def freeKey (taken : List String) (key : String) : String :=
  if taken.contains key then
    (((List.range (taken.length + 1)).map fun n => key ++ "_" ++ Nat.repr (n + 2)).find?
      fun candidate => !taken.contains candidate).getD key
  else key

/-- Puts the items of a list under keys of their own, after those that have one already. An item
whose own key is taken is reported. -/
def keyList (done : Keyed String Item) : List Item → Act Desk (Keyed String Item)
  | [] => pure done
  | item :: rest => do
    let own ← item.key
    let key := freeKey (Keyed.keys done) own
    if key != own then
      Desk.warn ("Duplicate repository item key '" ++ own ++ "' stored as '" ++ key ++ "'")
    keyList (done ++ [(key, item)]) rest

def keys : ItemCollection → Act Desk (Keyed String Item)
  | nothing => pure []
  | list items => keyList [] items
  | keyed items => pure items

end ItemCollection

/-- Story elements and workbooks, seen from a position. -/
structure Repository where
  items : Keyed String Item := []
  workbooks : List Workbook := []
  position : Position := {}

namespace Repository

def ofCollection (items : ItemCollection) (workbooks : List Workbook) (position : Position) :
    Act Desk Repository := do
  return { items := ← items.keys, workbooks, position }

/-- An item as it is in scope, if it is. -/
def seen? (position : Position) (entry : String × Item) : Option ScopedItem :=
  (entry.2.levelAt position).map fun level => { item := entry.2, key := entry.1, source := level }

/-- The items in scope, in the order in which they are kept. -/
def inScope (r : Repository) : List ScopedItem := r.items.filterMap (seen? r.position)

/-- The workbook that sets how specific an item counts: the first with a master scope that shares a
tag with it and applies. -/
def overriding? (r : Repository) (item : Item) : Option (ScopeLevel × Value) :=
  r.workbooks.findSome? fun w =>
    match w.masterScope with
    | some level =>
      if w.sharesTag item && w.appliesAt r.position then some (level, w.name) else none
    | none => none

/-- An item with the level that a workbook sets for it, if one does. -/
def override (r : Repository) (entry : ScopedItem) : ScopedItem :=
  match r.overriding? entry.item with
  | some (level, name) => { entry with source := level, overriddenBy := some name }
  | none => entry

/-- Items with the levels that workbooks set for them. -/
def applyOverrides (r : Repository) (items : List ScopedItem) : List ScopedItem :=
  items.map r.override

/-- The items in scope that have one of some tags. -/
def withTags (r : Repository) (tags : List Value) : Except Fault (List ScopedItem) := do
  let wanted ← tags.mapM Value.asKey
  r.inScope.filterM fun entry => do
    let own ← entry.item.tags.mapM Value.asKey
    return own.any fun tag => wanted.any fun w => w.same tag

end Repository

end TaleLoom
