import TaleLoom.Repository.Scope
import TaleLoom.Text.Blank
import TaleLoom.Text.Case
/-!
Story elements and workbooks. An item is a character, a location, an object or a situation, seen
from the places its scope covers. A workbook groups items by tags; one with a master scope sets how
specific the items count that share a tag with it.
-/

namespace TaleLoom

open Text

/-- The kinds of story elements. -/
inductive ItemCategory where
  | character
  | location
  | object
  | situation
  deriving DecidableEq, Repr

namespace ItemCategory

def name : ItemCategory → String
  | character => "Character"
  | location => "Location"
  | object => "Object"
  | situation => "Situation"

def all : List ItemCategory := [character, location, object, situation]

def ofValue (v : Value) : Except Fault ItemCategory :=
  match all.find? fun category => v.same (.text category.name) with
  | some category => .ok category
  | none => .error (.notListed v "RepositoryCategory")

end ItemCategory

/-- A story element. Texts and tags are kept as they were written. -/
structure Item where
  name : Value
  content : Value := .text ""
  description : Value := .text ""
  keywords : List Value := []
  forced : Bool := false
  category : ItemCategory := .character
  scope : ScopeLevel := .library
  anchor : Position := {}
  tags : List Value := []
  created : Value
  updated : Value

namespace Item

/-- The text with each row of white space replaced by an underscore. -/
def underscored : List Char → List Char
  | [] => []
  | [c] => [if isBlank c then '_' else c]
  | c :: d :: rest =>
    if isBlank c then
      if isBlank d then underscored (d :: rest) else '_' :: underscored (d :: rest)
    else c :: underscored (d :: rest)

/-- The key of an item: its name in lower case, without the white space around it. -/
def key (item : Item) : Except Fault String :=
  item.name.asText.map fun name => String.ofList (underscored (lower (strip name)).toList)

def toValue (item : Item) : Value :=
  .object [("name", item.name), ("description", item.description), ("content", item.content),
    ("keywords", .list item.keywords), ("forceInContext", .bool item.forced),
    ("category", .text item.category.name), ("scope", .text item.scope.name),
    ("scopeContext", item.anchor.toValue), ("workbookTags", .list item.tags),
    ("created", item.created), ("updated", item.updated)]

def ofValue (v : Value) : Except Fault Item := do
  let name ← v.require "name"
  let fields ← v.fields
  let get := Value.fieldOr fields
  return {
    name
    description := get "description" (.text "")
    content := get "content" (.text "")
    keywords := ← (get "keywords" (.list [])).elements
    forced := (get "forceInContext" (.bool false)).truthy
    category := ← ItemCategory.ofValue (get "category" (.text ItemCategory.character.name))
    scope := ← ScopeLevel.ofValue (get "scope" (.text ScopeLevel.library.name))
    anchor := ← Position.ofValue (get "scopeContext" .null)
    tags := ← (get "workbookTags" (.list [])).elements
    created := get "created" (.int 0)
    updated := get "updated" (.int 0) }

/-- The item of a name alone, made at a time. -/
def named (name : Value) (millis : Int) : Item :=
  { name, created := .int millis, updated := .int millis }

/-- The level at which an item is seen from a position; a forced item is seen from everywhere. -/
def levelAt (item : Item) (position : Position) : Option ScopeLevel :=
  if item.forced || item.scope.appliesAt (some item.anchor) position then some item.scope else none

end Item

/-- A group of items by their tags. -/
structure Workbook where
  name : Value
  tags : List Value := []
  masterScope : Option ScopeLevel := none
  masterAnchor : Option Position := none
  id : Value := .text ""
  description : Value := .text ""
  stackId : Value := .text ""
  created : Value
  updated : Value

namespace Workbook

/-- The workbook and an item have a tag in common. -/
def sharesTag (workbook : Workbook) (item : Item) : Bool :=
  item.tags.any fun tag => workbook.tags.any fun own => own.same tag

/-- The workbook's master scope applies at a position; without an anchor it applies everywhere. -/
def appliesAt (workbook : Workbook) (position : Position) : Bool :=
  match workbook.masterScope, workbook.masterAnchor with
  | some level, some anchor => level.appliesAt (some anchor) position
  | _, _ => true

def toValue (w : Workbook) : Value :=
  .object [("id", w.id), ("name", w.name), ("description", w.description), ("stackId", w.stackId),
    ("tags", .list w.tags),
    ("masterScope", (w.masterScope.map fun level => Value.text level.name).getD .null),
    ("masterScopeContext", (w.masterAnchor.map Position.toValue).getD .null),
    ("createdAt", w.created), ("updatedAt", w.updated)]

def ofValue (v : Value) : Except Fault Workbook := do
  let fields ← v.fields
  let get := Value.fieldOr fields
  let description := get "description" .null
  return {
    id := get "id" (.text "")
    name := get "name" (.text "")
    description := if description.truthy then description else .text ""
    stackId := get "stackId" (.text "")
    tags := ← (get "tags" (.list [])).elements
    masterScope := ← (get "masterScope" .null).ifTruthy ScopeLevel.ofValue
    masterAnchor := ← (get "masterScopeContext" .null).ifTruthy Position.ofValue
    created := get "createdAt" (.int 0)
    updated := get "updatedAt" (.int 0) }

/-- The workbook of a name alone, made at a time. -/
def named (name : Value) (millis : Int) : Workbook :=
  { name, created := .int millis, updated := .int millis }

end Workbook

end TaleLoom
