import TaleLoom.Value.Access
/-!
Where the author is in the library, and from where a story element can be seen. A scope reaches
down from one place: the whole library, a shelf, a book or a chapter. It applies at a position that
agrees with its anchor on every level down to its own.
-/

namespace TaleLoom

/-- The levels of the library, outermost first. -/
inductive ScopeLevel where
  | library
  | shelf
  | book
  | chapter
  deriving DecidableEq, Repr

namespace ScopeLevel

def name : ScopeLevel → String
  | library => "library"
  | shelf => "shelf"
  | book => "book"
  | chapter => "chapter"

/-- How specific a level is; what is more specific is read later. -/
def rank : ScopeLevel → Nat
  | library => 0
  | shelf => 1
  | book => 2
  | chapter => 3

def all : List ScopeLevel := [library, shelf, book, chapter]

def ofValue (v : Value) : Except Fault ScopeLevel :=
  match all.find? fun level => v.same (.text level.name) with
  | some level => .ok level
  | none => .error (.notListed v "ScopeLevel")

end ScopeLevel

/-- A place in the library: the shelf, the book and the chapter, each where the place is inside
one. -/
structure Position where
  shelf : Value := .null
  book : Value := .null
  chapter : Value := .null

namespace Position

def toValue (p : Position) : Value :=
  .object [("shelfId", p.shelf), ("bookId", p.book), ("chapterId", p.chapter)]

/-- The position that a value describes; each part has two spellings. -/
def ofValue (v : Value) : Except Fault Position := do
  let fields ← if v.truthy then v.fields else pure []
  let part (name otherName : String) : Value :=
    Value.fieldOr fields name (Value.fieldOr fields otherName .null)
  return { shelf := part "shelfId" "shelf_id", book := part "bookId" "book_id"
           chapter := part "chapterId" "chapter_id" }

/-- The parts of a position down to a level, outermost first. -/
def partsTo (p : Position) : ScopeLevel → List Value
  | .library => []
  | .shelf => [p.shelf]
  | .book => [p.shelf, p.book]
  | .chapter => [p.shelf, p.book, p.chapter]

/-- A part of an anchor is set and equals that of a position; an undefined number equals none. -/
def agrees (expected actual : Value) : Bool :=
  match expected with
  | .null => false
  | .real .undefined => false
  | v => v.same actual

/-- A scope with an anchor applies at a position. -/
def covers (level : ScopeLevel) (anchor position : Position) : Bool :=
  ((anchor.partsTo level).zip (position.partsTo level)).all fun (a, b) => agrees a b

end Position

/-- A scope applies at a position; without an anchor only the library's does. -/
def ScopeLevel.appliesAt (level : ScopeLevel) (anchor : Option Position) (position : Position) :
    Bool :=
  match anchor with
  | some anchor => Position.covers level anchor position
  | none => level = .library

end TaleLoom
