import TaleLoom.Keyed
import TaleLoom.Text.Blank
import TaleLoom.Text.Case
import TaleLoom.Value.Access
/-!
Looking a name up in collections of tables. A name fits a table by its key or by its own name, in
the exact spelling or but for letter case. The collections are tried in order, each with every way
of fitting before the next one; `findIn` gives the first table that fits.
-/

namespace TaleLoom

open Text

/-- A way in which a requested name can fit a table. -/
inductive Matcher where
  | exactKey
  | exactName
  | foldedKey
  | foldedName
  deriving DecidableEq, Repr

namespace Matcher

/-- The ways in the order in which they are tried. -/
def all : List Matcher := [exactKey, exactName, foldedKey, foldedName]

/-- A key or a name is the requested one but for letter case. -/
def foldedEqual (requested : String) (v : Value) : Except Fault Bool :=
  v.asText.map fun s => fold s == fold requested

/-- The requested name fits a table with a key and a name. -/
def fits (requested : String) (key name : Value) : Matcher → Except Fault Bool
  | exactKey => .ok (key.same (.text requested))
  | exactName => .ok (name.same (.text requested))
  | foldedKey => foldedEqual requested key
  | foldedName => foldedEqual requested name

end Matcher

namespace Lookup

variable {α : Type}

/-- The first table of a collection that a name fits in one way. -/
def findBy (nameOf : α → Value) (requested : String) (matcher : Matcher) :
    Keyed Value α → Except Fault (Option α)
  | [] => .ok none
  | (key, a) :: rest => do
    if ← matcher.fits requested key (nameOf a) then return some a
    else findBy nameOf requested matcher rest

/-- The first table of a collection that a name fits, one way after another. -/
def findOne (nameOf : α → Value) (requested : String) (collection : Keyed Value α) :
    List Matcher → Except Fault (Option α)
  | [] => .ok none
  | matcher :: rest => do
    match ← findBy nameOf requested matcher collection with
    | some a => return some a
    | none => findOne nameOf requested collection rest

/-- The first table that a name, without the white space around it, fits. -/
def findIn (nameOf : α → Value) (matchers : List Matcher) (requested : String) :
    List (Keyed Value α) → Except Fault (Option α)
  | [] => .ok none
  | collection :: rest => do
    match ← findOne nameOf (strip requested) collection matchers with
    | some a => return some a
    | none => findIn nameOf matchers requested rest

end Lookup

end TaleLoom
