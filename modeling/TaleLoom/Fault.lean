import TaleLoom.Value.Shown
/-!
What can go wrong, as causes. `Fault.message` gives the wording of each one.
-/

namespace TaleLoom

/-- Why a dice formula is refused. -/
inductive FormulaFault where
  /-- The text has not the form of a formula. -/
  | malformed
  /-- No die, or a die without sides. -/
  | notPositive
  /-- More dice or more sides than can be rolled. -/
  | tooLarge
  deriving DecidableEq, Repr

/-- Why the definition of a table is refused. -/
inductive TableFault where
  /-- A bound that is neither open, a whole number nor an offset. -/
  | bound (written : Value)
  /-- A row that is no object. -/
  | row (written : Value)
  /-- A table that is no object. -/
  | definition (written : Value)
  | unnamed
  | noFormula (name : Value)
  | noRows (name : Value)
  /-- A file that holds tables in no known layout. -/
  | layout (path : String)
  /-- Totals that no row covers, where none may be left out. -/
  | uncovered (name : Value) (ranges : String)
  /-- A dice formula that is refused, where every table has to be sound. -/
  | formula (written : Value) (why : FormulaFault)
  | sparkDefinition (written : Value)
  | sparkUnnamed
  | sparkNoEntries (name : Value)
  deriving Repr

/-- Why a call fails. -/
inductive Fault where
  | dice (written : Value) (why : FormulaFault)
  | table (why : TableFault)
  /-- A text that is no number, or a number of too many digits. -/
  | numeral
  /-- A range whose end lies before its start. -/
  | emptyRange
  /-- A text that is no point in time. -/
  | timestamp
  /-- A value that is none of a closed list. -/
  | notListed (written : Value) (list : String)
  /-- A file that holds a document of another form. -/
  | otherContent (path : String) (expected : String)
  | itemsNotAList
  | notAnObject
  | missingField (name : String)
  | unknownTemplate (key : String)
  | unknownKey (key : String)
  | emptyChoice
  /-- A value of a kind that the step cannot work on. -/
  | wrongKind
  /-- A value without the part that the step asks it for. -/
  | missingPart
  | noSuchFile
  | isFolder
  | notAFolder
  /-- A file whose bytes are no text. -/
  | notText
  | notADocument
  /-- A document in which lists and objects stand too deep in one another. -/
  | tooDeep
  /-- A number too large for the step. -/
  | tooLarge
  deriving Repr

namespace FormulaFault

def message (written : Value) : FormulaFault → String
  | malformed => "Invalid dice notation: " ++ written.shown
  | notPositive => "Dice count and sides must be positive: " ++ written.shown
  | tooLarge => "Dice notation exceeds limits: " ++ written.shown

end FormulaFault

namespace TableFault

def message : TableFault → String
  | bound v => "Invalid row bound: " ++ v.shown
  | row v => "Invalid table row: " ++ v.shown
  | definition v => "Invalid table definition: " ++ v.shown
  | unnamed => "Table definition has no name"
  | noFormula name => "Table '" ++ name.plain ++ "' has no dice formula"
  | noRows name => "Table '" ++ name.plain ++ "' has no row list"
  | layout path => "Unrecognised table file layout in " ++ path
  | uncovered name ranges => "Table '" ++ name.plain ++ "' has no rows for totals " ++ ranges
  | formula written why => why.message written
  | sparkDefinition v => "Invalid spark table: " ++ v.shown
  | sparkUnnamed => "Spark table has no name"
  | sparkNoEntries name => "Spark table '" ++ name.plain ++ "' has no entry list"

end TableFault

namespace Fault

def message : Fault → String
  | dice written why => why.message written
  | table why => why.message
  | numeral => "Not a number that can be read or written"
  | emptyRange => "The range is empty"
  | timestamp => "Not a point in time"
  | notListed v list => v.shown ++ " is not a valid " ++ list
  | otherContent path expected => path ++ " does not contain a " ++ expected
  | itemsNotAList => "consumedItems must be a list"
  | notAnObject => "top level must be an object"
  | missingField name => name
  | unknownTemplate key => "Unknown template: " ++ key
  | unknownKey key => key
  | emptyChoice => "Cannot choose from an empty sequence"
  | wrongKind => "A value of another kind is needed"
  | missingPart => "The value has no such part"
  | noSuchFile => "No such file"
  | isFolder => "A folder is no file"
  | notAFolder => "A file is no folder"
  | notText => "The file holds no text"
  | notADocument => "Not a JSON document"
  | tooDeep => "The document is nested too deep"
  | tooLarge => "The number is too large"

end Fault

end TaleLoom
