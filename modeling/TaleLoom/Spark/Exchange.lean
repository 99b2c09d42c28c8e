import TaleLoom.Spark.Draw
import TaleLoom.Value.Writer
/-!
Spark tables from and to other programs: a keyword list with one keyword a line, and the export
document that holds a whole library. An entry of a document that cannot be used is reported and
does not keep the others out.
-/

namespace TaleLoom

open Text

/-- Why something was not imported. -/
inductive ImportIssue where
  /-- A list without a line after its first. -/
  | noDataRow
  | noKeywords
  | notADocument
  | notAnObject
  | noTables
  | badTable (key : String) (why : Fault)
  | emptyTable (key : String)

namespace ImportIssue

def message : ImportIssue → String
  | noDataRow => "CSV must have at least a header and one data row"
  | noKeywords => "No valid keyword entries found"
  | notADocument => "Import failed: " ++ Fault.notADocument.message
  | notAnObject => "Invalid export format: not a JSON object"
  | noTables => "Invalid export format: missing tables"
  | badTable key why => "Failed to import table \"" ++ key ++ "\": " ++ why.message
  | emptyTable key => "Invalid table data for \"" ++ key ++ "\""

end ImportIssue

/-- What an import gave: the tables in order and how many they are, and what was left out. -/
structure ImportReport where
  success : Bool
  imported : Nat := 0
  tables : List SparkTable := []
  issues : List ImportIssue := []

namespace ImportReport

/-- The report with one table more. -/
def taken (report : ImportReport) (table : SparkTable) : ImportReport :=
  { report with imported := report.imported + 1, tables := report.tables ++ [table] }

/-- The report with one more thing that was left out. -/
def leftOut (report : ImportReport) (issue : ImportIssue) : ImportReport :=
  { report with issues := report.issues ++ [issue] }

end ImportReport

namespace SparkLibrary

/-- The table of a keyword list: its first line is the name, every other line that is not blank a
keyword. Where the first line is blank the table is named after the source. -/
def readList (millis : Int) (text source : String) : ImportReport :=
  match lines (trim text.toList) with
  | header :: row :: rows =>
    let entries := ((row :: rows).map trim).filter (!·.isEmpty)
    if entries.isEmpty then { success := false, issues := [.noKeywords] }
    else
      let name := String.ofList (trim header)
      { success := true, imported := 1
        tables := [{ name := .text (if name.isEmpty then (Path.ofText source).stem else name)
                     entries := entries.map String.ofList, source := .text source
                     lastModified := .int millis }] }
  | _ => { success := false, issues := [.noDataRow] }

/-- Reads a keyword list at this moment; its table is given and not added. -/
def importList (text source : String) : Act Scene ImportReport := do
  return readList (← get).desk.clock.millis text source

/-- The name of a field that a key gives. -/
def fieldName : Value → String
  | .text s => s
  | .null => "null"
  | .bool b => if b then "true" else "false"
  | .real x => x.text "NaN" "Infinity"
  | v => v.plain

def toValue (library : SparkLibrary) (moment : Timestamp) : Value :=
  .object [("tables", .object (library.tables.map fun (key, table) =>
      (fieldName key, table.toValue))),
    ("settings", library.settings.toValue), ("exportedAt", .text moment.text),
    ("version", .text "1.0")]

/-- Takes in the tables of a document, in order, after those that the report has already. -/
def importTables (report : ImportReport) : List (String × Value) → Act Scene ImportReport
  | [] => pure report
  | (key, v) :: rest => do
    match SparkTable.ofValue v with
    | .error .tooLarge => throw .tooLarge
    | .error why => importTables (report.leftOut (.badTable key why)) rest
    | .ok table =>
      if table.entries.isEmpty then importTables (report.leftOut (.emptyTable key)) rest
      else do
        let sparks ← (← get).sparks.add table
        modify fun scene => { scene with sparks }
        importTables (report.taken table) rest

/-- Takes the settings of a document over, if it has any. -/
def importSettings (fields : List (String × Value)) : Act Scene Unit :=
  match Keyed.get? "settings" fields with
  | some (.object settings) =>
    modify fun scene =>
      { scene with sparks := { scene.sparks with settings := SparkSettings.ofFields settings } }
  | _ => pure ()

def importDocument (text : String) : Act Scene ImportReport := do
  match Value.read (← get).desk.room text with
  | .error .malformed => return { success := false, issues := [.notADocument] }
  | .error .numberTooLong => throw .numeral
  | .error .tooDeep => throw .tooDeep
  | .ok (.object fields) =>
    match Keyed.get? "tables" fields with
    | some (.object entries) => do
      let report ← importTables { success := false } entries
      importSettings fields
      return { report with success := 0 < report.imported }
    | _ => return { success := false, issues := [.noTables] }
  | .ok _ => return { success := false, issues := [.notAnObject] }

def exportText : Act Scene String := do
  let scene ← get
  return (scene.sparks.toValue scene.desk.clock.moment).write

def save (file : Path) : Act Scene Unit := do
  let text ← exportText
  Desk.writeText file text

/-- Makes the library that a file holds, beside the default table, and warns of what was left out. -/
def load (file : Path) : Act Scene Unit := do
  modify fun scene => { scene with sparks := initial scene.desk.clock.millis }
  let report ← importDocument (← Desk.readText file)
  report.issues.forM fun issue => Desk.warn (file.text ++ ": " ++ issue.message)

end SparkLibrary

end TaleLoom
