import TaleLoom.Table.BuiltIn
/-!
A library of spark tables, with the settings of every draw and a record of how often each table was
used. A library that would be empty has the default table.
-/

namespace TaleLoom

/-- What keywords are drawn for. -/
inductive SparkUse where
  | oracle
  | sparks
  | both
  deriving DecidableEq, Repr

namespace SparkUse

def name : SparkUse → String
  | oracle => "oracle"
  | sparks => "sparks"
  | both => "both"

def ofValue (v : Value) : Except Fault SparkUse :=
  match [oracle, sparks, both].find? fun purpose => v.same (.text purpose.name) with
  | some purpose => .ok purpose
  | none => .error (.notListed v "SparkContext")

end SparkUse

/-- Settings of every draw, kept as they were written. -/
structure SparkSettings where
  defaultTableEnabled : Value := .bool true
  defaultTableCount : Value := .int 2
  keywordCount : Value := .int 3
  includeTableNames : Value := .bool false
  allowCrossover : Value := .bool true

namespace SparkSettings

def toValue (s : SparkSettings) : Value :=
  .object [("defaultTableEnabled", s.defaultTableEnabled),
    ("defaultTableCount", s.defaultTableCount), ("keywordCount", s.keywordCount),
    ("includeTableNames", s.includeTableNames), ("allowCrossover", s.allowCrossover)]

def ofFields (fields : List (String × Value)) : SparkSettings where
  defaultTableEnabled := Value.fieldOr fields "defaultTableEnabled" (.bool true)
  defaultTableCount := Value.fieldOr fields "defaultTableCount" (.int 2)
  keywordCount := Value.fieldOr fields "keywordCount" (.int 3)
  includeTableNames := Value.fieldOr fields "includeTableNames" (.bool false)
  allowCrossover := Value.fieldOr fields "allowCrossover" (.bool true)

end SparkSettings

/-- How often a table was used, when last, and for which keywords. -/
structure SparkUsage where
  useCount : Nat := 0
  lastUsed : Int := 0
  /-- The latest keywords, the last one first. -/
  keywords : List String := []
  deriving DecidableEq, Repr

/-- Spark tables under their keys, with settings and usage. -/
structure SparkLibrary where
  tables : Keyed Value SparkTable
  settings : SparkSettings := {}
  usage : Keyed Value SparkUsage := []

/-- A change of one property of a table; its name stays. -/
inductive SparkChange where
  | entries (entries : List String)
  | weight (n : Int)
  | oracleEnabled (b : Bool)
  | sparksEnabled (b : Bool)
  | categories (vs : List Value)
  | isDefault (b : Bool)
  | enabled (b : Bool)
  | source (v : Value)

namespace SparkChange

def apply (table : SparkTable) : SparkChange → SparkTable
  | entries es => { table with entries := es }
  | weight n => { table with weight := n }
  | oracleEnabled b => { table with oracleEnabled := b }
  | sparksEnabled b => { table with sparksEnabled := b }
  | categories vs => { table with categories := vs }
  | isDefault b => { table with isDefault := b }
  | enabled b => { table with enabled := b }
  | source v => { table with source := v }

end SparkChange

namespace SparkLibrary

/-- How many of the latest keywords are remembered. -/
def rememberedKeywords : Nat := 10

def initial (millis : Int) : SparkLibrary :=
  { tables := [(.text BuiltIn.defaultSparkName, BuiltIn.sparkTable millis)] }

/-- The library of given tables and settings; without tables it has the default one. -/
def ofTables (millis : Int) (tables : Keyed Value SparkTable) (settings : SparkSettings) :
    SparkLibrary :=
  { tables := if tables.isEmpty then (initial millis).tables else tables, settings }

/-- The library with a table set under its name. -/
def add (library : SparkLibrary) (table : SparkTable) : Except Fault SparkLibrary := do
  let key ← table.name.asKey
  return { library with
    tables := Keyed.set key table library.tables
    usage := if (Keyed.get? key library.usage).isSome then library.usage
      else Keyed.set key {} library.usage }

/-- The library without a table, and whether there was one to remove; a default table stays. -/
def remove (library : SparkLibrary) (name : Value) : SparkLibrary × Bool :=
  match Keyed.get? name library.tables with
  | none => (library, false)
  | some table =>
    if table.isDefault then (library, false)
    else ({ library with
      tables := Keyed.erase name library.tables, usage := Keyed.erase name library.usage }, true)

/-- The library with properties of a table changed, and whether the table is there. -/
def update (library : SparkLibrary) (millis : Int) (name : Value) (changes : List SparkChange) :
    SparkLibrary × Bool :=
  match Keyed.get? name library.tables with
  | none => (library, false)
  | some table =>
    let table := { changes.foldl SparkChange.apply table with lastModified := .int millis }
    ({ library with tables := Keyed.set name table library.tables }, true)

/-- A table takes part in draws for a use. -/
def takesPart (library : SparkLibrary) (purpose : SparkUse) (table : SparkTable) : Bool :=
  (table.enabled || table.isDefault) &&
  (!table.isDefault || library.settings.defaultTableEnabled.truthy) &&
  match purpose with
  | .oracle => table.oracleEnabled
  | .sparks => table.sparksEnabled
  | .both => table.oracleEnabled || table.sparksEnabled

/-- The tables that take part in draws for a use. -/
def enabledTables (library : SparkLibrary) (purpose : SparkUse) : List SparkTable :=
  (Keyed.values library.tables).filter (library.takesPart purpose)

/-- The tables that keywords are drawn from: those given, as far as they are enabled, or else those
of the use; where that leaves none, the default table. -/
def inUse (library : SparkLibrary) (purpose : SparkUse) (given : Option (List SparkTable)) :
    List SparkTable :=
  let chosen : List SparkTable := match given with
    | some tables => tables.filter (·.enabled)
    | none => library.enabledTables purpose
  if chosen.isEmpty then
    (Keyed.get? (.text BuiltIn.defaultSparkName) library.tables).toList
  else chosen

def usageOf (library : SparkLibrary) (name : Value) : SparkUsage :=
  (Keyed.get? name library.usage).getD {}

/-- The library after a keyword of a table has been used. -/
def recordUsage (library : SparkLibrary) (millis : Int) (name : Value) (keyword : String) :
    Except Fault SparkLibrary := do
  let key ← name.asKey
  let old := library.usageOf key
  let new : SparkUsage :=
    { useCount := old.useCount + 1, lastUsed := millis
      keywords := (keyword :: old.keywords).take rememberedKeywords }
  return { library with usage := Keyed.set key new library.usage }

/-- How many entries each table has, when it was changed last and how often it was used. -/
def stats (library : SparkLibrary) : List (Value × Value) :=
  library.tables.map fun (key, table) =>
    (key, .object [("entryCount", .int table.entries.length),
      ("lastModified", table.lastModified), ("useCount", .int (library.usageOf key).useCount)])

def totalEntries (library : SparkLibrary) : Nat :=
  ((Keyed.values library.tables).flatMap (·.entries)).length

end SparkLibrary

end TaleLoom
