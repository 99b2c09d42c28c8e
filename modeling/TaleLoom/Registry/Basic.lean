import TaleLoom.Registry.Lookup
import TaleLoom.Spark.Library
/-!
The registry of tables: built-in ones, the author's own ones, and the table of outcomes against a
difficulty. A name is looked up among the built-in tables first.
-/

namespace TaleLoom

/-- The tables that can be rolled on by name. -/
structure Registry where
  builtIn : Keyed Value RandomTable
  custom : Keyed Value RandomTable := []
  difficultyTable : RandomTable := BuiltIn.difficulty

namespace Registry

def initial (withBuiltIn : Bool) : Registry :=
  { builtIn := if withBuiltIn then BuiltIn.tables else [] }

def find (registry : Registry) (name : String) : Except Fault (Option RandomTable) :=
  Lookup.findIn (·.name) Matcher.all name [registry.builtIn, registry.custom]

/-- The registry without one of the author's tables, and whether it was there. -/
def unregister (registry : Registry) (key : Value) : Registry × Bool :=
  ({ registry with custom := Keyed.erase key registry.custom },
    (Keyed.get? key registry.custom).isSome)

/-- The names of all tables, built-in ones first. -/
def tableNames (registry : Registry) : List Value :=
  (Keyed.values registry.builtIn ++ Keyed.values registry.custom).map (·.name)

end Registry

/-- The spark table that a name stands for. -/
def SparkLibrary.find (library : SparkLibrary) (name : String) :
    Except Fault (Option SparkTable) :=
  Lookup.findIn (·.name) Matcher.all name [library.tables]

end TaleLoom
