import TaleLoom.Registry.Load
import TaleLoom.Repository.Keywords
import TaleLoom.Repository.Storage
import TaleLoom.Spark.Exchange
import TaleLoom.Template
/-!
An engine puts everything together that one story needs: the tables, the spark tables, what has
been consumed, the items, the workbooks and the templates, each from the file that the
configuration names. What it names no file for starts with what comes with the library.
-/

namespace TaleLoom

/-- What an engine is made from. File names are paths from the data folder. -/
structure EngineConfig where
  dataFolder : Path := ⟨"", ["data"]⟩
  story : String := "default"
  maxDepth : Int := 10
  expandAllPerPass : Bool := true
  markUnresolved : Bool := false
  seed : Option Int := none
  tablesFile : Option Path := none
  sparksFile : Option Path := none
  templatesFile : Option Path := none
  itemsFile : Option Path := none
  workbooksFile : Option Path := none
  /-- What has been consumed is kept in a file. -/
  keepsConsumption : Bool := true
  consumptionFile : Path := ⟨"", ["consumed-tables.json"]⟩

namespace EngineConfig

def place (config : EngineConfig) (file : Path) : Path := config.dataFolder.join file

/-- Every file that an engine reads or keeps. -/
def files (config : EngineConfig) : List Path :=
  ([config.sparksFile, config.tablesFile, config.itemsFile, config.workbooksFile,
    config.templatesFile].filterMap id ++
    if config.keepsConsumption then [config.consumptionFile] else []).map config.place

def options (config : EngineConfig) : ResolverOptions where
  story := config.story
  maxDepth := config.maxDepth
  expandAllPerPass := config.expandAllPerPass
  markUnresolved := config.markUnresolved

end EngineConfig

/-- Everything that one story needs. -/
structure Engine where
  config : EngineConfig
  registry : Registry
  sparks : SparkLibrary
  store : ConsumptionStore
  resolver : Resolver
  items : Keyed String Item
  workbooks : List Workbook
  templates : Keyed String Template

namespace Engine

/-- The scene of an engine at a desk. -/
def scene (desk : Desk) (engine : Engine) : Scene :=
  { desk, registry := engine.registry, sparks := engine.sparks, store := engine.store }

def takeBack (engine : Engine) (scene : Scene) : Engine :=
  { engine with registry := scene.registry, sparks := scene.sparks, store := scene.store }

/-- The parts of an engine that need files, in the order in which the files are read. -/
def assemble (config : EngineConfig) : Act Scene Engine := do
  match config.seed with
  | some seed =>
    Desk.setSeed seed
    modify fun scene =>
      { scene with desk := { scene.desk with log := { scene.desk.log with seed := .int seed } } }
  | none => pure ()
  config.sparksFile.forM fun file => SparkLibrary.load (config.place file)
  config.tablesFile.forM fun file => discard <| Registry.load (config.place file) false
  if config.keepsConsumption then
    let store ← ConsumptionStore.openFile (config.place config.consumptionFile)
    modify fun scene => { scene with store }
  let items ← match config.itemsFile with
    | some file => Scene.atDesk (Item.loadAll (config.place file))
    | none => pure []
  let workbooks ← match config.workbooksFile with
    | some file => Scene.atDesk (Workbook.loadAll (config.place file))
    | none => pure []
  let shipped := Template.defaults (← get).desk.clock.millis
  let templates ← match config.templatesFile with
    | some file => do
      let (templates, _, fault) ← Template.load shipped (config.place file)
      match fault with
      | some fault => throw fault
      | none => pure templates
    | none => pure shipped
  let scene ← get
  return {
    config, registry := scene.registry, sparks := scene.sparks, store := scene.store
    resolver := { options := config.options, items := some (Keyed.values items) }
    items, workbooks, templates }

/-- The scene in which an engine is put together. -/
def workshop (desk : Desk) : Scene :=
  { desk, registry := .initial true, sparks := .initial desk.clock.millis }

def create (config : EngineConfig) : Act Desk Engine := fun desk =>
  match assemble config (workshop desk) with
  | .ok engine scene => .ok engine scene.desk
  | .error fault scene => .error fault scene.desk

def run {α : Type} (engine : Engine) (act : Act Scene α) : Act Desk (Except Fault α × Engine) :=
  fun desk =>
    match act (engine.scene desk) with
    | .ok a scene => .ok (.ok a, engine.takeBack scene) scene.desk
    | .error fault scene => .ok (.error fault, engine.takeBack scene) scene.desk

def resolve (engine : Engine) (text : String) : Act Scene String := engine.resolver.resolve text

def execute (engine : Engine) (key : String) : Act Scene String :=
  Template.execute engine.resolver engine.templates key

def roll (formula : String) : Act Scene Roll := Desk.roll (.text formula) "command line roll"

/-- The engine's items and workbooks at a position. -/
def repository (engine : Engine) (position : Position) : Repository :=
  { items := engine.items, workbooks := engine.workbooks, position }

/-- The items that a text mentions, in words. -/
def describeContext (engine : Engine) (text : String) (position : Position) :
    Except Fault (List String) :=
  ((engine.repository position).mentioned text).map (·.map KeywordGroup.describe)

end Engine

end TaleLoom
