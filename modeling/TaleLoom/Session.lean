import TaleLoom.CommandLine.Basic
/-!
A session: one desk and, on it, the latest library, registry, store, resolver, templates,
repository and engine, each made when it is first asked for. What is made anew takes the place of
the old, but what was built on the old one goes on with it: every library, registry and store of the
session is kept under its number, and a registry knows the number of its library.
-/

namespace TaleLoom

/-- A registry with the number of its library of spark tables. -/
structure SeatedRegistry where
  registry : Registry
  library : Nat

/-- A resolver with the numbers of its registry and its store. -/
structure SeatedResolver where
  resolver : Resolver
  registry : Nat
  store : Nat

/-- Templates with the resolver that expands them. -/
structure SeatedTemplates where
  resolver : SeatedResolver
  templates : Keyed String Template

/-- Everything that a session holds. -/
structure Session where
  desk : Desk
  libraries : Array SparkLibrary := #[]
  registries : Array SeatedRegistry := #[]
  stores : Array ConsumptionStore := #[]
  currentLibrary : Option Nat := none
  currentRegistry : Option Nat := none
  currentStore : Option Nat := none
  currentResolver : Option SeatedResolver := none
  currentTemplates : Option SeatedTemplates := none
  currentRepository : Option Repository := none
  currentEngine : Option Engine := none
  /-- A registry that stands on its own and is there for all. -/
  sharedRegistry : Option Nat := none

namespace Session

variable {α : Type}

def start (clock : Clock) (source : Source) (seed : Option Int) : Session :=
  { desk := { Desk.start clock with source, seed } }

/-- A step on the desk as a step of the session. -/
def atDesk (act : Act Desk α) : Act Session α :=
  Act.within (·.desk) (fun desk session => { session with desk }) act

instance : MonadLift (Act Desk) (Act Session) := ⟨atDesk⟩

/-- The scene of a library, a registry and a store, by their numbers; what is not named is empty. -/
def sceneOf (library registry store : Option Nat) (session : Session) : Scene where
  desk := session.desk
  sparks := (library.bind (session.libraries[·]?)).getD { tables := [] }
  registry := ((registry.bind (session.registries[·]?)).map (·.registry)).getD (.initial false)
  store := (store.bind (session.stores[·]?)).getD {}

/-- The session after a scene of its parts has changed. -/
def takeBack (library registry store : Option Nat) (scene : Scene) (session : Session) : Session :=
  { session with
    desk := scene.desk
    libraries := (library.map fun n => session.libraries.setIfInBounds n scene.sparks).getD
      session.libraries
    registries := (registry.map fun n => session.registries.modify n fun r =>
      { r with registry := scene.registry }).getD session.registries
    stores := (store.map fun n => session.stores.setIfInBounds n scene.store).getD session.stores }

/-- Runs a step on the scene of some parts. -/
def within (library registry store : Option Nat) (act : Act Scene α) : Act Session α :=
  Act.within (sceneOf library registry store) (takeBack library registry store) act

def addLibrary (library : SparkLibrary) : Act Session Nat :=
  modifyGet fun s => (s.libraries.size, { s with libraries := s.libraries.push library })

def addRegistry (registry : Registry) (library : Nat) : Act Session Nat :=
  modifyGet fun s => (s.registries.size, { s with registries := s.registries.push ⟨registry, library⟩ })

def addStore (store : ConsumptionStore) : Act Session Nat :=
  modifyGet fun s => (s.stores.size, { s with stores := s.stores.push store })

def millis : Act Session Int := do return (← get).desk.clock.millis

def library : Act Session Nat := do
  match (← get).currentLibrary with
  | some n => return n
  | none =>
    let n ← addLibrary (.initial (← millis))
    modify fun s => { s with currentLibrary := some n }
    return n

def registry : Act Session Nat := do
  match (← get).currentRegistry with
  | some n => return n
  | none =>
    let n ← addRegistry (.initial true) (← library)
    modify fun s => { s with currentRegistry := some n }
    return n

def store : Act Session Nat := do
  match (← get).currentStore with
  | some n => return n
  | none =>
    let n ← addStore {}
    modify fun s => { s with currentStore := some n }
    return n

def libraryOf (registry : Nat) : Act Session (Option Nat) := do
  return ((← get).registries[registry]?).map (·.library)

def onLibrary (act : Act Scene α) : Act Session α := do
  within (some (← library)) none none act

/-- Runs a step on the latest registry and its library. -/
def onRegistry (act : Act Scene α) : Act Session α := do
  let n ← registry
  within (← libraryOf n) (some n) none act

def onStore (act : Act Scene α) : Act Session α := do
  within none none (some (← store)) act

def resolver : Act Session SeatedResolver := do
  match (← get).currentResolver with
  | some r => return r
  | none =>
    let r : SeatedResolver := { resolver := {}, registry := ← registry, store := ← store }
    modify fun s => { s with currentResolver := some r }
    return r

/-- Runs a step on the scene of a resolver. -/
def withResolver (r : SeatedResolver) (act : Resolver → Act Scene α) : Act Session α := do
  within (← libraryOf r.registry) (some r.registry) (some r.store) (act r.resolver)

def onResolver (act : Resolver → Act Scene α) : Act Session α := do
  withResolver (← resolver) act

def templates : Act Session SeatedTemplates := do
  match (← get).currentTemplates with
  | some t => return t
  | none =>
    let r ← resolver
    let t : SeatedTemplates := { resolver := r, templates := Template.defaults (← millis) }
    modify fun s => { s with currentTemplates := some t }
    return t

def onTemplates (act : Resolver → Keyed String Template → Act Scene α) : Act Session α := do
  let t ← templates
  withResolver t.resolver fun r => act r t.templates

def repository : Act Session Repository := do
  match (← get).currentRepository with
  | some r => return r
  | none =>
    modify fun s => { s with currentRepository := some {} }
    return {}

/-- The latest engine; the one that is made when it is first asked for keeps no file. -/
def engine : Act Session Engine := do
  match (← get).currentEngine with
  | some e => return e
  | none =>
    let e ← atDesk (Engine.create { keepsConsumption := false })
    modify fun s => { s with currentEngine := some e }
    return e

def onEngine (act : Engine → Act Scene α) : Act Session α := do
  let e ← engine
  let (result, e) ← atDesk (e.run (act e))
  modify fun s => { s with currentEngine := some e }
  result

def newLibrary (tables : Keyed Value SparkTable) (settings : SparkSettings) : Act Session Unit := do
  let n ← addLibrary (.ofTables (← millis) tables settings)
  modify fun s => { s with currentLibrary := some n }

/-- Makes the library that a file holds; where that fails the latest one stays. -/
def loadLibrary (file : Path) : Act Session Unit := do
  let n ← addLibrary (.initial (← millis))
  within (some n) none none (SparkLibrary.load file)
  modify fun s => { s with currentLibrary := some n }

/-- Makes a registry and registers tables under their keys. -/
def newRegistry (withBuiltIn : Bool) (tables : List (String × RandomTable)) : Act Session Unit := do
  let lib ← library
  let n ← addRegistry (.initial withBuiltIn) lib
  within (some lib) (some n) none
    (tables.forM fun (key, table) => discard <| Registry.register table (some (.text key)))
  modify fun s => { s with currentRegistry := some n }

/-- Makes a store, in a file or without one. -/
def newStore (file : Option Path) : Act Session ConsumptionStore := do
  let store ← match file with
    | some file => atDesk (ConsumptionStore.openFile file)
    | none => pure {}
  let n ← addStore store
  modify fun s => { s with currentStore := some n }
  return store

/-- Makes a resolver on the latest registry and store; the templates are made anew after it. -/
def newResolver (options : ResolverOptions) (items : Option (List Item)) : Act Session Unit := do
  let r : SeatedResolver :=
    { resolver := { options, items }, registry := ← registry, store := ← store }
  modify fun s => { s with currentResolver := some r, currentTemplates := none }

/-- Makes templates: those that come with the library and given ones. -/
def newTemplates (given : Keyed String Template) : Act Session (List String) := do
  let r ← resolver
  let all := given.foldl (fun all (key, t) => Keyed.set key t all) (Template.defaults (← millis))
  modify fun s => { s with currentTemplates := some { resolver := r, templates := all } }
  return Keyed.keys all

/-- Puts the templates of a file to the latest ones and gives their number. -/
def loadTemplates (file : Path) : Act Session Nat := do
  let t ← templates
  let (all, count, fault) ← atDesk (Template.load t.templates file)
  modify fun s => { s with currentTemplates := some { t with templates := all } }
  match fault with
  | some fault => throw fault
  | none => return count

def newRepository (items : ItemCollection) (workbooks : List Workbook) (position : Position) :
    Act Session (List String) := do
  let r ← atDesk (Repository.ofCollection items workbooks position)
  modify fun s => { s with currentRepository := some r }
  return Keyed.keys r.items

/-- Makes an engine; where that fails the latest one stays. -/
def newEngine (config : EngineConfig) : Act Session Engine := do
  let e ← atDesk (Engine.create config)
  modify fun s => { s with currentEngine := some e }
  return e

/-- A new registry of its own for all to share. -/
def newShared : Act Session Nat := do
  let n ← addRegistry (.initial true) (← addLibrary (.initial (← millis)))
  modify fun s => { s with sharedRegistry := some n }
  return n

def shared : Act Session Nat := do
  match (← get).sharedRegistry with
  | some n => return n
  | none => newShared

/-- Registers a table in the shared registry, then takes that one again or a new one. Gives whether
it is the same one, and the keys of its tables. -/
def useShared (table : Option RandomTable) (anew : Bool) : Act Session (Bool × List Value) := do
  let before ← shared
  let lib ← libraryOf before
  table.forM fun table => discard <| within lib (some before) none (Registry.register table none)
  let after ← if anew then newShared else shared
  let keys := (((← get).registries[after]?).map fun r => Keyed.keys r.registry.custom).getD []
  return (before == after, keys)

end Session

end TaleLoom
