import TaleLoom.CommandLine.Grammar
import TaleLoom.Engine
/-!
The command line: five commands on one engine, which expand a text or a template, roll dice, draw
keywords, show the items that a text mentions, and forget what has been consumed. `CommandLine.run`
gives the exit code and what is printed.
-/

namespace TaleLoom

/-- What is to be done. -/
inductive Command where
  | resolve
  | roll
  | sparks
  | context
  | resetConsumption
  deriving DecidableEq, Repr

/-- A command line, read. -/
structure CommandLine where
  config : EngineConfig := {}
  verbose : Bool := false
  command : Command := .resolve
  text : Option String := none
  template : Option String := none
  count : Int := 3
  tables : Option (List String) := none
  table : Option String := none
  shelf : Option String := none
  book : Option String := none
  chapter : Option String := none

namespace CommandLine

def textSwitch (name : String) (set : String → CommandLine → CommandLine) : Switch CommandLine :=
  { names := [name], effect := .value fun s line => some (set s line) }

def numberSwitch (name : String) (set : Int → CommandLine → CommandLine) : Switch CommandLine :=
  { names := [name], effect := .value fun s line =>
      (Number.readInteger? s.toList).map fun n => set n line }

def flagSwitch (names : List String) (set : CommandLine → CommandLine) : Switch CommandLine :=
  { names, effect := .flag set }

def helpSwitch : Switch CommandLine := { names := ["-h", "--help"], effect := .help }

def configure (f : EngineConfig → EngineConfig) (line : CommandLine) : CommandLine :=
  { line with config := f line.config }

/-- A switch with a file name of the configuration as value. -/
def fileSwitch (name : String) (set : Path → EngineConfig → EngineConfig) : Switch CommandLine :=
  textSwitch name fun s => configure (set (Path.ofText s))

def resolveGrammar : Grammar CommandLine where
  switches := [helpSwitch,
    textSwitch "--template" fun s line => { line with template := some s }]
  positional := .optional fun s line => { line with text := some s }

def rollGrammar : Grammar CommandLine where
  switches := [helpSwitch]
  positional := .one fun s line => { line with text := some s }

def sparksGrammar : Grammar CommandLine where
  switches := [helpSwitch,
    numberSwitch "--count" fun n line => { line with count := n },
    textSwitch "--table" fun s line => { line with tables := some (line.tables.getD [] ++ [s]) }]
  positional := .nothing

def contextGrammar : Grammar CommandLine where
  switches := [helpSwitch,
    textSwitch "--shelf" fun s line => { line with shelf := some s },
    textSwitch "--book" fun s line => { line with book := some s },
    textSwitch "--chapter" fun s line => { line with chapter := some s }]
  positional := .one fun s line => { line with text := some s }

def resetGrammar : Grammar CommandLine where
  switches := [helpSwitch, textSwitch "--table" fun s line => { line with table := some s }]
  positional := .nothing

/-- What is written before and with a command. -/
def grammar : Grammar CommandLine where
  switches := [helpSwitch,
    fileSwitch "--data-dir" fun p config => { config with dataFolder := p },
    textSwitch "--story" fun s => configure fun config => { config with story := s },
    numberSwitch "--seed" fun n => configure fun config => { config with seed := some n },
    flagSwitch ["-v", "--verbose"] fun line => { line with verbose := true },
    fileSwitch "--tables" fun p config => { config with tablesFile := some p },
    fileSwitch "--sparks-file" fun p config => { config with sparksFile := some p },
    fileSwitch "--templates" fun p config => { config with templatesFile := some p },
    fileSwitch "--repository" fun p config => { config with itemsFile := some p },
    fileSwitch "--workbooks" fun p config => { config with workbooksFile := some p },
    numberSwitch "--max-depth" fun n => configure fun config => { config with maxDepth := n },
    flagSwitch ["--one-per-pass"]
      (configure fun config => { config with expandAllPerPass := false }),
    flagSwitch ["--mark-unresolved"]
      (configure fun config => { config with markUnresolved := true }),
    flagSwitch ["--no-persist"] (configure fun config => { config with keepsConsumption := false })]
  positional := .command [
    ("resolve", fun line => { line with command := .resolve }, resolveGrammar),
    ("roll", fun line => { line with command := .roll }, rollGrammar),
    ("sparks", fun line => { line with command := .sparks }, sparksGrammar),
    ("context", fun line => { line with command := .context }, contextGrammar),
    ("reset-consumption", fun line => { line with command := .resetConsumption }, resetGrammar)]

def ofArguments (args : List String) : Except Refusal CommandLine := do
  let progress ← grammar.read { settings := {} } args
  if progress.leftOver then throw .usage
  return progress.settings

/-- A text is given, or none at all, in which case it comes from the input. -/
def readsInput (line : CommandLine) : Bool :=
  line.command = .resolve && (line.template.getD "").isEmpty && line.text.isNone

/-- What a command gives: the exit code and what is printed. -/
structure Outcome where
  exit : Nat
  printed : String := ""
  deriving DecidableEq, Repr

/-- A fault that a command reports and ends with. -/
def reported (message : String) : Act Scene Outcome := do
  Desk.complain message
  return { exit := 1 }

def optionValue (s : Option String) : Value := (s.map Value.text).getD .null

/-- Where the author is, as far as it is said. -/
def position (line : CommandLine) : Position where
  shelf := optionValue line.shelf
  book := optionValue line.book
  chapter := optionValue line.chapter

def runResolve (line : CommandLine) (engine : Engine) (input : String) : Act Scene Outcome := do
  let key := line.template.getD ""
  if key.isEmpty then
    return { exit := 0, printed := (← engine.resolve (line.text.getD input)) ++ "\n" }
  match ← Act.attempt (engine.execute key) with
  | .ok text => return { exit := 0, printed := text ++ "\n" }
  | .error (.unknownTemplate key) =>
    reported (Text.quoted (Fault.unknownTemplate key).message)
  | .error (.unknownKey key) => reported (Text.quoted key)
  | .error fault => throw fault

def runRoll (formula : String) : Act Scene Outcome := do
  match ← Act.attempt (Engine.roll formula) with
  | .ok r => return { exit := 0, printed := (← r.text) ++ "\n" }
  | .error (.dice written why) => reported (Fault.dice written why).message
  | .error fault => throw fault

/-- The name of what is forgotten. -/
def forgotten (table : Option String) : String :=
  match table with
  | some name => if name.isEmpty then "all tables" else name
  | none => "all tables"

def perform (line : CommandLine) (engine : Engine) (input : String) : Act Scene Outcome := do
  match line.command with
  | .resolve => line.runResolve engine input
  | .roll => runRoll (line.text.getD "")
  | .sparks =>
    let keywords ← SparkLibrary.generateNamed line.count line.tables
    return { exit := 0, printed := ", ".intercalate keywords ++ "\n" }
  | .context =>
    let groups ← engine.describeContext (line.text.getD "") line.position
    let lines := if groups.isEmpty then ["No repository items matched."] else groups
    return { exit := 0, printed := String.join (lines.map (· ++ "\n")) }
  | .resetConsumption =>
    engine.resolver.resetConsumption line.table
    return { exit := 0, printed := "Reset consumption for " ++ forgotten line.table ++
      " in story '" ++ line.config.story ++ "'\n" }

/-- Puts an engine together and carries the command out. -/
def run (line : CommandLine) (input : String) : Act Desk Outcome := do
  let engine ← Engine.create line.config
  let (outcome, _) ← engine.run (line.perform engine input)
  outcome

end CommandLine

end TaleLoom
