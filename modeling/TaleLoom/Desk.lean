import TaleLoom.Act
import TaleLoom.Dice.Formula
import TaleLoom.Dice.Roll
import TaleLoom.Files
import TaleLoom.Random.Source
import TaleLoom.RunLog
/-!
What every part of a run shares: the source of randomness, the record of all rolls, the log of
events, the notices to the author, the clock and the files. All randomness is drawn through
`roll`, `draw` and `choose`, each of which records what it drew both as a roll and as an event.
-/

namespace TaleLoom

/-- How serious a notice is. -/
inductive Severity where
  | warning
  | error
  deriving DecidableEq, Repr

/-- Something the author is told beside the answer. -/
structure Notice where
  severity : Severity
  text : String
  deriving DecidableEq, Repr

/-- What every part of a run shares. -/
structure Desk where
  source : Source := .listed []
  /-- The seed that the source was made from last. -/
  seed : Option Int := none
  rolls : Array Roll := #[]
  log : RunLog
  notices : Array Notice := #[]
  /-- Rows of texts that are given out in turn, over and over. -/
  wheels : Array (List String) := #[]
  files : FileTree := {}
  /-- How deep lists and objects may stand in one another in a document that is read. -/
  room : Nat := 1000
  clock : Clock

namespace Desk

/-- The desk at the start of a run. -/
def start (clock : Clock) : Desk := { log := { start := clock.moment }, clock }

def warn (text : String) : Act Desk Unit :=
  modify fun desk => { desk with notices := desk.notices.push ⟨.warning, text⟩ }

def complain (text : String) : Act Desk Unit :=
  modify fun desk => { desk with notices := desk.notices.push ⟨.error, text⟩ }

def setSeed (seed : Int) : Act Desk Unit :=
  modify fun desk => { desk with seed := some seed, source := .ofSeed seed }

/-- An event of this moment, before it is posted. -/
def eventNow (detail : EventDetail) (context : Value) : Act Desk Event := do
  return { timestamp := (← get).clock.moment, sequence := .int 0, context, detail }

/-- Posts an event and warns of subscribers that fail. -/
def post (detail : EventDetail) (context : Value := .object []) : Act Desk Event := do
  let (log, e, failed) := (← get).log.post (← eventNow detail context)
  modify fun desk => { desk with log }
  failed.forM fun name => warn ("Subscriber error: " ++ name ++ " failed")
  return e

/-- Records a roll, and posts it as an event. -/
def record (r : Roll) : Act Desk Unit := do
  modify fun desk => { desk with rolls := desk.rolls.push r }
  discard <| post (.roll (.text r.formula) (.list (r.faces.map .int)) (.int r.modifier)
    (.int r.total) (.text r.reason))

/-- A number below `n` from the source. -/
def below (n : Nat) : Act Desk Nat :=
  modifyGet fun desk =>
    let drawn := desk.source.below n
    (drawn.1, { desk with source := drawn.2 })

def castFaces (sides : Nat) : Nat → Act Desk (List Int)
  | 0 => pure []
  | count + 1 => do
    let face ← below sides
    return ((face : Int) + 1) :: (← castFaces sides count)

def roll (formula : Value) (reason : String) : Act Desk Roll := do
  let f ← Formula.ofValue formula
  let faces ← castFaces f.sides f.count
  let r : Roll :=
    { formula := Text.strip formula.plain, faces, modifier := f.modifier
      total := f.total faces, reason }
  record r
  return r

def draw (low high : Int) (reason : String) : Act Desk Int := do
  if high < low then throw .emptyRange
  let offset ← below (high - low + 1).toNat
  let value := low + offset
  let formula := "range(" ++ (← Number.digits low) ++ "-" ++ (← Number.digits high) ++ ")"
  record { formula, faces := [value], modifier := 0, total := value, reason }
  return value

/-- Draws a place among so many things, of which there is at least one. Things that are all there are
never so many that their places could not be written. -/
def drawPlace (count : Nat) (reason : String) : Act Desk Nat := do
  let place ← below count
  record { formula := "range(0-" ++ Nat.repr (count - 1) ++ ")", faces := [(place : Int)]
           modifier := 0, total := place, reason }
  return place

/-- Chooses one of several things; a reason that is empty is filled in. -/
def choose {α : Type} (items : List α) (reason : String) : Act Desk α := do
  if items.isEmpty then throw .emptyChoice
  let filled :=
    if reason.isEmpty then "choice from " ++ Nat.repr items.length ++ " options" else reason
  let place ← drawPlace items.length filled
  match items[place]? with
  | some item => return item
  | none => throw .emptyChoice

def turnWheel (wheel : Nat) : Act Desk String :=
  modifyGet fun desk =>
    match desk.wheels[wheel]? with
    | some (text :: rest) =>
      (text, { desk with wheels := desk.wheels.setIfInBounds wheel (rest ++ [text]) })
    | _ => ("", desk)

/-- Puts up a wheel of texts and gives its number. -/
def addWheel (texts : List String) : Act Desk Nat :=
  modifyGet fun desk => (desk.wheels.size, { desk with wheels := desk.wheels.push texts })

/-- The text of the file at a path. -/
def readText (p : Path) : Act Desk String := do (← get).files.read p

/-- The document in the file at a path. -/
def readDocument (p : Path) : Act Desk Value := do
  let text ← readText p
  match Value.read (← get).room text with
  | .ok v => return v
  | .error .malformed => throw .notADocument
  | .error .numberTooLong => throw .numeral
  | .error .tooDeep => throw .tooDeep

def writeText (p : Path) (text : String) : Act Desk Unit := do
  let files ← (← get).files.write p (.text text)
  modify fun desk => { desk with files }

/-- Makes the folders that a file at a path needs. -/
def makeFolders (p : Path) : Act Desk Unit := do
  let files ← (← get).files.makeFolders p
  modify fun desk => { desk with files }

end Desk

end TaleLoom
