import TaleLoom.Desk
/-!
Calls on the log of a run: posting an event of the host's own, pausing, starting anew, keeping the
log in a file and taking a kept log up again. Taking up starts with an empty log and puts the events
in one by one, so a document that is faulty further on leaves those before the fault. After it the
log goes on counting from the greatest number of its events.
-/

namespace TaleLoom.RunLog

/-- The document of a log; with a width each item has a line of its own. -/
def written (log : RunLog) (width : Option Nat) : Except Fault String :=
  let v := log.toValue
  if v.hasLongNumber then .error .numeral else .ok (v.writeAt width 0)

def takeUp (e : Event) : Act RunLog Unit := do
  modify fun log => { log with events := log.events.push e }
  if ← e.sequence.greater (← get).counter then
    modify fun log => { log with counter := e.sequence }

/-- Puts the events that some values describe in. -/
def takeUpAll : List Value → Act RunLog Unit
  | [] => pure ()
  | v :: rest => do
    takeUp (← Event.ofValue v)
    takeUpAll rest

/-- Takes up the log that a document describes; where it says no start, the given one counts. -/
def restore (start : Timestamp) (document : Value) : Act RunLog Unit := do
  modify (·.restart start)
  let fields ← document.fields
  modify fun log => { log with seed := Value.fieldOr fields "seed" .null }
  let saved := Value.fieldOr fields "session_start" .null
  if saved.truthy then
    let start ← Event.readTimestamp saved
    modify fun log => { log with start }
  takeUpAll (← (Value.fieldOr fields "events" (.list [])).elements)

end TaleLoom.RunLog

namespace TaleLoom.Desk

/-- A step on the log as a step on the desk. -/
def onLog {α : Type} (act : Act RunLog α) : Act Desk α :=
  Act.within (·.log) (fun log desk => { desk with log }) act

/-- What an event of the host's own says: its name and its details, which may name it anew. -/
def ownContext (name : Value) (details : List (String × Value)) : Value :=
  .object (details.foldl (fun all (key, v) => Keyed.set key v all) [("event_name", name)])

/-- Posts an event of the host's own. -/
def postOwn (name : Value) (details : List (String × Value)) : Act Desk Event :=
  post .custom (ownContext name details)

def setPaused (paused : Bool) : Act Desk Unit :=
  modify fun desk => { desk with log := { desk.log with paused } }

/-- Stops the log from keeping events. -/
def pauseLog : Act Desk Unit := setPaused true

/-- Lets the log keep events again. -/
def resumeLog : Act Desk Unit := setPaused false

/-- Empties the log, which starts at this moment. -/
def resetLog : Act Desk Unit :=
  modify fun desk => { desk with log := desk.log.restart desk.clock.moment }

/-- Writes the log to a file, which is empty where the log cannot be written. -/
def saveLog (file : Path) : Act Desk Unit := do
  writeText file ""
  writeText file (← (← get).log.written (some 2))

def loadLog (file : Path) : Act Desk Unit := do
  let document ← readDocument file
  onLog (RunLog.restore (← get).clock.moment document)

end TaleLoom.Desk
