import TaleLoom.RunLog.Event
import TaleLoom.Value.Writer
/-!
The log of a run. Events are numbered as they are posted, one after another, unless the log is
paused; subscribers note each event, and a subscriber that fails only leaves a warning.
-/

namespace TaleLoom

/-- Who is told of events. -/
structure Subscriber where
  name : String
  fails : Bool
  deriving DecidableEq, Repr

/-- What a subscriber notes of an event. -/
structure EventNote where
  subscriber : String
  sequence : Value
  kind : EventKind

/-- The events of a run and what belongs to the whole of it. -/
structure RunLog where
  events : Array Event := #[]
  /-- The number of the last event. -/
  counter : Value := .int 0
  seed : Value := .null
  start : Timestamp
  subscribers : List Subscriber := []
  notes : Array EventNote := #[]
  paused : Bool := false

namespace RunLog

/-- The log without its events, from a new start on. -/
def restart (log : RunLog) (start : Timestamp) : RunLog :=
  { log with events := #[], counter := .int 0, start }

/-- The log after an event, the event with its number, and the subscribers that failed. -/
def post (log : RunLog) (e : Event) : RunLog × Event × List String :=
  if log.paused then (log, e, [])
  else
    let counter := log.counter.successor
    let e := { e with sequence := counter }
    let told := (log.subscribers.filter (!·.fails)).map fun s =>
      { subscriber := s.name, sequence := counter, kind := e.kind : EventNote }
    ({ log with counter, events := log.events.push e, notes := log.notes ++ told.toArray }, e,
      (log.subscribers.filter (·.fails)).map (·.name))

/-- The subscribers without the last one of a name. -/
def dropLastNamed (name : String) (subscribers : List Subscriber) : List Subscriber :=
  (subscribers.reverse.eraseP (·.name == name)).reverse

def eventsSince (log : RunLog) (number : Value) : Except Fault (List Event) :=
  log.events.toList.filterM fun e => e.sequence.greater number

def ofKind (log : RunLog) (kind : EventKind) : List Event :=
  log.events.toList.filter (·.kind = kind)

/-- The events of a kind, or of all kinds, after a number. -/
def select (log : RunLog) (kind : Option EventKind) (since : Value) : Except Fault (List Event) := do
  let events ← log.eventsSince since
  match kind with
  | some kind => return events.filter (·.kind = kind)
  | none => return events

def count (log : RunLog) (kind : EventKind) : Value := .int (log.ofKind kind).length

def summary (log : RunLog) : Value :=
  .object [("session_start", .text log.start.text), ("seed", log.seed),
    ("total_events", .int log.events.size), ("rolls", log.count .roll),
    ("table_lookups", log.count .tableLookup), ("expansions", log.count .expansion),
    ("consumption_events", log.count .consumption)]

def toValue (log : RunLog) : Value :=
  .object [("session_start", .text log.start.text), ("seed", log.seed),
    ("events", .list (log.events.toList.map Event.toValue))]

/-- The last `limit` items of a list; zero keeps all, and a negative limit drops so many from the
front. -/
def lastItems {α : Type} (limit : Int) (xs : List α) : List α :=
  if 0 < limit then xs.drop (xs.length - limit.toNat) else xs.drop (-limit).toNat

def format (log : RunLog) (kind : Option EventKind) (limit : Option Int) : Except Fault String := do
  let events ← log.select kind (.int 0)
  let events := match limit with
    | some limit => lastItems limit events
    | none => events
  return "\n".intercalate (← events.mapM Event.text)

end RunLog

end TaleLoom
