import TaleLoom.Timestamp
import TaleLoom.Value.Access
/-!
Events of a run: dice rolls, table lookups, expansions of placeholders, changes of what has been
consumed, and events of the host's own. Events that come from a saved log keep the values they were
saved with, whatever their kind; `Event.toValue` and `Event.ofValue` are the two directions.
-/

namespace TaleLoom

/-- The kinds of events. -/
inductive EventKind where
  | roll
  | tableLookup
  | expansion
  | consumption
  | custom
  deriving DecidableEq, Repr

namespace EventKind

def name : EventKind → String
  | roll => "roll"
  | tableLookup => "table_lookup"
  | expansion => "expansion"
  | consumption => "consumption"
  | custom => "custom"

def all : List EventKind := [roll, tableLookup, expansion, consumption, custom]

def ofValue (v : Value) : Except Fault EventKind :=
  match all.find? fun kind => v.same (.text kind.name) with
  | some kind => .ok kind
  | none => .error (.notListed v "EventType")

end EventKind

/-- What happened. -/
inductive EventDetail where
  | roll (formula faces modifier total reason : Value)
  | tableLookup (table total text difficulty : Value)
  | expansion (token replacement depth : Value)
  | consumption (table story action entry : Value)
  | custom

namespace EventDetail

def kind : EventDetail → EventKind
  | roll .. => .roll
  | tableLookup .. => .tableLookup
  | expansion .. => .expansion
  | consumption .. => .consumption
  | custom => .custom

/-- The fields that tell what happened. -/
def toFields : EventDetail → List (String × Value)
  | roll formula faces modifier total reason =>
    [("notation", formula), ("rolls", faces), ("modifier", modifier), ("total", total),
      ("reason", reason)]
  | tableLookup table total text difficulty =>
    [("table_name", table), ("roll_total", total), ("result_text", text), ("dc", difficulty)]
  | expansion token replacement depth =>
    [("token", token), ("replacement", replacement), ("depth", depth)]
  | consumption table story action entry =>
    [("table_name", table), ("story_id", story), ("action", action), ("entry", entry)]
  | custom => []

/-- What happened, from the fields that tell it. -/
def ofFields (kind : EventKind) (fields : List (String × Value)) : EventDetail :=
  let get := Value.fieldOr fields
  match kind with
  | .roll =>
    roll (get "notation" (.text "")) (get "rolls" (.list [])) (get "modifier" (.int 0))
      (get "total" (.int 0)) (get "reason" (.text ""))
  | .tableLookup =>
    tableLookup (get "table_name" (.text "")) (get "roll_total" (.int 0))
      (get "result_text" (.text "")) (get "dc" .null)
  | .expansion =>
    expansion (get "token" (.text "")) (get "replacement" (.text "")) (get "depth" (.int 0))
  | .consumption =>
    consumption (get "table_name" (.text "")) (get "story_id" (.text "")) (get "action" (.text ""))
      (get "entry" .null)
  | .custom => custom

end EventDetail

/-- An event with its place in the run. -/
structure Event where
  timestamp : Timestamp
  sequence : Value
  context : Value
  detail : EventDetail

namespace Event

def kind (e : Event) : EventKind := e.detail.kind

def toValue (e : Event) : Value :=
  .object ([("event_type", .text e.kind.name), ("timestamp", .text e.timestamp.text),
    ("sequence_number", e.sequence), ("context", e.context)] ++ e.detail.toFields)

/-- The point in time that a value stands for. -/
def readTimestamp : Value → Except Fault Timestamp
  | .text s =>
    match Timestamp.read? s with
    | some t => .ok t
    | none => .error .timestamp
  | _ => .error .wrongKind

/-- The event of a kind that a value describes. -/
def ofValueAs (kind : EventKind) (v : Value) : Except Fault Event := do
  let timestamp ← readTimestamp (← v.require "timestamp")
  let fields ← v.fields
  return { timestamp, sequence := Value.fieldOr fields "sequence_number" (.int 0)
           context := Value.fieldOr fields "context" (.object [])
           detail := EventDetail.ofFields kind fields }

/-- The event that a value describes, of the kind it names. -/
def ofValue (v : Value) : Except Fault Event := do
  ofValueAs (← EventKind.ofValue (← v.require "event_type")) v

/-- The event as a line of text; an event of the host's own shows its context. -/
def text (e : Event) : Except Fault String := do
  let lead := "[" ++ (← e.sequence.writable) ++ "] "
  match e.detail with
  | .roll formula faces modifier total reason =>
    let shift ←
      if ← modifier.greater (.int 0) then pure (" + " ++ (← modifier.writable))
      else if ← (Value.int 0).greater modifier then pure (" - " ++ (← modifier.absolute.writable))
      else pure ""
    return lead ++ "ROLL " ++ (← formula.writable) ++ ": " ++ (← faces.writable) ++ shift ++ " = " ++
      (← total.writable) ++ " (" ++ (← reason.writable) ++ ")"
  | .tableLookup table total text difficulty =>
    let against ← match difficulty with
      | .null => pure ""
      | v => pure (" vs DC " ++ (← v.writable))
    return lead ++ "TABLE " ++ (← table.writable) ++ " [" ++ (← total.writable) ++ against ++
      "]: " ++ (← text.writable)
  | .expansion token replacement depth =>
    return lead ++ "EXPAND " ++ (← token.writable) ++ " -> " ++ replacement.shown ++ " (depth " ++
      (← depth.writable) ++ ")"
  | .consumption table story action entry =>
    let what ← match entry with
      | .null => pure ""
      | v => pure (": " ++ (← v.writable))
    return lead ++ "CONSUME " ++ (← table.writable) ++ "/" ++ (← story.writable) ++ " " ++
      (← action.writable) ++ what
  | .custom => return lead ++ "CUSTOM " ++ (← e.context.writable)

end Event

/-- What every event has, without what happened. On its own it keeps the kind that it was saved with,
whichever one that is. -/
structure BareEvent where
  kind : EventKind
  timestamp : Timestamp
  sequence : Value
  context : Value

namespace BareEvent

def toValue (e : BareEvent) : Value :=
  .object [("event_type", .text e.kind.name), ("timestamp", .text e.timestamp.text),
    ("sequence_number", e.sequence), ("context", e.context)]

def ofValue (v : Value) : Except Fault BareEvent := do
  let kind ← EventKind.ofValue (← v.require "event_type")
  let timestamp ← Event.readTimestamp (← v.require "timestamp")
  let fields ← v.fields
  return { kind, timestamp, sequence := Value.fieldOr fields "sequence_number" (.int 0)
           context := Value.fieldOr fields "context" (.object []) }

end BareEvent

end TaleLoom
