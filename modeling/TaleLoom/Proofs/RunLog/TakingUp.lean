import TaleLoom.Proofs.Act
import TaleLoom.RunLog.Archive
/-!
The steps of taking up a document. An event is put in, and then the counter is compared with its number
(`run_takeUp_ok`, `run_takeUp_error`). A document that is an object and tells a start, or none, begins the log
anew, and then its events decide (`run_restore_start`).
-/

namespace TaleLoom.RunLog

def holding (log : RunLog) (events : List Event) (counter : Value) : RunLog :=
  { log with events := log.events ++ events, counter }

def savedStart (now : Timestamp) (fields : List (String × Value)) : Except Fault Timestamp :=
  if (Value.fieldOr fields "session_start" .null).truthy then
    Event.readTimestamp (Value.fieldOr fields "session_start" .null)
  else .ok now

def begun (log : RunLog) (start : Timestamp) (fields : List (String × Value)) : RunLog :=
  { log.restart start with seed := Value.fieldOr fields "seed" .null }

section Events

variable {log : RunLog} {v : Value} {rest : List Value} {e : Event} {fault : Fault}

theorem holding_nil (log : RunLog) : log.holding [] log.counter = log := by simp [holding]

theorem holding_cons (log : RunLog) (e : Event) (counter : Value) (events : List Event) (last : Value) :
    (log.holding [e] counter).holding events last = log.holding (e :: events) last := by
  simp [holding]

theorem run_takeUp_error (h : e.sequence.greater log.counter = .error fault) :
    takeUp e log = .error fault (log.holding [e] log.counter) := by
  simp [takeUp, holding, h]

theorem run_takeUp_ok {above : Bool} (h : e.sequence.greater log.counter = .ok above) :
    takeUp e log = .ok () (log.holding [e] (if above then e.sequence else log.counter)) := by
  cases above <;> simp [takeUp, holding, h]

theorem run_takeUpAll_cons (reads : Event.ofValue v = .ok e) :
    takeUpAll (v :: rest) log = (takeUp e >>= fun _ => takeUpAll rest) log := by
  rw [takeUpAll, reads]
  rfl

/-- A value that is no event leaves the log as it is. -/
theorem run_takeUpAll_refused (refuses : Event.ofValue v = .error fault) :
    takeUpAll (v :: rest) log = .error fault log := by
  rw [takeUpAll, refuses]
  rfl

end Events

section Documents

variable {now start : Timestamp} {document : Value} {fields : List (String × Value)} {log : RunLog}
  {fault : Fault}

theorem run_restore_noStart (object : document.fields = .ok fields)
    (h : savedStart now fields = .error fault) :
    restore now document log = .error fault (log.begun now fields) := by
  unfold savedStart at h
  split at h
  · next htruthy => simp [restore, begun, object, htruthy, h]
  · cases h

theorem run_restore_start (object : document.fields = .ok fields) (h : savedStart now fields = .ok start) :
    restore now document log =
      (do takeUpAll (← (Value.fieldOr fields "events" (.list [])).elements) : Act RunLog Unit)
        (log.begun start fields) := by
  unfold savedStart at h
  split at h
  · next htruthy => simp [restore, begun, restart, object, htruthy, h]
  · next htruthy =>
    obtain rfl := Except.ok.inj h
    simp [restore, begun, object, htruthy]

end Documents

end TaleLoom.RunLog
