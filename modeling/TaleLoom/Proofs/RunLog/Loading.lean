import TaleLoom.Proofs.RunLog.Numbering
import TaleLoom.Proofs.Value.Order
/-!
What a load that fails leaves of a log. A file that cannot be read as a document costs nothing. Where the
document can be read, the load fails over the first of its faults (`RunLog.faults`), and the log holds what
the document tells up to there (`RunLog.leftBy`): its seed, its start and its first events. What the log told
before is gone then (`Desk.failed_load_exact`).
-/

namespace TaleLoom.RunLog

section Telling

def refusal? (v : Value) : Option Fault :=
  match Event.ofValue v with
  | .error fault => some fault
  | .ok e => if e.sequence.isNumber then none else some .wrongKind

def leading (values : List Value) : List Event :=
  let sound (v : Value) := (refusal? v).isNone
  (values.takeWhile sound ++ (values.dropWhile sound).take 1).filterMap fun v => (Event.ofValue v).toOption

def startFault? (fields : List (String × Value)) : Option Fault :=
  match Value.ifTruthy Event.readTimestamp (Value.fieldOr fields "session_start" .null) with
  | .error fault => some fault
  | .ok _ => none

/-- The faults of a document in their order. -/
def faults : Value → List Fault
  | .object fields => (startFault? fields).toList ++
    match (Value.fieldOr fields "events" (.list [])).elements with
    | .error fault => [fault]
    | .ok values => values.filterMap refusal?
  | _ => [.missingPart]

def toldEvents : Value → List Event
  | .object fields =>
    match startFault? fields, (Value.fieldOr fields "events" (.list [])).elements with
    | none, .ok values => leading values
    | _, _ => []
  | _ => []

def pointIn? : Value → Option Timestamp
  | .text s => Timestamp.read? s
  | _ => none

def toldStart? : Value → Option Timestamp
  | .object fields => pointIn? (Value.fieldOr fields "session_start" .null)
  | _ => none

def highest (top : Value) (events : List Event) : Value :=
  events.foldl (fun top e => if e.sequence.isAbove top then e.sequence else top) top

/-- The log with what a document tells up to its first fault in place of what it told itself. A document
that is no object tells no seed. -/
def leftBy (now : Timestamp) (document : Value) (log : RunLog) : RunLog :=
  { log with
    events := (toldEvents document).toArray
    counter := highest (.int 0) (toldEvents document)
    seed := match document with
      | .object fields => Value.fieldOr fields "seed" .null
      | _ => log.seed
    start := (toldStart? document).getD now }

end Telling

/-- The logs tell the same: their events, their counter, their seed and their start. -/
structure SameRecord (log other : RunLog) : Prop where
  events : log.events = other.events
  counter : log.counter = other.counter
  seed : log.seed = other.seed
  start : log.start = other.start

section Highest

variable {top : Value} {events : List Event} {e : Event}

theorem highest_cons (top : Value) (e : Event) (events : List Event) :
    highest top (e :: events) = highest (if e.sequence.isAbove top then e.sequence else top) events := rfl

theorem highest_eq_or_mem (top : Value) (events : List Event) :
    highest top events = top ∨ ∃ e ∈ events, highest top events = e.sequence := by
  induction events generalizing top with
  | nil => exact .inl rfl
  | cons e rest ih =>
    rw [highest_cons]
    rcases ih (if e.sequence.isAbove top then e.sequence else top) with h | ⟨other, hmem, h⟩
    · rw [h]
      split
      · exact .inr ⟨e, List.mem_cons_self, rfl⟩
      · exact .inl rfl
    · exact .inr ⟨other, List.mem_cons_of_mem e hmem, h⟩

theorem not_isAbove_highest {v : Value} (h : v.isAbove top = false) (events : List Event) :
    v.isAbove (highest top events) = false := by
  induction events generalizing top with
  | nil => exact h
  | cons e rest ih =>
    rw [highest_cons]
    apply ih
    split
    · next habove => exact Value.not_isAbove_trans habove h
    · exact h

/-- No event has a greater number. -/
theorem not_isAbove_highest_of_mem (he : e ∈ events) : e.sequence.isAbove (highest top events) = false := by
  induction events generalizing top with
  | nil => cases he
  | cons other rest ih =>
    rw [highest_cons]
    rcases List.mem_cons.1 he with rfl | hmem
    · apply not_isAbove_highest
      split
      · exact Value.not_isAbove_self _
      · next habove => exact Bool.eq_false_iff.2 habove
    · exact ih hmem

end Highest

section TakingUp

variable {log : RunLog} {v : Value} {values rest : List Value} {e : Event} {fault : Fault}

theorem refusal?_refused (h : Event.ofValue v = .error fault) : refusal? v = some fault := by
  rw [refusal?, h]

theorem refusal?_event (h : Event.ofValue v = .ok e) :
    refusal? v = if e.sequence.isNumber then none else some .wrongKind := by
  rw [refusal?, h]

theorem leading_refused (h : Event.ofValue v = .error fault) (rest : List Value) :
    leading (v :: rest) = [] := by
  simp [leading, refusal?_refused h, h, Except.toOption]

theorem leading_event (h : Event.ofValue v = .ok e) (rest : List Value) :
    leading (v :: rest) = e :: if e.sequence.isNumber then leading rest else [] := by
  cases hnumber : e.sequence.isNumber <;>
    simp [leading, refusal?_event h, h, hnumber, Except.toOption]

/-- The end of a step that fails over a fault where there is one. -/
def ending (fault : Option Fault) (left : RunLog) : EStateM.Result Fault RunLog Unit :=
  match fault with
  | some fault => .error fault left
  | none => .ok () left

/-- Taking up some values fails over the first fault among them, and the events up to it are in. -/
theorem run_takeUpAll_eq (hcounter : log.counter.isNumber = true) : takeUpAll values log =
    ending (values.findSome? refusal?)
      (log.holding (leading values) (highest log.counter (leading values))) := by
  induction values generalizing log with
  | nil => exact congrArg _ (holding_nil log).symm
  | cons v rest ih =>
    rw [List.findSome?_cons]
    cases hread : Event.ofValue v with
    | error fault =>
      rw [run_takeUpAll_refused hread, leading_refused hread, refusal?_refused hread]
      exact congrArg _ (holding_nil log).symm
    | ok e =>
      rw [run_takeUpAll_cons hread, Act.run_bind, leading_event hread, refusal?_event hread,
        highest_cons]
      have hgreater := Value.greater_eq e.sequence log.counter
      rw [hcounter, Bool.and_true] at hgreater
      cases hnumber : e.sequence.isNumber with
      | false =>
        rw [hnumber, if_neg Bool.false_ne_true] at hgreater
        rw [run_takeUp_error hgreater, Value.not_isAbove_of_isNumber hnumber]
        rfl
      | true =>
        rw [hnumber, if_pos rfl] at hgreater
        have hnext : (log.holding [e]
            (if e.sequence.isAbove log.counter then e.sequence else log.counter)).counter.isNumber = true := by
          change (if e.sequence.isAbove log.counter then e.sequence else log.counter).isNumber = true
          split
          · exact hnumber
          · exact hcounter
        rw [run_takeUp_ok hgreater, if_pos rfl, if_pos rfl]
        exact (ih hnext).trans (by rw [holding_cons]; rfl)

end TakingUp

section Restoring

variable {now : Timestamp} {v : Value} {fields : List (String × Value)} {fault : Fault}

theorem savedStart_eq (now : Timestamp) (fields : List (String × Value)) : savedStart now fields =
    (Value.ifTruthy Event.readTimestamp (Value.fieldOr fields "session_start" .null)).map (·.getD now) := by
  unfold savedStart Value.ifTruthy
  split
  · cases Event.readTimestamp (Value.fieldOr fields "session_start" .null) <;> rfl
  · rfl

/-- A value tells a point in time where it is read as one. -/
theorem pointIn?_eq (v : Value) :
    pointIn? v = ((Value.ifTruthy Event.readTimestamp v).toOption.getD none) := by
  unfold Value.ifTruthy
  cases v with
  | text s =>
    cases hs : Timestamp.read? s with
    | some start =>
      have htruthy : (Value.text s).truthy = true := by
        rw [Value.truthy_text_iff]
        rintro rfl
        cases hs
      rw [if_pos htruthy, Event.readTimestamp, hs]
      exact hs
    | none =>
      rw [Event.readTimestamp, hs]
      split <;> exact hs
  | _ => split <;> rfl

theorem savedStart_of_startFault? (now : Timestamp) (h : startFault? fields = some fault) :
    savedStart now fields = .error fault ∧ toldStart? (.object fields) = none := by
  unfold startFault? at h
  split at h
  · next refusal hread =>
    obtain rfl := Option.some.inj h
    rw [savedStart_eq, toldStart?, pointIn?_eq, hread]
    exact ⟨rfl, rfl⟩
  · cases h

/-- A start that is no fault is the one that is told, or there is none. -/
theorem savedStart_of_no_fault (h : startFault? fields = none) :
    savedStart now fields = .ok ((toldStart? (.object fields)).getD now) := by
  unfold startFault? at h
  split at h
  · cases h
  · next told hread =>
    rw [savedStart_eq, toldStart?, pointIn?_eq, hread]
    rfl

/-- Taking up a document fails over its first fault, if it has one, and leaves what it told up to there. -/
theorem run_restore_eq (now : Timestamp) (document : Value) (log : RunLog) :
    restore now document log = ending (faults document).head? (log.leftBy now document) := by
  cases document with
  | object fields =>
    cases hfault : startFault? fields with
    | some fault =>
      obtain ⟨hsaved, htold⟩ := savedStart_of_startFault? now hfault
      rw [run_restore_noStart rfl hsaved]
      simp [faults, leftBy, toldEvents, hfault, htold, ending, begun, restart, highest]
    | none =>
      rw [run_restore_start rfl (savedStart_of_no_fault hfault)]
      cases hlist : (Value.fieldOr fields "events" (.list [])).elements with
      | error refusal =>
        simp [faults, leftBy, toldEvents, hfault, hlist, ending, begun, restart, highest]
      | ok values =>
        change takeUpAll values _ = _
        rw [run_takeUpAll_eq rfl]
        simp [faults, leftBy, toldEvents, hfault, hlist, holding, begun, restart, List.head?_filterMap]
  | _ => rfl

/-- Taking up a document changes nothing but what the log tells. -/
theorem eq_of_sameRecord_leftBy {document : Value} {log : RunLog}
    (h : (log.leftBy now document).SameRecord log) : log.leftBy now document = log := by
  obtain ⟨hevents, hcounter, hseed, hstart⟩ := h
  cases log
  simp_all [leftBy]

end Restoring

end TaleLoom.RunLog

namespace TaleLoom.Desk

open RunLog

section Loading

variable {file : Path} {desk after : Desk} {fault : Fault}

/-- Reading a document changes nothing. -/
theorem keeps_readDocument (file : Path) : (readDocument file).Keeps (Frame.fixing id) := by
  have htext : (readText file).Keeps (Frame.fixing id) := Act.Keeps.get.bind fun _ => Act.Keeps.ofExcept _
  refine htext.bind fun text => Act.Keeps.get.bind fun desk => ?_
  split
  · exact Act.Keeps.pure _
  · exact Act.Keeps.throw _
  · exact Act.Keeps.throw _
  · exact Act.Keeps.throw _

theorem run_loadLog_error_iff : loadLog file desk = .error fault after ↔
    (readDocument file desk = .error fault desk ∧ after = desk) ∨
    ∃ document, readDocument file desk = .ok document desk ∧ (faults document).head? = some fault ∧
      after = { desk with log := desk.log.leftBy desk.clock.moment document } := by
  rw [loadLog, Act.run_bind]
  cases hread : readDocument file desk with
  | error refusal desk' =>
    obtain rfl : desk' = desk := (keeps_readDocument file).of_error hread
    constructor
    · rintro ⟨⟩
      exact .inl ⟨rfl, rfl⟩
    · rintro (⟨⟨⟩, rfl⟩ | ⟨document, ⟨⟩, -⟩)
      rfl
  | ok document desk' =>
    obtain rfl : desk' = desk := (keeps_readDocument file).of_ok hread
    simp only [Act.run_bind, Act.run_get, onLog, Act.run_within, run_restore_eq]
    cases hfaults : (faults document).head? with
    | none =>
      constructor
      · rintro ⟨⟩
      · rintro (⟨⟨⟩, -⟩ | ⟨document', ⟨⟩, hfault, -⟩)
        rw [hfaults] at hfault
        cases hfault
    | some first =>
      constructor
      · rintro ⟨⟩
        exact .inr ⟨document, rfl, hfaults, rfl⟩
      · rintro (⟨⟨⟩, -⟩ | ⟨document', ⟨⟩, hfault, rfl⟩)
        rw [hfaults] at hfault
        obtain rfl := Option.some.inj hfault
        rfl

/-- When loading a log fails, and what it leaves, for every file and desk. It fails where the file cannot be
read as a document, and then nothing has changed; or the document has a fault, the first of which is reported,
and then the log holds what the document tells up to there, and all else on the desk is as it was. The counter
is then the greatest of zero and the numbers of these events. So the events, the counter, the seed and the
start of the log are still there exactly where the file could not be read as a document, or where the document
tells, up to its fault, the very log that was there. -/
theorem failed_load_exact (file : Path) (desk after : Desk) (fault : Fault) :
    (loadLog file desk = .error fault after ↔
      (readDocument file desk = .error fault desk ∧ after = desk) ∨
      ∃ document, readDocument file desk = .ok document desk ∧ (faults document).head? = some fault ∧
        after = { desk with log := desk.log.leftBy desk.clock.moment document }) ∧
    (∀ document, readDocument file desk = .ok document desk → loadLog file desk = .error fault after →
      (after.log.counter = .int 0 ∨ ∃ e ∈ after.log.events.toList, after.log.counter = e.sequence) ∧
        (Value.int 0).isAbove after.log.counter = false ∧
        ∀ e ∈ after.log.events.toList, e.sequence.isAbove after.log.counter = false) ∧
    (loadLog file desk = .error fault after →
      (after.log.SameRecord desk.log ↔ readDocument file desk = .error fault desk ∨
        ∃ document, readDocument file desk = .ok document desk ∧
          desk.log.leftBy desk.clock.moment document = desk.log)) := by
  refine ⟨run_loadLog_error_iff, fun document hread hload => ?_, fun hload => ?_⟩
  · rcases run_loadLog_error_iff.1 hload with ⟨hrefused, -⟩ | ⟨document', -, -, rfl⟩
    · cases hread.symm.trans hrefused
    · exact ⟨highest_eq_or_mem (.int 0) (toldEvents document'),
        not_isAbove_highest (Value.not_isAbove_self _) _, fun e => not_isAbove_highest_of_mem⟩
  · rcases run_loadLog_error_iff.1 hload with ⟨hread, rfl⟩ | ⟨document, hread, -, rfl⟩
    · exact iff_of_true ⟨rfl, rfl, rfl, rfl⟩ (.inl hread)
    · constructor
      · intro hsame
        exact .inr ⟨document, hread, eq_of_sameRecord_leftBy hsame⟩
      · rintro (hrefused | ⟨document', hread', hleft⟩)
        · cases hread.symm.trans hrefused
        · cases hread.symm.trans hread'
          exact ⟨congrArg _ hleft, congrArg _ hleft, congrArg _ hleft, congrArg _ hleft⟩

end Loading

section Wreck

def wreckFields : List (String × Value) := [("events", .list [.object [("event_type", .text "storm")]])]

def wreckFile : Path := ⟨"", ["wreck.json"]⟩

def wreckDesk : Desk :=
  let desk := (postOwn (.text "dusk") []).after (.start Logged.nightClock)
  { desk with
    log := { desk.log with seed := .int 7 }
    files := { files := [(wreckFile.steps, .text (Value.object wreckFields).write)] } }

theorem readDocument_wreckDesk :
    readDocument wreckFile wreckDesk = .ok (.object wreckFields) wreckDesk := by
  have hkind : (Value.object [("event_type", .text "storm")]).ReadsBack :=
    Value.readsBack_object (by decide) (by simp [Value.readsBack_text])
  have hback : (Value.object wreckFields).ReadsBack := by
    apply Value.readsBack_object (by decide)
    simp only [wreckFields, List.forall_mem_cons, List.not_mem_nil, false_implies, implies_true, and_true]
    apply Value.readsBack_list
    simpa using hkind
  have hfile : wreckDesk.files.read wreckFile = .ok (Value.object wreckFields).write := rfl
  have hdocument : Value.read wreckDesk.room (Value.object wreckFields).write =
      .ok (.object wreckFields) := Value.read_write hback (by decide)
  simp [readDocument, readText, hfile, hdocument]

/-- Loading the faulty log fails over its event, and the event and the seed that the log had are gone. -/
theorem record_lost_in_wreck : ∃ after,
    loadLog wreckFile wreckDesk = .error (.notListed (.text "storm") "EventType") after ∧
    wreckDesk.log.events.size = 1 ∧ wreckDesk.log.seed = .int 7 ∧
    after.log.events = #[] ∧ after.log.seed = .null := by
  have hevent : Event.ofValue (.object [("event_type", .text "storm")]) =
      .error (.notListed (.text "storm") "EventType") := rfl
  have hstart : startFault? wreckFields = none := rfl
  have hlist : (Value.fieldOr wreckFields "events" (.list [])).elements =
      .ok [.object [("event_type", .text "storm")]] := rfl
  have hfault : (faults (.object wreckFields)).head? = some (.notListed (.text "storm") "EventType") := by
    simp [faults, hstart, hlist, refusal?_refused hevent]
  have htold : toldEvents (.object wreckFields) = [] := by
    simp [toldEvents, hstart, hlist, leading_refused hevent]
  refine ⟨_, run_loadLog_error_iff.2 (.inr ⟨_, readDocument_wreckDesk, hfault, rfl⟩), rfl, rfl, ?_, rfl⟩
  change (toldEvents (.object wreckFields)).toArray = #[]
  rw [htold]

end Wreck

end TaleLoom.Desk
