import TaleLoom.Proofs.Documents
import TaleLoom.Proofs.RunLog.TakingUp
import TaleLoom.Proofs.Value.Whole
/-!
The numbers of events. However a log has come about, by posting, pausing, starting anew, saving and loading
what was saved (`Logged`), its events are numbered from one on without a gap, and the next one goes on
from the last (`RunLog.Sound`). So a log that was saved is the one that is loaded.
-/

namespace TaleLoom

inductive NumberedFrom : Nat → List Event → Prop
  | nil (first : Nat) : NumberedFrom first []
  | cons {first : Nat} {e : Event} {rest : List Event} (here : e.sequence = .int first)
      (others : NumberedFrom (first + 1) rest) : NumberedFrom first (e :: rest)

def Event.isAfter (k : Nat) (e : Event) : Bool :=
  match e.sequence with
  | .int n => (k : Int) < n
  | _ => false

namespace NumberedFrom

variable {first : Nat} {events : List Event} {e : Event}

theorem concat (h : NumberedFrom first events)
    (he : e.sequence = .int (first + events.length : Nat)) : NumberedFrom first (events ++ [e]) := by
  induction h with
  | nil first => exact cons he (nil _)
  | @cons first other rest here others ih =>
    refine cons here (ih ?_)
    rw [he, List.length_cons]
    congr 2
    omega

theorem sequence_getElem (h : NumberedFrom first events) (i : Nat) (hi : i < events.length) :
    events[i].sequence = .int (first + i : Nat) := by
  induction h generalizing i with
  | nil first => cases hi
  | @cons first other rest here others ih =>
    cases i with
    | zero => exact here
    | succ i =>
      rw [List.getElem_cons_succ, ih i (Nat.lt_of_succ_lt_succ hi)]
      congr 2
      omega

theorem greater_int (m n : Int) : (Value.int m).greater (.int n) = .ok (decide (n < m)) := by
  have horder : (some (compare m n) == some Ordering.gt) = decide (n < m) := by
    rw [Bool.eq_iff_iff, beq_iff_eq, Option.some.injEq, Int.compare_eq_gt, decide_eq_true_iff]
  rw [← horder]
  rfl

/-- Every event has a number, so asking for those after one never fails. -/
theorem filterM_greater (h : NumberedFrom first events) (k : Nat) :
    events.filterM (fun e => e.sequence.greater (.int k)) = .ok (events.filter (Event.isAfter k)) := by
  apply filterM_eq_ok
  intro e he
  obtain ⟨i, hi, rfl⟩ := List.getElem_of_mem he
  rw [Event.isAfter, h.sequence_getElem i hi, greater_int]

/-- The events after a number are those behind as many as come up to it. -/
theorem filter_isAfter (h : NumberedFrom first events) (k : Nat) :
    events.filter (Event.isAfter k) = events.drop (k + 1 - first) := by
  induction h with
  | nil first => simp
  | @cons first e rest here others ih =>
    have hafter : e.isAfter k = decide ((k : Int) < first) := by rw [Event.isAfter, here]
    by_cases hk : k < first
    · have hall : k + 1 - (first + 1) = 0 := by omega
      rw [hall, List.drop_zero] at ih
      rw [List.filter_cons_of_pos (by simpa [hafter] using hk), ih,
        show k + 1 - first = 0 by omega, List.drop_zero]
    · rw [List.filter_cons_of_neg (by simpa [hafter] using hk), ih,
        show k + 1 - first = k + 1 - (first + 1) + 1 by omega, List.drop_succ_cons]

end NumberedFrom

namespace RunLog

/-- The log counts its events, and all its points in time can be written. -/
structure Sound (log : RunLog) : Prop where
  numbered : NumberedFrom 1 log.events.toList
  counter : log.counter = .int log.events.size
  moments : ∀ e ∈ log.events.toList, e.timestamp.isValid = true
  start : log.start.isValid = true

section Steps

variable {log : RunLog} {e : Event} {moment : Timestamp}

theorem sound_restart (h : moment.isValid = true) (log : RunLog) : (log.restart moment).Sound where
  numbered := NumberedFrom.nil 1
  counter := rfl
  moments := by
    intro e he
    cases he
  start := h

theorem post_of_paused (h : log.paused = true) (e : Event) : log.post e = (log, e, []) := by
  rw [post, if_pos h]

/-- An event that is kept gets the number after the last one. -/
theorem events_post (h : log.Sound) (hpaused : log.paused = false) (e : Event) :
    (log.post e).1.events = log.events.push { e with sequence := .int (log.events.size + 1 : Nat) } ∧
      (log.post e).1.counter = .int (log.events.size + 1 : Nat) ∧
      (log.post e).2.1 = { e with sequence := .int (log.events.size + 1 : Nat) } := by
  simp [post, hpaused, h.counter, Value.successor]

theorem sound_post (h : log.Sound) (he : e.timestamp.isValid = true) : (log.post e).1.Sound := by
  cases hpaused : log.paused with
  | true =>
    rw [post_of_paused hpaused]
    exact h
  | false =>
    obtain ⟨hevents, hcounter, -⟩ := events_post h hpaused e
    constructor
    · rw [hevents, Array.toList_push]
      apply h.numbered.concat
      rw [Array.length_toList, Nat.add_comm]
    · rw [hcounter, hevents, Array.size_push]
    · intro other hother
      rw [hevents, Array.toList_push] at hother
      rcases List.mem_append.1 hother with hmem | hmem
      · exact h.moments other hmem
      · obtain rfl := List.mem_singleton.1 hmem
        exact he
    · rw [post, hpaused]
      exact h.start

def extended (log : RunLog) (events : List Event) : RunLog :=
  { log with
    events := log.events ++ events
    counter := .int (log.events.size + events.length : Nat) }

theorem extended_nil (h : log.counter = .int log.events.size) : log.extended [] = log := by
  simp [extended, ← h]

theorem extended_cons (log : RunLog) (e : Event) (rest : List Event) :
    (log.extended [e]).extended rest = log.extended (e :: rest) := by
  have hsize : log.events.size + 1 + rest.length = log.events.size + (rest.length + 1) := by omega
  simp [extended, hsize]

/-- An event with the next number is put in, and its number becomes the counter. -/
theorem run_takeUp (hcounter : log.counter = .int log.events.size)
    (he : e.sequence = .int (log.events.size + 1 : Nat)) :
    takeUp e log = .ok () (log.extended [e]) := by
  have hgreater : e.sequence.greater log.counter = .ok true := by
    rw [he, hcounter, NumberedFrom.greater_int, decide_eq_true (by omega)]
  rw [run_takeUp_ok hgreater, if_pos rfl, he]
  rfl

/-- Events that go on with the numbers of a log are put in as they are. -/
theorem run_takeUpAll {events : List Event} (hcounter : log.counter = .int log.events.size)
    (hevents : NumberedFrom (log.events.size + 1) events) (hmoments : ∀ e ∈ events, e.timestamp.isValid = true) :
    takeUpAll (events.map Event.toValue) log = .ok () (log.extended events) := by
  induction events generalizing log with
  | nil =>
    rw [extended_nil hcounter]
    rfl
  | cons e rest ih =>
    cases hevents with
    | cons here others =>
      have htime : Event.readTimestamp (.text e.timestamp.text) = .ok e.timestamp := by
        rw [Event.readTimestamp, Timestamp.read?_text_of_isValid (hmoments e List.mem_cons_self)]
      have hrest : takeUpAll (rest.map Event.toValue) (log.extended [e]) =
          .ok () ((log.extended [e]).extended rest) := by
        apply ih
        · simp [extended]
        · simpa [extended] using others
        · intro e he
          exact hmoments e (List.mem_cons_of_mem _ he)
      rw [List.map_cons, run_takeUpAll_cons (Event.ofValue_toValue htime), Act.run_bind,
        run_takeUp hcounter here, ← extended_cons log e rest]
      exact hrest

def takenFrom (log saved : RunLog) : RunLog :=
  { log with events := saved.events, counter := saved.counter, seed := saved.seed, start := saved.start }

/-- The document of a log gives back all that it tells of. -/
theorem run_restore {saved : RunLog} (h : saved.Sound) (moment : Timestamp) (log : RunLog) :
    restore moment saved.toValue log = .ok () (log.takenFrom saved) := by
  have hread := Timestamp.read?_text_of_isValid h.start
  have htime : Event.readTimestamp (.text saved.start.text) = .ok saved.start := by
    rw [Event.readTimestamp, hread]
  have htruthy : (Value.text saved.start.text).truthy = true := by
    rw [Value.truthy_text_iff]
    intro hempty
    rw [hempty] at hread
    cases hread
  let fields : List (String × Value) := [("session_start", .text saved.start.text), ("seed", saved.seed),
    ("events", .list (saved.events.toList.map Event.toValue))]
  have hobject : saved.toValue.fields = .ok fields := rfl
  have hstart : savedStart moment fields = .ok saved.start := by
    rw [← htime]
    exact if_pos htruthy
  rw [run_restore_start hobject hstart]
  calc takeUpAll (saved.events.toList.map Event.toValue) (log.begun saved.start fields)
      = .ok () ((log.begun saved.start fields).extended saved.events.toList) :=
        run_takeUpAll rfl h.numbered h.moments
    _ = .ok () (log.takenFrom saved) := by
        simp [fields, begun, extended, restart, takenFrom, h.counter, Value.fieldOr, Keyed.get?]

end Steps

section Asking

variable {log : RunLog}

/-- The events after a number: all but as many as the number says. -/
theorem select_none (h : log.Sound) (k : Nat) :
    log.select none (.int k) = .ok (log.events.toList.drop k) := by
  rw [select, eventsSince, h.numbered.filterM_greater, h.numbered.filter_isAfter, Nat.add_sub_cancel]
  rfl

theorem select_some (h : log.Sound) (kind : EventKind) (k : Nat) : log.select (some kind) (.int k) =
    .ok ((log.events.toList.drop k).filter (·.kind = kind)) := by
  rw [select, eventsSince, h.numbered.filterM_greater, h.numbered.filter_isAfter, Nat.add_sub_cancel]
  rfl

end Asking

end RunLog

namespace Desk

section Calls

variable {desk saved other : Desk} {file : Path}

theorem keeps_writeText (p : Path) (text : String) :
    (writeText p text).Keeps (Frame.fixing (·.log)) := by
  refine Act.Keeps.bind Act.Keeps.get fun desk => ?_
  exact Act.Keeps.bind (Act.Keeps.ofExcept _) fun files => Act.Keeps.modify fun _ => rfl

/-- Saving changes files only. -/
theorem keeps_saveLog (file : Path) : (saveLog file).Keeps (Frame.fixing (·.log)) := by
  refine Act.Keeps.bind (keeps_writeText file "") fun _ => Act.Keeps.bind Act.Keeps.get fun desk => ?_
  exact Act.Keeps.bind (Act.Keeps.ofExcept _) fun text => keeps_writeText file text

theorem keeps_room_saveLog (file : Path) : (saveLog file).Keeps (.fixing (·.room)) :=
  Act.Keeps.bind (room_lasts.writeText file "") fun _ => Act.Keeps.bind Act.Keeps.get fun _ =>
    Act.Keeps.bind (Act.Keeps.ofExcept _) fun text => room_lasts.writeText file text

/-- A log without long numbers is saved wherever a file can be written. -/
theorem run_saveLog (hfile : desk.files.isFolder file.steps = false)
    (hholders : ∀ holder ∈ FileTree.holders file.steps, desk.files.isFolder holder = true)
    (hshort : desk.log.toValue.hasLongNumber = false) : ∃ saved, saveLog file desk = .ok () saved := by
  let emptied : Desk := { desk with
    files := { desk.files with files := Keyed.set file.steps (.text "") desk.files.files } }
  have hempty : writeText file "" desk = .ok () emptied :=
    ConsumptionStore.run_writeText_ok (FileTree.write_ok hfile hholders _)
  have hfile' : emptied.files.isFolder file.steps = false := hfile
  have hholders' : ∀ holder ∈ FileTree.holders file.steps, emptied.files.isFolder holder = true :=
    hholders
  have hwrite := ConsumptionStore.run_writeText_ok
    (FileTree.write_ok hfile' hholders' (.text desk.log.toValue.write))
  have hwritten : emptied.log.written (some 2) = .ok desk.log.toValue.write := by
    rw [RunLog.written, hshort]
    rfl
  have hsave : saveLog file desk = writeText file desk.log.toValue.write emptied := by
    rw [saveLog, Act.run_bind, hempty]
    simp only [Act.run_bind, Act.run_get, hwritten, Act.run_liftExcept, Act.run_ofExcept_ok]
  exact ⟨_, hsave.trans hwrite⟩

/-- A log that was saved stands in its file, as its document. -/
theorem read_of_saveLog (h : saveLog file desk = .ok () saved) :
    saved.files.read file = .ok desk.log.toValue.write := by
  obtain ⟨done, emptied, hempty, h⟩ := Act.parts_of_bind h
  have hlog : emptied.log = desk.log := (keeps_writeText file "").of_ok hempty
  rw [Act.run_bind, Act.run_get] at h
  obtain ⟨text, after, hwritten, h⟩ := Act.parts_of_bind h
  rw [hlog, Act.run_liftExcept, RunLog.written] at hwritten
  split at hwritten
  · cases hwritten
  · rw [Act.run_ofExcept_ok] at hwritten
    obtain ⟨rfl, rfl⟩ := EStateM.Result.ok.inj hwritten
    exact (read_of_writeText h).2

/-- A file with the document of a log, if that is read back, gives the log its events, its seed and its
start. -/
theorem run_loadLog {log : RunLog} (h : log.Sound)
    (hread : Value.read desk.room log.toValue.write = .ok log.toValue)
    (hfile : desk.files.read file = .ok log.toValue.write) :
    loadLog file desk = .ok () { desk with log := desk.log.takenFrom log } := by
  have hdocument : readDocument file desk = .ok log.toValue desk := by
    simp [readDocument, readText, hfile, hread]
  simp only [loadLog, Act.run_bind, hdocument, Act.run_get, onLog, Act.run_within,
    RunLog.run_restore h]

end Calls

end Desk

/-- A desk whose log has come about by calls on it. A file that is loaded holds what was written of such a
log, and is read back as it was written; all else on the desk may change in between. -/
inductive Logged : Desk → Prop
  | start {desk : Desk} (events : desk.log.events = #[]) (counter : desk.log.counter = .int 0)
      (moment : desk.log.start.isValid = true) : Logged desk
  | post {desk : Desk} (before : Logged desk) (moment : desk.clock.moment.isValid = true) (detail : EventDetail)
      (context : Value) : Logged ((Desk.post detail context).after desk)
  | own {desk : Desk} (before : Logged desk) (moment : desk.clock.moment.isValid = true) (name : Value)
      (details : List (String × Value)) : Logged ((Desk.postOwn name details).after desk)
  | pause {desk : Desk} (before : Logged desk) : Logged (Desk.pauseLog.after desk)
  | resume {desk : Desk} (before : Logged desk) : Logged (Desk.resumeLog.after desk)
  | reset {desk : Desk} (before : Logged desk) (moment : desk.clock.moment.isValid = true) :
      Logged (Desk.resetLog.after desk)
  | save {desk : Desk} (before : Logged desk) (file : Path) : Logged ((Desk.saveLog file).after desk)
  | load {desk saved : Desk} (before : Logged desk) (source : Logged saved) (file : Path)
      (holds : desk.files.read file = .ok saved.log.toValue.write)
      (reads : Value.read desk.room saved.log.toValue.write = .ok saved.log.toValue) :
      Logged ((Desk.loadLog file).after desk)
  | elsewhere {desk other : Desk} (before : Logged desk) (events : other.log.events = desk.log.events)
      (counter : other.log.counter = desk.log.counter) (moment : other.log.start = desk.log.start) :
      Logged other

namespace Logged

theorem sound_of_parts {log other : RunLog} (h : log.Sound) (hevents : other.events = log.events)
    (hcounter : other.counter = log.counter) (hstart : other.start = log.start) : other.Sound := by
  constructor
  · rw [hevents]
    exact h.numbered
  · rw [hcounter, hevents]
    exact h.counter
  · rw [hevents]
    exact h.moments
  · rw [hstart]
    exact h.start

/-- Each call leaves a sound log behind. -/
theorem sound {desk : Desk} (h : Logged desk) : desk.log.Sound := by
  induction h with
  | start events counter moment =>
    constructor
    · rw [events]
      exact NumberedFrom.nil 1
    · rw [counter, events]
      rfl
    · rw [events]
      intro e he
      cases he
    · exact moment
  | post before moment detail context ih =>
    rw [Act.after_of_ok (Desk.run_post detail context _)]
    exact RunLog.sound_post ih moment
  | own before moment name details ih =>
    rw [Desk.postOwn, Act.after_of_ok (Desk.run_post _ _ _)]
    exact RunLog.sound_post ih moment
  | pause before ih => exact sound_of_parts ih rfl rfl rfl
  | resume before ih => exact sound_of_parts ih rfl rfl rfl
  | reset before moment ih => exact RunLog.sound_restart moment _
  | @save desk before file ih =>
    have hlog : ((Desk.saveLog file).after desk).log = desk.log := Desk.keeps_saveLog file desk
    rw [hlog]
    exact ih
  | load before source file holds reads ihDesk ihSaved =>
    rw [Act.after_of_ok (Desk.run_loadLog ihSaved reads holds)]
    exact sound_of_parts ihSaved rfl rfl rfl
  | elsewhere before events counter moment ih => exact sound_of_parts ih events counter moment

/-- Whatever calls a log has come about by, its events are numbered from one on without a gap. An event
that is posted while the log is not paused is kept with the next number; while it is paused nothing is
kept. Asking for the events after a number gives all but so many, and asking for those of a kind gives all
of that kind. Where what is written of the log is read back, a file that it was saved to gives its events,
its seed and its start to the log of whatever desk loads it. -/
theorem numbered_throughout {desk : Desk} (h : Logged desk) :
    (∀ i (hi : i < desk.log.events.size), desk.log.events[i].sequence = .int (i + 1 : Nat)) ∧
    (∀ detail context, ∃ e after, Desk.post detail context desk = .ok e after ∧
      (desk.log.paused = true → after.log.events = desk.log.events) ∧
      (desk.log.paused = false → e.sequence = .int (desk.log.events.size + 1 : Nat) ∧
        after.log.events = desk.log.events.push e)) ∧
    (∀ k : Nat, desk.log.select none (.int k) = .ok (desk.log.events.toList.drop k)) ∧
    (∀ kind, desk.log.select (some kind) (.int 0) = .ok (desk.log.ofKind kind)) ∧
    ∀ file saved, Desk.saveLog file desk = .ok () saved →
      ∀ other, other.files.read file = saved.files.read file →
        Value.read other.room desk.log.toValue.write = .ok desk.log.toValue →
        ∃ after, Desk.loadLog file other = .ok () after ∧ after.log.events = desk.log.events ∧
          after.log.seed = desk.log.seed ∧ after.log.start = desk.log.start := by
  have hsound := h.sound
  refine ⟨?_, ?_, RunLog.select_none hsound, ?_, ?_⟩
  · intro i hi
    have hnumber := hsound.numbered.sequence_getElem i (by simpa using hi)
    rw [Array.getElem_toList] at hnumber
    rw [hnumber, Nat.add_comm]
  · intro detail context
    refine ⟨_, _, Desk.run_post detail context desk, ?_, ?_⟩
    · intro hpaused
      rw [Desk.posted, RunLog.post_of_paused hpaused]
    · intro hpaused
      obtain ⟨hevents, -, he⟩ := RunLog.events_post hsound hpaused
        { timestamp := desk.clock.moment, sequence := .int 0, context, detail }
      exact ⟨by rw [he], by rw [he]; exact hevents⟩
  · intro kind
    rw [show (0 : Int) = (0 : Nat) from rfl, RunLog.select_some hsound, List.drop_zero]
    rfl
  · intro file saved hsave other hother hread
    rw [Desk.read_of_saveLog hsave] at hother
    exact ⟨_, Desk.run_loadLog hsound hread hother, rfl, rfl, rfl⟩

section Night

def nightClock : Clock := { moment := { year := 2024, month := 10, day := 31, hour := 21 }, millis := 0 }

def nightDesk : Desk :=
  (Desk.postOwn (.text "dusk") [("bell", .int 6), ("event_name", .text "night")]).after
    ((Desk.post (.expansion (.text "moon") (.text "waxing") (.int 0))).after (.start nightClock))

def nightFile : Path := ⟨"", ["night.json"]⟩

theorem isValid_nightClock : nightClock.moment.isValid = true := by decide

theorem logged_nightDesk : Logged nightDesk := by
  apply own
  · apply post
    · exact start rfl rfl isValid_nightClock
    · exact isValid_nightClock
  · exact isValid_nightClock

theorem readsBack_nightDesk : nightDesk.log.toValue.ReadsBack := by
  have hshort {n : Int} (hn : n.natAbs < 10) : (Value.int n).ReadsBack :=
    Value.readsBack_int (Number.isTooLong_eq_false (k := 1) hn (by decide))
  have hdocument : nightDesk.log.toValue = .object [
      ("session_start", .text nightClock.moment.text), ("seed", .null), ("events", .list [
        .object [("event_type", .text "expansion"), ("timestamp", .text nightClock.moment.text),
          ("sequence_number", .int 1), ("context", .object []), ("token", .text "moon"),
          ("replacement", .text "waxing"), ("depth", .int 0)],
        .object [("event_type", .text "custom"), ("timestamp", .text nightClock.moment.text),
          ("sequence_number", .int 2),
          ("context", .object [("event_name", .text "night"), ("bell", .int 6)])]])] := rfl
  have hcontext : (Value.object [("event_name", .text "night"), ("bell", .int 6)]).ReadsBack :=
    Value.readsBack_object (by decide) (by simp [Value.readsBack_text, hshort])
  have hempty : (Value.object []).ReadsBack := Value.readsBack_object (by decide) (by simp)
  rw [hdocument]
  apply Value.readsBack_object (by decide)
  simp only [List.forall_mem_cons, Value.readsBack_text, Value.readsBack_null, true_and,
    List.not_mem_nil, false_implies, implies_true, and_true]
  apply Value.readsBack_list
  simp only [List.forall_mem_cons, List.not_mem_nil, false_implies, implies_true, and_true]
  constructor
  · exact Value.readsBack_object (by decide) (by simp [Value.readsBack_text, hshort, hempty])
  · exact Value.readsBack_object (by decide) (by simp [Value.readsBack_text, hshort, hcontext])

/-- The log of the night is saved and loaded, and goes on with the third event. -/
theorem numbered_throughout_night : Logged nightDesk ∧
    ∃ saved after e final, Desk.saveLog nightFile nightDesk = .ok () saved ∧
      Value.read saved.room nightDesk.log.toValue.write = .ok nightDesk.log.toValue ∧
      Desk.loadLog nightFile saved = .ok () after ∧ after.log.events = nightDesk.log.events ∧
      Desk.post .custom (.object []) nightDesk = .ok e final ∧ e.sequence = .int 3 := by
  have hshort : nightDesk.log.toValue.hasLongNumber = false := by decide +kernel
  obtain ⟨saved, hsave⟩ : ∃ saved, Desk.saveLog nightFile nightDesk = .ok () saved :=
    Desk.run_saveLog rfl (by decide) hshort
  obtain ⟨-, hpost, -, -, hload⟩ := numbered_throughout logged_nightDesk
  have hroom : saved.room = nightDesk.room := (Desk.keeps_room_saveLog nightFile).of_ok hsave
  have hread : Value.read saved.room nightDesk.log.toValue.write = .ok nightDesk.log.toValue := by
    rw [hroom]
    exact Value.read_write readsBack_nightDesk (by decide +kernel)
  obtain ⟨after, hafter, hevents, -⟩ := hload nightFile saved hsave saved rfl hread
  obtain ⟨e, final, hfinal, -, hnumber⟩ := hpost .custom (.object [])
  exact ⟨logged_nightDesk, saved, after, e, final, hsave, hread, hafter, hevents, hfinal,
    (hnumber rfl).1⟩

end Night

end Logged

end TaleLoom
