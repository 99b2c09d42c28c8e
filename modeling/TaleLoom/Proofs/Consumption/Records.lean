import TaleLoom.Consumption.Store
import TaleLoom.Proofs.Act
import TaleLoom.Proofs.Keyed
/-!
What each step of a consumption store does to its records, whether or not its file can be written, and
what the entries of a table and story are afterwards. Records are well filed where each one has a key
of its own and is kept under the key of its table and story.
-/

namespace TaleLoom.ConsumptionStore

open Text

def deskOnly : Frame Scene := .fixing fun scene => (scene.registry, scene.sparks, scene.store)

theorem keeps_deskOnly {α : Type} (act : Act Desk α) : (Scene.atDesk act).Keeps deskOnly :=
  Scene.keeps_atDesk act fun _ _ => rfl

theorem store_eq_of_deskOnly {s t : Scene} (h : deskOnly.holds s t) : t.store = s.store :=
  congrArg (·.2.2) h

theorem keeps_persist : persist.Keeps deskOnly := by
  refine Act.Keeps.bind Act.Keeps.get fun scene => ?_
  dsimp only
  split
  · exact Act.Keeps.pure _
  · exact Act.Keeps.bind (keeps_deskOnly _) fun _ => keeps_deskOnly _

theorem keeps_note (table : Value) (story action : String) (entry : Value) :
    (note table story action entry).Keeps deskOnly :=
  Act.Keeps.discard (keeps_deskOnly _)

def recordOf (store : ConsumptionStore) (table story : String) : ConsumedRecord :=
  (Keyed.get? (key table story) store.records).getD { table, story }

theorem items_recordOf (store : ConsumptionStore) (table story : String) :
    (store.recordOf table story).items = store.items table story := by
  unfold recordOf items
  cases Keyed.get? (key table story) store.records <;> rfl

theorem items_eq (store : ConsumptionStore) (table story : String) :
    store.items table story =
      ((Keyed.get? (key table story) store.records).map (·.items)).getD [] := rfl

def recordWith (store : ConsumptionStore) (table story entry : String) : ConsumedRecord :=
  { store.recordOf table story with items := store.items table story ++ [entry] }

def withRecords (store : ConsumptionStore) (records : Keyed String ConsumedRecord) :
    ConsumptionStore :=
  { store with records }

theorem asText_cases (v : Value) : (∃ name, v = .text name) ∨ v.asText = .error .missingPart := by
  cases v <;> simp [Value.asText]

/-- A step that starts by reading a name that is no text fails there and changes nothing. -/
theorem after_of_asText_error {α : Type} {v : Value} {f : String → Act Scene α} {scene : Scene}
    (h : v.asText = .error .missingPart) :
    (Act.ofExcept v.asText >>= f).after scene = scene := by
  rw [h]
  rfl

section Steps

variable (scene : Scene) (name story : String)

/-- A change of the records, and then steps that only use the desk, leave the changed records. -/
theorem store_change_bind {α : Type} (f : Keyed String ConsumedRecord → Keyed String ConsumedRecord)
    {act : Unit → Act Scene α} (h : (act ()).Keeps deskOnly) :
    ((change f >>= act).after scene).store =
      scene.store.withRecords (f scene.store.records) := by
  let changed : Scene := { scene with store := scene.store.withRecords (f scene.store.records) }
  have heq : (change f >>= act).after scene = (act ()).after changed := by
    unfold Act.after
    rw [Act.run_bind]
    rfl
  rw [heq]
  exact store_eq_of_deskOnly (h changed)

theorem markConsumed_eq (entry : String) :
    markConsumed (.text name) story entry scene =
      (if entry ∈ scene.store.items name story then (pure () : Act Scene Unit)
      else change (Keyed.set (key name story) (scene.store.recordWith name story entry)) >>= fun _ =>
        persist >>= fun _ => note (.text name) story "consumed" (.text entry)) scene := by
  simp only [markConsumed, Value.asText, recordWith, ← items_recordOf, Act.run_bind,
    Act.run_liftExcept, Act.run_ofExcept_ok, Act.run_get, recordOf, List.contains_iff_mem]

/-- Marking an entry puts it at the end of its record, unless it is there. -/
theorem store_markConsumed (entry : String) :
    ((markConsumed (.text name) story entry).after scene).store =
      if entry ∈ scene.store.items name story then scene.store
      else scene.store.withRecords (Keyed.set (key name story)
        (scene.store.recordWith name story entry) scene.store.records) := by
  rw [Act.after_congr (markConsumed_eq scene name story entry)]
  split
  · rfl
  · exact store_change_bind scene _
      (Act.Keeps.bind keeps_persist fun _ => keeps_note (.text name) story "consumed" (.text entry))

def exhausted (store : ConsumptionStore) (table : RandomTable) (name story : String) : Prop :=
  store.items name story ≠ [] ∧ remaining table.rows (store.items name story) = []

instance (store : ConsumptionStore) (table : RandomTable) (name story : String) :
    Decidable (store.exhausted table name story) :=
  haveI : Decidable (remaining table.rows (store.items name story) = []) :=
    decidable_of_iff _ List.isEmpty_iff
  inferInstanceAs (Decidable (_ ∧ _))

def pool (store : ConsumptionStore) (table : RandomTable) (name story : String) : RandomTable :=
  if store.items name story = [] ∨ store.exhausted table name story then table
  else table.withRows (remaining table.rows (store.items name story))

theorem available_eq (table : RandomTable) (hname : table.name = .text name) :
    available table story scene =
      (if scene.store.exhausted table name story then
        (change (Keyed.erase (key name story)) >>= fun _ => persist >>= fun _ =>
          note (.text name) story "exhausted" .null) >>= fun _ => pure (scene.store.pool table name story)
      else (pure (scene.store.pool table name story) : Act Scene RandomTable)) scene := by
  simp only [available, hname, Value.asText, Act.run_bind, Act.run_liftExcept,
    Act.run_ofExcept_ok, Act.run_get]
  by_cases hempty : scene.store.items name story = []
  · simp [pool, exhausted, hempty]
  · have hsome : (scene.store.items name story).isEmpty = false :=
      List.isEmpty_eq_false_iff.2 hempty
    simp only [hsome, Bool.false_eq_true, if_false]
    cases hrows : remaining table.rows (scene.store.items name story) with
    | nil =>
      have hexhausted : scene.store.exhausted table name story := ⟨hempty, hrows⟩
      simp only [pool, hempty, hexhausted, or_true, if_true, bind_assoc]
    | cons row rows =>
      have hexhausted : ¬ scene.store.exhausted table name story := by simp [exhausted, hrows]
      simp only [pool, hempty, hexhausted, hrows, if_false, or_self]

/-- Asking for what is left of a table erases its record where nothing is left. -/
theorem store_available (table : RandomTable) (hname : table.name = .text name) :
    ((available table story).after scene).store =
      if scene.store.exhausted table name story then
        scene.store.withRecords (Keyed.erase (key name story) scene.store.records)
      else scene.store := by
  rw [Act.after_congr (available_eq scene name story table hname)]
  split
  · rw [bind_assoc]
    exact store_change_bind scene _ (Act.Keeps.bind
      (Act.Keeps.bind keeps_persist fun _ => keeps_note (.text name) story "exhausted" .null)
        fun _ => Act.Keeps.pure _)
  · rfl

def keptAfterReset (store : ConsumptionStore) (name : String) :
    Option String → Keyed String ConsumedRecord
  | some story => Keyed.erase (key name story) store.records
  | none => store.records.filter fun (_, r) => lower r.table != lower name

theorem keptAfterReset_sublist (store : ConsumptionStore) (name : String) (story : Option String) :
    (store.keptAfterReset name story).Sublist store.records := by
  cases story with
  | none => exact List.filter_sublist
  | some story => exact Keyed.erase_sublist _ _

def storyShown : Option String → String
  | some story => if story.isEmpty then "*" else story
  | none => "*"

theorem recordsWithout_text (store : ConsumptionStore) (name : String) (story : Option String) :
    recordsWithout (.text name) store.records story = .ok (store.keptAfterReset name story) := by
  cases story with
  | some story => rfl
  | none =>
    simp only [recordsWithout, keptAfterReset, Value.asText]
    split
    · next hempty => simp [List.isEmpty_iff.1 hempty, pure, Except.pure]
    · rfl

theorem recordsWithout_sublist {table : Value} {records kept : Keyed String ConsumedRecord}
    {story : Option String} (h : recordsWithout table records story = .ok kept) :
    kept.Sublist records := by
  rcases asText_cases table with ⟨name, rfl⟩ | hname
  · obtain rfl := Except.ok.inj ((recordsWithout_text { records } name story).symm.trans h)
    exact keptAfterReset_sublist _ _ _
  · cases story with
    | some story => simp [recordsWithout, hname] at h
    | none =>
      cases records with
      | nil =>
        obtain rfl : [] = kept := Except.ok.inj h
        exact List.Sublist.refl _
      | cons record rest => simp [recordsWithout, hname] at h

theorem reset_eq {table : Value} {story : Option String} {kept : Keyed String ConsumedRecord}
    (h : recordsWithout table scene.store.records story = .ok kept) :
    reset table story scene =
      (change (fun _ => kept) >>= fun _ =>
        if kept.length < scene.store.records.length then
          persist >>= fun _ => note table (storyShown story) "reset"
        else note table (storyShown story) "reset") scene := by
  simp only [reset, Act.run_bind, Act.run_liftExcept, Act.run_get, h, Act.run_ofExcept_ok]
  cases story <;> rfl

/-- Forgetting the draws of a table with an unusable name changes nothing. -/
theorem after_reset_of_error {table : Value} {story : Option String} {fault : Fault}
    (h : recordsWithout table scene.store.records story = .error fault) :
    (reset table story).after scene = scene := by
  have hrun : reset table story scene = .error fault scene := by simp [reset, h]
  exact Act.after_of_error hrun

theorem store_reset_of_ok {table : Value} {story : Option String}
    {kept : Keyed String ConsumedRecord}
    (h : recordsWithout table scene.store.records story = .ok kept) :
    ((reset table story).after scene).store = scene.store.withRecords kept := by
  rw [Act.after_congr (reset_eq scene h)]
  exact store_change_bind scene (fun _ => kept)
    (Act.Keeps.ite (Act.Keeps.bind keeps_persist fun _ => keeps_note _ _ _ _) (keeps_note _ _ _ _))

theorem store_reset (story : Option String) :
    ((reset (.text name) story).after scene).store =
      scene.store.withRecords (scene.store.keptAfterReset name story) :=
  store_reset_of_ok scene (recordsWithout_text scene.store name story)

theorem resetStory_eq :
    resetStory story scene =
      (change (fun _ => scene.store.records.filter fun (_, r) => r.story != story) >>= fun _ =>
        if (scene.store.records.filter fun (_, r) => r.story != story).length <
            scene.store.records.length then
          persist >>= fun _ => note (.text "*") story "reset"
        else note (.text "*") story "reset") scene := by
  simp only [resetStory, Act.run_bind, Act.run_get]

theorem store_resetStory :
    ((resetStory story).after scene).store =
      scene.store.withRecords (scene.store.records.filter fun (_, r) => r.story != story) := by
  rw [Act.after_congr (resetStory_eq scene story)]
  exact store_change_bind scene
    (fun _ => scene.store.records.filter fun (_, r) => r.story != story)
    (Act.Keeps.ite (Act.Keeps.bind keeps_persist fun _ => keeps_note _ _ _ _) (keeps_note _ _ _ _))

end Steps

end TaleLoom.ConsumptionStore
