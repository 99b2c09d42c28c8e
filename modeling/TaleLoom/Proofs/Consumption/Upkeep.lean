import TaleLoom.Proofs.Consumption.Isolation
import TaleLoom.Proofs.Consumption.Persistence
/-!
The state that a consumption store is kept in. Its records are orderly where they are well filed and
each of them has entries, all different. A store that is empty at first stays orderly through calls
that may fail and through being opened again, because its file is orderly too
(`ConsumptionStore.Upkept`). What such a store offers of a table are the rows that the story has not
had.
-/

namespace TaleLoom

/-- A file that could not be written cannot be read either. -/
theorem FileTree.read_of_write_error {tree : FileTree} {p : Path} {content : Content} {fault : Fault}
    (h : tree.write p content = .error fault) : tree.read p = .error fault := by
  unfold write at h
  unfold read
  split at h
  · next hleaf =>
    rw [if_pos hleaf]
    cases h
    rfl
  · next hleaf =>
    rw [if_neg hleaf]
    split at h
    · cases h
      rfl
    · cases h

namespace ConsumptionStore

/-- The records are well filed, and each of them has entries, of which no two are the same. -/
structure Orderly (store : ConsumptionStore) : Prop extends store.WellFiled where
  filled : ∀ k r, (k, r) ∈ store.records → r.items ≠ []
  distinct : ∀ k r, (k, r) ∈ store.records → r.items.Nodup

namespace Orderly

variable {store : ConsumptionStore}

theorem empty (h : store.records = []) : store.Orderly where
  nodup := by simp [h, Keyed.keys]
  filed := by simp [h]
  filled := by simp [h]
  distinct := by simp [h]

/-- Only the records matter. -/
theorem of_records {store' : ConsumptionStore} (h : store.Orderly)
    (hrecords : store'.records = store.records) : store'.Orderly where
  nodup := hrecords ▸ h.nodup
  filed := hrecords ▸ h.filed
  filled := hrecords ▸ h.filled
  distinct := hrecords ▸ h.distinct

theorem sublist (h : store.Orderly) {records : Keyed String ConsumedRecord}
    (hsub : records.Sublist store.records) : (store.withRecords records).Orderly where
  toWellFiled := h.toWellFiled.sublist hsub
  filled k r hmem := h.filled k r (hsub.subset hmem)
  distinct k r hmem := h.distinct k r (hsub.subset hmem)

theorem nodup_items (h : store.Orderly) (table story : String) : (store.items table story).Nodup := by
  rw [items_eq]
  cases hget : Keyed.get? (key table story) store.records with
  | none => exact List.nodup_nil
  | some r => exact h.distinct _ r (Keyed.mem_of_get? hget)

/-- A record stays orderly with one more entry that it did not have. -/
theorem set (h : store.Orderly) {table story entry : String}
    (hnew : entry ∉ store.items table story) :
    (store.withRecords (Keyed.set (key table story) (store.recordWith table story entry)
      store.records)).Orderly where
  toWellFiled := h.toWellFiled.set table story entry
  filled k r hmem := by
    rcases Keyed.mem_set hmem with heq | hold
    · obtain ⟨-, rfl⟩ := Prod.mk.inj heq
      simp [recordWith]
    · exact h.filled k r hold
  distinct k r hmem := by
    rcases Keyed.mem_set hmem with heq | hold
    · obtain ⟨-, rfl⟩ := Prod.mk.inj heq
      have hlast : [entry].Nodup := List.nodup_singleton entry
      apply (h.nodup_items table story).append hlast
      simpa using hnew
    · exact h.distinct k r hold

end Orderly

structure Upkept (scene : Scene) : Prop where
  held : scene.store.Orderly
  saved : ∀ file, scene.store.file = some file → ∀ opened,
    openedStore? scene.desk file = some opened → opened.Orderly

def upkeep : Frame Scene := .keeping Upkept

section Steps

variable {scene : Scene}

theorem Upkept.of_files (h : Upkept scene) {scene' : Scene} (hstore : scene'.store = scene.store)
    (hfiles : scene'.desk.files = scene.desk.files) (hroom : scene'.desk.room = scene.desk.room) :
    Upkept scene' where
  held := hstore ▸ h.held
  saved file hfile opened hopened :=
    h.saved file (hstore ▸ hfile) opened (openedStore?_congr hfiles hroom file ▸ hopened)

section Written

variable {desk : Desk} {file : Path} {opened : ConsumptionStore}

theorem records_of_read_error {fault : Fault} (h : desk.files.read file = .error fault)
    (hopened : openedStore? desk file = some opened) : opened.records = [] := by
  have hrecords : recordsIn desk file = .error fault := by rw [recordsIn, h, error_bind]
  rw [openedStore?, hrecords] at hopened
  split at hopened
  · split at hopened
    · next heq => cases heq
    · cases hopened
    · cases hopened; rfl
  · cases hopened; rfl

/-- A file that holds the records of a store gives these, if it can be opened at all. -/
theorem records_of_read {store : ConsumptionStore} (hat : desk.files.isAt file = true)
    (hread : desk.files.read file = .ok store.toValue.write)
    (hkeys : (Keyed.keys store.records).Nodup) (hopened : openedStore? desk file = some opened) :
    opened.records = store.records := by
  rw [openedStore?, if_pos hat] at hopened
  rcases Value.read_of_le (Nat.le_max_left desk.room 3) store.toValue.write with hdeep | heq
  · rw [recordsIn_tooDeep_iff.2 ⟨_, hread, hdeep⟩] at hopened
    cases hopened
  · have hdocument : Value.read (max desk.room 3) store.toValue.write = .ok store.toValue :=
      Value.read_write (readsBack_toValue hkeys)
        (Nat.le_trans (nesting_toValue store) (Nat.le_max_right desk.room 3))
    have hrecords : recordsIn desk file = .ok store.records := by
      simp only [recordsIn, hread, ok_bind, heq, hdocument, recordsOf_toValue]
    rw [hrecords] at hopened
    cases hopened
    rfl

end Written

/-- Once a store was to be written its file gives what it gave before, or nothing, or the records of the
store. -/
theorem opened_after_persist {file : Path} (hfile : scene.store.file = some file)
    (hkeys : (Keyed.keys scene.store.records).Nodup) {opened : ConsumptionStore}
    (h : openedStore? (persist.after scene).desk file = some opened) :
    openedStore? scene.desk file = some opened ∨ opened.records = [] ∨
      opened.records = scene.store.records := by
  cases hmake : scene.desk.files.makeFolders file with
  | error fault =>
    have hrun : persist scene = .error fault scene := by
      simp [persist, hfile, run_makeFolders_error hmake]
    rw [Act.after_of_error hrun] at h
    exact Or.inl h
  | ok made =>
    cases hwrite : made.write file (.text scene.store.toValue.write) with
    | error fault =>
      have hwritten : Desk.writeText file scene.store.toValue.write { scene.desk with files := made } =
          .error fault { scene.desk with files := made } := run_writeText_error hwrite
      have hrun : persist scene =
          .error fault { scene with desk := { scene.desk with files := made } } := by
        simp [persist, hfile, run_makeFolders_ok hmake, hwritten]
      rw [Act.after_of_error hrun] at h
      exact Or.inr (Or.inl (records_of_read_error (FileTree.read_of_write_error hwrite) h))
    | ok written =>
      have hwritten : Desk.writeText file scene.store.toValue.write { scene.desk with files := made } =
          .ok () { scene.desk with files := written } := run_writeText_ok hwrite
      have hrun : persist scene =
          .ok () { scene with desk := { scene.desk with files := written } } := by
        simp [persist, hfile, run_makeFolders_ok hmake, hwritten]
      obtain ⟨hat, hread⟩ := read_of_persist hfile hrun
      rw [Act.after_of_ok hrun] at h
      exact Or.inr (Or.inr (records_of_read hat hread hkeys h))

theorem upkeep_persist : persist.Keeps upkeep := by
  intro scene h
  have hstore : (persist.after scene).store = scene.store := store_eq_of_deskOnly (keeps_persist scene)
  refine ⟨hstore ▸ h.held, fun file hfile opened hopened => ?_⟩
  rw [hstore] at hfile
  rcases opened_after_persist hfile h.held.nodup hopened with hbefore | hnone | hheld
  · exact h.saved file hfile opened hbefore
  · exact Orderly.empty hnone
  · exact h.held.of_records hheld

theorem upkeep_note (table : Value) (story action : String) (entry : Value) :
    (note table story action entry).Keeps upkeep := by
  intro scene h
  rw [Act.after_of_ok (run_note table story action entry scene)]
  exact h.of_files rfl rfl rfl

/-- A change to orderly records, and then steps that keep the store up. -/
theorem Upkept.change_bind {α : Type} (h : Upkept scene)
    {f : Keyed String ConsumedRecord → Keyed String ConsumedRecord} {act : Unit → Act Scene α}
    (hact : (act ()).Keeps upkeep)
    (hf : (scene.store.withRecords (f scene.store.records)).Orderly) :
    Upkept ((change f >>= act).after scene) := by
  let changed : Scene := { scene with store := scene.store.withRecords (f scene.store.records) }
  have hchange : change f scene = .ok () changed := rfl
  have hchanged : Upkept changed := ⟨hf, h.saved⟩
  rw [Act.after_bind, hchange]
  exact hact changed hchanged

theorem upkeep_written (table : Value) (story action : String) (entry : Value) :
    (persist >>= fun _ => note table story action entry).Keeps upkeep :=
  upkeep_persist.bind fun _ => upkeep_note table story action entry

/-- Every call keeps the store up, whether or not it fails. -/
theorem upkeep_call (call : Call) : call.run.Keeps upkeep := by
  intro scene h
  cases call with
  | available table story =>
    have hrun : (Call.available table story).run.after scene = (available table story).after scene :=
      Act.after_map _ _ _
    rw [hrun]
    rcases asText_cases table.name with ⟨name, hname⟩ | hname
    · rw [Act.after_congr (available_eq scene name story table hname)]
      split
      · rw [Act.after_bind_pure]
        exact h.change_bind (upkeep_written _ _ _ _) (h.held.sublist (Keyed.erase_sublist _ _))
      · exact h
    · rwa [show (ConsumptionStore.available table story).after scene = scene from
        after_of_asText_error hname]
  | markConsumed table story entry =>
    rcases asText_cases table with ⟨name, rfl⟩ | hname
    · rw [Call.run, Act.after_congr (markConsumed_eq scene name story entry)]
      split
      · exact h
      · next hnew => exact h.change_bind (upkeep_written _ _ _ _) (h.held.set hnew)
    · rwa [show (Call.markConsumed table story entry).run.after scene = scene from
        after_of_asText_error hname]
  | reset table story =>
    cases hkept : recordsWithout table scene.store.records story with
    | ok kept =>
      rw [Call.run, Act.after_congr (reset_eq scene hkept)]
      refine h.change_bind ?_ (h.held.sublist (recordsWithout_sublist hkept))
      exact Act.Keeps.ite (upkeep_written _ _ _ _) (upkeep_note _ _ _ _)
    | error fault => rwa [Call.run, after_reset_of_error scene hkept]
  | resetStory story =>
    rw [Call.run, Act.after_congr (resetStory_eq scene story)]
    refine h.change_bind ?_ (h.held.sublist List.filter_sublist)
    exact Act.Keeps.ite (upkeep_written _ _ _ _) (upkeep_note _ _ _ _)

end Steps

section Runs

def reopen : Act Scene Unit := do
  match (← get).store.file with
  | none => pure ()
  | some file =>
    let store ← openFile file
    modify fun scene => { scene with store }

/-- A call on a store, or opening its file again. -/
inductive Step where
  | call (c : Call)
  | reopen

def Step.run : Step → Act Scene Unit
  | .call c => c.run
  | .reopen => ConsumptionStore.reopen

variable {scene : Scene}

/-- A store that was just opened is what its file gives. -/
theorem upkept_of_openFile {file : Path} {desk : Desk}
    (h : openFile file desk = .ok scene.store scene.desk) (horderly : scene.store.Orderly) :
    Upkept scene := by
  obtain ⟨hnamed, hfiles, hroom⟩ := of_openFile h
  refine ⟨horderly, fun file' hfile' opened hopened => ?_⟩
  obtain rfl : file = file' := Option.some.inj (hnamed.symm.trans hfile')
  rw [openedStore?_congr hfiles hroom, openFile_iff.1 ⟨_, h⟩] at hopened
  obtain rfl := Option.some.inj hopened
  exact horderly

theorem upkeep_reopen : reopen.Keeps upkeep := by
  intro scene h
  cases hfile : scene.store.file with
  | none =>
    have hrun : reopen scene = .ok () scene := by simp [reopen, hfile]
    rwa [Act.after_of_ok hrun]
  | some file =>
    cases hopen : openFile file scene.desk with
    | ok store opened =>
      have hrun : reopen scene = .ok () { scene with desk := opened, store } := by
        simp [reopen, hfile, hopen]
      rw [Act.after_of_ok hrun]
      exact upkept_of_openFile hopen (h.saved file hfile store (openFile_iff.1 ⟨_, hopen⟩))
    | error fault stopped =>
      obtain rfl := stopped_of_openFile hopen
      have hrun : reopen scene = .error fault scene := by simp [reopen, hfile, hopen]
      rwa [Act.after_of_error hrun]

theorem upkeep_step (step : Step) : step.run.Keeps upkeep := by
  cases step with
  | call c => exact upkeep_call c
  | reopen => exact upkeep_reopen

theorem upkept_afterAll (steps : List Step) (h : Upkept scene) :
    Upkept (Act.afterAll Step.run steps scene) :=
  Act.Keeps.afterAll upkeep_step steps scene h

/-- A store that was just made and is empty: it has no file, or its file gave no records. -/
inductive Begun : Scene → Prop
  | inMemory {scene : Scene} : scene.store = {} → Begun scene
  | opened {scene : Scene} (file : Path) (desk : Desk) :
      openFile file desk = .ok scene.store scene.desk → scene.store.records = [] → Begun scene

theorem upkept_of_begun (h : Begun scene) : Upkept scene := by
  cases h with
  | inMemory hstore =>
    refine ⟨Orderly.empty (by rw [hstore]), fun file hfile => ?_⟩
    rw [hstore] at hfile
    cases hfile
  | opened file desk hopen hempty =>
    exact upkept_of_openFile hopen (Orderly.empty hempty)

end Runs

section Offers

/-- What is offered of a table: its rows, in their order, that are not among the draws once it has
been asked for, and some if the table has any. A table is refused only where its name is no text, or
where its draws are to be forgotten and this cannot be written. -/
structure Offers (scene : Scene) (table : RandomTable) (story : String) : Prop where
  rows : ∀ offered after, available table story scene = .ok offered after →
    ∃ name, table.name = .text name ∧ offered.rows.Sublist table.rows ∧
      offered = table.withRows
        (table.rows.filter fun row => row.identity ∉ after.store.items name story) ∧
      (table.rows ≠ [] → offered.rows ≠ [])
  answers : (∃ offered after, available table story scene = .ok offered after) ↔
    ∃ name, table.name = .text name ∧
      (scene.store.exhausted table name story → scene.Writable)

variable {scene : Scene} {table : RandomTable} {name story : String}

/-- The pool of a table is what the round has left of it. -/
theorem pool_eq_withRows (store : ConsumptionStore) :
    store.pool table name story =
      table.withRows (remaining table.rows (store.round table name story)) := by
  have hall : remaining table.rows [] = table.rows := by simp [remaining]
  unfold pool round
  by_cases hexhausted : store.exhausted table name story
  · rw [if_pos (Or.inr hexhausted), if_pos hexhausted, hall]
    rfl
  · by_cases hempty : store.items name story = []
    · rw [if_pos (Or.inl hempty), if_neg hexhausted, hempty, hall]
      rfl
    · rw [if_neg (by simp [hempty, hexhausted]), if_neg hexhausted]

theorem remaining_eq_filter (rows : List Row) (consumed : List String) :
    remaining rows consumed = rows.filter fun row => row.identity ∉ consumed := by
  simp [remaining]

theorem result_of_available (hname : table.name = .text name) {offered : RandomTable} {after : Scene}
    (h : available table story scene = .ok offered after) :
    offered = scene.store.pool table name story := by
  rw [available_eq scene name story table hname] at h
  split at h
  · obtain ⟨_, _, _, hpure⟩ := Act.parts_of_bind h
    cases hpure
    rfl
  · cases h
    rfl

theorem answers_iff (hname : table.name = .text name) :
    (∃ offered after, available table story scene = .ok offered after) ↔
      (scene.store.exhausted table name story → scene.Writable) := by
  constructor
  · rintro ⟨offered, after, hrun⟩ hexhausted
    by_contra hwritable
    obtain ⟨fault, after', herror, -⟩ := run_available_error hname hwritable hexhausted
    rw [hrun] at herror
    cases herror
  · intro h
    by_cases hexhausted : scene.store.exhausted table name story
    · obtain ⟨after, hrun, -⟩ := run_available hname story (h hexhausted)
      exact ⟨_, after, hrun⟩
    · exact ⟨_, scene, run_available_of_left hname hexhausted⟩

theorem text_of_available {offered : RandomTable} {after : Scene}
    (h : available table story scene = .ok offered after) : ∃ name, table.name = .text name := by
  rcases asText_cases table.name with htext | hname
  · exact htext
  · simp [available, hname] at h

theorem offers_of_nodup (hkeys : (Keyed.keys scene.store.records).Nodup) (table : RandomTable)
    (story : String) : Offers scene table story where
  rows offered after hrun := by
    obtain ⟨name, hname⟩ := text_of_available hrun
    obtain rfl := result_of_available hname hrun
    have hitems : after.store.items name story = scene.store.round table name story := by
      rw [← items_available hname story hkeys, Act.after_of_ok hrun]
    have hpool : scene.store.pool table name story = table.withRows
        (table.rows.filter fun row => row.identity ∉ after.store.items name story) := by
      rw [pool_eq_withRows, hitems, remaining_eq_filter]
    refine ⟨name, hname, ?_, hpool, pool_rows_ne_nil⟩
    rw [hpool]
    exact List.filter_sublist
  answers := by
    constructor
    · rintro ⟨offered, after, hrun⟩
      obtain ⟨name, hname⟩ := text_of_available hrun
      exact ⟨name, hname, (answers_iff hname).1 ⟨offered, after, hrun⟩⟩
    · rintro ⟨name, hname, hwritable⟩
      exact (answers_iff hname).2 hwritable

end Offers

/-- A store that is empty at first stays orderly, through any calls, of which each may fail, and through
being opened again at any time. Whenever it is asked for a table, it offers the rows that the story has
not had, and some if the table has any. -/
theorem orderly_of_steps {scene : Scene} (h : Begun scene) (steps : List Step) :
    (Act.afterAll Step.run steps scene).store.Orderly ∧
      ∀ table story, Offers (Act.afterAll Step.run steps scene) table story := by
  have hupkept : Upkept (Act.afterAll Step.run steps scene) :=
    upkept_afterAll steps (upkept_of_begun h)
  exact ⟨hupkept.held, fun table story => offers_of_nodup hupkept.held.nodup table story⟩

/-- A new file, a draw, the file opened again, and the same draw under another spelling of the name. -/
theorem orderly_of_steps_two_spellings :
    let file : Path := ⟨"", ["state.json"]⟩
    let scene : Scene := { Scene.blank with store := { file := some file } }
    let steps : List Step := [.call (.markConsumed (.text "Omens") "harbor" "raven"), .reopen,
      .call (.markConsumed (.text "OMENS") "harbor" "raven")]
    let omens : RandomTable :=
      { name := .text "omens", formula := .text "1d2"
        rows := [⟨.int 1, .int 1, .literal "raven"⟩, ⟨.int 2, .int 2, .literal "owl"⟩] }
    Begun scene ∧ (Act.afterAll Step.run steps scene).store.Orderly ∧
      Offers (Act.afterAll Step.run steps scene) omens "harbor" := by
  intro file scene steps omens
  have hbegun : Begun scene := .opened file scene.desk rfl rfl
  obtain ⟨horderly, hoffers⟩ := orderly_of_steps hbegun steps
  exact ⟨hbegun, horderly, hoffers omens "harbor"⟩

end ConsumptionStore

end TaleLoom
