import TaleLoom.Placeholder.Resolver
import TaleLoom.Proofs.Consumption.Records
import TaleLoom.Proofs.Files
import TaleLoom.Proofs.Routine
import TaleLoom.Proofs.Table.Roll
/-!
What a consumable draw does. A store whose file can be written, or that has none, never fails to keep
a draw (`run_persist`), and can be written afterwards. A draw from a table that can be rolled on then
gives a row whose entry is not in the current round, and puts the entry at the end of the round
(`Resolver.run_drawConsumable`).
-/

namespace TaleLoom

theorem TableResult.identity_of_row {result : TableResult} {row : Row} (h : result.row = some row) :
    result.identity = some row.identity := by
  rw [identity, h]
  rfl

def Scene.Writable (scene : Scene) : Prop :=
  ∀ file, scene.store.file = some file → scene.desk.files.Accepts file

namespace ConsumptionStore

variable {scene : Scene}

theorem run_makeFolders_ok {p : Path} {desk : Desk} {files : FileTree}
    (h : desk.files.makeFolders p = .ok files) :
    Desk.makeFolders p desk = .ok () { desk with files } := by
  simp [Desk.makeFolders, h]

theorem run_makeFolders_error {p : Path} {desk : Desk} {fault : Fault}
    (h : desk.files.makeFolders p = .error fault) :
    Desk.makeFolders p desk = .error fault desk := by
  simp [Desk.makeFolders, h]

theorem run_writeText_ok {p : Path} {text : String} {desk : Desk} {files : FileTree}
    (h : desk.files.write p (.text text) = .ok files) :
    Desk.writeText p text desk = .ok () { desk with files } := by
  simp [Desk.writeText, h]

theorem run_writeText_error {p : Path} {text : String} {desk : Desk} {fault : Fault}
    (h : desk.files.write p (.text text) = .error fault) :
    Desk.writeText p text desk = .error fault desk := by
  simp [Desk.writeText, h]

/-- A store that can be written is written, and can be written again; nothing is drawn for it. -/
theorem run_persist (h : scene.Writable) :
    ∃ after, persist scene = .ok () after ∧ after.Writable ∧
      after.desk.source = scene.desk.source := by
  cases hfile : scene.store.file with
  | none => exact ⟨scene, by simp [persist, hfile], h, rfl⟩
  | some file =>
    obtain ⟨made, hmake, hleaf, hholders⟩ := FileTree.makeFolders_ok (h file hfile)
    let content := Content.text scene.store.toValue.write
    let written : FileTree := { made with files := Keyed.set file.steps content made.files }
    have hwrite : made.write file content = .ok written :=
      FileTree.write_ok hleaf hholders content
    refine ⟨{ scene with desk := { scene.desk with files := written } }, ?_, ?_, rfl⟩
    · have hmade : Desk.makeFolders file scene.desk = .ok () { scene.desk with files := made } :=
        run_makeFolders_ok hmake
      have hdone : Desk.writeText file scene.store.toValue.write { scene.desk with files := made } =
          .ok () { scene.desk with files := written } := run_writeText_ok hwrite
      simp [persist, hfile, hmade, hdone]
    · intro file' hfile'
      obtain rfl : file = file' := Option.some.inj (hfile.symm.trans hfile')
      exact ⟨hleaf, fun holder hholder => Or.inl (hholders holder hholder)⟩

/-- A store that cannot be written fails to be, for a folder in the place of a file or the reverse. -/
theorem run_persist_error (h : ¬ scene.Writable) :
    ∃ fault after, persist scene = .error fault after ∧
      (fault = .isFolder ∨ fault = .notAFolder) := by
  simp only [Scene.Writable, not_forall] at h
  obtain ⟨file, hfile, hreject⟩ := h
  by_cases hholders : ∀ holder ∈ FileTree.holders file.steps, scene.desk.files.Free holder
  · have hleaf : scene.desk.files.isFolder file.steps = true := by
      cases hleaf : scene.desk.files.isFolder file.steps with
      | true => rfl
      | false => exact absurd ⟨hleaf, hholders⟩ hreject
    obtain ⟨made, hmake, -, hfolder⟩ := FileTree.foldlM_makeFolder hholders
    have hmade : Desk.makeFolders file scene.desk = .ok () { scene.desk with files := made } :=
      run_makeFolders_ok hmake
    have hwrite : Desk.writeText file scene.store.toValue.write { scene.desk with files := made } =
        .error .isFolder { scene.desk with files := made } :=
      run_writeText_error (FileTree.write_folder (by simp [hfolder, hleaf]) _)
    refine ⟨.isFolder, { scene with desk := { scene.desk with files := made } }, ?_, Or.inl rfl⟩
    simp [persist, hfile, hmade, hwrite]
  · have hmake : Desk.makeFolders file scene.desk = .error .notAFolder scene.desk :=
      run_makeFolders_error (FileTree.foldlM_makeFolder_error hholders)
    exact ⟨.notAFolder, scene, by simp [persist, hfile, hmake], Or.inr rfl⟩

theorem run_note (table : Value) (story action : String) (entry : Value) (scene : Scene) :
    note table story action entry scene = .ok () (scene.posted
      (.consumption table (.text story) (.text action) entry) (.object [])) := by
  simp only [note, Act.run_discard, Scene.run_liftDesk, Scene.run_atDesk, Desk.run_post]
  rfl

/-- Steps on the desk that keep the files leave a store that can be written. -/
theorem writable_of_files {s t : Scene} (hstore : t.store.file = s.store.file)
    (hfiles : t.desk.files = s.desk.files) (h : s.Writable) : t.Writable := by
  intro file hfile
  rw [hfiles]
  exact h file (hstore ▸ hfile)

theorem run_change (f : Keyed String ConsumedRecord → Keyed String ConsumedRecord)
    (table : Value) (story action : String) (entry : Value) (h : scene.Writable) :
    ∃ after, (change f >>= fun _ => persist >>= fun _ => note table story action entry) scene =
      .ok () after ∧ after.Writable ∧ after.desk.source = scene.desk.source := by
  let changed : Scene := { scene with store := scene.store.withRecords (f scene.store.records) }
  have hchanged : changed.Writable := writable_of_files rfl rfl h
  obtain ⟨kept, hpersist, hkept, hsource⟩ := run_persist hchanged
  have hchange : change f scene = .ok () changed := rfl
  refine ⟨kept.posted (.consumption table (.text story) (.text action) entry) (.object []),
    ?_, writable_of_files rfl rfl hkept, hsource⟩
  simp only [Act.run_bind, hchange, hpersist, run_note]

theorem run_change_error (f : Keyed String ConsumedRecord → Keyed String ConsumedRecord)
    (table : Value) (story action : String) (entry : Value) (h : ¬ scene.Writable) :
    ∃ fault after,
      (change f >>= fun _ => persist >>= fun _ => note table story action entry) scene =
        .error fault after ∧ (fault = .isFolder ∨ fault = .notAFolder) := by
  let changed : Scene := { scene with store := scene.store.withRecords (f scene.store.records) }
  have hchanged : ¬ changed.Writable := fun hw => h (writable_of_files rfl rfl hw)
  obtain ⟨fault, after, hpersist, hfault⟩ := run_persist_error hchanged
  have hchange : change f scene = .ok () changed := rfl
  exact ⟨fault, after, by simp only [Act.run_bind, hchange, hpersist], hfault⟩

theorem run_markConsumed (name story entry : String) (h : scene.Writable) :
    ∃ after, markConsumed (.text name) story entry scene = .ok () after ∧ after.Writable := by
  rw [markConsumed_eq]
  split
  · exact ⟨scene, rfl, h⟩
  · obtain ⟨after, hrun, hafter, -⟩ := run_change _ _ _ _ _ h
    exact ⟨after, hrun, hafter⟩

theorem run_markConsumed_error {name story entry : String} (h : ¬ scene.Writable)
    (hentry : entry ∉ scene.store.items name story) :
    ∃ fault after, markConsumed (.text name) story entry scene = .error fault after ∧
      (fault = .isFolder ∨ fault = .notAFolder) := by
  rw [markConsumed_eq, if_neg hentry]
  exact run_change_error _ _ _ _ _ h

theorem run_available {table : RandomTable} {name : String} (hname : table.name = .text name)
    (story : String) (h : scene.Writable) :
    ∃ after, available table story scene = .ok (scene.store.pool table name story) after ∧
      after.Writable ∧ after.desk.source = scene.desk.source := by
  rw [available_eq scene name story table hname]
  split
  · obtain ⟨after, hrun, hafter⟩ := run_change (Keyed.erase (key name story)) (.text name) story
      "exhausted" .null h
    exact ⟨after, by rw [Act.run_bind, hrun]; rfl, hafter⟩
  · exact ⟨scene, rfl, h, rfl⟩

theorem run_available_of_left {table : RandomTable} {name story : String}
    (hname : table.name = .text name) (h : ¬ scene.store.exhausted table name story) :
    available table story scene = .ok (scene.store.pool table name story) scene := by
  rw [available_eq scene name story table hname, if_neg h, Act.run_pure]

theorem run_available_error {table : RandomTable} {name story : String}
    (hname : table.name = .text name) (h : ¬ scene.Writable)
    (hexhausted : scene.store.exhausted table name story) :
    ∃ fault after, available table story scene = .error fault after ∧
      (fault = .isFolder ∨ fault = .notAFolder) := by
  obtain ⟨fault, after, hrun, hfault⟩ :=
    run_change_error (Keyed.erase (key name story)) (.text name) story "exhausted" .null h
  refine ⟨fault, after, ?_, hfault⟩
  rw [available_eq scene name story table hname, if_pos hexhausted, Act.run_bind, hrun]

section Pool

variable {store : ConsumptionStore} {table : RandomTable} {name story : String}

def round (store : ConsumptionStore) (table : RandomTable) (name story : String) : List String :=
  if store.exhausted table name story then [] else store.items name story

theorem mem_remaining {rows : List Row} {consumed : List String} {row : Row} :
    row ∈ remaining rows consumed ↔ row ∈ rows ∧ row.identity ∉ consumed := by
  simp [remaining]

/-- A row of the pool is a row of the table that the round has not had. -/
theorem mem_pool {row : Row} (h : row ∈ (store.pool table name story).rows) :
    row ∈ table.rows ∧ row.identity ∉ store.round table name story := by
  unfold pool at h
  unfold round
  by_cases hexhausted : store.exhausted table name story
  · simp only [hexhausted, or_true, if_true] at h ⊢
    exact ⟨h, List.not_mem_nil⟩
  · by_cases hempty : store.items name story = []
    · simp only [hempty, true_or, if_true] at h
      simp only [hexhausted, if_false, hempty]
      exact ⟨h, List.not_mem_nil⟩
    · simp only [hempty, hexhausted, or_self, if_false] at h ⊢
      exact mem_remaining.1 h

theorem pool_rows_ne_nil (hrows : table.rows ≠ []) : (store.pool table name story).rows ≠ [] := by
  unfold pool
  split
  · exact hrows
  · next h =>
    simp only [not_or, exhausted, not_and] at h
    exact h.2 h.1

theorem pool_subset : (store.pool table name story).rows ⊆ table.rows :=
  fun _ hrow => (mem_pool hrow).1

theorem pool_rollable {f : Formula} (h : table.Rollable f) :
    (store.pool table name story).Rollable f := by
  have hformula : (store.pool table name story).formula = table.formula := by
    unfold pool
    split <;> rfl
  exact ⟨hformula ▸ h.formula, fun row hrow => h.bounds row (pool_subset hrow)⟩

theorem pool_sound (h : table.Sound) : (store.pool table name story).Sound where
  rollable := h.rollable.imp fun _ => pool_rollable
  firm row hrow := h.firm row (pool_subset hrow)

theorem pool_renders (h : table.Renders) : (store.pool table name story).Renders :=
  fun row hrow => h row (pool_subset hrow)

end Pool

theorem items_available {table : RandomTable} {name : String} (hname : table.name = .text name)
    (story : String) (hdistinct : (Keyed.keys scene.store.records).Nodup) :
    ((available table story).after scene).store.items name story =
      scene.store.round table name story := by
  rw [store_available scene name story table hname, round]
  split
  · simp only [items_eq, withRecords, Keyed.get?_erase_self hdistinct, Option.map_none,
      Option.getD_none]
  · rfl

theorem nodup_available {table : RandomTable} {name : String} (hname : table.name = .text name)
    (story : String) (hdistinct : (Keyed.keys scene.store.records).Nodup) :
    (Keyed.keys ((available table story).after scene).store.records).Nodup := by
  rw [store_available scene name story table hname]
  split
  · exact Keyed.nodup_keys_of_sublist (Keyed.erase_sublist _ _) hdistinct
  · exact hdistinct

theorem items_markConsumed (name story entry : String) :
    ((markConsumed (.text name) story entry).after scene).store.items name story =
      if entry ∈ scene.store.items name story then scene.store.items name story
      else scene.store.items name story ++ [entry] := by
  rw [store_markConsumed]
  split
  · rfl
  · simp [items_eq, withRecords, Keyed.get?_set, recordWith]

theorem nodup_markConsumed (name story entry : String)
    (hdistinct : (Keyed.keys scene.store.records).Nodup) :
    (Keyed.keys ((markConsumed (.text name) story entry).after scene).store.records).Nodup := by
  rw [store_markConsumed]
  split
  · exact hdistinct
  · exact Keyed.nodup_keys_set _ hdistinct

end ConsumptionStore

namespace Registry

def lookupOf (table : RandomTable) (difficulty : Option Int) (result : TableResult) : EventDetail :=
  .tableLookup table.name (.int result.total) (.text result.description)
    ((difficulty.map Value.int).getD .null)

theorem run_rollOn {table : RandomTable} {difficulty : Option Int} {rerolls : Int}
    {desk desk' : Desk} {result : TableResult}
    (h : table.roll difficulty rerolls desk = .ok result desk') :
    rollOn table difficulty rerolls desk =
      .ok result (desk'.posted (lookupOf table difficulty result) (.object [])) := by
  simp only [rollOn, Act.run_bind, h, Act.run_discard, Desk.run_post, Act.run_pure]
  rfl

theorem roll_of_rollOn {table : RandomTable} {difficulty : Option Int} {rerolls : Int}
    {desk desk' : Desk} {result : TableResult}
    (h : rollOn table difficulty rerolls desk = .ok result desk') :
    ∃ rolled, table.roll difficulty rerolls desk = .ok result rolled := by
  cases hroll : table.roll difficulty rerolls desk with
  | ok result' rolled =>
    rw [run_rollOn hroll] at h
    cases h
    exact ⟨rolled, rfl⟩
  | error fault rolled =>
    simp only [rollOn, Act.run_bind, hroll] at h
    cases h

/-- Telling the log of a roll never fails. -/
theorem failsWith_rollOn {table : RandomTable} {difficulty : Option Int} {rerolls : Int}
    {kind : Fault → Prop} {desk : Desk} :
    (rollOn table difficulty rerolls).FailsWith kind desk ↔
      (table.roll difficulty rerolls).FailsWith kind desk := by
  cases hroll : table.roll difficulty rerolls desk with
  | ok result desk' =>
    have hrun := run_rollOn hroll
    simp only [Act.failsWith_of_ok hrun, Act.failsWith_of_ok hroll]
  | error fault desk' =>
    have hrun : rollOn table difficulty rerolls desk = .error fault desk' := by
      simp only [rollOn, Act.run_bind, hroll]
    rw [Act.failsWith_of_error hrun, Act.failsWith_of_error hroll]

end Registry

namespace Resolver

open ConsumptionStore

/-- A consumable draw from a table that can be rolled on, and the texts of whose rows can be made, gives
one of its rows, which the round has not had, and the entry of the row ends the round. -/
theorem run_drawConsumable (resolver : Resolver) {table : RandomTable} {name : String} {f : Formula}
    (hname : table.name = .text name) (htable : table.Rollable f) (hrenders : table.Renders)
    (hrows : table.rows ≠ []) {scene : Scene} (hwritable : scene.Writable)
    (hdistinct : (Keyed.keys scene.store.records).Nodup) :
    ∃ result after row, resolver.drawConsumable table scene = .ok result after ∧
      result.row = some row ∧ row ∈ table.rows ∧
      row.identity ∉ scene.store.round table name resolver.options.story ∧
      after.store.items name resolver.options.story =
        scene.store.round table name resolver.options.story ++ [row.identity] ∧
      after.Writable ∧ (Keyed.keys after.store.records).Nodup := by
  generalize hstory : resolver.options.story = story
  obtain ⟨left, havailable, hleft, -⟩ := run_available hname story hwritable
  have hitems : left.store.items name story = scene.store.round table name story := by
    rw [← items_available hname story hdistinct, Act.after_of_ok havailable]
  have hkeys : (Keyed.keys left.store.records).Nodup := by
    rw [← Act.after_of_ok havailable]
    exact nodup_available hname story hdistinct
  have hpool : (scene.store.pool table name story).rows ≠ [] := pool_rows_ne_nil hrows
  have hfifty : (0 : Int) < 50 := by decide
  obtain ⟨result, rolledDesk, row, hrolled, hrow, hmem⟩ :=
    RandomTable.run_roll (pool_rollable htable) (pool_renders hrenders) hpool none hfifty left.desk
  obtain ⟨desk, hroll⟩ : ∃ desk,
      Registry.rollOn (scene.store.pool table name story) none 50 left.desk = .ok result desk :=
    ⟨_, Registry.run_rollOn hrolled⟩
  have hfiles : desk.files = left.desk.files := ((Registry.keeps_rollOn _ _ _).of_ok hroll).1
  obtain ⟨hrowTable, hrowRound⟩ := mem_pool hmem
  have hwritable' : Scene.Writable { left with desk } := writable_of_files (s := left) rfl hfiles hleft
  obtain ⟨after, hmark, hafter⟩ := run_markConsumed name story row.identity hwritable'
  refine ⟨result, after, row, ?_, hrow, hrowTable, hrowRound, ?_, hafter, ?_⟩
  · have hidentity := TableResult.identity_of_row hrow
    simp only [drawConsumable, hstory, Act.run_bind, havailable, Scene.run_liftDesk,
      Scene.run_atDesk, hroll, hidentity, hname, hmark, Act.run_pure]
  · have hrolled : Scene.store { left with desk } = left.store := rfl
    rw [← Act.after_of_ok hmark, items_markConsumed, hrolled, hitems, if_neg hrowRound]
  · rw [← Act.after_of_ok hmark]
    exact nodup_markConsumed name story _ hkeys

end Resolver

end TaleLoom
