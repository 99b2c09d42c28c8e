import TaleLoom.Proofs.Lasting
import TaleLoom.Proofs.Value.Room
import TaleLoom.Proofs.Value.RoundTrip
/-!
The file of a consumption store. Opening a file gives its records, or none and a report where the file
cannot be read; it fails only at a document in which lists and objects stand too deep for the reader.
After any calls on an opened store the file, opened again, gives the records of the store.
-/

namespace TaleLoom

namespace FileTree

variable {tree : FileTree} {p : Path}

/-- Nothing blocks the way to a path exactly where all the folders above it are there. -/
theorem blocked?_eq_none_iff (tree : FileTree) (steps : List String) :
    tree.blocked? steps = none ↔ ∀ holder ∈ holders steps, tree.isFolder holder = true := by
  rw [blocked?, List.findSome?_eq_none_iff]
  refine forall₂_congr fun holder _ => ?_
  cases tree.isFolder holder with
  | true => simp
  | false => cases tree.content? holder <;> simp

/-- What was written to a file is read from it. -/
theorem read_of_write {tree' : FileTree} {s : String} (h : tree.write p (.text s) = .ok tree') :
    tree'.isAt p = true ∧ tree'.read p = .ok s := by
  unfold write at h
  split at h
  · cases h
  · next hleaf =>
    split at h
    · cases h
    · next hblocked =>
      obtain rfl := Except.ok.inj h
      have hcontent : Keyed.get? p.steps (Keyed.set p.steps (Content.text s) tree.files) =
          some (.text s) := by simp [Keyed.get?_set]
      have hblocked' : blocked? { tree with files := Keyed.set p.steps (.text s) tree.files } p.steps =
          none := (blocked?_eq_none_iff _ _).2 ((blocked?_eq_none_iff tree _).1 hblocked)
      have hleaf' : isFolder { tree with files := Keyed.set p.steps (.text s) tree.files } p.steps =
          false := Bool.not_eq_true _ ▸ hleaf
      constructor
      · simp [isAt, content?, hcontent]
      · simp only [read, hleaf', Bool.false_eq_true, if_false, hblocked', content?, hcontent]

theorem read_ne_tooDeep (tree : FileTree) (p : Path) : tree.read p ≠ .error .tooDeep := by
  intro h
  unfold read at h
  split at h
  · cases h
  · split at h
    · next fault hblocked =>
      obtain rfl := Except.error.inj h
      obtain ⟨holder, -, hholder⟩ := List.exists_of_findSome?_eq_some hblocked
      split at hholder
      · cases hholder
      · split at hholder <;> cases hholder
    · split at h <;> cases h

end FileTree

namespace ConsumptionStore

section Records

theorem ofValue_toValue (r : ConsumedRecord) : ConsumedRecord.ofValue r.toValue = .ok r := by
  have hplain (items : List String) : (items.map Value.text).map Value.plain = items := by
    induction items with
    | nil => rfl
    | cons item rest ih => rw [List.map_cons, List.map_cons, ih]; rfl
  obtain ⟨table, story, items⟩ := r
  simp [ConsumedRecord.ofValue, ConsumedRecord.toValue, Value.require, Keyed.get?, hplain, Value.plain]

theorem readsBack_record (r : ConsumedRecord) : r.toValue.ReadsBack := by
  refine Value.readsBack_object (by simp [Keyed.keys]) ?_
  intro field hfield
  simp only [List.mem_cons, List.not_mem_nil, or_false] at hfield
  rcases hfield with rfl | rfl | rfl
  · exact Value.readsBack_text _
  · exact Value.readsBack_text _
  · refine Value.readsBack_list fun v hv => ?_
    obtain ⟨item, -, rfl⟩ := List.mem_map.1 hv
    exact Value.readsBack_text item

theorem readsBack_toValue {store : ConsumptionStore} (h : (Keyed.keys store.records).Nodup) :
    store.toValue.ReadsBack := by
  refine Value.readsBack_object ?_ ?_
  · rw [Keyed.keys, List.map_map]
    exact h
  · intro field hfield
    obtain ⟨entry, -, rfl⟩ := List.mem_map.1 hfield
    exact readsBack_record entry.2

theorem nesting_record (r : ConsumedRecord) : r.toValue.nesting ≤ 2 := by
  refine Value.nesting_object_le_iff.2 ⟨1, rfl, ?_⟩
  intro field hfield
  simp only [List.mem_cons, List.not_mem_nil, or_false] at hfield
  rcases hfield with rfl | rfl | rfl
  · exact Nat.zero_le 1
  · exact Nat.zero_le 1
  · refine Value.nesting_list_le_iff.2 ⟨0, rfl, fun v hv => ?_⟩
    obtain ⟨item, -, rfl⟩ := List.mem_map.1 hv
    exact Nat.le_refl 0

/-- The entries of a record stand in the record, and that in the document. -/
theorem nesting_toValue (store : ConsumptionStore) : store.toValue.nesting ≤ 3 := by
  refine Value.nesting_object_le_iff.2 ⟨2, rfl, fun field hfield => ?_⟩
  obtain ⟨entry, -, rfl⟩ := List.mem_map.1 hfield
  exact nesting_record entry.2

def decodeField (field : String × Value) : Except Fault (String × ConsumedRecord) := do
  return (field.1, ← ConsumedRecord.ofValue field.2)

theorem recordsOf_object (fields : List (String × Value)) :
    recordsOf (.object fields) = fields.mapM decodeField := rfl

theorem recordsOf_toValue (store : ConsumptionStore) :
    recordsOf store.toValue = .ok store.records := by
  rw [toValue, recordsOf_object]
  apply mapM_map_eq_ok
  intro entry _
  simp [decodeField, ofValue_toValue]

theorem decodeField_ok_iff {field : String × Value} {entry : String × ConsumedRecord} :
    decodeField field = .ok entry ↔
      entry.1 = field.1 ∧ ConsumedRecord.ofValue field.2 = .ok entry.2 := by
  rw [decodeField]
  cases ConsumedRecord.ofValue field.2 with
  | error fault => simp
  | ok r => simp [Prod.ext_iff, eq_comm]

/-- A document is decoded field by field: each record has the name of its field. -/
theorem recordsOf_ok_iff {fields : List (String × Value)} {records : Keyed String ConsumedRecord} :
    recordsOf (.object fields) = .ok records ↔
      List.Forall₂ (fun field entry => entry.1 = field.1 ∧
        ConsumedRecord.ofValue field.2 = .ok entry.2) fields records := by
  simp only [recordsOf_object, mapM_ok_iff, decodeField_ok_iff]

theorem require_ne_tooDeep (name : String) (v : Value) : v.require name ≠ .error .tooDeep := by
  intro h
  unfold Value.require at h
  split at h
  · split at h <;> cases h
  · cases h

theorem ofValue_ne_tooDeep (v : Value) : ConsumedRecord.ofValue v ≠ .error .tooDeep := by
  intro h
  rcases parts_of_bind_eq_error h with hitems | ⟨items, -, h⟩
  · exact require_ne_tooDeep _ _ hitems
  · split at h
    · rcases parts_of_bind_eq_error h with htable | ⟨table, -, h⟩
      · exact require_ne_tooDeep _ _ htable
      · rcases parts_of_bind_eq_error h with hstory | ⟨story, -, h⟩
        · exact require_ne_tooDeep _ _ hstory
        · cases h
    · cases h

/-- No document stands too deep to be decoded once it has been read. -/
theorem recordsOf_ne_tooDeep (v : Value) : recordsOf v ≠ .error .tooDeep := by
  intro h
  cases v with
  | object fields =>
    rw [recordsOf_object] at h
    obtain ⟨field, -, hfield⟩ := exists_of_mapM_error h
    rcases parts_of_bind_eq_error hfield with hrecord | ⟨r, -, h⟩
    · exact ofValue_ne_tooDeep _ hrecord
    · cases h
  | _ => cases h

theorem keys_of_recordsOf {fields : List (String × Value)} {records : Keyed String ConsumedRecord}
    (h : recordsOf (.object fields) = .ok records) : Keyed.keys records = Keyed.keys fields := by
  have hdecoded := recordsOf_ok_iff.1 h
  clear h
  induction hdecoded with
  | nil => rfl
  | cons hfield _ ih =>
    rw [Keyed.keys, Keyed.keys, List.map_cons, List.map_cons, hfield.1]
    exact congrArg _ ih

end Records

section Opening

/-- The records of the file at a path, which may fail to be read. -/
def recordsIn (desk : Desk) (file : Path) : Except Fault (Keyed String ConsumedRecord) := do
  let s ← desk.files.read file
  match Value.read desk.room s with
  | .ok v => recordsOf v
  | .error .malformed => .error .notADocument
  | .error .numberTooLong => .error .numeral
  | .error .tooDeep => .error .tooDeep

def openedStore? (desk : Desk) (file : Path) : Option ConsumptionStore :=
  if desk.files.isAt file then
    match recordsIn desk file with
    | .ok records => some { records, file := some file }
    | .error .tooDeep => none
    | .error _ => some { file := some file, recovered := true }
  else some { file := some file }

def corrupted (file : Path) (fault : Fault) : Notice :=
  ⟨.error, "Corrupted consumption state in " ++ file.text ++ ", starting empty: " ++ fault.message⟩

variable {desk : Desk} {file : Path}

/-- The document of a file is read and decoded without any change. -/
theorem run_recordsIn (desk : Desk) (file : Path) :
    Act.attempt (do recordsOf (← Desk.readDocument file) : Act Desk _) desk =
      .ok (recordsIn desk file) desk := by
  simp only [Act.run_attempt, Desk.readDocument, Desk.readText, recordsIn, Act.run_bind, Act.run_get,
    Act.run_liftExcept]
  cases hread : desk.files.read file with
  | error fault => simp
  | ok s =>
    simp only [Act.run_ofExcept_ok, ok_bind]
    cases hvalue : Value.read desk.room s with
    | ok v => cases hrecords : recordsOf v <;> simp [hrecords]
    | error fault => cases fault <;> simp

/-- What opening a file comes to: its records, no records and a report, or a document too deep. -/
theorem run_openFile (file : Path) (desk : Desk) :
    openFile file desk =
      if desk.files.isAt file then
        match recordsIn desk file with
        | .ok records => .ok { records, file := some file } desk
        | .error .tooDeep => .error .tooDeep desk
        | .error fault => .ok { file := some file, recovered := true }
            { desk with notices := desk.notices.push (corrupted file fault) }
      else .ok { file := some file } desk := by
  simp only [openFile, Act.run_bind, Act.run_get]
  cases hat : desk.files.isAt file with
  | false => simp
  | true =>
    simp only [Bool.not_true, Bool.false_eq_true, if_false, if_true, Act.run_bind, run_recordsIn]
    cases hrecords : recordsIn desk file with
    | ok records => rfl
    | error fault => cases fault <;> rfl

/-- What a file gives depends on the files and the room for documents alone. -/
theorem openFile_iff {store : ConsumptionStore} :
    (∃ opened, openFile file desk = .ok store opened) ↔ openedStore? desk file = some store := by
  rw [run_openFile, openedStore?]
  split
  · cases recordsIn desk file with
    | ok records => simp [eq_comm]
    | error fault => cases fault <;> simp [eq_comm]
  · simp [eq_comm]

theorem of_openFile {store : ConsumptionStore} {opened : Desk}
    (h : openFile file desk = .ok store opened) :
    store.file = some file ∧ opened.files = desk.files ∧ opened.room = desk.room := by
  rw [run_openFile] at h
  split at h
  · split at h
    · cases h; exact ⟨rfl, rfl, rfl⟩
    · cases h
    · cases h; exact ⟨rfl, rfl, rfl⟩
  · cases h; exact ⟨rfl, rfl, rfl⟩

theorem stopped_of_openFile {fault : Fault} {stopped : Desk}
    (h : openFile file desk = .error fault stopped) : stopped = desk := by
  rw [run_openFile] at h
  split at h
  · split at h
    · cases h
    · cases h; rfl
    · cases h
  · cases h

theorem openedStore?_congr {desk' : Desk} (hfiles : desk'.files = desk.files)
    (hroom : desk'.room = desk.room) (file : Path) :
    openedStore? desk' file = openedStore? desk file := by
  rw [openedStore?, openedStore?, recordsIn, recordsIn, hfiles, hroom]

/-- The records of a file are those of the object that is its document. -/
theorem document_of_recordsIn {records : Keyed String ConsumedRecord}
    (h : recordsIn desk file = .ok records) :
    ∃ fields s, desk.files.read file = .ok s ∧ Value.read desk.room s = .ok (.object fields) ∧
      recordsOf (.object fields) = .ok records ∧
      Desk.readDocument file desk = .ok (.object fields) desk := by
  unfold recordsIn at h
  cases hread : desk.files.read file with
  | error fault => simp [hread] at h
  | ok s =>
    cases hvalue : Value.read desk.room s with
    | error fault => cases fault <;> simp [hread, hvalue] at h
    | ok v =>
      simp only [hread, ok_bind, hvalue] at h
      cases v with
      | object fields =>
        refine ⟨fields, s, rfl, hvalue, h, ?_⟩
        simp [Desk.readDocument, Desk.readText, hread, hvalue]
      | _ => cases h

/-- Nothing but the document of a file stands too deep. -/
theorem recordsIn_tooDeep_iff : recordsIn desk file = .error .tooDeep ↔
    ∃ s, desk.files.read file = .ok s ∧ Value.read desk.room s = .error .tooDeep := by
  unfold recordsIn
  cases hread : desk.files.read file with
  | error fault => 
    have hother : fault ≠ .tooDeep := by
      rintro rfl
      exact FileTree.read_ne_tooDeep _ _ hread
    simp [hother]
  | ok s =>
    cases hvalue : Value.read desk.room s with
    | error fault => cases fault <;> simp [hvalue]
    | ok v => simpa [hvalue] using recordsOf_ne_tooDeep v

/-- Opening a file fails only where there is no room for its document. -/
theorem openFile_fails_iff : (∃ fault stopped, openFile file desk = .error fault stopped) ↔
    desk.files.isAt file = true ∧ recordsIn desk file = .error .tooDeep := by
  rw [run_openFile]
  split
  · next hat =>
    cases recordsIn desk file with
    | ok records => simp
    | error fault => cases fault <;> simp [hat]
  · next hat => simp [hat]

theorem nodup_openedStore? {store : ConsumptionStore} (h : openedStore? desk file = some store) :
    (Keyed.keys store.records).Nodup := by
  unfold openedStore? at h
  split at h
  · split at h
    · next records hrecords =>
      cases h
      obtain ⟨fields, s, -, hvalue, hdecoded, -⟩ := document_of_recordsIn hrecords
      rw [keys_of_recordsOf hdecoded]
      exact Value.nodup_read hvalue
    · cases h
    · cases h; exact List.nodup_nil
  · cases h; exact List.nodup_nil

/-- A file that holds the records of a store, as the store writes them, gives these records. -/
theorem recordsIn_of_read {store : ConsumptionStore} (hroom : 3 ≤ desk.room)
    (hread : desk.files.read file = .ok store.toValue.write)
    (hkeys : (Keyed.keys store.records).Nodup) : recordsIn desk file = .ok store.records := by
  have hdocument : Value.read desk.room store.toValue.write = .ok store.toValue :=
    Value.read_write (readsBack_toValue hkeys) (Nat.le_trans (nesting_toValue store) hroom)
  simp only [recordsIn, hread, ok_bind, hdocument, recordsOf_toValue]

end Opening

section Calls

/-- A call on a store. -/
inductive Call where
  | available (table : RandomTable) (story : String)
  | markConsumed (table : Value) (story entry : String)
  | reset (table : Value) (story : Option String)
  | resetStory (story : String)

def Call.run : Call → Act Scene Unit
  | .available table story => discard (ConsumptionStore.available table story)
  | .markConsumed table story entry => ConsumptionStore.markConsumed table story entry
  | .reset table story => ConsumptionStore.reset table story
  | .resetStory story => ConsumptionStore.resetStory story

def afterCalls (calls : List Call) (scene : Scene) : Scene :=
  calls.foldl (fun scene call => call.run.after scene) scene

/-- The store's file can be written, and opened again it gives the records of the store. -/
structure Kept (file : Path) (scene : Scene) : Prop where
  named : scene.store.file = some file
  nodup : (Keyed.keys scene.store.records).Nodup
  accepts : scene.desk.files.Accepts file
  roomy : 3 ≤ scene.desk.room
  opened : (openedStore? scene.desk file).map (·.records) = some scene.store.records

variable {file : Path} {scene : Scene}

theorem Kept.writable (h : Kept file scene) : scene.Writable := by
  intro other hother
  obtain rfl : file = other := Option.some.inj (h.named.symm.trans hother)
  exact h.accepts

theorem Kept.of_files (h : Kept file scene) {scene' : Scene} (hstore : scene'.store = scene.store)
    (hfiles : scene'.desk.files = scene.desk.files) (hroom : scene'.desk.room = scene.desk.room) :
    Kept file scene' where
  named := hstore ▸ h.named
  nodup := hstore ▸ h.nodup
  accepts := hfiles ▸ h.accepts
  roomy := hroom ▸ h.roomy
  opened := by rw [hstore, openedStore?_congr hfiles hroom, h.opened]

/-- What a store writes is in its file. -/
theorem read_of_persist {after : Scene} (hfile : scene.store.file = some file)
    (h : persist scene = .ok () after) :
    after.desk.files.isAt file = true ∧
      after.desk.files.read file = .ok scene.store.toValue.write := by
  simp only [persist, hfile, Act.run_bind, Act.run_get, Scene.run_liftDesk, Scene.run_atDesk] at h
  cases hmake : scene.desk.files.makeFolders file with
  | error fault => simp [run_makeFolders_error hmake] at h
  | ok made =>
    simp only [run_makeFolders_ok hmake] at h
    cases hwrite : made.write file (.text scene.store.toValue.write) with
    | error fault => simp [Desk.writeText, hwrite] at h
    | ok written =>
      simp only [Desk.writeText, Act.run_bind, Act.run_get, Act.run_liftExcept, hwrite,
        Act.run_ofExcept_ok, Act.run_modify] at h
      cases h
      exact FileTree.read_of_write hwrite

theorem keeps_room_persist : persist.Keeps (.fixing (·.desk.room)) := Desk.room_lasts.persist

/-- After a change that is written the file gives the changed records. -/
theorem kept_after_change (h : Kept file scene)
    {f : Keyed String ConsumedRecord → Keyed String ConsumedRecord}
    (hkeys : (Keyed.keys (f scene.store.records)).Nodup) (table : Value) (story action : String)
    (entry : Value) :
    Kept file ((change f >>= fun _ => persist >>= fun _ => note table story action entry).after
      scene) := by
  let changed : Scene := { scene with store := scene.store.withRecords (f scene.store.records) }
  have hchanged : changed.Writable := writable_of_files rfl rfl h.writable
  obtain ⟨written, hpersist, hwritable, -⟩ := run_persist hchanged
  have hstore : written.store = changed.store := store_eq_of_deskOnly (keeps_persist.of_ok hpersist)
  have hroom : written.desk.room = changed.desk.room := keeps_room_persist.of_ok hpersist
  have hfile : changed.store.file = some file := h.named
  obtain ⟨hat, hread⟩ := read_of_persist hfile hpersist
  have hwritten : Kept file written := by
    have hroomy : 3 ≤ written.desk.room := hroom ▸ h.roomy
    refine ⟨hstore ▸ h.named, hstore ▸ hkeys, hwritable file (hstore ▸ h.named), hroomy, ?_⟩
    have hrecords := recordsIn_of_read hroomy hread hkeys
    rw [hstore, openedStore?, if_pos hat, hrecords]
    rfl
  have hrun : (change f >>= fun _ => persist >>= fun _ => note table story action entry) scene =
      .ok () (written.posted (.consumption table (.text story) (.text action) entry)
        (.object [])) := by
    have hchange : change f scene = .ok () changed := rfl
    simp only [Act.run_bind, hchange, hpersist, run_note]
  rw [Act.after_of_ok hrun]
  exact hwritten.of_files rfl rfl rfl

/-- Forgetting records is written unless there was nothing to forget. -/
theorem kept_after_forget (h : Kept file scene) {kept : Keyed String ConsumedRecord}
    (hsub : kept.Sublist scene.store.records) (table : Value) (story action : String) :
    Kept file ((change (fun _ => kept) >>= fun _ =>
      if kept.length < scene.store.records.length then
        persist >>= fun _ => note table story action
      else note table story action).after scene) := by
  by_cases hfewer : kept.length < scene.store.records.length
  · simp only [hfewer, if_true]
    exact kept_after_change (f := fun _ => kept) h (Keyed.nodup_keys_of_sublist hsub h.nodup) _ _ _ _
  · -- all records are still there, and the file holds them
    obtain rfl : kept = scene.store.records := hsub.eq_of_length_le (Nat.le_of_not_lt hfewer)
    have hchange : change (fun _ => scene.store.records) scene = .ok () scene := rfl
    simp only [hfewer, if_false, Act.after_bind, hchange, Act.after_of_ok (run_note _ _ _ _ _)]
    exact h.of_files rfl rfl rfl

/-- Every call leaves the store's file with the records of the store, whether or not the call fails. -/
theorem kept_call (call : Call) (h : Kept file scene) : Kept file (call.run.after scene) := by
  cases call with
  | available table story =>
    have hrun : (Call.available table story).run.after scene = (available table story).after scene :=
      Act.after_map _ _ _
    rw [hrun]
    rcases asText_cases table.name with ⟨name, hname⟩ | hname
    · rw [Act.after_congr (available_eq scene name story table hname)]
      split
      · rw [Act.after_bind_pure]
        exact kept_after_change h (Keyed.nodup_keys_of_sublist (Keyed.erase_sublist _ _) h.nodup) _ _ _ _
      · exact h
    · rwa [show (ConsumptionStore.available table story).after scene = scene from
        after_of_asText_error hname]
  | markConsumed table story entry =>
    rcases asText_cases table with ⟨name, rfl⟩ | hname
    · have hrun := Act.after_congr (markConsumed_eq scene name story entry)
      rw [Call.run, hrun]
      split
      · exact h
      · exact kept_after_change h (Keyed.nodup_keys_set _ h.nodup) _ _ _ _
    · rwa [show (Call.markConsumed table story entry).run.after scene = scene from
        after_of_asText_error hname]
  | reset table story =>
    cases hkept : recordsWithout table scene.store.records story with
    | ok kept =>
      rw [Call.run, Act.after_congr (reset_eq scene hkept)]
      exact kept_after_forget h (recordsWithout_sublist hkept) _ _ _
    | error fault => rwa [Call.run, after_reset_of_error scene hkept]
  | resetStory story =>
    rw [Call.run, Act.after_congr (resetStory_eq scene story)]
    exact kept_after_forget h List.filter_sublist _ _ _

theorem kept_afterCalls (calls : List Call) (h : Kept file scene) :
    Kept file (afterCalls calls scene) := by
  induction calls generalizing scene with
  | nil => exact h
  | cons call rest ih => exact ih (kept_call call h)

end Calls

/-- The file of a store is the store. Opening a file changes no file, and fails only where its document has
lists and objects that stand too deep for the reader: a file that is not there gives an empty store, a
file that can be read gives its fields, each one decoded, and any other file gives an empty store that is
marked, and one report. After any calls on the opened store, of which each may fail, the file opened again
gives the records of the store, as long as the reader has room for the three levels that a store is
written in. -/
theorem reopened_eq (file : Path) (desk : Desk) :
    ((∃ fault stopped, openFile file desk = .error fault stopped) ↔
      desk.files.isAt file = true ∧
        ∃ s, desk.files.read file = .ok s ∧ Value.read desk.room s = .error .tooDeep) ∧
    ∀ store opened, openFile file desk = .ok store opened → opened.files = desk.files ∧
      (desk.files.isAt file = false ∧ store.records = [] ∧ store.recovered = false ∧ opened = desk ∨
        (∃ fields, Desk.readDocument file desk = .ok (.object fields) desk ∧
          List.Forall₂ (fun field entry => entry.1 = field.1 ∧
            ConsumedRecord.ofValue field.2 = .ok entry.2) fields store.records) ∧
          store.recovered = false ∧ opened = desk ∨
        desk.files.isAt file = true ∧ store.records = [] ∧ store.recovered = true ∧
          ∃ fault, recordsIn desk file = .error fault ∧
            opened = { desk with notices := desk.notices.push (corrupted file fault) }) ∧
      (desk.files.Accepts file → 3 ≤ desk.room → ∀ scene : Scene, scene.store = store →
        scene.desk.files = desk.files → scene.desk.room = desk.room → ∀ calls,
          ∃ again after, openFile file (afterCalls calls scene).desk = .ok again after ∧
            again.records = (afterCalls calls scene).store.records ∧
            again.toValue = (afterCalls calls scene).store.toValue) := by
  refine ⟨by rw [openFile_fails_iff, recordsIn_tooDeep_iff], fun store opened hopen => ?_⟩
  obtain ⟨hfile, hfiles, -⟩ := of_openFile hopen
  have hgiven : openedStore? desk file = some store := openFile_iff.1 ⟨opened, hopen⟩
  refine ⟨hfiles, ?_, ?_⟩
  · rw [run_openFile] at hopen
    split at hopen
    · next hat =>
      split at hopen
      · next records hin =>
        cases hopen
        obtain ⟨fields, s, -, -, hdecoded, hdocument⟩ := document_of_recordsIn hin
        exact Or.inr (Or.inl ⟨⟨fields, hdocument, recordsOf_ok_iff.1 hdecoded⟩, rfl, rfl⟩)
      · cases hopen
      · next fault _ hin =>
        cases hopen
        exact Or.inr (Or.inr ⟨hat, rfl, rfl, fault, hin, rfl⟩)
    · next hat =>
      cases hopen
      exact Or.inl ⟨Bool.not_eq_true _ ▸ hat, rfl, rfl, rfl⟩
  · rintro haccepts hroomy scene rfl hsame hroom calls
    have hstart : Kept file scene := by
      refine ⟨hfile, nodup_openedStore? hgiven, hsame ▸ haccepts, hroom ▸ hroomy, ?_⟩
      rw [openedStore?_congr hsame hroom, hgiven]
      rfl
    have hkept := kept_afterCalls calls hstart
    obtain ⟨again, hagain, hrecords⟩ := Option.map_eq_some_iff.1 hkept.opened
    obtain ⟨after, hrun⟩ := openFile_iff.2 hagain
    exact ⟨again, after, hrun, hrecords, by rw [toValue, toValue, hrecords]⟩

/-- A draw that was marked in a new file is there when the file is opened again. -/
theorem reopened_eq_marked :
    let file : Path := ⟨"", ["state.json"]⟩
    let scene : Scene := { Scene.blank with store := { file := some file } }
    scene.desk.files.Accepts file ∧ openFile file scene.desk = .ok scene.store scene.desk ∧
      ∃ again after, openFile file
        (afterCalls [.markConsumed (.text "Omens") "harbor" "raven"] scene).desk = .ok again after ∧
          again.items "Omens" "harbor" = ["raven"] := by
  intro file scene
  have haccepts : scene.desk.files.Accepts file := by
    have hsteps : file.steps = ["state.json"] := rfl
    refine ⟨rfl, ?_⟩
    rw [hsteps]
    simp [FileTree.holders]
  have hopen : openFile file scene.desk = .ok scene.store scene.desk := rfl
  obtain ⟨-, -, hcalls⟩ := (reopened_eq file scene.desk).2 scene.store scene.desk hopen
  obtain ⟨again, after, hagain, hrecords, -⟩ := hcalls haccepts (by decide) scene rfl rfl rfl
    [.markConsumed (.text "Omens") "harbor" "raven"]
  refine ⟨haccepts, hopen, again, after, hagain, ?_⟩
  have hitems : ((markConsumed (.text "Omens") "harbor" "raven").after scene).store.items "Omens"
      "harbor" = ["raven"] := items_markConsumed "Omens" "harbor" "raven"
  rw [items_eq, hrecords]
  exact hitems

/-- A file of a hundred thousand brackets is garbage, and opening it fails. -/
theorem brackets_not_opened :
    let file : Path := ⟨"", ["state.json"]⟩
    let brackets := String.ofList (List.replicate 100000 '[')
    ∃ desk, Desk.writeText file brackets Scene.blank.desk = .ok () desk ∧
      openFile file desk = .error .tooDeep desk := by
  intro file brackets
  obtain ⟨files, hwrite⟩ : ∃ files,
      Scene.blank.desk.files.write file (.text brackets) = .ok files := ⟨_, rfl⟩
  obtain ⟨hat, hread⟩ := FileTree.read_of_write hwrite
  have hdeep : Value.read Scene.blank.desk.room brackets = .error .tooDeep :=
    Value.read_brackets (by decide)
  have hrecords : recordsIn { Scene.blank.desk with files } file = .error .tooDeep :=
    recordsIn_tooDeep_iff.2 ⟨brackets, hread, hdeep⟩
  refine ⟨_, run_writeText_ok hwrite, ?_⟩
  rw [run_openFile, if_pos hat, hrecords]

end ConsumptionStore

end TaleLoom
