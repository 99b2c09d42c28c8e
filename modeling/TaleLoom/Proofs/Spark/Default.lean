import TaleLoom.Proofs.Lasting
import TaleLoom.Proofs.Notices
import TaleLoom.Proofs.Spark.Import
/-!
What keeps the default table. A table cannot be removed where it is flagged as a default one, but the
flag is that of the table and the default table is known by its name: a table without the flag can be put
under the name. So the default table is there and cannot be removed exactly while the last table that was
put under its name has the flag (`SparkLibrary.default_kept_iff`).
-/

namespace TaleLoom.SparkLibrary

def defaultKey : Value := .text BuiltIn.defaultSparkName

def default? (library : SparkLibrary) : Option SparkTable := Keyed.get? defaultKey library.tables

def isSafe (library : SparkLibrary) : Bool := library.default?.any (·.isDefault)

section Imports

variable {report : ImportReport} {entries : List (String × Value)} {scene : Scene}

def takenOf : List (String × Value) → List SparkTable
  | [] => []
  | (_, v) :: rest =>
    match SparkTable.ofValue v with
    | .error .tooLarge => []
    | .error _ => takenOf rest
    | .ok table =>
      if table.entries.isEmpty then takenOf rest
      else if table.name.isKey then table :: takenOf rest
      else []

def taken (room : Nat) (text : String) : List SparkTable := takenOf ((tablesIn? room text).getD [])

theorem isKey_of_mem_takenOf {table : SparkTable} (h : table ∈ takenOf entries) :
    table.name.isKey = true := by
  induction entries with
  | nil => cases h
  | cons entry rest ih =>
    rw [takenOf] at h
    split at h
    · cases h
    · exact ih h
    · split at h
      · exact ih h
      · split at h
        · next hkey =>
          rcases List.mem_cons.1 h with rfl | hrest
          · exact hkey
          · exact ih hrest
        · cases h

/-- However an import of entries ends, it has put its tables into the library, one after the other. -/
theorem after_importTables (entries : List (String × Value)) (report : ImportReport) (scene : Scene) :
    (importTables report entries).after scene = imported (takenOf entries) scene := by
  induction entries generalizing report scene with
  | nil => rfl
  | cons entry rest ih =>
    obtain ⟨key, v⟩ := entry
    cases htable : SparkTable.ofValue v with
    | error why =>
      by_cases hwhy : why = .tooLarge
      · subst hwhy
        have hrun : importTables report ((key, v) :: rest) scene = .error .tooLarge scene := by
          rw [importTables, htable]
          rfl
        have htaken : takenOf ((key, v) :: rest) = [] := by rw [takenOf, htable]
        rw [Act.after_of_error hrun, htaken]
        rfl
      · have htaken : takenOf ((key, v) :: rest) = takenOf rest := by
          rw [takenOf, htable]
          split
          · next hlarge => exact absurd (Except.error.inj hlarge) hwhy
          · rfl
          · next hok => cases hok
        rw [importTables_bad htable hwhy, ih, htaken]
    | ok table =>
      by_cases hempty : table.entries = []
      · have htaken : takenOf ((key, v) :: rest) = takenOf rest := by simp [takenOf, htable, hempty]
        rw [importTables_empty htable hempty, ih, htaken]
      · cases hkey : table.name.isKey with
        | true =>
          have htaken : takenOf ((key, v) :: rest) = table :: takenOf rest := by
            simp [takenOf, htable, hempty, hkey]
          have hstep : (importTables report ((key, v) :: rest)).after scene =
              (importTables (report.taken table) rest).after (imported [table] scene) := by
            simp only [Act.after, run_importTables_table htable hempty hkey]
          rw [hstep, ih, htaken]
          rfl
        | false =>
          have hnonempty : ¬ table.entries.isEmpty = true := by simpa using hempty
          have hrun : importTables report ((key, v) :: rest) scene = .error .wrongKind scene := by
            rw [importTables, htable]
            dsimp only
            rw [if_neg hnonempty]
            simp only [Act.run_bind, Act.run_get, Act.run_liftExcept, add_of_not_isKey hkey,
              Act.run_ofExcept_error]
          have htaken : takenOf ((key, v) :: rest) = [] := by simp [takenOf, htable, hempty, hkey]
          rw [Act.after_of_error hrun, htaken]
          rfl

theorem keeps_tables_importSettings (fields : List (String × Value)) :
    (importSettings fields).Keeps (.fixing (·.sparks.tables)) := by
  intro scene
  rw [Act.after_of_ok (run_importSettings fields scene)]
  rfl

theorem tables_after_importDocument (text : String) (scene : Scene) :
    ((importDocument text).after scene).sparks.tables =
      (scene.sparks.withTables (taken scene.desk.room text)).tables := by
  cases htables : tablesIn? scene.desk.room text with
  | none =>
    have hnone : taken scene.desk.room text = [] := by rw [taken, htables]; rfl
    rw [hnone]
    rcases run_importDocument_none htables with ⟨-, fault, hrun⟩ | ⟨-, issue, hrun⟩
    · rw [Act.after_of_error hrun]
      rfl
    · rw [Act.after_of_ok hrun]
      rfl
  | some entries =>
    have hentries : taken scene.desk.room text = takenOf entries := by rw [taken, htables]; rfl
    obtain ⟨fields, -, hrun⟩ := run_importDocument htables
    have hrest (report : ImportReport) : (do
        importSettings fields
        return { report with success := 0 < report.imported } : Act Scene ImportReport).Keeps
          (.fixing (·.sparks.tables)) :=
      (keeps_tables_importSettings fields).bind fun _ => Act.Keeps.pure _
    have hafter := after_importTables entries { success := false } scene
    rw [Act.after_congr hrun, Act.after_bind, hentries]
    cases himport : importTables { success := false } entries scene with
    | ok report imported =>
      rw [Act.after_of_ok himport] at hafter
      calc _ = imported.sparks.tables := hrest report imported
        _ = _ := by rw [hafter]; rfl
    | error fault stopped =>
      rw [Act.after_of_error himport] at hafter
      rw [hafter]
      rfl

end Imports

section Calls

/-- A call on a library. -/
inductive Call where
  | add (table : SparkTable)
  | remove (name : Value)
  | importDocument (text : String)
  | generate (count : Int) (purpose : SparkUse) (given : Option (List SparkTable))
  | reset

def Call.run : Call → Act Scene Unit
  | .add table => do
    let sparks ← (← get).sparks.add table
    modify fun scene => { scene with sparks }
  | .remove name => modify fun scene => { scene with sparks := (scene.sparks.remove name).1 }
  | .importDocument text => discard (SparkLibrary.importDocument text)
  | .generate count purpose given => discard (SparkLibrary.generate count purpose given)
  | .reset => modify fun scene => { scene with sparks := .initial scene.desk.clock.millis }

def lastDefault? (tables : List SparkTable) : Option SparkTable :=
  tables.reverse.find? fun table => table.name.same defaultKey

def Call.flag? (room : Nat) : Call → Option Bool
  | .add table => if table.name.same defaultKey then some table.isDefault else none
  | .importDocument text => (lastDefault? (taken room text)).map (·.isDefault)
  | .reset => some true
  | .remove _ => none
  | .generate .. => none

variable {scene : Scene}

theorem default?_withTables (library : SparkLibrary) {tables : List SparkTable}
    (hkeys : ∀ table ∈ tables, table.name.isKey = true) :
    (library.withTables tables).default? = (lastDefault? tables).or library.default? := by
  rw [default?, tables_withTables, get?_withTables hkeys]
  rfl

/-- What is under the name of the default table after another table was put there, or none was. -/
theorem isSafe_of_or {library : SparkLibrary} {found old : Option SparkTable}
    (h : library.default? = found.or old) :
    library.isSafe = (found.map (·.isDefault)).getD (old.any (·.isDefault)) := by
  rw [isSafe, h]
  cases found <;> rfl

theorem run_add {table : SparkTable} (hkey : table.name.isKey = true) (scene : Scene) :
    (Call.add table).run scene = .ok () { scene with sparks := scene.sparks.withTable table } := by
  simp only [Call.run, Act.run_bind, Act.run_get, Act.run_liftExcept, add_of_isKey hkey,
    Act.run_ofExcept_ok, Act.run_modify]

theorem run_add_error {table : SparkTable} (hkey : table.name.isKey = false) (scene : Scene) :
    (Call.add table).run scene = .error .wrongKind scene := by
  simp only [Call.run, Act.run_bind, Act.run_get, Act.run_liftExcept, add_of_not_isKey hkey,
    Act.run_ofExcept_error]

theorem default?_after_add (table : SparkTable) (scene : Scene) :
    ((Call.add table).run.after scene).sparks.default? =
      if table.name.same defaultKey then some table else scene.sparks.default? := by
  cases hkey : table.name.isKey with
  | true =>
    rw [Act.after_of_ok (run_add hkey scene)]
    exact Keyed.get?_set_key hkey defaultKey table scene.sparks.tables
  | false =>
    have hother : ¬ table.name.same defaultKey = true := by
      intro hsame
      rw [Value.eq_text_of_same hsame] at hkey
      cases hkey
    rw [Act.after_of_error (run_add_error hkey scene), if_neg hother]

theorem after_call_import (text : String) (scene : Scene) :
    (Call.importDocument text).run.after scene = (importDocument text).after scene :=
  Act.after_map (fun _ => PUnit.unit) (importDocument text) scene

theorem default?_after_import (text : String) (scene : Scene) :
    ((Call.importDocument text).run.after scene).sparks.default? =
      (lastDefault? (taken scene.desk.room text)).or scene.sparks.default? := by
  have hkeys : ∀ table ∈ taken scene.desk.room text, table.name.isKey = true := fun _ => isKey_of_mem_takenOf
  rw [after_call_import, ← default?_withTables scene.sparks hkeys, default?, tables_after_importDocument]
  rfl

theorem tables_after_generate (count : Int) (purpose : SparkUse) (given : Option (List SparkTable))
    (scene : Scene) : ((Call.generate count purpose given).run.after scene).sparks.tables =
      scene.sparks.tables := by
  have hconstants := (steady_generate count purpose given).keeps.discard scene
  exact congrArg (·.2.1) hconstants

theorem default?_after_generate (count : Int) (purpose : SparkUse) (given : Option (List SparkTable))
    (scene : Scene) : ((Call.generate count purpose given).run.after scene).sparks.default? =
      scene.sparks.default? := by
  rw [default?, tables_after_generate]
  rfl

/-- Removing a table by its name takes the default one only by its own name, and only where it is not
flagged. -/
theorem default?_after_remove {library : SparkLibrary} (h : library.tables.Apart) (name : Value) :
    (library.remove name).1.default? =
      if name.same defaultKey then library.default?.filter (·.isDefault) else library.default? := by
  rw [remove]
  cases hsame : name.same defaultKey with
  | true =>
    obtain rfl : name = defaultKey := Value.eq_text_of_same hsame
    have hkey : defaultKey.isKey = true := rfl
    cases hget : Keyed.get? defaultKey library.tables with
    | none => simp [default?, hget]
    | some table =>
      cases hflag : table.isDefault with
      | true => simp [default?, hget, hflag, Option.filter_some]
      | false => simp [default?, hget, hflag, Option.filter_some, h.get?_erase_self hkey]
  | false =>
    cases hget : Keyed.get? name library.tables with
    | none => rfl
    | some table =>
      cases hflag : table.isDefault with
      | true => simp [hflag]
      | false =>
        simp only [hflag, Bool.false_eq_true, if_false]
        exact Keyed.get?_erase_key rfl hsame library.tables

theorem apart_withTables {library : SparkLibrary} {tables : List SparkTable}
    (h : library.tables.Apart) (hkeys : ∀ table ∈ tables, table.name.isKey = true) :
    (library.withTables tables).tables.Apart := by
  rw [tables_withTables]
  generalize library.tables = kept at h
  induction tables generalizing kept with
  | nil => exact h
  | cons table rest ih =>
    obtain ⟨hkey, hrest⟩ := List.forall_mem_cons.1 hkeys
    exact ih hrest _ (h.set_key hkey table)

theorem apart_remove {library : SparkLibrary} (h : library.tables.Apart) (name : Value) :
    (library.remove name).1.tables.Apart := by
  rw [remove]
  cases Keyed.get? name library.tables with
  | none => exact h
  | some table =>
    cases hflag : table.isDefault with
    | true => simpa [hflag] using h
    | false => simpa [hflag] using h.sublist (Keyed.erase_sublist name library.tables)

theorem apart_initial (millis : Int) : (initial millis).tables.Apart :=
  ⟨List.forall_mem_singleton.2 rfl, List.pairwise_singleton _ _⟩

/-- No call brings two tables under keys that are the same. -/
theorem apart_call (c : Call) : c.run.Keeps (.keeping (·.sparks.tables.Apart)) := by
  intro scene h
  cases c with
  | add table =>
    cases hkey : table.name.isKey with
    | true =>
      rw [Act.after_of_ok (run_add hkey scene)]
      exact h.set_key hkey table
    | false => rwa [Act.after_of_error (run_add_error hkey scene)]
  | remove name => exact apart_remove h name
  | importDocument text =>
    rw [after_call_import, tables_after_importDocument]
    exact apart_withTables h fun _ => isKey_of_mem_takenOf
  | generate count purpose given =>
    have htables := tables_after_generate count purpose given scene
    exact htables ▸ h
  | reset => exact apart_initial _

/-- A call leaves the default table safe where it puts a flagged one there, or none where it is safe. -/
theorem isSafe_after_call (c : Call) {scene : Scene} (h : scene.sparks.tables.Apart) :
    (c.run.after scene).sparks.isSafe = (c.flag? scene.desk.room).getD scene.sparks.isSafe := by
  cases c with
  | add table =>
    rw [isSafe, default?_after_add, Call.flag?]
    split
    · rfl
    · rfl
  | remove name =>
    have hremove : ((Call.remove name).run.after scene).sparks.default? = _ :=
      default?_after_remove h name
    rw [isSafe, hremove, Call.flag?, isSafe]
    split
    · cases scene.sparks.default? with
      | none => rfl
      | some table => cases hflag : table.isDefault <;> simp [hflag]
    · rfl
  | importDocument text => exact isSafe_of_or (default?_after_import text scene)
  | generate count purpose given =>
    rw [isSafe, default?_after_generate]
    rfl
  | reset => rfl

theorem keeps_room_importTables (entries : List (String × Value)) (report : ImportReport) :
    (importTables report entries).Keeps (.fixing (·.desk.room)) := by
  intro scene
  rw [after_importTables]
  rfl

theorem keeps_room_importDocument (text : String) :
    (importDocument text).Keeps (.fixing (·.desk.room)) := by
  intro scene
  cases htables : tablesIn? scene.desk.room text with
  | none =>
    rcases run_importDocument_none htables with ⟨-, fault, hrun⟩ | ⟨-, issue, hrun⟩
    · rw [Act.after_of_error hrun]
      rfl
    · rw [Act.after_of_ok hrun]
      rfl
  | some entries =>
    obtain ⟨fields, -, hrun⟩ := run_importDocument htables
    have hsettings : (importSettings fields).Keeps (.fixing (·.desk.room)) := by
      intro scene
      rw [Act.after_of_ok (run_importSettings fields scene)]
      rfl
    rw [Act.after_congr hrun]
    exact (keeps_room_importTables entries _).bind
      (fun _ => hsettings.bind fun _ => Act.Keeps.pure _) scene

/-- No call changes how deep a document may be. -/
theorem keeps_room_call (c : Call) : c.run.Keeps (.fixing (·.desk.room)) := by
  cases c with
  | add table =>
    intro scene
    cases hkey : table.name.isKey with
    | true => rw [Act.after_of_ok (run_add hkey scene)]; rfl
    | false => rw [Act.after_of_error (run_add_error hkey scene)]; rfl
  | remove name => exact fun _ => rfl
  | importDocument text => exact (keeps_room_importDocument text).discard
  | generate count purpose given => exact (Desk.room_lasts.generate count purpose given).discard
  | reset => exact fun _ => rfl

/-- A call after which the default table is gone removed it by its name, while it was not flagged. -/
theorem remove_of_lost {c : Call} {scene : Scene} (h : scene.sparks.tables.Apart)
    {table : SparkTable} (hthere : scene.sparks.default? = some table)
    (hlost : (c.run.after scene).sparks.default? = none) :
    c = .remove defaultKey ∧ scene.sparks.isSafe = false := by
  cases c with
  | add own =>
    rw [default?_after_add, hthere] at hlost
    split at hlost
    · cases hlost
    · cases hlost
  | remove name =>
    have hremove : ((Call.remove name).run.after scene).sparks.default? = _ :=
      default?_after_remove h name
    rw [hremove, hthere] at hlost
    split at hlost
    · next hsame =>
      have hflag : table.isDefault = false := by simpa using hlost
      exact ⟨congrArg Call.remove (Value.eq_text_of_same hsame), by simp [isSafe, hthere, hflag]⟩
    · cases hlost
  | importDocument text =>
    rw [default?_after_import, hthere, Option.or_eq_none_iff] at hlost
    cases hlost.2
  | generate count purpose given =>
    rw [default?_after_generate, hthere] at hlost
    cases hlost
  | reset => cases hlost

end Calls

section Runs

/-- The flag of the last table that some calls put under the name of the default one, which is flagged
at first. -/
def lastFlag (room : Nat) (calls : List Call) : Bool :=
  (calls.filterMap (Call.flag? room)).getLast?.getD true

theorem lastFlag_concat (room : Nat) (calls : List Call) (c : Call) :
    lastFlag room (calls ++ [c]) = (c.flag? room).getD (lastFlag room calls) := by
  rw [lastFlag, List.filterMap_append]
  cases hflag : c.flag? room with
  | none => simp [lastFlag, hflag]
  | some flag => simp [hflag]

/-- A library that was just made: by itself, or from a file, as if the file had been imported into it. -/
inductive Made : List Call → Scene → Prop
  | fresh {scene : Scene} (millis : Int) : scene.sparks = .initial millis → Made [] scene
  | loaded {scene after : Scene} (file : Path) {text : String} :
      scene.desk.files.read file = .ok text → load file scene = .ok () after →
        Made [.importDocument text] after

structure Guarded (room : Nat) (made : List Call) (scene : Scene) : Prop where
  apart : scene.sparks.tables.Apart
  roomy : scene.desk.room = room
  safe : scene.sparks.isSafe = lastFlag room made

variable {room : Nat} {made : List Call} {scene : Scene}

theorem Guarded.call (h : Guarded room made scene) (c : Call) :
    Guarded room (made ++ [c]) (c.run.after scene) where
  apart := apart_call c scene h.apart
  roomy := (keeps_room_call c scene).trans h.roomy
  safe := by rw [isSafe_after_call c h.apart, lastFlag_concat, h.safe, h.roomy]

theorem guarded_fresh {millis : Int} (h : scene.sparks = .initial millis) :
    Guarded scene.desk.room [] scene where
  apart := h ▸ apart_initial millis
  roomy := rfl
  safe := by rw [h]; rfl

/-- The warnings of a file change nothing that a warning does not change. -/
theorem keeps_warnings {frame : Frame Scene}
    (hwarn : ∀ text, (Scene.atDesk (Desk.warn text)).Keeps frame) (file : Path)
    (issues : List ImportIssue) :
    Act.Keeps frame (issues.forM fun issue =>
      (Desk.warn (file.text ++ ": " ++ issue.message) : Act Scene Unit)) := by
  induction issues with
  | nil => exact Act.Keeps.pure _
  | cons issue rest ih => exact (hwarn _).bind fun _ => ih

theorem keeps_room_readText (file : Path) : (Desk.readText file).Keeps (.fixing (·.room)) :=
  Act.Keeps.bind Act.Keeps.get fun _ => Act.Keeps.ofExcept _

theorem keeps_room_load (file : Path) : (load file).Keeps (.fixing (·.desk.room)) := by
  have hread : (Scene.atDesk (Desk.readText file)).Keeps (.fixing (·.desk.room)) :=
    Scene.keeps_deskwise (keeps_room_readText file)
  have hwarn (text : String) : (Scene.atDesk (Desk.warn text)).Keeps (.fixing (·.desk.room)) :=
    Scene.keeps_deskwise (Desk.room_lasts.warn text)
  exact Act.Keeps.bind (Act.Keeps.modify fun _ => rfl) fun _ => Act.Keeps.bind hread fun text =>
    Act.Keeps.bind (keeps_room_importDocument text) fun report => keeps_warnings hwarn file report.issues

/-- A library that is loaded is a new one into which the file was imported. -/
theorem sparks_of_load {file : Path} {text : String} {after : Scene}
    (hread : scene.desk.files.read file = .ok text) (h : load file scene = .ok () after) :
    after.sparks = ((importDocument text).after
      { scene with sparks := initial scene.desk.clock.millis }).sparks := by
  have htext : Desk.readText file scene.desk = .ok text scene.desk := by simp [Desk.readText, hread]
  simp only [load, Act.run_bind, Act.run_modify, Scene.run_liftDesk, Scene.run_atDesk, htext] at h
  cases himport : importDocument text { scene with sparks := initial scene.desk.clock.millis } with
  | ok report imported =>
    rw [himport] at h
    have hwarn (text : String) : (Scene.atDesk (Desk.warn text)).Keeps (.fixing (·.sparks)) :=
      Scene.keeps_atDesk _ fun _ _ => rfl
    have hkeeps : after.sparks = imported.sparks := (keeps_warnings hwarn file report.issues).of_ok h
    rw [Act.after_of_ok himport, hkeeps]
  | error fault stopped =>
    rw [himport] at h
    cases h

theorem guarded_of_made (h : Made made scene) : Guarded scene.desk.room made scene := by
  cases h with
  | fresh millis hfresh => exact guarded_fresh hfresh
  | @loaded before _ file text hread hload =>
    let fresh : Scene := { before with sparks := initial before.desk.clock.millis }
    have hfresh : Guarded fresh.desk.room [] fresh := guarded_fresh rfl
    have hguarded : Guarded fresh.desk.room [.importDocument text]
        ((Call.importDocument text).run.after fresh) := hfresh.call (.importDocument text)
    have hroom : scene.desk.room = fresh.desk.room := (keeps_room_load file).of_ok hload
    have hsparks : scene.sparks = ((Call.importDocument text).run.after fresh).sparks := by
      rw [after_call_import]
      exact sparks_of_load hread hload
    exact ⟨hsparks ▸ hguarded.apart, rfl, by rw [hsparks, hroom, hguarded.safe]⟩

theorem guarded_afterAll (h : Guarded room made scene) (calls : List Call) :
    Guarded room (made ++ calls) (Act.afterAll Call.run calls scene) := by
  induction calls generalizing made scene with
  | nil =>
    rw [List.append_nil]
    exact h
  | cons c rest ih =>
    rw [List.append_cons]
    exact ih (h.call c)

/-- A table is there and cannot be removed exactly where a flagged one is there. -/
theorem isSafe_iff (library : SparkLibrary) :
    (∃ table, library.default? = some table) ∧ (library.remove defaultKey).2 = false ↔
      library.isSafe = true := by
  have hdefault : library.default? = Keyed.get? defaultKey library.tables := rfl
  rw [isSafe, remove, ← hdefault]
  cases library.default? with
  | none => simp
  | some table => cases hflag : table.isDefault <;> simp [hflag]

end Runs

/-- A library has a table under the name of the default one that cannot be removed, after any calls,
exactly while the last table that was put there is flagged as a default one. Only removing it by its name
can lose it, after one without the flag was put there. -/
theorem default_kept_iff {made : List Call} {scene : Scene} (h : Made made scene)
    (calls : List Call) :
    ((∃ table, (Act.afterAll Call.run calls scene).sparks.default? = some table) ∧
        ((Act.afterAll Call.run calls scene).sparks.remove defaultKey).2 = false ↔
      lastFlag scene.desk.room (made ++ calls) = true) ∧
    ∀ c table, (Act.afterAll Call.run calls scene).sparks.default? = some table →
      (Act.afterAll Call.run (calls ++ [c]) scene).sparks.default? = none →
        c = .remove defaultKey ∧ lastFlag scene.desk.room (made ++ calls) = false := by
  obtain ⟨hapart, -, hsafe⟩ := guarded_afterAll (guarded_of_made h) calls
  constructor
  · rw [isSafe_iff, hsafe]
  · intro c table hthere hlost
    rw [Act.afterAll_concat] at hlost
    rw [← hsafe]
    exact remove_of_lost hapart hthere hlost

/-- A table of another name does no harm, and a removal of the default one is in vain until another one
without the flag is put in its place. -/
theorem default_kept_omens :
    let omens : SparkTable := { name := .text "omens", entries := ["raven"], lastModified := .int 0 }
    let own : SparkTable := { name := defaultKey, entries := ["x"], lastModified := .int 0 }
    let calls : List Call := [.add omens, .remove defaultKey, .remove (.text "omens"), .reset]
    let scene : Scene := Act.afterAll Call.run (calls ++ [.add own]) Scene.blank
    Made [] Scene.blank ∧
      (∃ table, (Act.afterAll Call.run calls Scene.blank).sparks.default? = some table) ∧
      ((Act.afterAll Call.run calls Scene.blank).sparks.remove defaultKey).2 = false ∧
      scene.sparks.default? = some own ∧
      (Act.afterAll Call.run (calls ++ [.add own] ++ [.remove defaultKey]) Scene.blank).sparks.default? =
        none ∧ lastFlag Scene.blank.desk.room ([] ++ (calls ++ [.add own])) = false := by
  intro omens own calls scene
  have hmade : Made [] Scene.blank := .fresh 0 rfl
  have hflag : lastFlag Scene.blank.desk.room ([] ++ calls) = true := rfl
  obtain ⟨hthere, hremove⟩ := (default_kept_iff hmade calls).1.2 hflag
  have hown : scene.sparks.default? = some own := rfl
  have hlost := (default_kept_iff hmade (calls ++ [.add own])).2 (.remove defaultKey) own hown rfl
  exact ⟨hmade, hthere, hremove, hown, rfl, hlost.2⟩

/-- A table of the default name without the flag takes the place of the default one, and can be removed. -/
theorem default_lost :
    let own : SparkTable := { name := defaultKey, entries := ["x"], lastModified := .int 0 }
    Made [] Scene.blank ∧
      ((Act.afterAll Call.run [.add own] Scene.blank).sparks.remove defaultKey).2 = true ∧
      (Act.afterAll Call.run [.add own, .remove defaultKey] Scene.blank).sparks.default? = none :=
  ⟨.fresh 0 rfl, rfl, rfl⟩

end TaleLoom.SparkLibrary
