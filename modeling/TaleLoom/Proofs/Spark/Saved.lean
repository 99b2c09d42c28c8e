import TaleLoom.Proofs.Documents
import TaleLoom.Proofs.Spark.Import
import TaleLoom.Proofs.Value.Whole
/-!
A library of spark tables in a file. Whatever was saved is loaded again: its tables under their names and
its settings, as far as each table can be read from what is written of it (`SparkLibrary.Storable`) and
the document is read back from its text, which `SparkLibrary.readsBack_toValue` reduces to the values that
authors gave. Loading starts from the default table; it stays where no other table has its name.
-/

namespace TaleLoom

open Number

theorem SparkTable.readsBack_toValue {table : SparkTable} (hname : table.name.ReadsBack)
    (hsource : table.source.ReadsBack) (hmodified : table.lastModified.ReadsBack)
    (hcategories : ∀ v ∈ table.categories, v.ReadsBack) (hweight : isTooLong table.weight = false) :
    table.toValue.ReadsBack := by
  apply Value.readsBack_object
  · simp [Keyed.keys]
  · simp [hname, hsource, hmodified, Value.readsBack_texts, Value.readsBack_bool,
      Value.readsBack_int hweight, Value.readsBack_list hcategories]

namespace SparkLibrary

/-- The tables are stored under their own names, none of which counts as false, and each has entries and
a weight of one or more. -/
structure Storable (library : SparkLibrary) : Prop where
  apart : library.tables.Apart
  named : ∀ entry ∈ library.tables, entry.1 = entry.2.name ∧ entry.2.name.truthy = true
  weighted : ∀ entry ∈ library.tables, 1 ≤ entry.2.weight
  filled : ∀ entry ∈ library.tables, entry.2.entries ≠ []

def written (entry : Value × SparkTable) : String × Value := (fieldName entry.1, entry.2.toValue)

variable {library : SparkLibrary} {moment : Timestamp}

theorem readsBack_toValue (hkeys : (library.tables.map fun entry => fieldName entry.1).Nodup)
    (htables : ∀ entry ∈ library.tables, entry.2.toValue.ReadsBack)
    (hsettings : library.settings.toValue.ReadsBack) : (library.toValue moment).ReadsBack := by
  have hwritten : (Value.object (library.tables.map written)).ReadsBack := by
    apply Value.readsBack_object
    · rwa [Keyed.keys, List.map_map]
    · rw [List.forall_mem_map]
      exact htables
  apply Value.readsBack_object
  · simp [Keyed.keys]
  · simp only [List.forall_mem_cons, List.not_mem_nil, false_implies, implies_true, and_true]
    exact ⟨hwritten, hsettings, Value.readsBack_text _, Value.readsBack_text _⟩

namespace Storable

/-- The tables are set again in the order in which they stood. -/
theorem foldl_values (h : library.Storable) (kept : Keyed Value SparkTable) :
    (Keyed.values library.tables).foldl (fun kept table => Keyed.set table.name table kept) kept =
      library.tables.foldl (fun kept entry => Keyed.set entry.1 entry.2 kept) kept := by
  rw [Keyed.values, List.foldl_map]
  apply List.foldl_ext
  intro kept entry hentry
  rw [(h.named entry hentry).1]

variable {entry : Value × SparkTable}

theorem ofValue_written (h : library.Storable) (hentry : entry ∈ library.tables) :
    SparkTable.ofValue (written entry).2 = .ok entry.2 :=
  SparkTable.ofValue_toValue (h.named entry hentry).2 (h.weighted entry hentry)

theorem usable_written (h : library.Storable) (hentry : entry ∈ library.tables) :
    usable? (written entry) = some entry.2 := by
  rw [usable?, h.ofValue_written hentry]
  exact if_neg (by simpa using h.filled entry hentry)

theorem issue_written (h : library.Storable) (hentry : entry ∈ library.tables) :
    issue? (written entry) = none := by
  rcases usable_or_issue (written entry) with ⟨-, -, hissue⟩ | ⟨issue, hnone, -⟩
  · exact hissue
  · cases hnone.symm.trans (h.usable_written hentry)

theorem not_halts_written (h : library.Storable) (hentry : entry ∈ library.tables) :
    ¬ Halts (written entry).2 := by
  rintro (⟨fields, entries, negative, hfields, -, -, hweight⟩ | ⟨table, htable, -, hkey⟩)
  · cases hfields
    cases hweight
  · obtain rfl := Except.ok.inj (htable.symm.trans (h.ofValue_written hentry))
    have hname := h.apart.keys entry hentry
    rw [(h.named entry hentry).1, hkey] at hname
    cases hname

theorem filterMap_usable (h : library.Storable) :
    (library.tables.map written).filterMap usable? = Keyed.values library.tables := by
  rw [List.filterMap_map, Keyed.values, ← List.filterMap_eq_map]
  apply List.filterMap_congr
  intro entry hentry
  exact h.usable_written hentry

theorem filterMap_issue (h : library.Storable) :
    (library.tables.map written).filterMap issue? = [] := by
  rw [List.filterMap_map, List.filterMap_eq_nil_iff]
  intro entry hentry
  exact h.issue_written hentry

/-- The document of a library is imported whole, and nothing is left out. -/
theorem run_importDocument (h : library.Storable)
    {scene : Scene}
    (hread : Value.read scene.desk.room (library.toValue moment).write = .ok (library.toValue moment)) :
    importDocument (library.toValue moment).write scene =
      .ok { success := 0 < (Keyed.values library.tables).length
            imported := (Keyed.values library.tables).length, tables := Keyed.values library.tables }
        { scene with sparks := { scene.sparks.withTables (Keyed.values library.tables) with
          settings := library.settings } } := by
  have htables : tablesIn? scene.desk.room (library.toValue moment).write =
      some (library.tables.map written) := by
    rw [tablesIn?, hread]
    rfl
  have hfree : ∀ entry ∈ library.tables.map written, ¬ Halts entry.2 := by
    rw [List.forall_mem_map]
    exact fun entry => h.not_halts_written
  obtain ⟨fields, hown, hrun⟩ := run_importDocument_whole htables hfree
  obtain rfl := Value.object.inj (Except.ok.inj (hread.symm.trans hown))
  rw [importedWhole, h.filterMap_usable, h.filterMap_issue] at hrun
  exact hrun

end Storable

/-- A library is saved in every file that can be written in a folder that is there. -/
theorem run_save {file : Path} {scene : Scene} (hfile : scene.desk.files.isFolder file.steps = false)
    (hholders : ∀ holder ∈ FileTree.holders file.steps, scene.desk.files.isFolder holder = true) :
    ∃ saved, save file scene = .ok () saved := by
  have hwrite := ConsumptionStore.run_writeText_ok (FileTree.write_ok hfile hholders
    (.text (scene.sparks.toValue scene.desk.clock.moment).write))
  simp [save, exportText, hwrite]

theorem run_load {file : Path} {text : String} {report : ImportReport} {scene after : Scene}
    (hfile : scene.desk.files.read file = .ok text)
    (hrun : importDocument text { scene with sparks := initial scene.desk.clock.millis } =
      .ok report after) (hissues : report.issues = []) : load file scene = .ok () after := by
  have htext : Desk.readText file scene.desk = .ok text scene.desk := by
    simp [Desk.readText, hfile]
  simp only [load, Act.run_bind, Act.run_modify, Scene.run_liftDesk, Scene.run_atDesk, htext, hrun,
    hissues]
  rfl

/-- A library that was saved is loaded as it was, whenever this is done, from a file that still holds what
was written. Nothing is warned of. The settings are those of the saved library, every table of it is found
under its name, and beside these there is the default table where the saved library had none of its
name, and nothing else. -/
theorem load_of_save {file : Path} {scene saved later : Scene} (h : scene.sparks.Storable)
    (hread : Value.read later.desk.room (scene.sparks.toValue scene.desk.clock.moment).write =
      .ok (scene.sparks.toValue scene.desk.clock.moment))
    (hsave : save file scene = .ok () saved)
    (hfile : later.desk.files.read file = saved.desk.files.read file) :
    ∃ loaded, load file later = .ok () loaded ∧ loaded.desk = later.desk ∧
      loaded.sparks.settings = scene.sparks.settings ∧
      (∀ entry ∈ scene.sparks.tables,
        Keyed.get? entry.1 loaded.sparks.tables = some entry.2) ∧
      loaded.sparks.tables.Perm (scene.sparks.tables ++
        if (Keyed.get? (.text BuiltIn.defaultSparkName) scene.sparks.tables).isSome then []
        else (initial later.desk.clock.millis).tables) := by
  obtain ⟨text, exported, hexport, hwrite⟩ := Act.parts_of_bind hsave
  obtain ⟨rfl, rfl⟩ := EStateM.Result.ok.inj hexport
  have hheld : later.desk.files.read file =
      .ok (scene.sparks.toValue scene.desk.clock.moment).write := by
    rw [hfile]
    rw [Scene.run_liftDesk, Scene.run_atDesk] at hwrite
    split at hwrite
    · next desk hdesk =>
      obtain ⟨-, rfl⟩ := EStateM.Result.ok.inj hwrite
      exact (Desk.read_of_writeText hdesk).2
    · cases hwrite
  let fresh : Scene := { later with sparks := initial later.desk.clock.millis }
  have hrun := h.run_importDocument (show Value.read fresh.desk.room _ = _ from hread)
  obtain ⟨kept, hkept, hapart, hperm⟩ := Keyed.Apart.foldl_set_beside (s := BuiltIn.defaultSparkName)
    (BuiltIn.sparkTable later.desk.clock.millis) h.apart
  have htables : ((initial later.desk.clock.millis).withTables
      (Keyed.values scene.sparks.tables)).tables = kept := by
    rw [tables_withTables, h.foldl_values]
    exact hkept
  refine ⟨_, run_load hheld hrun rfl, rfl, rfl, ?_, ?_⟩
  · intro entry hentry
    show Keyed.get? entry.1 ((initial later.desk.clock.millis).withTables _).tables = _
    rw [htables]
    exact hapart.get?_of_mem (hperm.mem_iff.2 (List.mem_append_left _ hentry))
  · show ((initial later.desk.clock.millis).withTables _).tables.Perm _
    rw [htables]
    exact hperm

theorem keeps_room_save (file : Path) : (save file).Keeps (.fixing (·.desk.room)) :=
  Act.Keeps.bind (Act.Keeps.bind Act.Keeps.get fun _ => Act.Keeps.pure _) fun text =>
    Scene.keeps_deskwise (Desk.room_lasts.writeText file text)

def tides : SparkTable :=
  { name := .text "tides", entries := ["ebb"], weight := 2, lastModified := .int 5 }

def gulls : SparkTable :=
  { name := .text "gulls", entries := ["cry", "wing"], weight := 3, oracleEnabled := false
    categories := [.text "birds"], enabled := false, lastModified := .int 7 }

def tidings : SparkTable :=
  { name := .text BuiltIn.defaultSparkName, entries := ["news"], sparksEnabled := false
    source := .text "import", lastModified := .null }

def shore : Scene :=
  { Scene.blank with sparks := { tables := [(.text "tides", tides), (.text "gulls", gulls),
    (.text BuiltIn.defaultSparkName, tidings)] } }

theorem forall_shore {p : Value × SparkTable → Prop} (htides : p (.text "tides", tides))
    (hgulls : p (.text "gulls", gulls)) (htidings : p (.text BuiltIn.defaultSparkName, tidings)) :
    ∀ entry ∈ shore.sparks.tables, p entry := by
  simp [shore, htides, hgulls, htidings]

theorem storable_shore : shore.sparks.Storable where
  apart := ⟨forall_shore rfl rfl rfl, by decide⟩
  named := forall_shore ⟨rfl, rfl⟩ ⟨rfl, rfl⟩ ⟨rfl, rfl⟩
  weighted := forall_shore (by decide) (by decide) (by decide)
  filled := forall_shore (by decide) (by decide) (by decide)

theorem readsBack_shore (moment : Timestamp) : (shore.sparks.toValue moment).ReadsBack := by
  have hshort (n : Int) (h : n.natAbs < 100) : isTooLong n = false := isTooLong_of_lt_hundred h
  apply readsBack_toValue
  · decide
  · apply forall_shore
    · exact SparkTable.readsBack_toValue (Value.readsBack_text _) (Value.readsBack_text _)
        (Value.readsBack_int (hshort 5 (by decide))) nofun (hshort 2 (by decide))
    · exact SparkTable.readsBack_toValue (Value.readsBack_text _) (Value.readsBack_text _)
        (Value.readsBack_int (hshort 7 (by decide)))
        (List.forall_mem_singleton.2 (Value.readsBack_text _)) (hshort 3 (by decide))
    · exact SparkTable.readsBack_toValue (Value.readsBack_text _) (Value.readsBack_text _)
        Value.readsBack_null nofun (hshort 1 (by decide))
  · apply Value.readsBack_object (by decide)
    simp [shore, Value.readsBack_bool, Value.readsBack_int, hshort]

/-- The three tables that were saved are loaded, and no other default table beside them. -/
theorem load_of_save_shore : ∃ file saved loaded, save file shore = .ok () saved ∧
    Value.read saved.desk.room (shore.sparks.toValue shore.desk.clock.moment).write =
      .ok (shore.sparks.toValue shore.desk.clock.moment) ∧
    load file saved = .ok () loaded ∧
      Keyed.get? (.text "tides") loaded.sparks.tables = some tides ∧
      Keyed.get? (.text "gulls") loaded.sparks.tables = some gulls ∧
      Keyed.get? (.text BuiltIn.defaultSparkName) loaded.sparks.tables = some tidings ∧
      loaded.sparks.tables.length = 3 := by
  obtain ⟨saved, hsave⟩ : ∃ saved, save ⟨"", ["sparks.json"]⟩ shore = .ok () saved :=
    run_save rfl (by decide)
  have hroom : saved.desk.room = shore.desk.room := (keeps_room_save _).of_ok hsave
  have hread : Value.read saved.desk.room (shore.sparks.toValue shore.desk.clock.moment).write =
      .ok (shore.sparks.toValue shore.desk.clock.moment) := by
    rw [hroom]
    exact Value.read_write (readsBack_shore _) (by decide)
  obtain ⟨loaded, hload, -, -, hfound, hall⟩ := load_of_save storable_shore hread hsave rfl
  have hthree : ∀ entry ∈ shore.sparks.tables,
      Keyed.get? entry.1 loaded.sparks.tables = some entry.2 := hfound
  simp only [shore, List.forall_mem_cons, List.not_mem_nil, false_implies, implies_true, and_true]
    at hthree
  obtain ⟨htides, hgulls, htidings⟩ := hthree
  exact ⟨_, saved, loaded, hsave, hread, hload, htides, hgulls, htidings, hall.length_eq⟩

end SparkLibrary

end TaleLoom
