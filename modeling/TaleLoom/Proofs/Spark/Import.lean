import Mathlib.Data.List.Induction
import TaleLoom.Proofs.Act
import TaleLoom.Proofs.Table.Definition
import TaleLoom.Proofs.Value.RoundTrip
import TaleLoom.Proofs.Value.Same
import TaleLoom.Proofs.Value.Short
import TaleLoom.Spark.Exchange
/-!
What an import does with a document. Each entry of its tables is a table that can be used
(`SparkLibrary.usable?`) or has something reported of it (`SparkLibrary.issue?`), and the tables are set
one after the other. Not every entry gets that far: a table of infinite weight, or one whose name is a
list or an object, ends the import where it stands (`SparkLibrary.Halts`), and so does a number of too
many digits anywhere in the document.
-/

namespace TaleLoom

open Number

namespace SparkTable

def Overweight (v : Value) : Prop :=
  ∃ fields entries negative, v = .object fields ∧ (Value.fieldOr fields "name" .null).truthy = true ∧
    Value.fieldOr fields "entries" .null = .list entries ∧
    Value.fieldOr fields "weight" .null = .real (.infinite negative)

theorem weightOf_tooLarge_iff {v : Value} :
    weightOf v = .error .tooLarge ↔ ∃ negative, v = .real (.infinite negative) := by
  constructor
  · intro h
    rw [weightOf] at h
    split at h
    · unfold wholeNumber at h
      split at h
      any_goals cases h
      · exact ⟨_, rfl⟩
      all_goals
        split at h
        · cases h
        · cases h
    · cases h
  · rintro ⟨negative, rfl⟩
    rfl

theorem writable_ne_tooLarge (v : Value) : v.writable ≠ .error .tooLarge := by
  rw [Value.writable]
  split <;> simp

theorem elements_ne_tooLarge (v : Value) : v.elements ≠ .error .tooLarge := by
  cases v <;> simp [Value.elements]

theorem refusal_ne_tooLarge (v : Value) (why : TableFault) : v.refusal (.table why) ≠ .tooLarge := by
  rw [Value.refusal]
  split <;> simp

/-- The weight is the one thing of a table that can be too large. -/
theorem ofValue_tooLarge_iff {v : Value} (hshort : v.hasLongNumber = false) :
    ofValue v = .error .tooLarge ↔ Overweight v := by
  constructor
  · intro h
    cases v with
    | object fields =>
      rw [ofValue] at h
      split at h
      · cases h
      next hname =>
      dsimp only at h
      split at h
      · next entries hentries =>
        rcases parts_of_bind_eq_error h with h | ⟨texts, -, h⟩
        · obtain ⟨entry, -, hentry⟩ := exists_of_mapM_error h
          exact absurd hentry (writable_ne_tooLarge entry)
        rcases parts_of_bind_eq_error h with h | ⟨weight, -, h⟩
        · obtain ⟨negative, hweight⟩ := weightOf_tooLarge_iff.1 h
          exact ⟨fields, entries, negative, rfl, by simpa using hname, hentries, hweight⟩
        rcases parts_of_bind_eq_error h with h | ⟨categories, -, h⟩
        · exact absurd h (elements_ne_tooLarge _)
        · cases h
      · exact absurd (Except.error.inj h) (refusal_ne_tooLarge _ _)
    | _ => exact absurd (Except.error.inj h) (refusal_ne_tooLarge _ _)
  · rintro ⟨fields, entries, negative, rfl, hname, hentries, hweight⟩
    have hshortEntries : (Value.list entries).hasLongNumber = false := by
      rw [← hentries]
      exact Value.hasLongNumber_fieldOr hshort "entries" rfl
    have htexts : entries.mapM Value.writable = .ok (entries.map Value.plain) := by
      apply mapM_eq_ok
      intro entry hentry
      exact Value.writable_of_short (Value.hasLongNumber_of_mem hshortEntries hentry)
    have hlarge := weightOf_tooLarge_iff.2 ⟨negative, hweight⟩
    simp [ofValue, hname, hentries, htexts, hlarge]

end SparkTable

namespace SparkLibrary

section Entries

/-- The table that an entry of a document is, if it can be used. -/
def usable? (entry : String × Value) : Option SparkTable :=
  match SparkTable.ofValue entry.2 with
  | .ok table => if table.entries.isEmpty then none else some table
  | .error _ => none

/-- What is reported of an entry of a document, if it cannot be used. -/
def issue? (entry : String × Value) : Option ImportIssue :=
  match SparkTable.ofValue entry.2 with
  | .ok table => if table.entries.isEmpty then some (.emptyTable entry.1) else none
  | .error why => some (.badTable entry.1 why)

/-- An entry that the import of a document ends at: a table of infinite weight, or a table to be set
under a name that is no key. -/
def Halts (v : Value) : Prop :=
  SparkTable.Overweight v ∨
    ∃ table, SparkTable.ofValue v = .ok table ∧ table.entries ≠ [] ∧ table.name.isKey = false

/-- The entries of the tables of a document, if a text is a document with tables that there is room to
read. -/
def tablesIn? (room : Nat) (text : String) : Option (List (String × Value)) :=
  match Value.read room text with
  | .ok (.object fields) =>
    match Keyed.get? "tables" fields with
    | some (.object entries) => some entries
    | _ => none
  | _ => none

/-- An entry is used, or something is reported of it, and never both. -/
theorem usable_or_issue (entry : String × Value) :
    (∃ table, usable? entry = some table ∧ issue? entry = none) ∨
      ∃ issue, usable? entry = none ∧ issue? entry = some issue := by
  rw [usable?, issue?]
  cases SparkTable.ofValue entry.2 with
  | error why => exact Or.inr ⟨_, rfl, rfl⟩
  | ok table =>
    dsimp only
    split
    · exact Or.inr ⟨_, rfl, rfl⟩
    · exact Or.inl ⟨_, rfl, rfl⟩

theorem length_used_add_reported (entries : List (String × Value)) :
    (entries.filterMap usable?).length + (entries.filterMap issue?).length = entries.length := by
  induction entries with
  | nil => rfl
  | cons entry rest ih =>
    rcases usable_or_issue entry with ⟨table, husable, hissue⟩ | ⟨issue, husable, hissue⟩
    · rw [List.filterMap_cons_some husable, List.filterMap_cons_none hissue, List.length_cons,
        List.length_cons]
      omega
    · rw [List.filterMap_cons_none husable, List.filterMap_cons_some hissue, List.length_cons,
        List.length_cons]
      omega

theorem name_isKey_of_usable? {entry : String × Value} (hfree : ¬ Halts entry.2) {table : SparkTable}
    (h : usable? entry = some table) : table.name.isKey = true := by
  rw [usable?] at h
  split at h
  · next own hown =>
    split at h
    · cases h
    · next hne =>
      obtain rfl := Option.some.inj h
      by_contra hkey
      rw [Bool.not_eq_true] at hkey
      exact hfree (Or.inr ⟨own, hown, by simpa using hne, hkey⟩)
  · cases h

theorem exists_of_tablesIn? {room : Nat} {text : String} {entries : List (String × Value)}
    (h : tablesIn? room text = some entries) : ∃ fields, Value.read room text = .ok (.object fields) ∧
      Keyed.get? "tables" fields = some (.object entries) := by
  rw [tablesIn?] at h
  split at h
  · next fields hread =>
    split at h
    · next own htables =>
      obtain rfl := Option.some.inj h
      exact ⟨fields, hread, htables⟩
    · cases h
  · cases h

/-- No entry of a document has a number of too many digits. -/
theorem short_of_tablesIn? {room : Nat} {text : String} {entries : List (String × Value)}
    (h : tablesIn? room text = some entries) {entry : String × Value} (hentry : entry ∈ entries) :
    entry.2.hasLongNumber = false := by
  obtain ⟨fields, hread, htables⟩ := exists_of_tablesIn? h
  have hfield : (Value.fieldOr fields "tables" .null).hasLongNumber = false :=
    Value.hasLongNumber_fieldOr (Value.short_of_read hread) "tables" rfl
  rw [Value.fieldOr, htables, Option.getD_some, Value.hasLongNumber] at hfield
  exact Value.hasLongField_eq_false_iff.1 hfield entry hentry

end Entries

section Setting

def withTable (library : SparkLibrary) (table : SparkTable) : SparkLibrary :=
  { library with
    tables := Keyed.set table.name table library.tables
    usage := if (Keyed.get? table.name library.usage).isSome then library.usage
      else Keyed.set table.name {} library.usage }

def withTables (library : SparkLibrary) (tables : List SparkTable) : SparkLibrary :=
  tables.foldl withTable library

variable {library : SparkLibrary} {table : SparkTable} {tables : List SparkTable}

theorem add_of_isKey (h : table.name.isKey = true) : library.add table = .ok (library.withTable table) := by
  rw [add, Value.asKey, if_pos h]
  rfl

theorem add_of_not_isKey (h : table.name.isKey = false) : library.add table = .error .wrongKind := by
  rw [add, Value.asKey, h]
  rfl

theorem tables_withTables (library : SparkLibrary) (tables : List SparkTable) :
    (library.withTables tables).tables =
      tables.foldl (fun kept table => Keyed.set table.name table kept) library.tables := by
  induction tables generalizing library with
  | nil => rfl
  | cons table rest ih => exact ih (library.withTable table)

theorem settings_withTables (library : SparkLibrary) (tables : List SparkTable) :
    (library.withTables tables).settings = library.settings := by
  induction tables generalizing library with
  | nil => rfl
  | cons table rest ih => exact ih (library.withTable table)

/-- Under a name the last table of that name is found, and where there is none, what was there before. -/
theorem get?_withTables (hkeys : ∀ table ∈ tables, table.name.isKey = true) (name : Value)
    (kept : Keyed Value SparkTable) :
    Keyed.get? name (tables.foldl (fun kept table => Keyed.set table.name table kept) kept) =
      (tables.reverse.find? fun table => table.name.same name).or (Keyed.get? name kept) := by
  induction tables using List.reverseRecOn with
  | nil => rfl
  | append_singleton tables table ih =>
    have hkey := hkeys table (List.mem_append_right _ (List.mem_singleton_self table))
    have hrest := ih fun other hother => hkeys other (List.mem_append_left _ hother)
    rw [List.foldl_append, List.foldl_cons, List.foldl_nil, Keyed.get?_set_key hkey, hrest,
      List.reverse_append, List.reverse_singleton, List.singleton_append, List.find?_cons]
    cases hsame : table.name.same name with
    | true => exact if_pos hsame
    | false =>
      have hother : (table.name == name) = false := hsame
      rw [hother]
      rfl

theorem get?_usage_withTable (hkey : table.name.isKey = true) {name : Value} {use : SparkUsage}
    (h : Keyed.get? name library.usage = some use) :
    Keyed.get? name (library.withTable table).usage = some use := by
  rw [withTable]
  dsimp only
  split
  · exact h
  · next hnew =>
    rw [Keyed.get?_set_key hkey]
    split
    · next hsame =>
      have hname : name.same table.name = true := (Value.same_comm hkey name).trans hsame
      rw [Keyed.get?_of_same hkey hname] at h
      exact absurd (Option.isSome_of_eq_some h) hnew
    · exact h

/-- No record of use that was there is changed. -/
theorem get?_usage_withTables (hkeys : ∀ table ∈ tables, table.name.isKey = true) {name : Value}
    {use : SparkUsage} (h : Keyed.get? name library.usage = some use) :
    Keyed.get? name (library.withTables tables).usage = some use := by
  induction tables generalizing library with
  | nil => exact h
  | cons table rest ih =>
    have hrest := fun other hother => hkeys other (List.mem_cons_of_mem table hother)
    exact ih hrest (get?_usage_withTable (hkeys table List.mem_cons_self) h)

end Setting

section Running

variable {report : ImportReport} {key : String} {v : Value} {rest before : List (String × Value)}
  {table : SparkTable} {scene : Scene}

def imported (tables : List SparkTable) (scene : Scene) : Scene :=
  { scene with sparks := scene.sparks.withTables tables }

def reported (report : ImportReport) (entries : List (String × Value)) : ImportReport :=
  { report with
    imported := report.imported + (entries.filterMap usable?).length
    tables := report.tables ++ entries.filterMap usable?
    issues := report.issues ++ entries.filterMap issue? }

theorem importTables_bad {why : Fault} (h : SparkTable.ofValue v = .error why) (hwhy : why ≠ .tooLarge) :
    importTables report ((key, v) :: rest) =
      importTables (report.leftOut (.badTable key why)) rest := by
  rw [importTables]
  split
  · next hlarge => exact absurd (Except.error.inj (h.symm.trans hlarge)) hwhy
  · next own _ hown =>
    obtain rfl := Except.error.inj (h.symm.trans hown)
    rfl
  · next own hown => cases h.symm.trans hown

theorem importTables_empty (h : SparkTable.ofValue v = .ok table) (hempty : table.entries = []) :
    importTables report ((key, v) :: rest) = importTables (report.leftOut (.emptyTable key)) rest := by
  rw [importTables, h]
  dsimp only
  rw [hempty]
  rfl

theorem run_importTables_table (h : SparkTable.ofValue v = .ok table) (hne : table.entries ≠ [])
    (hkey : table.name.isKey = true) : importTables report ((key, v) :: rest) scene =
      importTables (report.taken table) rest (imported [table] scene) := by
  have hnonempty : ¬ table.entries.isEmpty = true := by simpa using hne
  rw [importTables, h]
  dsimp only
  rw [if_neg hnonempty]
  simp only [Act.run_bind, Act.run_get, Act.run_liftExcept, add_of_isKey hkey, Act.run_ofExcept_ok,
    Act.run_modify]
  rfl

/-- The import ends at an entry that halts it, and leaves the scene as it is. -/
theorem run_importTables_halts (hshort : v.hasLongNumber = false) (h : Halts v) (key : String)
    (rest : List (String × Value)) (report : ImportReport) (scene : Scene) : ∃ fault,
    (fault = .tooLarge ∨ fault = .wrongKind) ∧
      importTables report ((key, v) :: rest) scene = .error fault scene := by
  rcases h with hlarge | ⟨table, htable, hne, hkey⟩
  · refine ⟨.tooLarge, Or.inl rfl, ?_⟩
    rw [importTables, (SparkTable.ofValue_tooLarge_iff hshort).2 hlarge]
    rfl
  · have hnonempty : ¬ table.entries.isEmpty = true := by simpa using hne
    refine ⟨.wrongKind, Or.inr rfl, ?_⟩
    rw [importTables, htable]
    dsimp only
    rw [if_neg hnonempty]
    simp only [Act.run_bind, Act.run_get, Act.run_liftExcept, add_of_not_isKey hkey,
      Act.run_ofExcept_error]

/-- Entries that do not halt the import are used or reported, and it goes on with those behind them. -/
theorem run_importTables_append (hshort : ∀ entry ∈ before, entry.2.hasLongNumber = false)
    (hfree : ∀ entry ∈ before, ¬ Halts entry.2) (rest : List (String × Value)) (report : ImportReport)
    (scene : Scene) : importTables report (before ++ rest) scene =
      importTables (reported report before) rest (imported (before.filterMap usable?) scene) := by
  -- each entry adds to the report, and a table changes the library that those behind it are set in
  induction before generalizing report scene with
  | nil => simp [reported, imported, withTables]
  | cons entry before ih =>
    obtain ⟨key, v⟩ := entry
    have hrest := ih (fun e he => hshort e (List.mem_cons_of_mem _ he))
      (fun e he => hfree e (List.mem_cons_of_mem _ he))
    have hfirst : ¬ Halts v := hfree (key, v) List.mem_cons_self
    rw [List.cons_append]
    cases htable : SparkTable.ofValue v with
    | error why =>
      have hwhy : why ≠ .tooLarge := by
        rintro rfl
        have hshort' : v.hasLongNumber = false := hshort (key, v) List.mem_cons_self
        exact hfirst (Or.inl ((SparkTable.ofValue_tooLarge_iff hshort').1 htable))
      have hunusable : usable? (key, v) = none := by simp [usable?, htable]
      have hissue : issue? (key, v) = some (.badTable key why) := by simp [issue?, htable]
      rw [importTables_bad htable hwhy, hrest, List.filterMap_cons_none hunusable]
      simp [reported, ImportReport.leftOut, hunusable, hissue]
    | ok table =>
      by_cases hempty : table.entries = []
      · have hunusable : usable? (key, v) = none := by simp [usable?, htable, hempty]
        have hissue : issue? (key, v) = some (.emptyTable key) := by simp [issue?, htable, hempty]
        rw [importTables_empty htable hempty, hrest, List.filterMap_cons_none hunusable]
        simp [reported, ImportReport.leftOut, hunusable, hissue]
      · have husable : usable? (key, v) = some table := by simp [usable?, htable, hempty]
        have hissue : issue? (key, v) = none := by simp [issue?, htable, hempty]
        rw [run_importTables_table htable hempty (name_isKey_of_usable? hfirst husable), hrest,
          List.filterMap_cons_some husable]
        simp [reported, ImportReport.taken, husable, hissue, imported, withTables, Nat.add_assoc,
          Nat.add_comm 1]

end Running

section Documents

variable {text : String} {scene : Scene} {entries : List (String × Value)}

/-- A text that the reader itself fails at: a number has too many digits, or there is no room for how
deep its lists and objects stand in one another. -/
def Unreadable (room : Nat) (text : String) : Prop :=
  Value.read room text = .error .numberTooLong ∨ Value.read room text = .error .tooDeep

/-- What is no document with tables leaves the scene as it is: one thing is reported, or the reader fails
at it. -/
theorem run_importDocument_none (h : tablesIn? scene.desk.room text = none) :
    (Unreadable scene.desk.room text ∧ ∃ fault, importDocument text scene = .error fault scene) ∨
      ¬ Unreadable scene.desk.room text ∧ ∃ issue,
        importDocument text scene = .ok { success := false, issues := [issue] } scene := by
  simp only [importDocument, Act.run_bind, Act.run_get, Unreadable]
  cases hread : Value.read scene.desk.room text with
  | error why =>
    cases why with
    | malformed => exact Or.inr ⟨by simp, _, rfl⟩
    | numberTooLong => exact Or.inl ⟨Or.inl rfl, _, rfl⟩
    | tooDeep => exact Or.inl ⟨Or.inr rfl, _, rfl⟩
  | ok document =>
    refine Or.inr ⟨by simp, ?_⟩
    cases document with
    | object fields =>
      rw [tablesIn?, hread] at h
      dsimp only at h ⊢
      generalize Keyed.get? "tables" fields = tables at h ⊢
      rcases tables with _ | (_ | _ | _ | _ | _ | _ | entries)
      case some.object => cases h
      all_goals exact ⟨_, rfl⟩
    | _ => exact ⟨_, rfl⟩

def settingsAfter (fields : List (String × Value)) (settings : SparkSettings) : SparkSettings :=
  match Keyed.get? "settings" fields with
  | some (.object given) => .ofFields given
  | _ => settings

def importedWhole (fields entries : List (String × Value)) (scene : Scene) : Scene :=
  { scene with sparks := { scene.sparks.withTables (entries.filterMap usable?) with
    settings := settingsAfter fields scene.sparks.settings } }

theorem run_importSettings (fields : List (String × Value)) (scene : Scene) :
    importSettings fields scene = .ok () { scene with
      sparks := { scene.sparks with settings := settingsAfter fields scene.sparks.settings } } := by
  rw [importSettings, settingsAfter]
  generalize Keyed.get? "settings" fields = settings
  rcases settings with _ | (_ | _ | _ | _ | _ | _ | given) <;> rfl

theorem run_importDocument (h : tablesIn? scene.desk.room text = some entries) :
    ∃ fields, Value.read scene.desk.room text = .ok (.object fields) ∧ importDocument text scene =
      (do
        let report ← importTables { success := false } entries
        importSettings fields
        return { report with success := 0 < report.imported } : Act Scene ImportReport) scene := by
  obtain ⟨fields, hread, htables⟩ := exists_of_tablesIn? h
  refine ⟨fields, hread, ?_⟩
  simp only [importDocument, Act.run_bind, Act.run_get, hread, htables]

/-- A document of which no entry halts the import is imported whole. -/
theorem run_importDocument_whole (h : tablesIn? scene.desk.room text = some entries)
    (hfree : ∀ entry ∈ entries, ¬ Halts entry.2) :
    ∃ fields, Value.read scene.desk.room text = .ok (.object fields) ∧ importDocument text scene =
      .ok { success := 0 < (entries.filterMap usable?).length
            imported := (entries.filterMap usable?).length, tables := entries.filterMap usable?
            issues := entries.filterMap issue? } (importedWhole fields entries scene) := by
  obtain ⟨fields, hread, hrun⟩ := run_importDocument h
  have htables := run_importTables_append (fun entry => short_of_tablesIn? h) hfree []
    { success := false } scene
  have hreport : reported { success := false } entries =
      { success := false, imported := (entries.filterMap usable?).length
        tables := entries.filterMap usable?, issues := entries.filterMap issue? } := by
    simp [reported]
  rw [List.append_nil, importTables, hreport] at htables
  refine ⟨fields, hread, hrun.trans ?_⟩
  simp only [Act.run_bind, htables, Act.run_pure, run_importSettings, imported, settings_withTables]
  rfl

/-- A document is imported up to the first entry that halts the import. -/
theorem run_importDocument_halts {before rest : List (String × Value)} {key : String} {v : Value}
    (h : tablesIn? scene.desk.room text = some (before ++ (key, v) :: rest))
    (hfree : ∀ entry ∈ before, ¬ Halts entry.2) (hhalts : Halts v) : ∃ fault, (fault = .tooLarge ∨ fault = .wrongKind) ∧
      importDocument text scene = .error fault (imported (before.filterMap usable?) scene) := by
  obtain ⟨fields, -, hrun⟩ := run_importDocument h
  have hbefore : ∀ entry ∈ before, entry.2.hasLongNumber = false := by
    intro entry hentry
    exact short_of_tablesIn? h (List.mem_append_left _ hentry)
  have hshort : v.hasLongNumber = false :=
    short_of_tablesIn? h (List.mem_append_right before List.mem_cons_self)
  have htables := run_importTables_append hbefore hfree ((key, v) :: rest) { success := false } scene
  obtain ⟨fault, hfault, hstop⟩ := run_importTables_halts hshort hhalts key rest
    (reported { success := false } before) (imported (before.filterMap usable?) scene)
  refine ⟨fault, hfault, hrun.trans ?_⟩
  simp only [Act.run_bind, htables, hstop]

/-- The entries up to the first one that halts the import, if one does. -/
theorem free_or_halts (entries : List (String × Value)) : (∀ entry ∈ entries, ¬ Halts entry.2) ∨
    ∃ before key v rest, entries = before ++ (key, v) :: rest ∧
      (∀ entry ∈ before, ¬ Halts entry.2) ∧ Halts v := by
  classical
  cases hfind : entries.find? fun entry => Halts entry.2 with
  | none =>
    apply Or.inl
    intro entry hentry hhalts
    exact List.find?_eq_none.1 hfind entry hentry (decide_eq_true hhalts)
  | some entry =>
    obtain ⟨hhalts, before, rest, hentries, hfree⟩ := List.find?_eq_some_iff_append.1 hfind
    refine Or.inr ⟨before, entry.1, entry.2, rest, hentries, ?_, of_decide_eq_true hhalts⟩
    intro other hother
    simpa using hfree other hother

theorem fails_importDocument_iff (text : String) (scene : Scene) :
    (∃ fault stopped, importDocument text scene = .error fault stopped) ↔
      Unreadable scene.desk.room text ∨
        ∃ entries, tablesIn? scene.desk.room text = some entries ∧
          ∃ entry ∈ entries, Halts entry.2 := by
  cases htables : tablesIn? scene.desk.room text with
  | none =>
    rcases run_importDocument_none htables with ⟨hread, fault, hrun⟩ | ⟨hread, issue, hrun⟩
    · simp [hread, hrun]
    · simp [hread, hrun]
  | some entries =>
    rcases free_or_halts entries with hfree | ⟨before, key, v, rest, rfl, hfree, hhalts⟩
    · obtain ⟨fields, hread, hrun⟩ := run_importDocument_whole htables hfree
      constructor
      · rintro ⟨fault, stopped, hfails⟩
        cases hrun.symm.trans hfails
      · rintro ((hlong | hdeep) | ⟨own, hown, entry, hentry, hhalts⟩)
        · cases hread.symm.trans hlong
        · cases hread.symm.trans hdeep
        · obtain rfl := Option.some.inj hown
          exact absurd hhalts (hfree entry hentry)
    · obtain ⟨fault, -, hrun⟩ := run_importDocument_halts htables hfree hhalts
      constructor
      · intro _
        exact Or.inr ⟨_, rfl, (key, v), List.mem_append_right before List.mem_cons_self, hhalts⟩
      · intro _
        exact ⟨fault, _, hrun⟩

section Returned

variable {report : ImportReport} {after : Scene}

theorem returned_none (hrun : importDocument text scene = .ok report after)
    (htables : tablesIn? scene.desk.room text = none) :
    after = scene ∧ ∃ issue, report = { success := false, issues := [issue] } := by
  rcases run_importDocument_none htables with ⟨-, fault, hfails⟩ | ⟨-, issue, hreturns⟩
  · cases hfails.symm.trans hrun
  · obtain ⟨rfl, rfl⟩ := EStateM.Result.ok.inj (hreturns.symm.trans hrun)
    exact ⟨rfl, issue, rfl⟩

/-- An import that returns has gone through all entries. -/
theorem returned_some (hrun : importDocument text scene = .ok report after)
    (htables : tablesIn? scene.desk.room text = some entries) :
    (∀ entry ∈ entries, ¬ Halts entry.2) ∧
      ∃ fields, Value.read scene.desk.room text = .ok (.object fields) ∧
        after = importedWhole fields entries scene ∧
        report = { success := 0 < (entries.filterMap usable?).length
                   imported := (entries.filterMap usable?).length
                   tables := entries.filterMap usable?, issues := entries.filterMap issue? } := by
  rcases free_or_halts entries with hfree | ⟨before, key, v, rest, rfl, hfree, hhalts⟩
  · obtain ⟨fields, hread, hreturns⟩ := run_importDocument_whole htables hfree
    obtain ⟨rfl, rfl⟩ := EStateM.Result.ok.inj (hreturns.symm.trans hrun)
    exact ⟨hfree, fields, hread, rfl, rfl⟩
  · obtain ⟨fault, -, hfails⟩ := run_importDocument_halts htables hfree hhalts
    cases hfails.symm.trans hrun

end Returned

/-- What an import does. It fails exactly where the reader fails at the text, which has a number too long
or stands too deep, or an entry of its tables halts it. Otherwise a text that is no document with tables leaves everything as it is, with
one thing reported, and of a document with tables all entries that can be used are imported and the
others reported, in order. An entry that halts the import leaves the tables before it in the library,
and none behind it. -/
theorem import_exact (text : String) (scene : Scene) :
    ((∃ fault stopped, importDocument text scene = .error fault stopped) ↔
      Unreadable scene.desk.room text ∨
        ∃ entries, tablesIn? scene.desk.room text = some entries ∧ ∃ entry ∈ entries, Halts entry.2) ∧
    (∀ report after, importDocument text scene = .ok report after →
      (tablesIn? scene.desk.room text = none →
        after = scene ∧ report.tables = [] ∧ ∃ issue, report.issues = [issue]) ∧
      ∀ entries, tablesIn? scene.desk.room text = some entries →
        report.tables = entries.filterMap usable? ∧ report.issues = entries.filterMap issue? ∧
          after.sparks.tables = (scene.sparks.withTables report.tables).tables) ∧
    ∀ before key v rest, tablesIn? scene.desk.room text = some (before ++ (key, v) :: rest) →
      (∀ entry ∈ before, ¬ Halts entry.2) → Halts v →
        ∃ fault, (fault = .tooLarge ∨ fault = .wrongKind) ∧ importDocument text scene =
          .error fault (imported (before.filterMap usable?) scene) := by
  refine ⟨fails_importDocument_iff text scene, ?_, ?_⟩
  · intro report after hrun
    constructor
    · intro htables
      obtain ⟨hafter, issue, rfl⟩ := returned_none hrun htables
      exact ⟨hafter, rfl, issue, rfl⟩
    · intro entries htables
      obtain ⟨-, fields, -, rfl, rfl⟩ := returned_some hrun htables
      exact ⟨rfl, rfl, rfl⟩
  · intro before key v rest htables hfree hhalts
    exact run_importDocument_halts htables hfree hhalts

def runes : Value :=
  .object [("tables", .object [
    ("thorn", .object [("name", .list [.text "thorn"]), ("entries", .list [.text "gate"])]),
    ("wyn", .object [("name", .text "wyn"), ("entries", .list [.text "joy"])])])]

theorem readsBack_runes : runes.ReadsBack := by
  have htexts (s : String) : (Value.list [.text s]).ReadsBack := Value.readsBack_texts [s]
  apply Value.readsBack_object (by decide)
  simp only [List.forall_mem_singleton]
  apply Value.readsBack_object (by decide)
  simp only [List.forall_mem_cons, List.not_mem_nil, false_implies, implies_true, and_true]
  refine ⟨?_, ?_⟩
  all_goals
    apply Value.readsBack_object (by decide)
    simp [Value.readsBack_text, htexts]

/-- The table whose name is a list ends the import, and the sound one behind it stays out. -/
theorem runes_not_imported : Value.read Scene.blank.desk.room runes.write = .ok runes ∧
    importDocument runes.write Scene.blank = .error .wrongKind Scene.blank := by
  have hread : Value.read Scene.blank.desk.room runes.write = .ok runes :=
    Value.read_write readsBack_runes (by decide)
  refine ⟨hread, ?_⟩
  simp only [importDocument, Act.run_bind, Act.run_get, hread]
  rfl

/-- The books of an import are in order whenever it returns. A text that is no document with tables changes
nothing, and one thing is reported. Of a document with tables each entry is imported or reported, and it
is a success where any was imported. The library has these tables set one after the other under their
own names, so that the last table of a name is found and every other name finds what it did before;
records of use stay, and so do the settings unless the document has some; and nothing else in the scene
is changed. -/
theorem import_accounts {report : ImportReport} {after : Scene}
    (hrun : importDocument text scene = .ok report after) :
    (tablesIn? scene.desk.room text = none →
      after = scene ∧ report.success = false ∧ report.tables = [] ∧ report.issues.length = 1) ∧
    ∀ entries, tablesIn? scene.desk.room text = some entries →
      report.imported = report.tables.length ∧
      report.imported + report.issues.length = entries.length ∧
      (report.success = true ↔ 0 < report.imported) ∧
      after.sparks.tables = report.tables.foldl
        (fun kept table => Keyed.set table.name table kept) scene.sparks.tables ∧
      (∀ name, Keyed.get? name after.sparks.tables =
        (report.tables.reverse.find? fun table => table.name.same name).or
          (Keyed.get? name scene.sparks.tables)) ∧
      (∀ name use, Keyed.get? name scene.sparks.usage = some use →
        Keyed.get? name after.sparks.usage = some use) ∧
      (∀ fields, Value.read scene.desk.room text = .ok (.object fields) →
        (∀ settings, Keyed.get? "settings" fields ≠ some (.object settings)) →
          after.sparks.settings = scene.sparks.settings) ∧
      after = { scene with sparks := after.sparks } := by
  constructor
  · intro htables
    obtain ⟨hafter, issue, rfl⟩ := returned_none hrun htables
    exact ⟨hafter, rfl, rfl, rfl⟩
  · intro entries htables
    obtain ⟨hfree, fields, hread, rfl, rfl⟩ := returned_some hrun htables
    have hkeys : ∀ table ∈ entries.filterMap usable?, table.name.isKey = true := by
      intro table htable
      obtain ⟨entry, hentry, husable⟩ := List.mem_filterMap.1 htable
      exact name_isKey_of_usable? (hfree entry hentry) husable
    have hset := tables_withTables scene.sparks (entries.filterMap usable?)
    refine ⟨rfl, length_used_add_reported entries, decide_eq_true_iff, hset, ?_, ?_, ?_, rfl⟩
    · intro name
      exact (congrArg (Keyed.get? name) hset).trans (get?_withTables hkeys name _)
    · intro name use huse
      exact get?_usage_withTables hkeys huse
    · intro own hown hnone
      obtain rfl := (Value.object.injEq _ _).mp (Except.ok.inj (hread.symm.trans hown))
      show settingsAfter fields scene.sparks.settings = scene.sparks.settings
      rw [settingsAfter]
      split
      · next given hgiven => exact absurd hgiven (hnone given)
      · rfl

def hoard : List (String × Value) :=
  [("first", .object [("name", .text "gold"), ("entries", .list [.text "coin"])]),
    ("none", .object [("name", .text "gold")]),
    ("second", .object [("name", .text "gold"), ("entries", .list [.text "ring"])])]

theorem readsBack_hoard : (Value.object [("tables", .object hoard)]).ReadsBack := by
  have htexts (s : String) : (Value.list [.text s]).ReadsBack := Value.readsBack_texts [s]
  apply Value.readsBack_object (by decide)
  simp only [List.forall_mem_singleton]
  apply Value.readsBack_object (by decide)
  simp only [hoard, List.forall_mem_cons, List.not_mem_nil, false_implies, implies_true, and_true]
  refine ⟨?_, ?_, ?_⟩
  all_goals
    apply Value.readsBack_object (by decide)
    simp [Value.readsBack_text, htexts]

/-- The later one of the two tables is found, and all three entries are accounted for. -/
theorem import_accounts_hoard : ∃ text report after,
    importDocument text Scene.blank = .ok report after ∧
      tablesIn? Scene.blank.desk.room text = some hoard ∧
      report.imported = 2 ∧ report.issues.length = 1 ∧
      (Keyed.get? (.text "gold") after.sparks.tables).map (·.entries) = some ["ring"] := by
  have hread : Value.read Scene.blank.desk.room (Value.object [("tables", .object hoard)]).write =
      .ok (.object [("tables", .object hoard)]) := Value.read_write readsBack_hoard (by decide)
  have htables : tablesIn? Scene.blank.desk.room (Value.object [("tables", .object hoard)]).write =
      some hoard := by
    rw [tablesIn?, hread]
    rfl
  obtain ⟨report, after, hrun⟩ : ∃ report after,
      importDocument (Value.object [("tables", .object hoard)]).write Scene.blank = .ok report after := by
    simp only [importDocument, Act.run_bind, Act.run_get, hread]
    exact ⟨_, _, rfl⟩
  obtain ⟨hcount, hall, -, -, hfound, -⟩ := (import_accounts hrun).2 hoard htables
  obtain ⟨-, -, -, -, hreport⟩ := returned_some hrun htables
  have htwo : report.imported = 2 := by
    rw [hreport]
    rfl
  have hthree : hoard.length = 3 := rfl
  refine ⟨_, report, after, hrun, htables, htwo, by omega, ?_⟩
  rw [hfound, hreport]
  rfl

end Documents

end SparkLibrary

end TaleLoom
