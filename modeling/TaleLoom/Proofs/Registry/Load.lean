import TaleLoom.Proofs.Dice.Formula
import TaleLoom.Proofs.Registry.Coverage
import TaleLoom.Proofs.Table.Definition
import TaleLoom.Proofs.Value.Short
import TaleLoom.Proofs.Value.Whole
/-!
What loading a file of tables leaves behind. An entry that is no table is left out with a warning, and
every other one is registered in file order, unless it blocks the loading: a table that was read can
still be impossible to register (`Registry.Blocked`), which ends the loading and keeps the entries behind
it out.
-/

namespace TaleLoom

open Number

namespace RandomTable

variable {table : RandomTable} {difficulty : Option Int}

/-- The gaps of a table are found unless its formula is refused: the bounds of its rows stand for
totals. -/
theorem gaps_cases (hbounds : ∀ row ∈ table.rows, row.HasBounds) :
    (∃ f gaps, Formula.ofValue table.formula = .ok f ∧ table.gaps none = .ok gaps) ∨
      ∃ fault, Formula.ofValue table.formula = .error fault ∧ table.gaps none = .error fault := by
  cases hformula : Formula.ofValue table.formula with
  | error fault =>
    refine Or.inr ⟨fault, rfl, ?_⟩
    rw [gaps, Formula.bounds, hformula]
    rfl
  | ok f =>
    obtain ⟨gaps, hgaps, -⟩ := run_gaps ⟨hformula, hbounds⟩ none
    exact Or.inl ⟨f, gaps, rfl, hgaps⟩

end RandomTable

namespace Registry

section Entries

/-- A file in one of the layouts: a list, or an object with a list of tables, with one table, or with
tables under their keys. -/
theorem entriesOf_ok (file : Path) {document : Value}
    (h : (∃ items, document = .list items) ∨ ∃ fields, document = .object fields) :
    ∃ entries, entriesOf file document = .ok entries := by
  rcases h with ⟨items, rfl⟩ | ⟨fields, rfl⟩
  · exact ⟨_, rfl⟩
  · rw [entriesOf]
    split
    · exact ⟨_, rfl⟩
    · split
      · exact ⟨_, rfl⟩
      · exact ⟨_, rfl⟩

/-- The entries of a document without long numbers have none. -/
theorem short_of_entriesOf {file : Path} {document : Value} {entries : List (Option String × Value)}
    (hshort : document.hasLongNumber = false) (h : entriesOf file document = .ok entries)
    {key : Option String} {entry : Value} (hmem : (key, entry) ∈ entries) :
    entry.hasLongNumber = false := by
  have hitem {items : List Value} (hitems : (Value.list items).hasLongNumber = false)
      (hmem : (key, entry) ∈ items.map fun v => ((none : Option String), v)) :
      entry.hasLongNumber = false := by
    obtain ⟨v, hv, heq⟩ := List.mem_map.1 hmem
    obtain ⟨-, rfl⟩ := Prod.mk.inj heq
    exact Value.hasLongNumber_of_mem hitems hv
  cases document with
  | list items =>
    obtain rfl := Except.ok.inj h
    exact hitem hshort hmem
  | object fields =>
    rw [entriesOf] at h
    split at h
    · next items htables =>
      obtain rfl := Except.ok.inj h
      refine hitem ?_ hmem
      have hfield : (Value.fieldOr fields "tables" .null).hasLongNumber = false :=
        Value.hasLongNumber_fieldOr hshort "tables" rfl
      rwa [Value.fieldOr, htables] at hfield
    · split at h
      · obtain rfl := Except.ok.inj h
        obtain ⟨-, rfl⟩ := Prod.mk.inj (List.mem_singleton.1 hmem)
        exact hshort
      · obtain rfl := Except.ok.inj h
        obtain ⟨field, hfield, heq⟩ := List.mem_map.1 hmem
        obtain ⟨-, rfl⟩ := Prod.mk.inj heq
        rw [Value.hasLongNumber] at hshort
        exact Value.hasLongField_eq_false_iff.1 hshort field hfield
  | _ => cases h

def tableAt? (entry : Option String × Value) : Option (Value × RandomTable) :=
  match RandomTable.ofValue entry.1 entry.2 with
  | .ok table => some (keyFor table (entry.1.map Value.text), table)
  | .error _ => none

def tablesIn (entries : List (Option String × Value)) : List (Value × RandomTable) :=
  entries.filterMap tableAt?

end Entries

section Notices

def coverageNotices (table : RandomTable) : List Notice :=
  match table.gaps none with
  | .error fault => [⟨.warning, "Table '" ++ table.name.plain ++ "'" ++
      " has an invalid dice formula: " ++ fault.message⟩]
  | .ok gaps =>
    match gaps, describeGaps gaps shownGaps with
    | _ :: _, .ok text => [gapWarning table text]
    | _, _ => []

def entryNotices (file : Path) (entry : Option String × Value) : List Notice :=
  match RandomTable.ofValue entry.1 entry.2 with
  | .ok table => coverageNotices table
  | .error fault => [⟨.warning, "Skipping invalid table in " ++ file.text ++ ": " ++ fault.message⟩]

end Notices

section Blocking

def Untellable (table : RandomTable) : Prop :=
  Formula.Unreadable table.formula ∨ ∃ gaps, table.gaps none = .ok gaps ∧ ¬ GapsTellable gaps

def Blocked (key : Value) (table : RandomTable) : Prop := Untellable table ∨ key.isKey = false

variable {table : RandomTable}

theorem readable_of_ok {v : Value} {f : Formula} (h : Formula.ofValue v = .ok f) :
    ¬ Formula.Unreadable v := by
  rcases Formula.ofValue_cases v with ⟨-, hreadable⟩ | ⟨herror | herror, -⟩
  · exact hreadable
  · cases h.symm.trans herror
  · cases h.symm.trans herror

def BlockingFault (fault : Fault) : Prop := fault = .numeral ∨ fault = .wrongKind

theorem warnOfGaps_cases (hbounds : ∀ row ∈ table.rows, row.HasBounds) (desk : Desk) :
    (¬ Untellable table ∧ warnOfGaps table desk =
        .ok () { desk with notices := desk.notices ++ coverageNotices table }) ∨
      Untellable table ∧ ∃ fault, BlockingFault fault ∧ warnOfGaps table desk = .error fault desk := by
  rcases RandomTable.gaps_cases hbounds with ⟨f, gaps, hformula, hgaps⟩ | ⟨fault, hformula, hgaps⟩
  · have hreadable : ¬ Formula.Unreadable table.formula := readable_of_ok hformula
    have huntellable : Untellable table ↔ ¬ GapsTellable gaps := by
      simp [Untellable, hreadable, hgaps]
    rw [huntellable]
    rcases describeGaps_cases gaps with ⟨htell, text, htext⟩ | ⟨htell, herror⟩
    · refine Or.inl ⟨not_not_intro htell, ?_⟩
      cases gaps with
      | nil => simp [run_warnOfGaps_nil hgaps, coverageNotices, hgaps]
      | cons gap rest =>
        rw [run_warnOfGaps_ok hgaps (by simp) htext]
        simp [coverageNotices, hgaps, htext]
    · have hne : gaps ≠ [] := by
        rintro rfl
        exact htell (by simp [GapsTellable])
      exact Or.inr ⟨htell, .numeral, Or.inl rfl, run_warnOfGaps_error hgaps hne herror desk⟩
  · have hnone : ¬ ∃ gaps, table.gaps none = .ok gaps ∧ ¬ GapsTellable gaps := by
      rintro ⟨gaps, hok, -⟩
      cases hgaps.symm.trans hok
    rcases Formula.ofValue_cases table.formula with ⟨⟨f, h⟩ | ⟨why, h⟩, hreadable⟩ | ⟨h, hunreadable⟩
    · cases hformula.symm.trans h
    · obtain rfl := Except.error.inj (hformula.symm.trans h)
      refine Or.inl ⟨fun huntellable => huntellable.elim hreadable hnone, ?_⟩
      simp only [warnOfGaps, hgaps, coverageNotices, Desk.run_warn]
      simp
    · refine Or.inr ⟨Or.inl hunreadable, fault, ?_, ?_⟩
      · rw [hformula] at h
        exact h.imp Except.error.inj Except.error.inj
      · rcases h with h | h
        · obtain rfl := Except.error.inj (hformula.symm.trans h)
          simp only [warnOfGaps, hgaps, Act.run_throw]
        · obtain rfl := Except.error.inj (hformula.symm.trans h)
          simp only [warnOfGaps, hgaps, Act.run_throw]

end Blocking

section Registering

def told (notices : List Notice) (scene : Scene) : Scene :=
  { scene with desk := { scene.desk with notices := scene.desk.notices ++ notices } }

def entered (key : Value) (table : RandomTable) (scene : Scene) : Scene :=
  { scene with registry :=
    { scene.registry with custom := Keyed.set key table scene.registry.custom } }

variable {table : RandomTable} {key : Option Value} {scene : Scene}

/-- A table that nothing blocks is registered under its key. -/
theorem run_register (hbounds : ∀ row ∈ table.rows, row.HasBounds)
    (hfree : ¬ Blocked (keyFor table key) table) (scene : Scene) : register table key scene =
      .ok (keyFor table key) (entered (keyFor table key) table (told (coverageNotices table) scene)) := by
  obtain ⟨htellable, hkey⟩ := not_or.1 hfree
  rw [Bool.not_eq_false] at hkey
  rcases warnOfGaps_cases hbounds scene.desk with ⟨-, hwarn⟩ | ⟨huntellable, -⟩
  · have hasKey : (keyFor table key).asKey = .ok (keyFor table key) := by
      rw [Value.asKey, hkey]
      rfl
    simp only [register_eq, Act.run_bind, Scene.run_atDesk, hwarn, hasKey, Act.run_ofExcept_ok,
      Act.run_modify, Act.run_pure]
    rfl
  · exact absurd huntellable htellable

/-- A table that something blocks is not registered. -/
theorem run_register_blocked (hbounds : ∀ row ∈ table.rows, row.HasBounds)
    (hblocked : Blocked (keyFor table key) table) (scene : Scene) : ∃ fault after,
      BlockingFault fault ∧ register table key scene = .error fault after ∧
        after.registry = scene.registry := by
  rcases warnOfGaps_cases hbounds scene.desk with ⟨htellable, hwarn⟩ | ⟨-, fault, hfault, hwarn⟩
  · have hkey : (keyFor table key).asKey = .error .wrongKind := by
      rw [Value.asKey, hblocked.resolve_left htellable]
      rfl
    refine ⟨.wrongKind, told (coverageNotices table) scene, Or.inr rfl, ?_, rfl⟩
    simp only [register_eq, Act.run_bind, Scene.run_atDesk, hwarn, hkey, Act.run_ofExcept_error]
    rfl
  · exact ⟨fault, scene, hfault, run_register_error hwarn, rfl⟩

end Registering

section Loading

variable {file : Path} {key : Option String} {entry : Value} {table : RandomTable} {scene : Scene}
  {before rest entries : List (Option String × Value)}

/-- The scene after all entries of a file have been taken in. -/
def loaded (file : Path) (entries : List (Option String × Value)) (scene : Scene) : Scene :=
  { told (entries.flatMap (entryNotices file)) scene with
    registry := { scene.registry with
      custom := (tablesIn entries).foldl (fun custom (key, table) => Keyed.set key table custom)
        scene.registry.custom } }

theorem loaded_nil (file : Path) (scene : Scene) : loaded file [] scene = scene := by
  simp [loaded, told, tablesIn]

theorem loaded_append (file : Path) (before after : List (Option String × Value)) (scene : Scene) :
    loaded file (before ++ after) scene = loaded file after (loaded file before scene) := by
  have hnotices (notices : Array Notice) (xs ys : List Notice) :
      notices ++ (xs ++ ys) = notices ++ xs ++ ys := by
    apply Array.toList_inj.1
    simp
  simp [loaded, told, tablesIn, List.foldl_append, hnotices]

/-- An entry that is no table only leaves a warning. -/
theorem run_takeIn_skip {why : TableFault} (h : RandomTable.ofValue key entry = .error (.table why))
    (count : Nat) (scene : Scene) : takeIn file false count ((key, entry) :: rest) scene =
      takeIn file false count rest (loaded file [(key, entry)] scene) := by
  have htable : tableOf false key entry = .error (.table why) := by
    rw [tableOf, h]
    rfl
  have hloaded : loaded file [(key, entry)] scene = told [⟨.warning,
      "Skipping invalid table in " ++ file.text ++ ": " ++ (Fault.table why).message⟩] scene := by
    simp [loaded, told, tablesIn, tableAt?, entryNotices, h]
  rw [hloaded]
  simp [takeIn, takeIn.refuse, htable, told]

theorem tableOf_false (h : RandomTable.ofValue key entry = .ok table) :
    tableOf false key entry = .ok table := by
  rw [tableOf, h]
  rfl

/-- A table that nothing blocks is registered and counted. -/
theorem run_takeIn_table (h : RandomTable.ofValue key entry = .ok table)
    (hfree : ¬ Blocked (keyFor table (key.map Value.text)) table) (count : Nat) (scene : Scene) :
    takeIn file false count ((key, entry) :: rest) scene =
      takeIn file false (count + 1) rest (loaded file [(key, entry)] scene) := by
  have hregister := run_register (RandomTable.hasBounds_of_ofValue h) hfree scene
  have hloaded : loaded file [(key, entry)] scene =
      entered (keyFor table (key.map Value.text)) table (told (coverageNotices table) scene) := by
    simp [loaded, told, entered, tablesIn, tableAt?, entryNotices, h]
  rw [hloaded]
  simp only [takeIn, tableOf_false h, Act.run_bind, Act.run_discard, hregister]

/-- A table that something blocks ends the loading, and is not registered. -/
theorem run_takeIn_blocked (h : RandomTable.ofValue key entry = .ok table)
    (hblocked : Blocked (keyFor table (key.map Value.text)) table)
    (rest : List (Option String × Value)) (count : Nat) (scene : Scene) :
    ∃ fault after, BlockingFault fault ∧
      takeIn file false count ((key, entry) :: rest) scene = .error fault after ∧
      after.registry = scene.registry := by
  obtain ⟨fault, after, hfault, hregister, hregistry⟩ :=
    run_register_blocked (RandomTable.hasBounds_of_ofValue h) hblocked scene
  refine ⟨fault, after, hfault, ?_, hregistry⟩
  simp only [takeIn, tableOf_false h, Act.run_bind, Act.run_discard, hregister]

/-- Each entry is read as a table or refused as one. -/
def Legible (entries : List (Option String × Value)) : Prop :=
  ∀ key entry, (key, entry) ∈ entries → (∃ table, RandomTable.ofValue key entry = .ok table) ∨
    ∃ why, RandomTable.ofValue key entry = .error (.table why)

def Unblocked (entries : List (Option String × Value)) : Prop :=
  ∀ key table, (key, table) ∈ tablesIn entries → ¬ Blocked key table

theorem unblocked_nil : Unblocked [] := by
  intro key table hmem
  cases hmem

theorem tablesIn_cons (h : RandomTable.ofValue key entry = .ok table) : tablesIn ((key, entry) :: rest) =
    (keyFor table (key.map Value.text), table) :: tablesIn rest := by
  simp [tablesIn, tableAt?, h]

theorem tablesIn_cons_error {fault : Fault} (h : RandomTable.ofValue key entry = .error fault) :
    tablesIn ((key, entry) :: rest) = tablesIn rest := by
  simp [tablesIn, tableAt?, h]

theorem unblocked_cons_iff : Unblocked ((key, entry) :: rest) ↔
    (∀ table, RandomTable.ofValue key entry = .ok table →
      ¬ Blocked (keyFor table (key.map Value.text)) table) ∧ Unblocked rest := by
  cases h : RandomTable.ofValue key entry with
  | error fault => simp [Unblocked, tablesIn_cons_error h]
  | ok table => simp [Unblocked, tablesIn_cons h, or_imp, forall_and]

/-- Entries of which none is blocked are taken in, and the loading goes on with those behind them. -/
theorem run_takeIn_append (hlegible : Legible before) (hfree : Unblocked before) (count : Nat)
    (scene : Scene) : takeIn file false count (before ++ rest) scene =
      takeIn file false (count + (tablesIn before).length) rest (loaded file before scene) := by
  induction before generalizing count scene with
  | nil => simp [loaded_nil, tablesIn]
  | cons first before ih =>
    obtain ⟨key, entry⟩ := first
    obtain ⟨hfirst, hfree'⟩ := unblocked_cons_iff.1 hfree
    have hlegible' : Legible before := fun key entry hmem =>
      hlegible key entry (List.mem_cons_of_mem _ hmem)
    have hloaded := loaded_append file [(key, entry)] before scene
    rw [List.singleton_append] at hloaded
    rw [List.cons_append, hloaded]
    rcases hlegible key entry List.mem_cons_self with ⟨table, htable⟩ | ⟨why, hwhy⟩
    · rw [run_takeIn_table htable (hfirst table htable), ih hlegible' hfree', tablesIn_cons htable,
        List.length_cons, Nat.add_right_comm, Nat.add_assoc]
    · rw [run_takeIn_skip hwhy, ih hlegible' hfree', tablesIn_cons_error hwhy]

/-- Some entries end at the first table that is blocked. -/
structure EndsBlocked (before : List (Option String × Value)) (key : Option String) (entry : Value)
    (table : RandomTable) : Prop where
  free : Unblocked before
  table_eq : RandomTable.ofValue key entry = .ok table
  blocked : Blocked (keyFor table (key.map Value.text)) table

theorem unblocked_or_ends (entries : List (Option String × Value)) : Unblocked entries ∨
    ∃ before key entry after table, entries = before ++ (key, entry) :: after ∧
      EndsBlocked before key entry table := by
  induction entries with
  | nil => exact Or.inl unblocked_nil
  | cons first rest ih =>
    obtain ⟨key, entry⟩ := first
    by_cases hfirst : ∃ table, RandomTable.ofValue key entry = .ok table ∧
        Blocked (keyFor table (key.map Value.text)) table
    · obtain ⟨table, htable, hblocked⟩ := hfirst
      exact Or.inr ⟨[], key, entry, rest, table, rfl, unblocked_nil, htable, hblocked⟩
    · have hfree : ∀ table, RandomTable.ofValue key entry = .ok table →
          ¬ Blocked (keyFor table (key.map Value.text)) table := by
        intro table htable hblocked
        exact hfirst ⟨table, htable, hblocked⟩
      rcases ih with hrest | ⟨before, key', entry', after, table, rfl, hends⟩
      · exact Or.inl (unblocked_cons_iff.2 ⟨hfree, hrest⟩)
      · refine Or.inr ⟨(key, entry) :: before, key', entry', after, table, rfl, ?_⟩
        exact ⟨unblocked_cons_iff.2 ⟨hfree, hends.free⟩, hends.table_eq, hends.blocked⟩

theorem run_load {s : String} {document : Value} (hfile : scene.desk.files.read file = .ok s)
    (hread : Value.read scene.desk.room s = .ok document) (hentries : entriesOf file document = .ok entries) :
    load file false scene = takeIn file false 0 entries scene := by
  simp [load, Desk.readDocument, Desk.readText, hfile, hread, hentries]

/-- Loading the tables of a file. Whatever document of one of the layouts it holds, each of its entries is
read as a table or refused as one. Where none of the tables is blocked, the loading counts them and
registers all of them in file order, and it leaves a warning for each entry that is no table. Otherwise
the first table that is blocked ends the loading: the tables before it are registered, and neither it nor
any behind it. -/
theorem load_exact {s : String} {document : Value} (hfile : scene.desk.files.read file = .ok s)
    (hread : Value.read scene.desk.room s = .ok document)
    (hlayout : (∃ items, document = .list items) ∨ ∃ fields, document = .object fields) :
    ∃ entries, entriesOf file document = .ok entries ∧ Legible entries ∧
      (Unblocked entries →
        load file false scene = .ok (tablesIn entries).length (loaded file entries scene)) ∧
      (¬ Unblocked entries → ∃ before key entry after table,
        entries = before ++ (key, entry) :: after ∧ EndsBlocked before key entry table ∧
        ∃ fault stopped, BlockingFault fault ∧ load file false scene = .error fault stopped ∧
          stopped.registry = (loaded file before scene).registry) := by
  obtain ⟨entries, hentries⟩ := entriesOf_ok file hlayout
  have hlegible : Legible entries := by
    intro key entry hmem
    have hshort := short_of_entriesOf (Value.short_of_read hread) hentries hmem
    cases h : RandomTable.ofValue key entry with
    | ok table => exact Or.inl ⟨table, rfl⟩
    | error fault =>
      obtain ⟨why, rfl⟩ := RandomTable.ofValue_error hshort h
      exact Or.inr ⟨why, rfl⟩
  refine ⟨entries, hentries, hlegible, ?_, ?_⟩
  · intro hfree
    have hall : takeIn file false 0 (entries ++ []) scene =
        takeIn file false (0 + (tablesIn entries).length) [] (loaded file entries scene) :=
      run_takeIn_append hlegible hfree 0 scene
    rw [List.append_nil, Nat.zero_add] at hall
    rw [run_load hfile hread hentries, hall, takeIn, Act.run_pure]
  · intro hnot
    rcases unblocked_or_ends entries with hfree | ⟨before, key, entry, after, table, rfl, hends⟩
    · exact absurd hfree hnot
    refine ⟨before, key, entry, after, table, rfl, hends, ?_⟩
    have hlegible' : Legible before := fun key entry hmem =>
      hlegible key entry (List.mem_append_left _ hmem)
    obtain ⟨fault, stopped, hfault, hstop, hregistry⟩ := run_takeIn_blocked hends.table_eq
      hends.blocked after (0 + (tablesIn before).length) (loaded file before scene)
    refine ⟨fault, stopped, hfault, ?_, hregistry⟩
    rw [run_load hfile hread hentries, run_takeIn_append hlegible' hends.free, hstop]

def harbour : Value :=
  .list [
    .object [("name", .text "tides"), ("diceFormula", .text "1d2"),
      ("table", .list [.object [("description", .text "Ebb")]])],
    .object [("name", .text "wrecks")],
    .object [("name", .text "gulls"), ("diceFormula", .text "many"), ("table", .list [])]]

def wreckage : Value :=
  .list [
    .object [("name", .text "wrecks"), ("diceFormula", .int 5), ("table", .list [])],
    .object [("name", .text "tides"), ("diceFormula", .text "1d2"),
      ("table", .list [.object [("description", .text "Ebb")]])]]

def sceneWith (document : Value) : Scene :=
  { Scene.blank with desk := { Scene.blank.desk with
    files := { files := [(["tables.json"], .text document.write)] } } }

def tablesPath : Path := ⟨"", ["tables.json"]⟩

theorem read_sceneWith (document : Value) :
    (sceneWith document).desk.files.read tablesPath = .ok document.write := rfl

theorem readsBack_harbour : harbour.ReadsBack := by
  apply Value.readsBack_list
  simp only [List.forall_mem_cons, List.not_mem_nil, false_implies, implies_true, and_true]
  refine ⟨?_, ?_, ?_⟩
  all_goals
    apply Value.readsBack_object (by decide)
    simp [Value.readsBack_text]
  · apply Value.readsBack_list
    simp only [List.forall_mem_singleton]
    exact Value.readsBack_object (by decide) (by simp [Value.readsBack_text])
  · exact Value.readsBack_list (by simp)

def tidesTable : RandomTable :=
  { name := .text "tides", formula := .text "1d2", rows := [⟨.null, .null, .literal "Ebb"⟩] }

def gullsTable : RandomTable := { name := .text "gulls", formula := .text "many" }

theorem not_blocked_tides : ¬ Blocked (.text "tides") tidesTable := by
  have hformula : Formula.ofValue tidesTable.formula = .ok ⟨1, 2, 0⟩ := rfl
  have hgaps : tidesTable.gaps none = .ok [] := by
    have hbounds : Formula.bounds tidesTable.formula = .ok (1, 2) := rfl
    have hspans : tidesTable.rows.mapM (Row.span? ⟨1, 2⟩ none) = .ok [some ⟨1, 2⟩] := rfl
    simp only [RandomTable.gaps, hbounds, hspans, ok_bind]
    simp [Span.missing]
  rintro ((hunreadable | ⟨gaps, hgaps', htell⟩) | hkey)
  · exact readable_of_ok hformula hunreadable
  · obtain rfl := Except.ok.inj (hgaps.symm.trans hgaps')
    exact htell (by simp [GapsTellable])
  · cases hkey

/-- A formula that is refused is no obstacle. -/
theorem not_blocked_gulls : ¬ Blocked (.text "gulls") gullsTable := by
  have hformula : Formula.parts? "many".toList = none := rfl
  have hgaps : gullsTable.gaps none = .error (.dice (.text "many") .malformed) := rfl
  rintro ((hunreadable | ⟨gaps, hgaps', -⟩) | hkey)
  · obtain ⟨parts, hparts, -⟩ := hunreadable
    cases hformula.symm.trans hparts
  · cases hgaps.symm.trans hgaps'
  · cases hkey

/-- Two of three entries are tables, and both are registered. -/
theorem load_exact_harbour :
    (sceneWith harbour).desk.files.read tablesPath = .ok harbour.write ∧
      Value.read (sceneWith harbour).desk.room harbour.write = .ok harbour ∧ ∃ entries,
        load tablesPath false (sceneWith harbour) =
          .ok 2 (loaded tablesPath entries (sceneWith harbour)) := by
  have hread : Value.read (sceneWith harbour).desk.room harbour.write = .ok harbour :=
    Value.read_write readsBack_harbour (by decide)
  obtain ⟨entries, hentries, -, hload, -⟩ :=
    load_exact (read_sceneWith harbour) hread (Or.inl ⟨_, rfl⟩)
  obtain rfl := Except.ok.inj hentries
  refine ⟨read_sceneWith harbour, hread, _, hload ?_⟩
  intro key table hmem
  have htables : (key, table) ∈ [(Value.text "tides", tidesTable), (Value.text "gulls", gullsTable)] :=
    hmem
  rcases List.mem_pair.1 htables with heq | heq
  · obtain ⟨rfl, rfl⟩ := Prod.mk.inj heq
    exact not_blocked_tides
  · obtain ⟨rfl, rfl⟩ := Prod.mk.inj heq
    exact not_blocked_gulls

theorem readsBack_wreckage : wreckage.ReadsBack := by
  have hfive : (Value.int 5).ReadsBack := Value.readsBack_int (by decide +kernel)
  apply Value.readsBack_list
  simp only [List.forall_mem_cons, List.not_mem_nil, false_implies, implies_true, and_true]
  refine ⟨?_, ?_⟩
  all_goals
    apply Value.readsBack_object (by decide)
    simp [Value.readsBack_text, hfive]
  · exact Value.readsBack_list (by simp)
  · apply Value.readsBack_list
    simp only [List.forall_mem_singleton]
    exact Value.readsBack_object (by decide) (by simp [Value.readsBack_text])

/-- A formula that is a number ends the loading, and the sound table behind it stays out. -/
theorem wreckage_not_loaded :
    Value.read (sceneWith wreckage).desk.room wreckage.write = .ok wreckage ∧
      load tablesPath false (sceneWith wreckage) = .error .wrongKind (sceneWith wreckage) := by
  have hread : Value.read (sceneWith wreckage).desk.room wreckage.write = .ok wreckage :=
    Value.read_write readsBack_wreckage (by decide)
  have htable : RandomTable.ofValue none (.object [("name", .text "wrecks"), ("diceFormula", .int 5),
      ("table", .list [])]) = .ok { name := .text "wrecks", formula := .int 5 } := rfl
  have hwarn (desk : Desk) : warnOfGaps { name := .text "wrecks", formula := .int 5 } desk =
      .error .wrongKind desk := rfl
  refine ⟨hread, ?_⟩
  rw [run_load (read_sceneWith wreckage) hread rfl, List.map_cons, takeIn, tableOf_false htable]
  simp only [Act.run_bind, Act.run_discard, run_register_error (hwarn _)]

end Loading

end Registry

end TaleLoom
