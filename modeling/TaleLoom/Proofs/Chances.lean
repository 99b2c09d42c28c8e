import Mathlib.Algebra.BigOperators.Intervals
import TaleLoom.Proofs.Record
import TaleLoom.Proofs.Spark.Keywords
import TaleLoom.Proofs.Table.Attempts
import TaleLoom.Proofs.Table.Entries
/-!
The chances of an entry, counted in the outcomes of one draw. In a table of entries each face of the die
is for one entry, so an entry has as many faces as there are of it (`RandomTable.entries_fair`). In a draw
of keywords each place of the pool leads to one keyword, so a keyword has as many places as the weights of
its tables say (`SparkLibrary.first_keyword_weighted`).
-/

namespace TaleLoom

open scoped Classical

/-- An item has as many places in a list as there are of it. -/
theorem card_places {α : Type} [DecidableEq α] (items : List α) (item : α) :
    ((Finset.range items.length).filter fun place => items[place]? = some item).card =
      items.count item := by
  rw [Finset.card_filter]
  induction items with
  | nil => rfl
  | cons first rest ih =>
    rw [List.length_cons, Finset.sum_range_succ', List.count_cons, ← ih]
    simp only [List.getElem?_cons_succ, List.getElem?_cons_zero, Option.some.injEq, beq_iff_eq]

/-- Each place is what some source gives. -/
theorem Source.below_single {place size : Nat} (h : place < size) :
    ((Source.listed [(place : Int)]).below size).1 = place := by
  have hmod : (place : Int) % (size : Int) = place := Int.emod_eq_of_lt (by omega) (by omega)
  rw [below, hmod, Int.toNat_natCast]

namespace RandomTable

variable {entries : List String}

def entryRow (total : Nat) (entry : String) : Row :=
  { low := .int total, high := .int total, description := .literal entry }

theorem getElem?_entryRows (first place : Nat) :
    (entryRows first entries)[place]? = entries[place]?.map (entryRow (first + place)) := by
  induction entries generalizing first place with
  | nil => rfl
  | cons entry rest ih =>
    cases place with
    | zero => rfl
    | succ place =>
      have hshift : first + (place + 1) = first + 1 + place := by omega
      rw [hshift]
      exact ih (first + 1) place

theorem length_entryRows (first : Nat) : (entryRows first entries).length = entries.length := by
  induction entries generalizing first with
  | nil => rfl
  | cons entry rest ih =>
    rw [entryRows, List.length_cons, ih, List.length_cons]

theorem covers_entryRow (difficulty : Option Int) (own : Nat) (entry : String) (total : Int) :
    (entryRow own entry).covers difficulty total = .ok (decide (total = own)) := by
  have hbetween : Row.isBetween (some (own : Int)) (some (own : Int)) total = decide (total = own) := by
    rw [Row.isBetween, Option.all_some, Option.all_some, Bool.eq_iff_iff, Bool.and_eq_true,
      decide_eq_true_iff, decide_eq_true_iff, decide_eq_true_iff]
    omega
  exact congrArg Except.ok hbetween

/-- The total of a face has the row of its entry, and no other row covers it. -/
structure HasOnlyRow (table : RandomTable) (difficulty : Option Int) (place : Nat) (row : Row) : Prop where
  stands : table.rows[place]? = some row
  found : table.rowFor difficulty (place + 1 : Nat) = .ok (some row)
  alone : ∀ (other : Nat) (row' : Row), table.rows[other]? = some row' →
    row'.covers difficulty (place + 1 : Nat) = .ok (decide (other = place))

/-- A roll comes to one face of one die with so many sides: nothing else is drawn from the source, and
nothing else is recorded as a roll. -/
structure OneDie (sides face : Nat) (desk : Desk) (result : TableResult) (after : Desk) : Prop where
  shown : (desk.source.below sides).1 + 1 = face
  drawn : after.source = (desk.source.below sides).2
  recorded : after.rolls = desk.rolls.push result.dice
  faces : result.dice.faces = [(face : Int)]
  total : result.total = face

/-- Whenever the die of a roll shows the face, whatever the difficulty, the rerolls and the desk, the roll
comes to this die alone, and to the text. -/
def FaceGives (table : RandomTable) (sides face : Nat) (text : String) : Prop :=
  ∀ (difficulty : Option Int) (rerolls : Int) (desk : Desk), (desk.source.below sides).1 + 1 = face →
    ∃ result after, table.roll difficulty rerolls desk = .ok result after ∧
      OneDie sides face desk result after ∧ result.description = text

section EntryTables

variable {name description : Value} {consumable : Bool} {difficulty : Option Int}

/-- Each place of a table of entries has its row, which is the only one for the total of its face. -/
theorem hasOnlyRow_ofEntries (hmost : entries.length ≤ Formula.maxSides) {place : Nat} {entry : String}
    (hentry : entries[place]? = some entry) (difficulty : Option Int) :
    (ofEntries name entries description consumable).HasOnlyRow difficulty place
      (entryRow (place + 1) entry) := by
  have hstands (other : Nat) (text : String) (htext : entries[other]? = some text) :
      (entryRows 1 entries)[other]? = some (entryRow (other + 1) text) := by
    rw [getElem?_entryRows, htext, Option.map_some, Nat.add_comm]
  have halone (other : Nat) (row' : Row) (hrow' : (entryRows 1 entries)[other]? = some row') :
      row'.covers difficulty (place + 1 : Nat) = .ok (decide (other = place)) := by
    rw [getElem?_entryRows] at hrow'
    obtain ⟨text, -, rfl⟩ := Option.map_eq_some_iff.1 hrow'
    rw [covers_entryRow, Except.ok.injEq, decide_eq_decide]
    omega
  have hsome : entries ≠ [] := List.ne_nil_of_mem (List.mem_of_getElem? hentry)
  refine ⟨hstands place entry hentry, ?_, halone⟩
  rcases rowFor_exact (rollable_ofEntries name hsome hmost description consumable) difficulty
      (place + 1 : Nat) with ⟨row, hrow, before, after, hrows, hcovers, -⟩ | ⟨-, hnone⟩
  · -- the row that was found stands at the place, since it covers the total
    have hfound : (entryRows 1 entries)[before.length]? = some row := by
      rw [show entryRows 1 entries = before ++ row :: after from hrows,
        List.getElem?_append_right (Nat.le_refl _), Nat.sub_self, List.getElem?_cons_zero]
    have hplace : before.length = place := by
      have hdecide := Except.ok.inj (hcovers.symm.trans (halone _ _ hfound))
      exact of_decide_eq_true hdecide.symm
    rw [hplace, hstands place entry hentry] at hfound
    rw [hrow, hfound]
  · have hmem := List.mem_of_getElem? (hstands place entry hentry)
    have hcovered := halone place _ (hstands place entry hentry)
    cases (hnone _ hmem).symm.trans (hcovered.trans (by rw [decide_eq_true rfl]))

/-- The face that a die shows gives the entry of its place. -/
theorem faceGives_ofEntries (hmost : entries.length ≤ Formula.maxSides) {place : Nat} {entry : String}
    (hentry : entries[place]? = some entry) :
    (ofEntries name entries description consumable).FaceGives entries.length (place + 1) entry := by
  intro difficulty rerolls desk hshown
  have hsome : entries ≠ [] := List.ne_nil_of_mem (List.mem_of_getElem? hentry)
  have hrollable := rollable_ofEntries name hsome hmost description consumable
  have htotal : Formula.totalOn ⟨1, entries.length, 0⟩ desk.source = (place + 1 : Nat) := by
    have hface : ((desk.source.below entries.length).1 : Int) + 1 = (place + 1 : Nat) := by omega
    simpa [Formula.totalOn, Formula.total, Source.faces] using hface
  have hrow : (ofEntries name entries description consumable).rowFor difficulty
      (Formula.totalOn ⟨1, entries.length, 0⟩ desk.source) = .ok (some (entryRow (place + 1) entry)) := by
    rw [htotal]
    exact (hasOnlyRow_ofEntries hmost hentry difficulty).found
  refine ⟨_, _, run_roll_literal hrollable hrow rfl rerolls, ?_, rfl⟩
  constructor
  · exact hshown
  · rfl
  · rfl
  · show [((desk.source.below entries.length).1 : Int) + 1] = _
    rw [← hshown]
    rfl
  · exact htotal

/-- A face of the die gives one text and no other. -/
theorem faceGives_iff (hmost : entries.length ≤ Formula.maxSides) {place : Nat}
    (hplace : place < entries.length) (text : String) :
    (ofEntries name entries description consumable).FaceGives entries.length (place + 1) text ↔
      entries[place]? = some text := by
  constructor
  · intro hgives
    let desk : Desk := { Scene.blank.desk with source := .listed [(place : Int)] }
    have hshown : (desk.source.below entries.length).1 + 1 = place + 1 :=
      congrArg (· + 1) (Source.below_single hplace)
    have hentry := List.getElem?_eq_getElem hplace
    obtain ⟨result, after, hroll, -, htext⟩ := hgives none 0 desk hshown
    obtain ⟨result', after', hroll', -, htext'⟩ := faceGives_ofEntries hmost hentry none 0 desk hshown
    rw [hroll] at hroll'
    obtain ⟨rfl, -⟩ := EStateM.Result.ok.inj hroll'
    rw [hentry, ← htext', htext]
  · intro hentry
    exact faceGives_ofEntries hmost hentry

/-- An entry has as many faces of the die as there are of it. -/
theorem card_faces (hmost : entries.length ≤ Formula.maxSides) (text : String) :
    ((Finset.Icc 1 entries.length).filter fun face =>
      (ofEntries name entries description consumable).FaceGives entries.length face text).card =
        entries.count text := by
  rw [← card_places]
  apply Finset.card_nbij' (· - 1) (· + 1)
  case hi =>
    intro face hface
    simp only [Finset.mem_coe, Finset.mem_filter, Finset.mem_Icc, Finset.mem_range] at hface ⊢
    obtain ⟨⟨hlow, hhigh⟩, hgives⟩ := hface
    have hplace : face - 1 < entries.length := by omega
    rw [← Nat.sub_add_cancel hlow] at hgives
    exact ⟨hplace, (faceGives_iff hmost hplace text).1 hgives⟩
  case hj =>
    intro place hplace
    simp only [Finset.mem_coe, Finset.mem_filter, Finset.mem_Icc, Finset.mem_range] at hplace ⊢
    obtain ⟨hlow, hentry⟩ := hplace
    exact ⟨⟨by omega, by omega⟩, (faceGives_iff hmost hlow text).2 hentry⟩
  case left_inv =>
    intro face hface
    simp only [Finset.mem_coe, Finset.mem_filter, Finset.mem_Icc] at hface
    exact Nat.sub_add_cancel hface.1.1
  case right_inv =>
    intro place _
    exact Nat.add_sub_cancel place 1

/-- A table of entries is fair. It has a row for each entry and no gaps; the total of each face has the row
of the entry at its place, and no other; a roll is one draw of one die with as many sides as there are
entries, and gives the entry at the place that was drawn. So every text is given by as many faces as there
are entries that it is. -/
theorem entries_fair (name description : Value) (consumable : Bool) (hsome : entries ≠ [])
    (hmost : entries.length ≤ 1000000) :
    let table := ofEntries name entries description consumable
    let sides := entries.length
    table.rows.length = sides ∧
    (∀ difficulty, table.gaps difficulty = .ok []) ∧
    (∀ place entry, entries[place]? = some entry → ∃ row, row.description = .literal entry ∧
      ∀ difficulty, table.HasOnlyRow difficulty place row) ∧
    (∀ difficulty rerolls desk, ∃ place entry result after, entries[place]? = some entry ∧
      table.roll difficulty rerolls desk = .ok result after ∧
      OneDie sides (place + 1) desk result after ∧ result.description = entry) ∧
    ∀ text, ((Finset.Icc 1 sides).filter fun face => table.FaceGives sides face text).card =
      entries.count text := by
  intro table sides
  refine ⟨length_entryRows 1, gaps_ofEntries name hsome hmost description consumable, ?_, ?_,
    card_faces hmost⟩
  · intro place entry hentry
    exact ⟨entryRow (place + 1) entry, rfl, hasOnlyRow_ofEntries hmost hentry⟩
  · intro difficulty rerolls desk
    have hplace : (desk.source.below sides).1 < entries.length :=
      desk.source.below_lt (List.length_pos_iff.2 hsome)
    have hentry := List.getElem?_eq_getElem hplace
    obtain ⟨result, after, hroll, hdie, htext⟩ :=
      faceGives_ofEntries hmost hentry difficulty rerolls desk rfl
    exact ⟨_, _, result, after, hentry, hroll, hdie, htext⟩

def chest : List String := ["gold", "a map", "gold"]

/-- Two of the three faces give gold. -/
theorem entries_fair_chest : chest ≠ [] ∧ chest.length ≤ 1000000 ∧
    ((Finset.Icc 1 3).filter fun face =>
      (ofEntries (.text "Chest") chest).FaceGives 3 face "gold").card = 2 := by
  have hsome : chest ≠ [] := List.cons_ne_nil _ _
  have hmost : chest.length ≤ 1000000 := by decide
  obtain ⟨-, -, -, -, hfaces⟩ := entries_fair (.text "Chest") (.text "") false hsome hmost
  exact ⟨hsome, hmost, hfaces "gold"⟩

end EntryTables

end RandomTable

namespace SparkTable

variable (table : SparkTable)

def share : Nat := (max table.weight 1).toNat

theorem map_fst_pool : table.pool.map (·.1) = (List.replicate table.share table.keywords).flatten := by
  have hnamed : (table.keywords.map fun entry => (entry, table.name)).map (·.1) = table.keywords := by
    rw [List.map_map]
    exact List.map_id _
  rw [pool, List.map_flatten, List.map_replicate, hnamed, share]

theorem length_pool : table.pool.length = table.share * table.keywords.length := by
  rw [← List.length_map (·.1), map_fst_pool, List.length_flatten, List.map_replicate,
    List.sum_replicate_nat]

/-- A text that is not blank is in the pool as often as it is an entry, times the weight. -/
theorem count_pool {text : String} (htext : Text.trim text.toList ≠ []) :
    (table.pool.map (·.1)).count text = table.share * table.entries.count text := by
  have hfilled : (!(Text.trim text.toList).isEmpty) = true := by
    rw [List.isEmpty_eq_false_iff.2 htext]
    rfl
  have hkeywords : table.keywords.count text = table.entries.count text := List.count_filter hfilled
  rw [map_fst_pool, List.count_flatten, List.map_replicate, List.sum_replicate_nat, hkeywords]

end SparkTable

namespace SparkLibrary

open Text

/-- The first draw of all was a place among so many, for a keyword. -/
def DrewFirst (size place : Nat) (before after : Desk) : Prop :=
  (before.source.below size).1 = place ∧
    ∃ later, after.rolls.toList =
      before.rolls.toList ++ Desk.placeRoll size place "spark keyword" :: later

/-- Whenever the first draw gives the place, whatever the scene, keywords are drawn, and the text is the
first of them. -/
def PlaceLeads (tables : List SparkTable) (count : Int) (purpose : SparkUse) (size place : Nat)
    (text : String) : Prop :=
  ∀ scene : Scene, (scene.desk.source.below size).1 = place →
    ∃ others after, generate count purpose (some tables) scene = .ok (text :: others) after

section Weights

variable {tables : List SparkTable} {count : Int} {purpose : SparkUse}

def pooled (tables : List SparkTable) : List (String × Value) := (tables.map SparkTable.pool).flatten

theorem length_pooled (tables : List SparkTable) : (pooled tables).length =
    (tables.map fun table => table.share * table.keywords.length).sum := by
  rw [pooled, List.length_flatten, List.map_map]
  congr 2
  funext table
  exact table.length_pool

theorem count_pooled (tables : List SparkTable) {text : String} (htext : trim text.toList ≠ []) :
    ((pooled tables).map (·.1)).count text =
      (tables.map fun table => table.share * table.entries.count text).sum := by
  rw [pooled, List.map_flatten, List.count_flatten, List.map_map, List.map_map]
  congr 2
  funext table
  exact table.count_pool htext

theorem pooled_ne_nil (hsome : ∃ table ∈ tables, table.keywords ≠ []) : pooled tables ≠ [] := by
  obtain ⟨table, htable, hkeywords⟩ := hsome
  obtain ⟨keyword, hkeyword⟩ := List.exists_mem_of_ne_nil _ hkeywords
  apply List.ne_nil_of_mem (a := (keyword, table.name))
  apply List.mem_flatten.2
  exact ⟨table.pool, List.mem_map_of_mem htable, SparkTable.mem_pool.2 ⟨hkeyword, rfl⟩⟩

theorem tables_ne_nil (hpooled : pooled tables ≠ []) : tables ≠ [] := by
  rintro rfl
  exact hpooled rfl

/-- The draw of a place comes first, and what is drawn after it is recorded behind it. -/
theorem drewFirst_drawFrom {size wanted : Nat} {pool : List (String × Value)}
    (hsize : pool.length = size + 1) (seen : List String) (scene : Scene) :
    DrewFirst pool.length (scene.desk.source.below pool.length).1 scene.desk
      ((drawFrom (size + 1) (wanted + 1) pool seen).after scene).desk := by
  let place := (scene.desk.source.below pool.length).1
  let placed : Scene := { scene with desk := scene.desk.placed pool.length "spark keyword" }
  have hplace : (liftM (Desk.drawPlace pool.length "spark keyword") : Act Scene Nat) scene =
      .ok place placed := by
    rw [Scene.run_liftDesk, Scene.run_atDesk, Desk.run_drawPlace]
  have hin : place < pool.length := scene.desk.source.below_lt (by omega)
  have hrest : (pool.eraseIdx place).length = size := by
    rw [List.length_eraseIdx_of_lt hin]
    omega
  have hquiet : Desk.Quiet (Desk.recording false) := Desk.recording_lasts.toQuiet
  obtain ⟨takings, htakings⟩ : (Desk.recording false).holds placed.desk
      ((drawFrom (size + 1) (wanted + 1) pool seen).after scene).desk := by
    rw [drawFrom, Act.after_bind, hplace]
    simp only [List.getElem?_eq_getElem hin]
    split
    · exact hquiet.drawFrom (wanted + 1) hrest seen placed
    · have hnote : (noteUse pool[place].2 pool[place].1).Keeps (Scene.deskwise (Desk.recording false)) :=
        Desk.Quiet.noteUse _ _
      exact hnote.bind (fun _ => Act.Keeps.map (hquiet.drawFrom wanted hrest _)) placed
  refine ⟨rfl, takings.filterMap (·.roll), ?_⟩
  have hplaced : placed.desk.rolls.toList =
      scene.desk.rolls.toList ++ [Desk.placeRoll pool.length place "spark keyword"] := by
    simp [placed, place, Desk.placed, Desk.recorded, Desk.posted]
  calc ((drawFrom (size + 1) (wanted + 1) pool seen).after scene).desk.rolls.toList
      = placed.desk.rolls.toList ++ takings.filterMap (·.roll) := htakings.recorded
    _ = scene.desk.rolls.toList ++ Desk.placeRoll pool.length place "spark keyword" ::
        takings.filterMap (·.roll) := by
      rw [hplaced, List.append_assoc, List.singleton_append]

/-- Tables that are enabled are drawn from as they are. -/
theorem inUse_of_enabled (purpose : SparkUse) (htables : tables ≠ [])
    (henabled : ∀ table ∈ tables, table.enabled = true) (library : SparkLibrary) :
    library.inUse purpose (some tables) = tables := by
  have hall : tables.filter (·.enabled) = tables := List.filter_eq_self.2 henabled
  simp only [inUse, hall, List.isEmpty_eq_false_iff.2 htables, Bool.false_eq_true, if_false]

/-- A draw from enabled tables is one from what they have, of which there is at least one. -/
theorem generate_of_pooled (purpose : SparkUse) (hcount : 1 ≤ count)
    (henabled : ∀ table ∈ tables, table.enabled = true) (hpooled : pooled tables ≠ []) :
    ∃ size wanted, (pooled tables).length = size + 1 ∧ count.toNat = wanted + 1 ∧
      ∀ scene, generate count purpose (some tables) scene =
        drawFrom (size + 1) (wanted + 1) (pooled tables) [] scene := by
  have htables := tables_ne_nil hpooled
  have hlength : (pooled tables).length ≠ 0 := mt List.length_eq_zero_iff.1 hpooled
  obtain ⟨size, hsize⟩ : ∃ size, (pooled tables).length = size + 1 :=
    Nat.exists_eq_succ_of_ne_zero hlength
  obtain ⟨wanted, hwanted⟩ : ∃ wanted, count.toNat = wanted + 1 := by
    apply Nat.exists_eq_succ_of_ne_zero
    omega
  refine ⟨size, wanted, hsize, hwanted, fun scene => ?_⟩
  simp only [generate, Act.run_bind, Act.run_get, inUse_of_enabled purpose htables henabled,
    List.isEmpty_eq_false_iff.2 htables, Bool.false_eq_true, if_false, ← hwanted, ← hsize, pooled]

/-- A draw starts with one place among what the tables have, however it ends. -/
theorem drewFirst_generate (hcount : 1 ≤ count) (henabled : ∀ table ∈ tables, table.enabled = true)
    (hpooled : pooled tables ≠ []) (scene : Scene) :
    DrewFirst (pooled tables).length (scene.desk.source.below (pooled tables).length).1 scene.desk
      ((generate count purpose (some tables)).after scene).desk := by
  obtain ⟨size, wanted, hsize, -, hrun⟩ := generate_of_pooled purpose hcount henabled hpooled
  rw [Act.after_congr (hrun scene)]
  exact drewFirst_drawFrom hsize [] scene

/-- The keyword at the place that is drawn first is the first one of all. -/
theorem placeLeads_of_getElem? (purpose : SparkUse) (hcount : 1 ≤ count)
    (henabled : ∀ table ∈ tables, table.enabled = true)
    (hnames : ∀ table ∈ tables, table.name.isKey = true) {place : Nat} {pick : String × Value}
    (hpick : (pooled tables)[place]? = some pick) :
    PlaceLeads tables count purpose (pooled tables).length place pick.1 := by
  intro scene hplace
  have hpooled : pooled tables ≠ [] := List.ne_nil_of_mem (List.mem_of_getElem? hpick)
  have htables := tables_ne_nil hpooled
  have huse := inUse_of_enabled purpose htables henabled scene.sparks
  obtain ⟨size, wanted, hsize, hwanted, -⟩ := generate_of_pooled purpose hcount henabled hpooled
  obtain ⟨after, hdraw, -⟩ := run_generate count purpose (some tables) scene (huse.symm ▸ hnames)
  have hpicks : scene.sparks.picksFor count purpose (some tables) scene.desk.source =
      pick :: picks size wanted ((pooled tables).eraseIdx place) [fold pick.1]
        (scene.desk.source.below (pooled tables).length).2 := by
    rw [picksFor, huse]
    show picks (pooled tables).length count.toNat (pooled tables) [] scene.desk.source = _
    rw [hwanted]
    rw [hsize] at hplace ⊢
    rw [picks]
    simp only [hsize, hplace, hpick, List.contains_nil, Bool.false_eq_true, if_false]
  rw [hpicks] at hdraw
  exact ⟨_, after, hdraw⟩

/-- A place leads to one text and to no other. -/
theorem placeLeads_iff (hcount : 1 ≤ count) (henabled : ∀ table ∈ tables, table.enabled = true)
    (hnames : ∀ table ∈ tables, table.name.isKey = true) {place : Nat}
    (hplace : place < (pooled tables).length) (text : String) :
    PlaceLeads tables count purpose (pooled tables).length place text ↔
      ((pooled tables).map (·.1))[place]? = some text := by
  have hpick := List.getElem?_eq_getElem hplace
  have hleads := placeLeads_of_getElem? purpose hcount henabled hnames hpick
  rw [List.getElem?_map, hpick, Option.map_some, Option.some.injEq]
  constructor
  · intro htext
    let scene : Scene :=
      { Scene.blank with desk := { Scene.blank.desk with source := .listed [(place : Int)] } }
    have hdrawn : (scene.desk.source.below (pooled tables).length).1 = place := Source.below_single hplace
    obtain ⟨others, after, hrun⟩ := hleads scene hdrawn
    obtain ⟨others', after', hrun'⟩ := htext scene hdrawn
    rw [hrun] at hrun'
    exact (List.cons.inj (EStateM.Result.ok.inj hrun').1).1
  · rintro rfl
    exact hleads

/-- Weights count exactly. A draw of keywords from tables that are enabled, where they have any, is first of
all the draw of one place among all their keywords, each of which counts as often as the weight of its table
says. Where the names of the tables can be keys, that place alone decides which keyword is the first one, and
a text that is not blank is the first one for as many places as it is an entry of each table, times the
weight of the table. -/
theorem first_keyword_weighted (purpose : SparkUse) (hcount : 1 ≤ count)
    (henabled : ∀ table ∈ tables, table.enabled = true)
    (hsome : ∃ table ∈ tables, table.keywords ≠ []) :
    let size := (tables.map fun table => (max table.weight 1).toNat * table.keywords.length).sum
    (∀ scene, ∃ place < size, DrewFirst size place scene.desk
      ((generate count purpose (some tables)).after scene).desk) ∧
    ((∀ table ∈ tables, table.name.isKey = true) →
      (∀ place < size, ∃ text, PlaceLeads tables count purpose size place text) ∧
      ∀ text, trim text.toList ≠ [] →
        ((Finset.range size).filter fun place => PlaceLeads tables count purpose size place text).card =
          (tables.map fun table => (max table.weight 1).toNat * table.entries.count text).sum) := by
  intro size
  have hpooled := pooled_ne_nil hsome
  have hsize : (pooled tables).length = size := length_pooled tables
  rw [← hsize]
  refine ⟨?_, fun hnames => ⟨?_, ?_⟩⟩
  · intro scene
    have hplace : (scene.desk.source.below (pooled tables).length).1 < (pooled tables).length :=
      scene.desk.source.below_lt (List.length_pos_iff.2 hpooled)
    exact ⟨_, hplace, drewFirst_generate hcount henabled hpooled scene⟩
  · intro place hplace
    exact ⟨_, placeLeads_of_getElem? purpose hcount henabled hnames (List.getElem?_eq_getElem hplace)⟩
  · intro text htext
    calc ((Finset.range (pooled tables).length).filter fun place =>
          PlaceLeads tables count purpose (pooled tables).length place text).card
        = ((Finset.range (pooled tables).length).filter fun place =>
          ((pooled tables).map (·.1))[place]? = some text).card := by
          apply congrArg Finset.card
          apply Finset.filter_congr
          intro place hplace
          exact placeLeads_iff hcount henabled hnames (Finset.mem_range.1 hplace) text
      _ = ((pooled tables).map (·.1)).count text := by
          rw [← card_places, List.length_map]
      _ = (tables.map fun table => (max table.weight 1).toNat * table.entries.count text).sum :=
          count_pooled tables htext

def gales : List SparkTable :=
  [{ name := .text "Gales", entries := ["storm", " ", "storm"], weight := 3, lastModified := .int 0 },
    { name := .text "Skies", entries := ["calm", "storm"], lastModified := .int 0 }]

/-- Seven of the eight places lead to the keyword that both tables have. -/
theorem first_keyword_weighted_gales : (1 : Int) ≤ 2 ∧ (∀ table ∈ gales, table.enabled = true) ∧
    (∃ table ∈ gales, table.keywords ≠ []) ∧ (∀ table ∈ gales, table.name.isKey = true) ∧
    ((Finset.range 8).filter fun place => PlaceLeads gales 2 .sparks 8 place "storm").card = 7 := by
  have hcount : (1 : Int) ≤ 2 := by decide
  have henabled : ∀ table ∈ gales, table.enabled = true :=
    List.forall_mem_cons.2 ⟨rfl, List.forall_mem_singleton.2 rfl⟩
  have hsome : ∃ table ∈ gales, table.keywords ≠ [] := ⟨_, List.mem_cons_self, List.cons_ne_nil _ _⟩
  have hnames : ∀ table ∈ gales, table.name.isKey = true :=
    List.forall_mem_cons.2 ⟨rfl, List.forall_mem_singleton.2 rfl⟩
  have hplaces := ((first_keyword_weighted .sparks hcount henabled hsome).2 hnames).2 "storm" (by decide)
  exact ⟨hcount, henabled, hsome, hnames, hplaces⟩

end Weights

end SparkLibrary

end TaleLoom
