import Mathlib.Data.Finset.Card
import Mathlib.Data.List.Nodup
import TaleLoom.Proofs.Notices
import TaleLoom.Proofs.Spark.Draw
import TaleLoom.Proofs.Value.Same
/-!
What a draw of keywords comes to. As long as fewer are drawn than there are, every round of the draw
finds a keyword or takes a repetition out of the pool, so a draw comes to as many keywords as are asked
for or can be told apart (`length_picks`), and no two of them differ in letter case alone
(`nodup_picks`). Every keyword is counted as a use of its own table (`Counts`), so the uses grow by what
was drawn (`generate_exact`).
-/

namespace TaleLoom

/-- What the items of a collection come to, after one was set: the item that was under the key before is
no longer counted. -/
theorem Keyed.sum_values_set {κ α : Type} [BEq κ] (f : α → Nat) (key : κ) (a : α) (m : Keyed κ α) :
    ((values (set key a m)).map f).sum + ((get? key m).map f).getD 0 =
      ((values m).map f).sum + f a := by
  induction m with
  | nil => simp [set, values, get?]
  | cons entry rest ih =>
    obtain ⟨k, old⟩ := entry
    rw [set, get?]
    simp only [values] at ih ⊢
    split
    · simp only [List.map_cons, List.sum_cons, Option.map_some, Option.getD_some]
      omega
    · simp only [List.map_cons, List.sum_cons]
      omega

namespace SparkLibrary

open Text

section Picks

def newForms (pool : List (String × Value)) (seen : List String) : Finset String :=
  (pool.map fun entry => fold entry.1).toFinset \ seen.toFinset

theorem mem_newForms {pool : List (String × Value)} {seen : List String} {form : String} :
    form ∈ newForms pool seen ↔ (∃ entry ∈ pool, fold entry.1 = form) ∧ form ∉ seen := by
  simp [newForms]

section Taken

variable {pool : List (String × Value)} {seen : List String} {entry : String × Value} {place : Nat}

/-- The forms of a pool are those of the entry that was drawn and of what is left. -/
theorem mem_newForms_of_drawn (h : pool[place]? = some entry) {form : String} :
    form ∈ newForms pool seen ↔
      (fold entry.1 = form ∨ ∃ other ∈ pool.eraseIdx place, fold other.1 = form) ∧
        form ∉ seen := by
  obtain ⟨hplace, rfl⟩ := List.getElem?_eq_some_iff.1 h
  have hperm := List.getElem_cons_eraseIdx_perm hplace
  simp only [mem_newForms, ← hperm.mem_iff, List.mem_cons, or_and_right, exists_or, exists_eq_left]

/-- Taking a repetition out of the pool leaves its new forms as they are. -/
theorem newForms_of_seen (h : pool[place]? = some entry) (hseen : fold entry.1 ∈ seen) :
    newForms (pool.eraseIdx place) seen = newForms pool seen := by
  ext form
  rw [mem_newForms, mem_newForms_of_drawn h]
  constructor
  · rintro ⟨hform, hnew⟩
    exact ⟨Or.inr hform, hnew⟩
  · rintro ⟨rfl | hform, hnew⟩
    · exact absurd hseen hnew
    · exact ⟨hform, hnew⟩

/-- Taking a new keyword out of the pool leaves one new form less. -/
theorem card_newForms_of_new (h : pool[place]? = some entry) (hnew : fold entry.1 ∉ seen) :
    (newForms pool seen).card =
      (newForms (pool.eraseIdx place) (fold entry.1 :: seen)).card + 1 := by
  have hinsert : newForms pool seen =
      insert (fold entry.1) (newForms (pool.eraseIdx place) (fold entry.1 :: seen)) := by
    ext form
    rw [Finset.mem_insert, mem_newForms_of_drawn h, mem_newForms, List.mem_cons, not_or]
    constructor
    · rintro ⟨hform, hunseen⟩
      by_cases hsame : form = fold entry.1
      · exact Or.inl hsame
      · exact Or.inr ⟨hform.resolve_left (Ne.symm hsame), hsame, hunseen⟩
    · rintro (rfl | ⟨hform, -, hunseen⟩)
      · exact ⟨Or.inl rfl, hnew⟩
      · exact ⟨Or.inr hform, hunseen⟩
  have hgone : fold entry.1 ∉ newForms (pool.eraseIdx place) (fold entry.1 :: seen) := by
    simp [mem_newForms]
  rw [hinsert, Finset.card_insert_of_notMem hgone]

end Taken

variable (size wanted : Nat) (source : Source)

/-- The place that is drawn is one of the pool. -/
theorem exists_drawn (pool : List (String × Value)) (hpool : 0 < pool.length) :
    ∃ entry, pool[(source.below pool.length).1]? = some entry :=
  ⟨_, List.getElem?_eq_getElem (source.below_lt hpool)⟩

theorem picks_subset (pool : List (String × Value)) (seen : List String) :
    picks size wanted pool seen source ⊆ pool := by
  induction size generalizing wanted pool seen source with
  | zero => simp [picks]
  | succ size ih =>
    cases wanted with
    | zero => simp [picks]
    | succ wanted =>
      rw [picks]
      dsimp only
      cases hdrawn : pool[(source.below pool.length).1]? with
      | none => simp
      | some entry =>
        have hrest : pool.eraseIdx (source.below pool.length).1 ⊆ pool :=
          (List.eraseIdx_sublist _ _).subset
        dsimp only
        split
        · exact List.Subset.trans (ih _ _ _ _) hrest
        · apply List.cons_subset.2
          exact ⟨List.mem_of_getElem? hdrawn, List.Subset.trans (ih _ _ _ _) hrest⟩

/-- No two keywords of a draw have the same folded form, and none has one that was seen before. -/
theorem nodup_picks (pool : List (String × Value)) (seen : List String) :
    ((picks size wanted pool seen source).map fun pick => fold pick.1).Nodup ∧
      ∀ pick ∈ picks size wanted pool seen source, fold pick.1 ∉ seen := by
  induction size generalizing wanted pool seen source with
  | zero => simp [picks]
  | succ size ih =>
    cases wanted with
    | zero => simp [picks]
    | succ wanted =>
      rw [picks]
      dsimp only
      cases hdrawn : pool[(source.below pool.length).1]? with
      | none => simp
      | some entry =>
        dsimp only
        split
        · exact ih _ _ _ _
        · next hnew =>
          obtain ⟨hnodup, hothers⟩ := ih wanted (source.below pool.length).2
            (pool.eraseIdx (source.below pool.length).1) (fold entry.1 :: seen)
          simp only [List.mem_cons, not_or] at hothers
          constructor
          · rw [List.map_cons, List.nodup_cons]
            refine ⟨fun hmem => ?_, hnodup⟩
            obtain ⟨pick, hpick, hsame⟩ := List.mem_map.1 hmem
            exact (hothers pick hpick).1 hsame
          · intro pick hpick
            rcases List.mem_cons.1 hpick with rfl | hpick
            · simpa using hnew
            · exact (hothers pick hpick).2

/-- A draw comes to as many keywords as are asked for, or as many as can be told apart. -/
theorem length_picks {pool : List (String × Value)} (seen : List String)
    (hsize : pool.length = size) :
    (picks size wanted pool seen source).length = min wanted (newForms pool seen).card := by
  induction size generalizing wanted pool seen source with
  | zero =>
    obtain rfl := List.length_eq_zero_iff.1 hsize
    simp [picks, newForms]
  | succ size ih =>
    cases wanted with
    | zero => simp [picks]
    | succ wanted =>
      obtain ⟨entry, hdrawn⟩ := exists_drawn source pool (by omega)
      have hrest : (pool.eraseIdx (source.below pool.length).1).length = size := by
        have hlt := source.below_lt (n := pool.length) (by omega)
        rw [List.length_eraseIdx_of_lt hlt]
        omega
      rw [picks]
      simp only [hdrawn]
      by_cases hseen : fold entry.1 ∈ seen
      · rw [if_pos (by simpa using hseen), ih _ _ _ hrest, newForms_of_seen hdrawn hseen]
      · rw [if_neg (by simpa using hseen), List.length_cons, ih _ _ _ hrest,
          card_newForms_of_new hdrawn hseen, Nat.add_min_add_right]

end Picks

section Uses

def totalUses (library : SparkLibrary) : Nat :=
  ((Keyed.values library.usage).map SparkUsage.useCount).sum

/-- The keywords that were drawn have been counted: each one as a use of the table of its name, and
nothing else of the library is touched. -/
structure Counts (drawn : List (String × Value)) (before after : SparkLibrary) : Prop where
  tables : after.tables = before.tables
  settings : after.settings = before.settings
  uses (name : Value) (hname : name.isKey = true) : (after.usageOf name).useCount =
    (before.usageOf name).useCount + drawn.countP fun pick => pick.2 == name
  total : after.totalUses = before.totalUses + drawn.length

namespace Counts

variable {drawn : List (String × Value)} {before between after : SparkLibrary}

theorem refl (library : SparkLibrary) : Counts [] library library where
  tables := rfl
  settings := rfl
  uses _ _ := rfl
  total := rfl

theorem cons {pick : String × Value} (h : Counts [pick] before between)
    (h' : Counts drawn between after) : Counts (pick :: drawn) before after where
  tables := h'.tables.trans h.tables
  settings := h'.settings.trans h.settings
  uses name hname := by
    have hlast := h'.uses name hname
    have hfirst := h.uses name hname
    rw [List.countP_cons] at hfirst ⊢
    rw [List.countP_nil] at hfirst
    omega
  total := by
    have hlast := h'.total
    have hfirst := h.total
    simp only [List.length_cons, List.length_nil] at hfirst ⊢
    omega

/-- Recording a keyword counts it. -/
theorem recordUsage {library : SparkLibrary} {millis : Int} {name : Value} {keyword : String}
    (hname : name.isKey = true)
    (h : library.recordUsage millis name keyword = .ok after) :
    Counts [(keyword, name)] library after := by
  rw [SparkLibrary.recordUsage, Value.asKey, if_pos hname] at h
  obtain rfl := Except.ok.inj h
  refine ⟨rfl, rfl, fun other hother => ?_, ?_⟩
  · rw [usageOf, usageOf, Keyed.get?_set_key hname, List.countP_cons, List.countP_nil]
    cases hsame : name == other with
    | false => simp [usageOf]
    | true =>
      have hfound : Keyed.get? name library.usage = Keyed.get? other library.usage :=
        Keyed.get?_of_same hother hsame library.usage
      simp [usageOf, hfound]
  · have hsum := Keyed.sum_values_set SparkUsage.useCount name
      { useCount := (library.usageOf name).useCount + 1, lastUsed := millis
        keywords := (keyword :: (library.usageOf name).keywords).take rememberedKeywords }
      library.usage
    have hold : ((Keyed.get? name library.usage).map SparkUsage.useCount).getD 0 =
        (library.usageOf name).useCount := by
      rw [usageOf]
      cases Keyed.get? name library.usage <;> rfl
    simp only [hold] at hsum
    simp only [totalUses, List.length_singleton]
    omega

end Counts

/-- A draw gives the keywords that the source comes to, and counts them. -/
theorem run_drawFrom (size wanted : Nat) (pool : List (String × Value)) (seen : List String)
    (scene : Scene) (hnames : ∀ entry ∈ pool, entry.2.isKey = true) :
    ∃ after, drawFrom size wanted pool seen scene =
        .ok ((picks size wanted pool seen scene.desk.source).map (·.1)) after ∧
      Counts (picks size wanted pool seen scene.desk.source) scene.sparks after.sparks := by
  induction size generalizing wanted pool seen scene with
  | zero => exact ⟨scene, rfl, Counts.refl _⟩
  | succ size ih =>
    cases wanted with
    | zero => exact ⟨scene, rfl, Counts.refl _⟩
    | succ wanted =>
      let placed : Scene :=
        { scene with desk := scene.desk.placed pool.length "spark keyword" }
      have hplace : (liftM (Desk.drawPlace pool.length "spark keyword") : Act Scene Nat) scene =
          .ok (scene.desk.source.below pool.length).1 placed := by
        rw [Scene.run_liftDesk, Scene.run_atDesk, Desk.run_drawPlace]
      have hrest : ∀ entry ∈ pool.eraseIdx (scene.desk.source.below pool.length).1,
          entry.2.isKey = true :=
        fun entry hentry => hnames entry ((List.eraseIdx_sublist _ _).subset hentry)
      rw [drawFrom, picks, Act.run_bind, hplace]
      dsimp only
      cases hdrawn : pool[(scene.desk.source.below pool.length).1]? with
      | none => exact ⟨placed, rfl, Counts.refl _⟩
      | some entry =>
        obtain ⟨keyword, name⟩ := entry
        dsimp only
        split
        · exact ih (wanted + 1) _ seen placed hrest
        · have hname : name.isKey = true := hnames _ (List.mem_of_getElem? hdrawn)
          obtain ⟨sparks, hsparks⟩ :=
            exists_recordUsage hname placed.sparks placed.desk.clock.millis keyword
          obtain ⟨after, hdraw, hcounts⟩ :=
            ih wanted _ (fold keyword :: seen) { placed with sparks } hrest
          refine ⟨after, ?_, (Counts.recordUsage hname hsparks).cons hcounts⟩
          rw [Act.run_bind, run_noteUse hsparks]
          simp only [bind_pure_comp, Act.run_map, hdraw, List.map_cons]
          rfl

end Uses

end SparkLibrary

/-- What a table puts into a draw are its keywords, under its name. -/
theorem SparkTable.mem_pool {table : SparkTable} {entry : String × Value} :
    entry ∈ table.pool ↔ entry.1 ∈ table.keywords ∧ entry.2 = table.name := by
  obtain ⟨keyword, name⟩ := entry
  have hweight : (max table.weight 1).toNat ≠ 0 := by omega
  simp only [pool, List.mem_flatten, List.mem_replicate]
  constructor
  · rintro ⟨_, ⟨-, rfl⟩, hmem⟩
    obtain ⟨found, hfound, heq⟩ := List.mem_map.1 hmem
    cases heq
    exact ⟨hfound, rfl⟩
  · rintro ⟨hkeyword, rfl⟩
    exact ⟨_, ⟨hweight, rfl⟩, List.mem_map_of_mem hkeyword⟩

namespace SparkLibrary

open Text

def forms (tables : List SparkTable) : Finset String :=
  (tables.flatMap fun table => table.keywords.map fold).toFinset

theorem newForms_pools (tables : List SparkTable) :
    newForms (tables.map SparkTable.pool).flatten [] = forms tables := by
  ext form
  simp only [mem_newForms, forms, List.mem_flatten, List.mem_map, List.mem_toFinset,
    List.mem_flatMap, List.not_mem_nil, not_false_eq_true, and_true]
  constructor
  · rintro ⟨entry, ⟨_, ⟨table, htable, rfl⟩, hentry⟩, hform⟩
    exact ⟨table, htable, entry.1, (SparkTable.mem_pool.1 hentry).1, hform⟩
  · rintro ⟨table, htable, keyword, hkeyword, hform⟩
    refine ⟨(keyword, table.name), ⟨_, ⟨table, htable, rfl⟩, ?_⟩, hform⟩
    exact SparkTable.mem_pool.2 ⟨hkeyword, rfl⟩

theorem run_generate (count : Int) (purpose : SparkUse) (given : Option (List SparkTable))
    (scene : Scene)
    (hnames : ∀ table ∈ scene.sparks.inUse purpose given, table.name.isKey = true) :
    ∃ after, generate count purpose given scene =
        .ok ((scene.sparks.picksFor count purpose given scene.desk.source).map (·.1)) after ∧
      Counts (scene.sparks.picksFor count purpose given scene.desk.source)
        scene.sparks after.sparks := by
  rw [generate, Act.run_bind, Act.run_get, picksFor]
  dsimp only
  cases htables : scene.sparks.inUse purpose given with
  | nil => exact ⟨_, rfl, Counts.refl _⟩
  | cons table rest =>
    have hpool : ∀ entry ∈ ((table :: rest).map SparkTable.pool).flatten,
        entry.2.isKey = true := by
      intro entry hentry
      obtain ⟨_, hmem, hentry⟩ := List.mem_flatten.1 hentry
      obtain ⟨found, hfound, rfl⟩ := List.mem_map.1 hmem
      rw [(SparkTable.mem_pool.1 hentry).2]
      exact hnames found (htables ▸ hfound)
    exact run_drawFrom _ _ _ _ scene hpool

/-- A draw is exact. Where the tables in use have names that can be keys, it ends well with the keywords
that the source comes to: as many as are asked for, or as many as the entries in use have different
folded forms. No two of them have the same folded form, each is an entry of a table in use that is not
blank, and the uses of every name grow by the keywords of its tables, all uses together by the number of
keywords. -/
theorem generate_exact (count : Int) (purpose : SparkUse) (given : Option (List SparkTable))
    (scene : Scene)
    (hnames : ∀ table ∈ scene.sparks.inUse purpose given, table.name.isKey = true) :
    let tables := scene.sparks.inUse purpose given
    let drawn := scene.sparks.picksFor count purpose given scene.desk.source
    ∃ after,
      generate count purpose given scene = .ok (drawn.map (·.1)) after ∧
      (drawn.length : Int) = min (max count 0) (forms tables).card ∧
      (drawn.map fun pick => fold pick.1).Nodup ∧
      (∀ pick ∈ drawn, ∃ table ∈ tables,
        pick.2 = table.name ∧ pick.1 ∈ table.entries ∧ trim pick.1.toList ≠ []) ∧
      Counts drawn scene.sparks after.sparks := by
  intro tables drawn
  obtain ⟨after, hrun, hcounts⟩ := run_generate count purpose given scene hnames
  have hlength : drawn.length = min count.toNat (forms tables).card := by
    rw [← newForms_pools]
    exact length_picks _ _ _ _ rfl
  refine ⟨after, hrun, by omega, (nodup_picks _ _ _ _ _).1, ?_, hcounts⟩
  intro pick hpick
  obtain ⟨_, hmem, hentry⟩ := List.mem_flatten.1 (picks_subset _ _ _ _ _ hpick)
  obtain ⟨table, htable, rfl⟩ := List.mem_map.1 hmem
  obtain ⟨hkeyword, hname⟩ := SparkTable.mem_pool.1 hentry
  obtain ⟨hmember, hfilled⟩ := List.mem_filter.1 hkeyword
  exact ⟨table, htable, hname, hmember, by simpa using hfilled⟩

def omens : List SparkTable :=
  [{ name := .text "Omens", entries := ["Crow", "CROW", " "], weight := 2, lastModified := .int 0 },
    { name := .text "Moods", entries := ["Dread"], lastModified := .int 0 }]

theorem generate_exact_omens :
    (∀ table ∈ Scene.blank.sparks.inUse .sparks (some omens), table.name.isKey = true) ∧
    ∃ after, generate 5 .sparks (some omens) Scene.blank = .ok ["Crow", "Dread"] after ∧
      (after.sparks.usageOf (.text "Omens")).useCount = 1 ∧ after.sparks.totalUses = 2 := by
  have hnames : ∀ table ∈ Scene.blank.sparks.inUse .sparks (some omens),
      table.name.isKey = true := by
    rintro table (_ | ⟨_, _ | ⟨_, ⟨⟩⟩⟩)
    · rfl
    · rfl
  have hdrawn : Scene.blank.sparks.picksFor 5 .sparks (some omens) Scene.blank.desk.source =
      [("Crow", .text "Omens"), ("Dread", .text "Moods")] := by
    rfl
  obtain ⟨after, hrun, -, -, -, hcounts⟩ :=
    generate_exact 5 .sparks (some omens) Scene.blank hnames
  rw [hdrawn] at hrun hcounts
  exact ⟨hnames, after, hrun, hcounts.uses (.text "Omens") rfl, hcounts.total⟩

end SparkLibrary

end TaleLoom
