import TaleLoom.Proofs.Registry.Coverage
import TaleLoom.Proofs.Registry.Search
/-!
The order of lookups in a registry. Whatever tables the author registers and takes away, the built-in
tables come first, and letter case changes neither whether a lookup finds a table nor whether it is a
built-in one, unless the lookup comes to a key or a name that is no text.
-/

namespace TaleLoom

open Text

namespace BuiltIn

open Lookup

theorem named_tables {entry : Value × RandomTable} (h : entry ∈ tables) : Named (·.name) entry := by
  have htext : ∀ entry ∈ tables, Named (·.name) entry := by
    simp only [tables, List.map_cons, List.map_nil, List.forall_mem_cons, List.not_mem_nil,
      false_implies, implies_true, and_true]
    simp [Named, entryTable, RandomTable.ofEntries, treasures, weather]
  exact htext entry h

theorem name_eq_key {entry : Value × RandomTable} (h : entry ∈ tables) : entry.2.name = entry.1 := by
  obtain ⟨table, -, rfl⟩ := List.mem_map.1 h
  rfl

theorem nodup_folded_keys : (tables.map fun entry => fold entry.1.plain).Nodup := by decide +kernel

/-- A name is that of one built-in table at most, whatever its letter case. -/
theorem eq_of_alike {entry entry' : Value × RandomTable} {name : String} (h : entry ∈ tables)
    (h' : entry' ∈ tables) (halike : Alike (·.name) name entry)
    (halike' : Alike (·.name) name entry') : entry = entry' := by
  have hkey {entry : Value × RandomTable} (h : entry ∈ tables) (halike : Alike (·.name) name entry) :
      fold entry.1.plain = fold name := by
    obtain ⟨s, hs, hfold⟩ := halike
    have hkey : entry.1 = .text s := by
      rcases hs with hs | hs
      · exact hs
      · exact (name_eq_key h).symm.trans hs
    rw [hkey]
    exact hfold
  apply List.inj_on_of_nodup_map nodup_folded_keys h h'
  calc fold entry.1.plain = fold name := hkey h halike
    _ = fold entry'.1.plain := (hkey h' halike').symm

end BuiltIn

namespace Registry

open Lookup

/-- A call that changes the tables of a registry. -/
inductive Call where
  | register (table : RandomTable) (key : Option Value)
  | unregister (key : Value)

def Call.run : Call → Act Scene Unit
  | .register table key => discard (Registry.register table key)
  | .unregister key => modify fun scene =>
      { scene with registry := (scene.registry.unregister key).1 }

/-- The states that registering and unregistering tables lead to, whether or not a table can be
registered. -/
inductive Reached : Scene → Prop
  | fresh {scene : Scene} (withBuiltIn : Bool) : scene.registry = .initial withBuiltIn → Reached scene
  | call {scene : Scene} (c : Call) : Reached scene → Reached (c.run.after scene)

theorem after_call_register (table : RandomTable) (key : Option Value) (scene : Scene) :
    (Call.register table key).run.after scene = (register table key).after scene :=
  Act.after_map (fun _ => PUnit.unit) (register table key) scene

theorem Reached.register {scene : Scene} (h : Reached scene) (table : RandomTable)
    (key : Option Value) : Reached ((Registry.register table key).after scene) :=
  after_call_register table key scene ▸ h.call (.register table key)

theorem keeps_builtIn_register (table : RandomTable) (key : Option Value) :
    (register table key).Keeps (.fixing (·.registry.builtIn)) := by
  rw [register_eq]
  apply Act.Keeps.bind (Scene.keeps_atDesk _ fun _ _ => rfl)
  intro _
  apply Act.Keeps.bind (Act.Keeps.ofExcept _)
  intro _
  exact Act.Keeps.bind (Act.Keeps.modify fun _ => rfl) fun _ => Act.Keeps.pure _

theorem keeps_builtIn (c : Call) : c.run.Keeps (.fixing (·.registry.builtIn)) := by
  cases c with
  | register table key => exact (keeps_builtIn_register table key).discard
  | unregister key => exact Act.Keeps.modify fun _ => rfl

/-- The built-in tables are those of the library, or there are none. -/
theorem builtIn_of_reached {scene : Scene} (h : Reached scene) :
    scene.registry.builtIn = BuiltIn.tables ∨ scene.registry.builtIn = [] := by
  induction h with
  | fresh withBuiltIn hinitial =>
    rw [hinitial]
    cases withBuiltIn with
    | true => exact Or.inl rfl
    | false => exact Or.inr rfl
  | @call scene c _ ih =>
    have hsame : (c.run.after scene).registry.builtIn = scene.registry.builtIn := keeps_builtIn c scene
    rwa [hsame]

theorem mem_tables_of_reached {scene : Scene} (h : Reached scene) {entry : Value × RandomTable}
    (hentry : entry ∈ scene.registry.builtIn) : entry ∈ BuiltIn.tables := by
  rcases builtIn_of_reached h with hbuiltIn | hbuiltIn
  · rwa [hbuiltIn] at hentry
  · rw [hbuiltIn] at hentry
    cases hentry

/-- A name that a built-in table goes by, in whatever letter case, stands for this table. -/
theorem find_builtIn {scene : Scene} (h : Reached scene) {name : String}
    {entry : Value × RandomTable} (hentry : entry ∈ scene.registry.builtIn)
    (halike : Alike (·.name) (strip name) entry) :
    scene.registry.find name = .ok (some entry.2) := by
  have hhit : ∃ p ∈ hits (allWays (·.name)) name [scene.registry.builtIn, scene.registry.custom],
      p.collection = 0 := exists_hit_iff.2 ⟨_, entry, rfl, hentry, halike⟩
  obtain ⟨p, hp, hfirst⟩ := hhit
  rw [find, findIn_eq_search]
  cases hsearch : search (Matcher.all.map (wayOf (·.name))) name
      [scene.registry.builtIn, scene.registry.custom] with
  | error fault =>
    obtain ⟨q, hq, hbefore⟩ := failure_of_search hsearch
    have hzero : q.collection = 0 := Place.first_of_le (le_of_lt (hbefore p hp)) hfirst
    obtain ⟨collection, failing, hcollection, hfailing, hunnamed⟩ := exists_of_failure hq
    rw [hzero] at hcollection
    cases hcollection
    exact absurd (BuiltIn.named_tables (mem_tables_of_reached h hfailing)) hunnamed
  | ok found =>
    cases found with
    | none =>
      have hnone := (search_eq_none_iff_empty.1 hsearch).1
      exact absurd hp (Set.eq_empty_iff_forall_notMem.1 hnone p)
    | some table =>
      obtain ⟨q, hleast, hq, -⟩ := least_of_search hsearch
      have hzero : q.collection = 0 := Place.first_of_le (hleast.2 hp) hfirst
      obtain ⟨collection, way, other, hcollection, hway, hother, houtcome⟩ :=
        outcomeAt_eq_some_iff.1 hq
      rw [hzero] at hcollection
      cases hcollection
      obtain ⟨matcher, -, rfl⟩ := List.mem_map.1 (List.mem_of_getElem? hway)
      obtain ⟨hfits, rfl⟩ := outcome_ok_some houtcome
      have hsame : other = entry := BuiltIn.eq_of_alike
        (mem_tables_of_reached h (List.mem_of_getElem? hother)) (mem_tables_of_reached h hentry)
        (alike_of_fits hfits) halike
      rw [hsame]

/-- No lookup fails where the author's tables have texts as keys and names. -/
theorem not_stumbles_of_named {scene : Scene} (h : Reached scene)
    (hnamed : ∀ entry ∈ scene.registry.custom, Named (·.name) entry) (name : String) :
    ¬ scene.registry.Stumbles name := by
  rw [← find_error_iff]
  rintro ⟨fault, hfind⟩
  rw [find, findIn_eq_search] at hfind
  obtain ⟨q, hq, -⟩ := failure_of_search hfind
  obtain ⟨collection, entry, hcollection, hentry, hunnamed⟩ := exists_of_failure hq
  have hmem : collection = scene.registry.builtIn ∨ collection = scene.registry.custom := by
    simpa using List.mem_of_getElem? hcollection
  rcases hmem with rfl | rfl
  · exact hunnamed (BuiltIn.named_tables (mem_tables_of_reached h hentry))
  · exact hunnamed (hnamed entry hentry)

/-- The order of lookups. In any collections and for any ways of comparing, the least place decides, and a
lookup searches in the ways of its matchers. So in every state of a registry a name that fits a built-in
table in some way stands for that table, whatever tables the author has; and two names that are the same
but for letter case and white space around them get answers that agree, unless one of the lookups comes to
a key or a name that is no text, which it never does where the author's tables have none. -/
theorem lookup_ordered {scene : Scene} (h : Reached scene) :
    (∀ {α : Type} (ways : List (Way α)) (name : String) (collections : List (Keyed Value α)),
      Ordered ways name collections) ∧
    (∀ {α : Type} (nameOf : α → Value) (matchers : List Matcher) (name : String)
      (collections : List (Keyed Value α)), findIn nameOf matchers name collections =
        search (matchers.map (wayOf nameOf)) name collections) ∧
    (∀ (name : String) (matcher : Matcher), ∀ entry ∈ scene.registry.builtIn,
      matcher.fits (strip name) entry.1 entry.2.name = .ok true →
        scene.registry.find name = .ok (some entry.2)) ∧
    (∀ name name', fold (strip name) = fold (strip name') →
      scene.registry.Stumbles name ∨ scene.registry.Stumbles name' ∨
        Agree (·.name) [scene.registry.builtIn, scene.registry.custom] name name') ∧
    ((∀ entry ∈ scene.registry.custom, Named (·.name) entry) →
      ∀ name, ¬ scene.registry.Stumbles name) := by
  refine ⟨ordered, fun _ => findIn_eq_search, ?_, ?_, not_stumbles_of_named h⟩
  · intro name matcher entry hentry hfits
    exact find_builtIn h hentry (alike_of_fits hfits)
  · intro name name' hfold
    cases hfind : scene.registry.find name with
    | error fault => exact Or.inl (find_error_iff.1 ⟨fault, hfind⟩)
    | ok found =>
      cases hfind' : scene.registry.find name' with
      | error fault => exact Or.inr (Or.inl (find_error_iff.1 ⟨fault, hfind'⟩))
      | ok found' => exact Or.inr (Or.inr (agree_of_fold hfold hfind hfind'))

/-- A table of the author's that goes by the name of a built-in one does not hide it, in any letter
case. -/
theorem lookup_ordered_shadow :
    let shadow : RandomTable := { name := .text "NAMES", formula := .text "" }
    let scene : Scene :=
      (register shadow none).after { Scene.blank with registry := .initial true }
    Reached scene ∧ scene.registry.custom = [(.text "NAMES", shadow)] ∧
      scene.registry.find " NAMES " =
        .ok (some (BuiltIn.entryTable "names" BuiltIn.names "Given names")) ∧
      Agree (·.name) [scene.registry.builtIn, scene.registry.custom] " NAMES " "Names" := by
  intro shadow scene
  have hreached : Reached scene := (Reached.fresh true rfl).register shadow none
  obtain ⟨-, -, hbuiltIn, hagree, hnever⟩ := lookup_ordered hreached
  have hentry : (Value.text "names", BuiltIn.entryTable "names" BuiltIn.names "Given names") ∈
      scene.registry.builtIn := List.mem_cons_self
  have hfits : Matcher.foldedKey.fits (strip " NAMES ") (.text "names") (.text "names") = .ok true :=
    foldedEqual_iff.2 ⟨"names", rfl, by decide +kernel⟩
  have hnamed : ∀ entry ∈ scene.registry.custom, Named (·.name) entry :=
    List.forall_mem_singleton.2 ⟨⟨"NAMES", rfl⟩, "NAMES", rfl⟩
  have hfold : fold (strip " NAMES ") = fold (strip "Names") := by decide +kernel
  refine ⟨hreached, rfl, hbuiltIn " NAMES " .foldedKey _ hentry hfits, ?_⟩
  rcases hagree " NAMES " "Names" hfold with hstumbles | hstumbles | hagree
  · exact absurd hstumbles (hnever hnamed _)
  · exact absurd hstumbles (hnever hnamed _)
  · exact hagree

/-- With a table whose name is a number, letter case decides whether a lookup comes to an answer. -/
theorem found_in_one_letter_case :
    let numbered : RandomTable := { name := .int 5, formula := .text "" }
    let hall : RandomTable := { name := .text "Hall", formula := .text "" }
    let scene : Scene := (register hall (some (.text "b"))).after
      ((register numbered (some (.text "five"))).after Scene.blank)
    Reached scene ∧ fold (strip "Hall") = fold (strip "hall") ∧
      scene.registry.find "Hall" = .ok (some hall) ∧
      scene.registry.find "hall" = .error .missingPart := by
  intro numbered hall scene
  have hreached : Reached scene :=
    ((Reached.fresh false rfl).register numbered _).register hall _
  exact ⟨hreached, by decide +kernel, rfl, rfl⟩

end Registry

end TaleLoom
