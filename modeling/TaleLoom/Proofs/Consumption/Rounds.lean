import Mathlib.Data.List.Dedup
import TaleLoom.Proofs.Consumption.Draws
import TaleLoom.Proofs.Consumption.Isolation
import TaleLoom.Proofs.Placeholder.Draws
/-!
Consumable draws come in rounds. A round gives every entry of the table once, and the store holds the
entries of the current round in the order of the draws (`InRounds`). A history is any order of draws,
of calls that expand texts, and of steps that leave the pair alone; one step keeps the rounds, and so
does a whole history (`rounds_of_history`).
-/

namespace TaleLoom

open Text ConsumptionStore

def RandomTable.identities (table : RandomTable) : List String :=
  (table.rows.map Row.identity).dedup

theorem RandomTable.mem_identities {table : RandomTable} {entry : String} :
    entry ∈ table.identities ↔ ∃ row ∈ table.rows, row.identity = entry := by
  simp [identities]

/-- Draws that came in rounds: the full rounds first, each with every entry once, and then the current
one, which has no entry twice and may be full as well. -/
structure InRounds (identities drawn current : List String) : Prop where
  rounds : ∃ full : List (List String), drawn = full.flatten ++ current ∧
    ∀ round ∈ full, round.Perm identities
  nodup : current.Nodup
  subset : current ⊆ identities
  started : current = [] → drawn = []

namespace InRounds

variable {identities drawn current : List String} {entry : String}

theorem nil : InRounds identities [] [] :=
  ⟨⟨[], rfl, by simp⟩, List.nodup_nil, List.nil_subset _, fun _ => rfl⟩

/-- The current round goes on with an entry that it has not had. -/
theorem goOn (h : InRounds identities drawn current) (hentry : entry ∈ identities)
    (hnew : entry ∉ current) : InRounds identities (drawn ++ [entry]) (current ++ [entry]) := by
  obtain ⟨full, hdrawn, hfull⟩ := h.rounds
  refine ⟨⟨full, by rw [hdrawn, List.append_assoc], hfull⟩, ?_, ?_, by simp⟩
  · rw [List.nodup_append]
    refine ⟨h.nodup, List.nodup_singleton entry, ?_⟩
    rintro x hx y hy rfl
    exact hnew (List.mem_singleton.1 hy ▸ hx)
  · exact List.append_subset.2 ⟨h.subset, by simpa using hentry⟩

/-- After a full round the next one starts with any entry. -/
theorem startOver (h : InRounds identities drawn current) (hdistinct : identities.Nodup)
    (hfull : identities ⊆ current) (hentry : entry ∈ identities) :
    InRounds identities (drawn ++ [entry]) [entry] := by
  obtain ⟨full, hdrawn, hrounds⟩ := h.rounds
  have hperm : current.Perm identities :=
    (List.perm_ext_iff_of_nodup h.nodup hdistinct).2 fun x => ⟨fun hx => h.subset hx, fun hx => hfull hx⟩
  refine ⟨⟨full ++ [current], by simp [hdrawn], ?_⟩, List.nodup_singleton entry, ?_, by simp⟩
  · intro round hround
    rcases List.mem_append.1 hround with hround | hround
    · exact hrounds round hround
    · rwa [List.mem_singleton.1 hround]
  · simpa using hentry

end InRounds

/-- Every draw of a pair of a table and a story so far gave a row of the table, the entries of the rows
came in rounds, and the store holds the current round and can go on. -/
structure Kept (table : RandomTable) (name story : String) (drawn : List (Option Row))
    (scene : Scene) : Prop where
  rounds : ∃ rows : List Row, drawn = rows.map some ∧ rows ⊆ table.rows ∧
    InRounds table.identities (rows.map Row.identity) (scene.store.items name story)
  distinct : (Keyed.keys scene.store.records).Nodup
  writable : scene.Writable

def undisturbed (name story : String) : Frame Scene where
  holds s t := t.store.items name story = s.store.items name story ∧
    ((Keyed.keys s.store.records).Nodup → (Keyed.keys t.store.records).Nodup) ∧
    (s.Writable → t.Writable)
  refl _ := ⟨rfl, id, id⟩
  trans h h' := ⟨h'.1.trans h.1, h'.2.1 ∘ h.2.1, h'.2.2 ∘ h.2.2⟩

variable {table : RandomTable} {name story : String}

theorem Kept.aside {drawn : List (Option Row)} {s t : Scene} (h : Kept table name story drawn s)
    (hst : (undisturbed name story).holds s t) : Kept table name story drawn t :=
  ⟨hst.1 ▸ h.rounds, hst.2.1 h.distinct, hst.2.2 h.writable⟩

section Undisturbed

theorem undisturbed_of_routine {s t : Scene} (h : Scene.routine.holds s t) :
    (undisturbed name story).holds s t := by
  have hstore : t.store = s.store := congrArg Prod.snd h.1
  refine ⟨by rw [hstore], fun hs => hstore ▸ hs, fun hs => ?_⟩
  exact writable_of_files (by rw [hstore]) h.2.1 hs

theorem undisturbed_posted (scene : Scene) (detail : EventDetail) (context : Value) :
    (undisturbed name story).holds scene (scene.posted detail context) :=
  ⟨rfl, id, fun h => writable_of_files rfl rfl h⟩

theorem undisturbed_markConsumed {name' story' : String} (hkey : key name' story' ≠ key name story)
    (entry : String) : (markConsumed (.text name') story' entry).Keeps (undisturbed name story) := by
  intro scene
  refine ⟨?_, nodup_markConsumed name' story' entry, fun hwritable => ?_⟩
  · rw [store_markConsumed]
    split
    · rfl
    · exact items_set_of_ne _ hkey
  · obtain ⟨after, hrun, hafter⟩ := run_markConsumed name' story' entry hwritable
    rwa [Act.after_of_ok hrun]

theorem undisturbed_available {other : RandomTable} {name' story' : String}
    (hname : other.name = .text name') (hkey : key name' story' ≠ key name story) :
    (available other story').Keeps (undisturbed name story) := by
  intro scene
  refine ⟨?_, nodup_available hname story', fun hwritable => ?_⟩
  · rw [store_available scene name' story' other hname]
    split
    · exact items_erase_of_ne hkey
    · rfl
  · obtain ⟨after, hrun, hafter, -⟩ := run_available hname story' hwritable
    rwa [Act.after_of_ok hrun]

theorem undisturbed_mark_named {other : Value} {story' : String}
    (hkey : ∀ name', other = .text name' → key name' story' ≠ key name story) (entry : String) :
    (markConsumed other story' entry).Keeps (undisturbed name story) := by
  rcases asText_cases other with ⟨name', rfl⟩ | hother
  · exact undisturbed_markConsumed (hkey name' rfl) entry
  · intro scene
    rw [show (markConsumed other story' entry).after scene = scene from
      after_of_asText_error hother]
    exact (undisturbed name story).refl scene

theorem undisturbed_drawConsumable {resolver : Resolver} {other : RandomTable}
    (hkey : ∀ name', other.name = .text name' →
      key name' resolver.options.story ≠ key name story) :
    (resolver.drawConsumable other).Keeps (undisturbed name story) := by
  have havailable : (available other resolver.options.story).Keeps (undisturbed name story) := by
    rcases asText_cases other.name with ⟨name', hname⟩ | hother
    · exact undisturbed_available hname (hkey name' hname)
    · intro scene
      rw [show (available other resolver.options.story).after scene = scene from
        after_of_asText_error hother]
      exact (undisturbed name story).refl scene
  refine Act.Keeps.bind havailable fun pool => ?_
  refine Act.Keeps.bind ?_ fun result => ?_
  · exact (Scene.keeps_routine (Registry.keeps_rollOn _ _ _)).mono fun _ _ =>
      undisturbed_of_routine
  · cases result.identity with
    | some entry => exact Act.Keeps.bind (undisturbed_mark_named hkey entry) fun _ => Act.Keeps.pure _
    | none => exact Act.Keeps.bind (Act.Keeps.pure _) fun _ => Act.Keeps.pure _

end Undisturbed

namespace TableDraw

def key? (resolver : Resolver) (d : TableDraw) : Option String :=
  match d.consumable, d.table.name with
  | true, .text other => some (key other resolver.options.story)
  | _, _ => none

def row? (resolver : Resolver) (d : TableDraw) : Option Row :=
  match d.outcome resolver with
  | .ok result _ => result.row
  | .error _ _ => none

def Touches (resolver : Resolver) (name story : String) (d : TableDraw) : Prop :=
  d.key? resolver = some (key name story)

instance (resolver : Resolver) (d : TableDraw) : Decidable (d.Touches resolver name story) :=
  inferInstanceAs (Decidable (_ = _))

theorem undisturbed {resolver : Resolver} {d : TableDraw} (h : ¬ d.Touches resolver name story) :
    (resolver.drawOne d.table d.consumable).Keeps (undisturbed name story) := by
  cases hconsumable : d.consumable with
  | false =>
    exact (Scene.keeps_routine (Registry.keeps_rollOn _ _ _)).mono fun _ _ =>
      undisturbed_of_routine
  | true =>
    refine undisturbed_drawConsumable fun name' hname => ?_
    simpa [Touches, key?, hconsumable, hname] using h

end TableDraw

theorem story_eq_of_key_eq {name story story' : String} (h : key name story = key name story') :
    story = story' := by
  have hlists := congrArg String.toList h
  simp only [key, String.toList_append, List.append_assoc, List.append_cancel_left_eq] at hlists
  exact String.toList_inj.1 hlists

def rowsOf (resolver : Resolver) (name story : String) (draws : List TableDraw) :
    List (Option Row) :=
  (draws.filter fun d => d.Touches resolver name story).map (TableDraw.row? resolver)

def Yields (table : RandomTable) (name story : String) (s : Scene) (given : List (Option Row))
    (t : Scene) : Prop :=
  ∀ drawn, Kept table name story drawn s → Kept table name story (drawn ++ given) t

namespace Yields

variable {s t u : Scene} {given given' : List (Option Row)}

theorem nil (h : (undisturbed name story).holds s t) : Yields table name story s [] t := by
  intro drawn hkept
  rw [List.append_nil]
  exact hkept.aside h

theorem trans (h : Yields table name story s given t) (h' : Yields table name story t given' u) :
    Yields table name story s (given ++ given') u := by
  intro drawn hkept
  rw [← List.append_assoc]
  exact h' _ (h _ hkept)

theorem aside (h : Yields table name story s given t) (h' : (undisturbed name story).holds t u) :
    Yields table name story s given u := by
  intro drawn hkept
  exact (h _ hkept).aside h'

end Yields

/-- A table with a name, that can be rolled on and has rows, and whose generators, which are the host's
code, make their texts and do not fail. -/
structure Drawable (table : RandomTable) (name : String) : Prop where
  named : table.name = .text name
  rollable : ∃ f, table.Rollable f
  renders : table.Renders
  rows : table.rows ≠ []

/-- Every row's entry is in a round that exhausts the table. -/
theorem identities_subset_of_exhausted {store : ConsumptionStore}
    (h : store.exhausted table name story) : table.identities ⊆ store.items name story := by
  intro entry hentry
  obtain ⟨row, hrow, rfl⟩ := RandomTable.mem_identities.1 hentry
  have hnone : row ∉ remaining table.rows (store.items name story) := by simp [h.2]
  have hmem := mt mem_remaining.2 hnone
  simp only [not_and, not_not] at hmem
  exact hmem hrow

/-- A remembered draw never fails: it gives a row of the table, and the rounds go on with its entry. -/
theorem Kept.draw (htable : Drawable table name) {resolver : Resolver} {drawn : List (Option Row)}
    {scene : Scene} (h : Kept table name resolver.options.story drawn scene) :
    Kept table name resolver.options.story
      (drawn ++ [TableDraw.row? resolver ⟨table, true, scene⟩])
      ((resolver.drawConsumable table).after scene) := by
  obtain ⟨f, hroll⟩ := htable.rollable
  obtain ⟨result, after, row, hrun, hrow, hmem, hnew, hitems, hwritable, hdistinct⟩ :=
    resolver.run_drawConsumable htable.named hroll htable.renders htable.rows h.writable h.distinct
  have hout : TableDraw.outcome resolver ⟨table, true, scene⟩ = .ok result after := hrun
  have hgiven : TableDraw.row? resolver ⟨table, true, scene⟩ = some row := by
    simp only [TableDraw.row?, hout, hrow]
  rw [hgiven, Act.after_of_ok hrun]
  obtain ⟨rows, rfl, hrows, hrounds⟩ := h.rounds
  have hentry : row.identity ∈ table.identities := RandomTable.mem_identities.2 ⟨row, hmem, rfl⟩
  refine ⟨⟨rows ++ [row], by simp, ?_, ?_⟩, hdistinct, hwritable⟩
  · exact List.append_subset.2 ⟨hrows, by simpa using hmem⟩
  · rw [hitems, List.map_append]
    -- the round goes on, or the table was exhausted and the next round starts
    by_cases hexhausted : scene.store.exhausted table name resolver.options.story
    · rw [ConsumptionStore.round, if_pos hexhausted, List.nil_append]
      exact hrounds.startOver (List.nodup_dedup _) (identities_subset_of_exhausted hexhausted) hentry
    · rw [ConsumptionStore.round, if_neg hexhausted] at hnew ⊢
      exact hrounds.goOn hentry hnew

end TaleLoom
