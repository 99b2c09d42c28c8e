import TaleLoom.Proofs.Registry.Load
import TaleLoom.Proofs.Registry.Precedence
/-!
Finding the author's tables again. A table is put under its key as it is written, and a name is looked up
without the white space around it. So a table that was registered is found under its key for as long as
the key is left alone, whatever else happens to the registry, exactly where there is no white space around
the key (`Registry.registered_found_iff`).
-/

namespace TaleLoom

open Text

namespace Lookup

variable {α : Type} {nameOf : α → Value} {requested : String} {collection : Keyed Value α}

/-- The first way of comparing finds what is under the key. -/
theorem findBy_exactKey :
    findBy nameOf requested .exactKey collection = .ok (Keyed.get? (.text requested) collection) := by
  induction collection with
  | nil => rfl
  | cons entry rest ih =>
    obtain ⟨key, a⟩ := entry
    rw [findBy, ih, Keyed.get?]
    cases hkey : key == Value.text requested with
    | true =>
      have hfits : Matcher.exactKey.fits requested key (nameOf a) = .ok true := congrArg _ hkey
      rw [hfits]
      rfl
    | false =>
      have hfits : Matcher.exactKey.fits requested key (nameOf a) = .ok false := congrArg _ hkey
      rw [hfits]
      rfl

theorem findOne_of_key {a : α} (h : Keyed.get? (.text requested) collection = some a) :
    findOne nameOf requested collection Matcher.all = .ok (some a) := by
  rw [Matcher.all, findOne, findBy_exactKey, h]
  rfl

/-- In a collection of texts that no name fits nothing is found. -/
theorem findOne_eq_none (hnamed : ∀ entry ∈ collection, Named nameOf entry)
    (h : ∀ entry ∈ collection, ∀ matcher : Matcher,
      matcher.fits requested entry.1 (nameOf entry.2) ≠ .ok true) (matchers : List Matcher) :
    findOne nameOf requested collection matchers = .ok none := by
  rw [findOne_eq_firstOf, firstOf_eq_none_iff]
  intro matcher _
  rw [findBy_eq_firstOf, firstOf_eq_none_iff]
  intro entry hentry
  cases hfits : matcher.fits requested entry.1 (nameOf entry.2) with
  | error fault => exact absurd hfits ((hnamed entry hentry).fits_ne_error matcher fault)
  | ok fits =>
    cases fits with
    | true => exact absurd hfits (h entry hentry matcher)
    | false =>
      rw [outcome, wayOf, hfits]
      rfl

end Lookup

namespace Registry

open Lookup

section Registering

variable {table : RandomTable} {key : Option Value} {scene : Scene}

/-- Registering a table puts it under its key, or fails and leaves all tables where they are; else it only
uses the desk. -/
theorem register_cases (table : RandomTable) (key : Option Value) (scene : Scene) :
    (∃ desk, (keyFor table key).isKey = true ∧ register table key scene =
      .ok (keyFor table key) (entered (keyFor table key) table { scene with desk })) ∨
    ∃ fault desk, register table key scene = .error fault { scene with desk } := by
  rw [register_eq, Act.run_bind, Scene.run_atDesk]
  cases hwarn : warnOfGaps table scene.desk with
  | error fault desk => exact Or.inr ⟨fault, desk, rfl⟩
  | ok _ desk =>
    cases hkey : (keyFor table key).isKey with
    | true =>
      have hasKey : (keyFor table key).asKey = .ok (keyFor table key) := by rw [Value.asKey, if_pos hkey]
      refine Or.inl ⟨desk, rfl, ?_⟩
      simp only [hasKey, Act.run_bind, Act.run_ofExcept_ok, Act.run_modify, Act.run_pure]
      rfl
    | false =>
      have hasKey : (keyFor table key).asKey = .error .wrongKind := by
        rw [Value.asKey, if_neg (Bool.eq_false_iff.1 hkey)]
      refine Or.inr ⟨.wrongKind, desk, ?_⟩
      simp only [hasKey, Act.run_bind, Act.run_ofExcept_error]

theorem registry_of_register {v : Value} {after : Scene} (h : register table key scene = .ok v after) :
    v.isKey = true ∧ after.registry = { scene.registry with
      custom := Keyed.set v table scene.registry.custom } := by
  rcases register_cases table key scene with ⟨desk, hkey, hrun⟩ | ⟨fault, desk, hrun⟩
  · rw [h] at hrun
    cases hrun
    exact ⟨hkey, rfl⟩
  · rw [h] at hrun
    cases hrun

end Registering

section Calls

/-- The key that a call is about. -/
def Call.key : Call → Value
  | .register table key => keyFor table key
  | .unregister key => key

variable {scene : Scene} {k : String}

theorem reached_afterAll (h : Reached scene) (calls : List Call) :
    Reached (Act.afterAll Call.run calls scene) := by
  induction calls generalizing scene with
  | nil => exact h
  | cons c rest ih => exact ih (h.call c)

/-- A call about another key leaves what is under a key. -/
theorem get?_after_call {c : Call} (h : c.key ≠ .text k) :
    Keyed.get? (.text k) (c.run.after scene).registry.custom =
      Keyed.get? (.text k) scene.registry.custom := by
  have hother : c.key.same (.text k) = false := by
    rw [Bool.eq_false_iff]
    exact fun hsame => h (Value.eq_text_of_same hsame)
  cases c with
  | register table key =>
    rw [after_call_register]
    rcases register_cases table key scene with ⟨desk, hkey, hrun⟩ | ⟨fault, desk, hrun⟩
    · rw [Act.after_of_ok hrun, entered, Keyed.get?_set_key hkey]
      exact if_neg (Bool.eq_false_iff.1 hother)
    · rw [Act.after_of_error hrun]
  | unregister key => exact Keyed.get?_erase_key rfl hother _

theorem get?_afterAll {calls : List Call} (h : ∀ c ∈ calls, c.key ≠ .text k) :
    Keyed.get? (.text k) (Act.afterAll Call.run calls scene).registry.custom =
      Keyed.get? (.text k) scene.registry.custom := by
  induction calls generalizing scene with
  | nil => rfl
  | cons c rest ih =>
    calc Keyed.get? (.text k) (Act.afterAll Call.run (c :: rest) scene).registry.custom
      _ = Keyed.get? (.text k) (c.run.after scene).registry.custom :=
        ih fun d hd => h d (List.mem_cons_of_mem c hd)
      _ = Keyed.get? (.text k) scene.registry.custom := get?_after_call (h c List.mem_cons_self)

theorem builtIn_afterAll (calls : List Call) (scene : Scene) :
    (Act.afterAll Call.run calls scene).registry.builtIn = scene.registry.builtIn :=
  Act.Keeps.afterAll keeps_builtIn calls scene

/-- No built-in table goes by a name. -/
def Unclaimed (registry : Registry) (name : String) : Prop :=
  ∀ entry ∈ registry.builtIn, ∀ matcher : Matcher,
    matcher.fits (strip name) entry.1 entry.2.name ≠ .ok true

/-- A name that no built-in table goes by stands for the table that is under the name without the white
space around it, if there is one. -/
theorem find_of_key {name : String} {table : RandomTable} (h : Reached scene)
    (hfree : scene.registry.Unclaimed name)
    (hget : Keyed.get? (.text (strip name)) scene.registry.custom = some table) :
    scene.registry.find name = .ok (some table) := by
  have hbuiltIn : findOne (·.name) (strip name) scene.registry.builtIn Matcher.all = .ok none :=
    findOne_eq_none (fun _ hentry => BuiltIn.named_tables (mem_tables_of_reached h hentry)) hfree _
  rw [find, findIn, hbuiltIn, ok_bind, findIn, findOne_of_key hget]
  rfl

def rival (name : String) (table : RandomTable) : RandomTable :=
  { name := .text name, formula := .text "", consumable := !table.consumable }

theorem rival_ne (name : String) (table : RandomTable) : rival name table ≠ table := by
  intro h
  have hconsumable : (!table.consumable) = table.consumable := congrArg RandomTable.consumable h
  simp at hconsumable

theorem get?_after_rival (name : String) (table : RandomTable) (scene : Scene) :
    Keyed.get? (.text name)
        ((Call.register (rival name table) none).run.after scene).registry.custom =
      some (rival name table) := by
  have hregister : ((register (rival name table) none).after scene).registry.custom =
      Keyed.set (.text name) (rival name table) scene.registry.custom := rfl
  rw [after_call_register, hregister, Keyed.get?_set_key rfl]
  exact if_pos (Value.same_self rfl)

end Calls

/-- A table that was registered under a key that no built-in table goes by is found under this key, for
as long as no call is about the key, whatever other tables are registered and taken away, exactly where
there is no white space around the key. -/
theorem registered_found_iff {scene after : Scene} (h : Reached scene) {table : RandomTable}
    {key : Option Value} {k : String} (hregister : register table key scene = .ok (.text k) after)
    (hfree : scene.registry.Unclaimed k) :
    (∀ calls : List Call, (∀ c ∈ calls, c.key ≠ .text k) →
      (Act.afterAll Call.run calls after).registry.find k = .ok (some table)) ↔ strip k = k := by
  obtain ⟨hkey, hregistry⟩ := registry_of_register hregister
  have hreached : Reached after := Act.after_of_ok hregister ▸ h.register table key
  have hfree' (calls : List Call) : (Act.afterAll Call.run calls after).registry.Unclaimed k := by
    have hbuiltIn : (Act.afterAll Call.run calls after).registry.builtIn =
        scene.registry.builtIn := by
      rw [builtIn_afterAll, hregistry]
    simpa only [Unclaimed, hbuiltIn] using hfree
  constructor
  · intro hfound
    by_contra hspaced
    let calls : List Call := [.register (rival (strip k) table) none]
    have hothers : ∀ c ∈ calls, c.key ≠ .text k := by
      intro c hc
      obtain rfl := List.mem_singleton.1 hc
      exact fun heq => hspaced (Value.text.inj heq)
    have hrival : (Act.afterAll Call.run calls after).registry.find k =
        .ok (some (rival (strip k) table)) :=
      find_of_key (reached_afterAll hreached calls) (hfree' calls) (get?_after_rival _ table after)
    have heq := hrival.symm.trans (hfound calls hothers)
    exact rival_ne (strip k) table (Option.some.inj (Except.ok.inj heq))
  · intro hstrip calls hothers
    apply find_of_key (reached_afterAll hreached calls) (hfree' calls)
    calc Keyed.get? (.text (strip k)) (Act.afterAll Call.run calls after).registry.custom
      _ = Keyed.get? (.text k) (Act.afterAll Call.run calls after).registry.custom := by rw [hstrip]
      _ = Keyed.get? (.text k) after.registry.custom := get?_afterAll hothers
      _ = some table := by
        rw [hregistry, Keyed.get?_set_key hkey]
        exact if_pos (Value.same_self rfl)

/-- A table is found under its name after another one of this name was put under another key. -/
theorem registered_found_omens :
    let omens : RandomTable := { name := .text "Omens", formula := .text "many" }
    let later : RandomTable := { name := .text "Omens", formula := .text "few" }
    let calls : List Call := [.register later (some (.text "later")), .unregister (.text "gone")]
    ∃ after, register omens none Scene.blank = .ok (.text "Omens") after ∧
      (Act.afterAll Call.run calls after).registry.find "Omens" = .ok (some omens) := by
  intro omens later calls
  have hreached : Reached Scene.blank := .fresh false rfl
  have hfree : Scene.blank.registry.Unclaimed "Omens" := by
    intro entry hentry
    cases hentry
  have hothers : ∀ c ∈ calls, c.key ≠ .text "Omens" := by
    intro c hc
    simp only [calls, List.mem_cons, List.not_mem_nil, or_false] at hc
    rcases hc with rfl | rfl
    · exact fun heq => absurd (Value.text.inj heq) (by decide)
    · exact fun heq => absurd (Value.text.inj heq) (by decide)
  obtain ⟨after, hrun⟩ : ∃ after, register omens none Scene.blank = .ok (.text "Omens") after :=
    ⟨_, rfl⟩
  have hstrip : strip "Omens" = "Omens" := by decide +kernel
  exact ⟨after, hrun, (registered_found_iff hreached hrun hfree).2 hstrip calls hothers⟩

/-- A table whose name begins with a space is not found under the key that it was given. -/
theorem spaced_not_found :
    let hall : RandomTable := { name := .text " hall", formula := .text "" }
    ∃ after, register hall none Scene.blank = .ok (.text " hall") after ∧
      after.registry.custom = [(.text " hall", hall)] ∧
      after.registry.Unclaimed " hall" ∧ after.registry.find " hall" = .ok none := by
  intro hall
  refine ⟨_, rfl, rfl, ?_, rfl⟩
  intro entry hentry
  cases hentry

end Registry

end TaleLoom
