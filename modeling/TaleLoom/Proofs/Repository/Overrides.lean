import TaleLoom.Proofs.Repository.Growth
/-!
Workbooks set how specific items count, and nothing else. The workbook that counts for an item is the
first one that has a master scope, shares a tag with the item and applies at the position
(`Repository.overridden_override`). None of this depends on the level that an item has already, so it makes
no difference whether the levels are set once or twice, or whether workbooks that can set none are there
(`Repository.applyOverrides_exact`).
-/

namespace TaleLoom

namespace Workbook

structure Sets (w : Workbook) (position : Position) (item : Item) (level : ScopeLevel) : Prop where
  master : w.masterScope = some level
  shared : ∃ tag ∈ item.tags, ∃ own ∈ w.tags, own.same tag = true
  applies : ∀ anchor, w.masterAnchor = some anchor → Position.covers level anchor position = true

def Idle (position : Position) (w : Workbook) : Prop :=
  w.masterScope = none ∨ w.appliesAt position = false

def setting? (position : Position) (item : Item) (w : Workbook) : Option (ScopeLevel × Value) :=
  match w.masterScope with
  | some level => if w.sharesTag item && w.appliesAt position then some (level, w.name) else none
  | none => none

variable {w : Workbook} {position : Position} {item : Item} {level : ScopeLevel}

theorem sharesTag_iff : w.sharesTag item = true ↔
    ∃ tag ∈ item.tags, ∃ own ∈ w.tags, own.same tag = true := by
  simp [sharesTag]

/-- Where there is a master scope, the workbook applies unless it has an anchor that does not cover the
position. -/
theorem appliesAt_iff (hmaster : w.masterScope = some level) : w.appliesAt position = true ↔
    ∀ anchor, w.masterAnchor = some anchor → Position.covers level anchor position = true := by
  cases hanchor : w.masterAnchor with
  | none => simp [appliesAt, hanchor]
  | some anchor => simp [appliesAt, hmaster, hanchor, ScopeLevel.appliesAt]

theorem setting?_eq_some_iff {name : Value} :
    w.setting? position item = some (level, name) ↔ w.Sets position item level ∧ w.name = name := by
  unfold setting?
  cases hmaster : w.masterScope with
  | none =>
    refine iff_of_false (by simp) ?_
    rintro ⟨hsets, -⟩
    exact absurd (hmaster.symm.trans hsets.master) (by simp)
  | some own =>
    dsimp only
    constructor
    · intro h
      split at h
      · next hcond =>
        obtain ⟨rfl, rfl⟩ := Prod.mk.inj (Option.some.inj h)
        obtain ⟨hshares, happlies⟩ := Bool.and_eq_true_iff.1 hcond
        exact ⟨⟨hmaster, sharesTag_iff.1 hshares, (appliesAt_iff hmaster).1 happlies⟩, rfl⟩
      · cases h
    · rintro ⟨hsets, rfl⟩
      obtain rfl := Option.some.inj (hmaster.symm.trans hsets.master)
      rw [if_pos]
      exact Bool.and_eq_true_iff.2
        ⟨sharesTag_iff.2 hsets.shared, (appliesAt_iff hmaster).2 hsets.applies⟩

theorem setting?_eq_none_iff :
    w.setting? position item = none ↔ ∀ level, ¬ w.Sets position item level := by
  constructor
  · intro hnone level hsets
    have hsome := setting?_eq_some_iff.2 ⟨hsets, rfl⟩
    rw [hnone] at hsome
    cases hsome
  · intro hnever
    cases hsetting : w.setting? position item with
    | none => rfl
    | some setting => exact absurd (setting?_eq_some_iff.1 hsetting).1 (hnever setting.1)

theorem setting?_of_idle (h : w.Idle position) : w.setting? position item = none := by
  apply setting?_eq_none_iff.2
  intro level hsets
  rcases h with hmaster | happlies
  · exact absurd (hmaster.symm.trans hsets.master) (by simp)
  · have happlies' := (appliesAt_iff hsets.master).2 hsets.applies
    rw [happlies] at happlies'
    cases happlies'

end Workbook

/-- Some workbooks that can set no level at a position are left out of a list. -/
inductive Thinned (position : Position) : List Workbook → List Workbook → Prop
  | nil : Thinned position [] []
  | keep {workbooks fewer : List Workbook} (w : Workbook) :
      Thinned position workbooks fewer → Thinned position (w :: workbooks) (w :: fewer)
  | drop {workbooks fewer : List Workbook} {w : Workbook} :
      w.Idle position → Thinned position workbooks fewer → Thinned position (w :: workbooks) fewer

/-- The first level that is set is the same without them. -/
theorem Thinned.findSome?_setting? {position : Position} {workbooks fewer : List Workbook}
    (h : Thinned position workbooks fewer) (item : Item) :
    fewer.findSome? (Workbook.setting? position item) =
      workbooks.findSome? (Workbook.setting? position item) := by
  induction h with
  | nil => rfl
  | keep w _ ih => rw [List.findSome?_cons, List.findSome?_cons, ih]
  | drop hidle _ ih => rw [List.findSome?_cons, Workbook.setting?_of_idle hidle, ih]

namespace Repository

/-- What becomes of an entry. The first workbook that sets a level for its item gives it this level and is
named in it; where there is no such workbook the entry stays as it is. -/
inductive Overridden (r : Repository) (entry : ScopedItem) : ScopedItem → Prop
  | set {before after : List Workbook} {w : Workbook} {level : ScopeLevel} :
      r.workbooks = before ++ w :: after → w.Sets r.position entry.item level →
      (∀ earlier ∈ before, ∀ other, ¬ earlier.Sets r.position entry.item other) →
      Overridden r entry { entry with source := level, overriddenBy := some w.name }
  | kept : (∀ w ∈ r.workbooks, ∀ level, ¬ w.Sets r.position entry.item level) → Overridden r entry entry

variable (r : Repository)

theorem overriding?_eq (item : Item) :
    r.overriding? item = r.workbooks.findSome? (Workbook.setting? r.position item) := rfl

theorem overridden_override (entry : ScopedItem) : r.Overridden entry (r.override entry) := by
  rw [override, overriding?_eq]
  cases hfirst : r.workbooks.findSome? (Workbook.setting? r.position entry.item) with
  | none =>
    apply Overridden.kept
    intro w hw
    exact Workbook.setting?_eq_none_iff.1 (List.findSome?_eq_none_iff.1 hfirst w hw)
  | some setting =>
    obtain ⟨level, name⟩ := setting
    obtain ⟨before, w, after, hsplit, hw, hbefore⟩ := List.findSome?_eq_some_iff.1 hfirst
    obtain ⟨hsets, rfl⟩ := Workbook.setting?_eq_some_iff.1 hw
    apply Overridden.set hsplit hsets
    intro earlier hearlier
    exact Workbook.setting?_eq_none_iff.1 (hbefore earlier hearlier)

/-- What is set for an item does not depend on what was set before. -/
theorem override_override (entry : ScopedItem) : r.override (r.override entry) = r.override entry := by
  rw [override, override_item]
  cases hfirst : r.overriding? entry.item with
  | none => rfl
  | some setting => simp [override, hfirst]

/-- What no level has a part in is as it was. -/
theorem map_applyOverrides {α : Type} {f : ScopedItem → α} (hf : ∀ entry, f (r.override entry) = f entry)
    (entries : List ScopedItem) : (r.applyOverrides entries).map f = entries.map f := by
  rw [applyOverrides, List.map_map]
  apply List.map_congr_left
  intro entry _
  exact hf entry

/-- Workbooks set how specific items count, and nothing else. The entries keep their number, their order,
their items and their keys; each one gets the level of the first workbook that sets one for its item, and is
as it was where there is none. Setting the levels twice is setting them once, and leaving out workbooks
that have no master scope or do not apply at the position makes no difference. -/
theorem applyOverrides_exact (entries : List ScopedItem) :
    (r.applyOverrides entries).map (fun entry => (entry.key, entry.item)) =
      entries.map (fun entry => (entry.key, entry.item)) ∧
    List.Forall₂ r.Overridden entries (r.applyOverrides entries) ∧
    r.applyOverrides (r.applyOverrides entries) = r.applyOverrides entries ∧
    ∀ fewer, Thinned r.position r.workbooks fewer →
      ({ r with workbooks := fewer } : Repository).applyOverrides entries = r.applyOverrides entries := by
  refine ⟨?_, ?_, ?_, ?_⟩
  · apply map_applyOverrides
    intro entry
    rw [override_key, override_item]
  · rw [applyOverrides, List.forall₂_map_right_iff]
    exact List.forall₂_same.2 fun entry _ => r.overridden_override entry
  · rw [applyOverrides, applyOverrides, List.map_map]
    apply List.map_congr_left
    intro entry _
    exact r.override_override entry
  · intro fewer hfewer
    apply List.map_congr_left
    intro entry _
    simp only [override, overriding?_eq, hfewer.findSome?_setting?]

def ruins : Repository where
  items := [("keep", { Item.named (.text "Keep") 0 with tags := [.text "old"], scope := .book })]
  workbooks := [
    { Workbook.named (.text "Notes") 0 with tags := [.text "old"] },
    { Workbook.named (.text "Coast") 0 with
      tags := [.text "old"], masterScope := some .shelf, masterAnchor := some { shelf := .text "coast" } },
    { Workbook.named (.text "Ruins") 0 with tags := [.text "old"], masterScope := some .chapter }]
  position := { shelf := .text "hills" }

theorem applyOverrides_exact_ruins :
    let keep : ScopedItem :=
      { item := { Item.named (.text "Keep") 0 with tags := [.text "old"] }, key := "keep", source := .book }
    let fewer := ruins.workbooks.drop 2
    Thinned ruins.position ruins.workbooks fewer ∧
      ({ ruins with workbooks := fewer } : Repository).applyOverrides [keep] =
        [{ keep with source := .chapter, overriddenBy := some (.text "Ruins") }] := by
  intro keep fewer
  have hfewer : Thinned ruins.position ruins.workbooks fewer := by
    refine .drop (Or.inl rfl) (.drop (Or.inr ?_) (.keep _ .nil))
    decide
  obtain ⟨-, -, -, hthinned⟩ := applyOverrides_exact ruins [keep]
  refine ⟨hfewer, ?_⟩
  rw [hthinned fewer hfewer]
  rfl

end Repository

end TaleLoom
