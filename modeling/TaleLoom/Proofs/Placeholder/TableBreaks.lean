import TaleLoom.Proofs.Placeholder.Breaks
/-!
When a draw from a table breaks a call. A table whose formula or rows are at fault is refused, which
breaks nothing; what is left is a formula that cannot be read, a total that cannot be told, a generator
that fails for a reason of its own, and for draws that are remembered a table without a name and a store
that cannot be written.
-/

namespace TaleLoom

open Text Number

abbrev Fault.Escapes (fault : Fault) : Prop := fault.refusesTable = false

theorem Fault.escapes_of_folder {fault : Fault} (h : fault = .isFolder ∨ fault = .notAFolder) :
    fault.Escapes := by
  rcases h with rfl | rfl <;> rfl

namespace Resolver

open ConsumptionStore

def drawLeft (name : Value) (story : String) (pool : RandomTable) : Act Scene TableResult := do
  let result ← Registry.rollOn pool none 50
  match result.identity with
  | some entry =>
    ConsumptionStore.markConsumed name story entry
    return result
  | none => return result

theorem drawConsumable_eq (resolver : Resolver) (table : RandomTable) :
    resolver.drawConsumable table =
      available table resolver.options.story >>= drawLeft table.name resolver.options.story := rfl

section Rolled

variable {pool : RandomTable} {scene rolled : Scene} {result : TableResult}

/-- A roll changes neither the store nor the files, so it leaves the store writable or not. -/
theorem kept_of_rolled (h : Scene.atDesk (Registry.rollOn pool none 50) scene = .ok result rolled) :
    rolled.store = scene.store ∧ (rolled.Writable ↔ scene.Writable) := by
  have hroutine := (Scene.keeps_routine (Registry.keeps_rollOn pool none 50)).of_ok h
  have hstore : rolled.store = scene.store := congrArg Prod.snd hroutine.1
  have hfiles : rolled.desk.files = scene.desk.files := hroutine.2.1
  exact ⟨hstore, writable_of_files (by rw [hstore]) hfiles.symm,
    writable_of_files (by rw [hstore]) hfiles⟩

theorem sound_of_rolled {row : Row}
    (h : Scene.atDesk (Registry.rollOn pool none 50) scene = .ok result rolled)
    (hrow : result.row = some row) : pool.rows ≠ [] ∧ ¬ pool.RollFails none 50 scene.desk := by
  rw [Scene.run_atDesk] at h
  split at h
  · next hroll =>
    cases h
    obtain ⟨desk, hdesk⟩ := Registry.roll_of_rollOn hroll
    refine ⟨RandomTable.rows_of_roll hdesk hrow, ?_⟩
    rw [← RandomTable.fails_roll]
    exact Act.failsWith_of_ok hdesk
  · cases h

theorem rolled_of_sound (hrows : pool.rows ≠ []) (hsound : ¬ pool.RollFails none 50 scene.desk) :
    ∃ result rolled row, Scene.atDesk (Registry.rollOn pool none 50) scene = .ok result rolled ∧
      result.row = some row ∧ row ∈ pool.rows := by
  rw [← RandomTable.fails_roll, Act.not_fails_iff] at hsound
  obtain ⟨result, desk, hroll⟩ := hsound
  obtain ⟨row, hrow, hmem⟩ := RandomTable.row_of_roll hroll (by decide) hrows
  have hrolled : ∃ rolled, Scene.atDesk (Registry.rollOn pool none 50) scene = .ok result rolled := by
    rw [Scene.run_atDesk, Registry.run_rollOn hroll]
    exact ⟨_, rfl⟩
  obtain ⟨rolled, hrolled⟩ := hrolled
  exact ⟨result, rolled, row, hrolled, hrow, hmem⟩

end Rolled

/-- A draw from a pool breaks where the roll does, or where it gives a row that cannot be kept. -/
theorem failsWith_drawLeft {name story : String} {pool : RandomTable} {scene : Scene}
    (hnew : ¬ scene.Writable → ∀ row ∈ pool.rows, row.identity ∉ scene.store.items name story) :
    (drawLeft (.text name) story pool).FailsWith Fault.Escapes scene ↔
      pool.RollBreaks 50 scene.desk ∨
        ¬ scene.Writable ∧ pool.rows ≠ [] ∧ ¬ pool.RollFails none 50 scene.desk := by
  have hroll : (Scene.atDesk (Registry.rollOn pool none 50)).FailsWith Fault.Escapes scene ↔
      pool.RollBreaks 50 scene.desk := by
    rw [Scene.failsWith_atDesk, Registry.failsWith_rollOn]
    exact RandomTable.failsWith_roll_iff_breaks pool 50 scene.desk
  rw [drawLeft, Scene.run_liftDesk, Act.failsWith_bind, hroll]
  refine or_congr Iff.rfl ?_
  constructor
  · rintro ⟨result, rolled, hrolled, hmark⟩
    cases hrow : result.row with
    | none => simp [TableResult.identity, hrow] at hmark
    | some row =>
      simp only [TableResult.identity_of_row hrow] at hmark
      refine ⟨fun hwritable => ?_, sound_of_rolled hrolled hrow⟩
      obtain ⟨after, hmarked, -⟩ :=
        run_markConsumed name story row.identity ((kept_of_rolled hrolled).2.2 hwritable)
      rw [Act.failsWith_bind_of_ok hmarked] at hmark
      exact Act.failsWith_pure _ hmark
  · rintro ⟨hfull, hrows, hsound⟩
    obtain ⟨result, rolled, row, hrolled, hrow, hmem⟩ := rolled_of_sound hrows hsound
    obtain ⟨hstore, hwritable⟩ := kept_of_rolled hrolled
    have hentry : row.identity ∉ rolled.store.items name story := hstore ▸ hnew hfull row hmem
    obtain ⟨fault, after, hmark, hfault⟩ :=
      run_markConsumed_error (mt hwritable.1 hfull) hentry
    refine ⟨result, rolled, hrolled, ?_⟩
    simp only [TableResult.identity_of_row hrow, Act.failsWith_bind]
    exact Or.inl ((Act.failsWith_of_error hmark).2 (Fault.escapes_of_folder hfault))

def ConsumableBreaks (table : RandomTable) (story : String) (scene : Scene) : Prop :=
  (∀ name, table.name ≠ .text name) ∨
    ∃ name, table.name = .text name ∧
      ((scene.store.pool table name story).RollBreaks 50 ((available table story).after scene).desk ∨
        ¬ scene.Writable ∧ (scene.store.exhausted table name story ∨
          (scene.store.pool table name story).rows ≠ [] ∧
            ¬ (scene.store.pool table name story).RollFails none 50 scene.desk))

theorem failsWith_drawConsumable (resolver : Resolver) (table : RandomTable) (scene : Scene) :
    (resolver.drawConsumable table).FailsWith Fault.Escapes scene ↔
      ConsumableBreaks table resolver.options.story scene := by
  generalize hstory : resolver.options.story = story
  rw [drawConsumable_eq, hstory, ConsumableBreaks]
  rcases asText_cases table.name with ⟨name, hname⟩ | hname
  · have hnamed (p : String → Prop) : ((∀ name', table.name ≠ .text name') ∨
        ∃ name', table.name = .text name' ∧ p name') ↔ p name := by
      rw [hname]
      constructor
      · rintro (h | ⟨name', heq, h⟩)
        · exact absurd rfl (h name)
        · cases heq
          exact h
      · exact fun h => Or.inr ⟨name, rfl, h⟩
    rw [hnamed, hname]
    by_cases hwritable : scene.Writable
    · -- the records can be written, so only the roll can break
      obtain ⟨left, havailable, hleft, -⟩ := run_available hname story hwritable
      rw [Act.failsWith_bind_of_ok havailable, failsWith_drawLeft (fun h => absurd hleft h),
        Act.after_of_ok havailable]
      simp only [hleft, hwritable, not_true, false_and, or_false]
    · by_cases hexhausted : scene.store.exhausted table name story
      · obtain ⟨fault, after, havailable, hfault⟩ :=
          run_available_error hname hwritable hexhausted
        have hfails : (available table story).FailsWith Fault.Escapes scene :=
          (Act.failsWith_of_error havailable).2 (Fault.escapes_of_folder hfault)
        simp only [Act.failsWith_bind, hfails, hwritable, hexhausted, true_or, not_false_iff,
          true_and, or_true]
      · have hnew : ∀ row ∈ (scene.store.pool table name story).rows,
            row.identity ∉ scene.store.items name story := by
          intro row hrow
          have h := (mem_pool hrow).2
          rwa [ConsumptionStore.round, if_neg hexhausted] at h
        have havailable := run_available_of_left hname hexhausted
        rw [Act.failsWith_bind_of_ok havailable, failsWith_drawLeft fun _ => hnew,
          Act.after_of_ok havailable]
        simp only [hexhausted, false_or]
  · have hrun : available table story scene = .error .missingPart scene := by
      simp only [available, hname, Act.run_bind, Act.run_liftExcept, Act.run_ofExcept_error]
    have hfails : (available table story).FailsWith Fault.Escapes scene :=
      (Act.failsWith_of_error hrun).2 rfl
    have hother : ∀ name, table.name ≠ .text name := by
      intro name heq
      rw [heq] at hname
      cases hname
    simp only [Act.failsWith_bind, hfails, true_or, hother, ne_eq, not_false_iff, implies_true]

end Resolver

namespace TableDraw

/-- The draw breaks the call that it is made for. -/
def Breaks (resolver : Resolver) (d : TableDraw) : Prop :=
  if d.consumable then Resolver.ConsumableBreaks d.table resolver.options.story d.scene
  else d.table.RollBreaks 0 d.scene.desk

theorem breaks_iff {resolver : Resolver} {d : TableDraw} :
    d.Breaks resolver ↔ (resolver.drawOne d.table d.consumable).FailsWith Fault.Escapes d.scene := by
  unfold Breaks Resolver.drawOne
  cases d.consumable with
  | true =>
    simp only [if_true]
    exact (Resolver.failsWith_drawConsumable resolver d.table d.scene).symm
  | false =>
    simp only [Bool.false_eq_true, if_false]
    rw [Scene.failsWith_atDesk, Registry.failsWith_rollOn]
    exact (RandomTable.failsWith_roll_iff_breaks d.table 0 d.scene.desk).symm

end TableDraw

namespace Resolver

/-- Draws end in a fault exactly where one of them breaks. -/
theorem DrawRun.breaks_iff {resolver : Resolver} {table : RandomTable} {consumable : Bool}
    {count : Nat} {scene after : Scene} {draws : List TableDraw} {last : Option Fault}
    (h : DrawRun resolver table consumable count scene draws last after) :
    (∃ d ∈ draws, d.Breaks resolver) ↔ ∃ fault, last = some fault := by
  induction h with
  | done scene => simp
  | drawn hout _ ih =>
    have hsound : ¬ TableDraw.Breaks resolver _ := mt TableDraw.breaks_iff.1 (Act.failsWith_of_ok hout)
    simp only [List.exists_mem_cons_iff, hsound, false_or, ih]
  | @refused _ scene _ _ hout hrefuses =>
    have hsound : ¬ TableDraw.Breaks resolver ⟨table, consumable, scene⟩ := by
      rw [TableDraw.breaks_iff, Act.failsWith_of_error hout]
      simp [hrefuses]
    simp [hsound]
  | failed hout hescapes =>
    have hbreaks : TableDraw.Breaks resolver _ :=
      TableDraw.breaks_iff.2 ((Act.failsWith_of_error hout).2 hescapes)
    simp [hbreaks]

def LongCount (part : List Char) : Prop :=
  lower (String.ofList part) ≠ "consumable" ∧
    ∃ digits, Expression.pickCount? part = some digits ∧ digitLimit < digits.length

theorem add_error_iff (request : DrawRequest) (part : List Char) :
    (∃ fault, request.add part = .error fault) ↔ LongCount part := by
  unfold DrawRequest.add LongCount
  cases part with
  | nil => simp [Expression.pickCount?, Expression.afterWord?]
  | cons c rest =>
    by_cases hword : lower (String.ofList (c :: rest)) = "consumable"
    · simp only [List.isEmpty_cons, Bool.false_eq_true, if_false, hword, if_true, ne_eq, not_true,
        false_and, reduceCtorEq, exists_false]
    · simp only [List.isEmpty_cons, Bool.false_eq_true, if_false, hword, ne_eq, not_false_iff,
        true_and]
      cases Expression.pickCount? (c :: rest) with
      | none => simp
      | some digits =>
        simp only [Option.some.injEq, exists_eq_left', ← readDigits?_eq_none_iff]
        cases readDigits? digits <;> simp

theorem ofParts_error_iff (table : RandomTable) (parts : List (List Char)) :
    (∃ fault, DrawRequest.ofParts table parts = .error fault) ↔ ∃ part ∈ parts, LongCount part := by
  rw [DrawRequest.ofParts]
  generalize ({ consumable := table.consumable } : DrawRequest) = request
  induction parts generalizing request with
  | nil => simp
  | cons part rest ih =>
    rw [List.foldlM_cons, List.exists_mem_cons_iff, ← add_error_iff request part]
    cases request.add part with
    | error fault => simp
    | ok next => simpa using ih next

def TableBreaks (resolver : Resolver) (body : List Char) (scene : Scene) : Prop :=
  scene.registry.Stumbles (tableParts body).1 ∨
    (∃ table, scene.registry.find (tableParts body).1 = .ok (some table) ∧
      ∃ part ∈ (tableParts body).2, LongCount part) ∨
    ∃ d ∈ resolver.tableDraws body scene, d.Breaks resolver

theorem fails_resolveTable (resolver : Resolver) (body : List Char) (scene : Scene) :
    (resolver.resolveTable body).Fails scene ↔ resolver.TableBreaks body scene := by
  rw [TableBreaks, ← Registry.find_error_iff, Act.fails_iff, run_resolveTable, tableDraws]
  cases scene.registry.find (tableParts body).1 with
  | error fault => simp
  | ok found =>
    cases found with
    | none => simp
    | some table =>
      simp only [reduceCtorEq, exists_false, false_or, Except.ok.injEq, Option.some.injEq,
        exists_eq_left', ← ofParts_error_iff table]
      cases DrawRequest.ofParts table (tableParts body).2 with
      | error fault => simp
      | ok request =>
        obtain ⟨last, after, hrun, hend⟩ := drawRun resolver table request request.picks scene
        simp only [reduceCtorEq, exists_false, false_or, hrun.breaks_iff, Act.run_map]
        cases last with
        | none =>
          obtain ⟨texts, htexts⟩ := hend
          simp [htexts]
        | some fault =>
          have hfault : resolver.drawTexts table request request.picks scene = .error fault after := hend
          simp [hfault]

end Resolver

end TaleLoom
