import TaleLoom.Proofs.Placeholder.Trail
import TaleLoom.Proofs.Table.Roll
/-!
The draws behind a trial of a placeholder that names a table, each with the scene that it was made
from. `DrawRun` says once what becomes of each draw, and `drawRun` that the draws of every placeholder
go so.
-/

namespace TaleLoom

open Text

structure TableDraw where
  table : RandomTable
  consumable : Bool
  scene : Scene

def TableDraw.outcome (resolver : Resolver) (d : TableDraw) :
    EStateM.Result Fault Scene TableResult :=
  resolver.drawOne d.table d.consumable d.scene

namespace Resolver

variable (resolver : Resolver)

/-- The draws of a placeholder that asks for so many. -/
def drawsOf (table : RandomTable) (consumable : Bool) : Nat → Scene → List TableDraw
  | 0, _ => []
  | count + 1, scene =>
    ⟨table, consumable, scene⟩ ::
      match resolver.drawOne table consumable scene with
      | .ok _ scene => drawsOf table consumable count scene
      | .error _ _ => []

def tableDraws (body : List Char) (scene : Scene) : List TableDraw :=
  match scene.registry.find (tableParts body).1 with
  | .ok (some table) =>
    match DrawRequest.ofParts table (tableParts body).2 with
    | .ok request => resolver.drawsOf table request.consumable request.picks scene
    | .error _ => []
  | _ => []

/-- Draws from a table: what becomes of each, and the fault in which they end, if any. -/
inductive DrawRun (table : RandomTable) (consumable : Bool) :
    Nat → Scene → List TableDraw → Option Fault → Scene → Prop
  | done (scene : Scene) : DrawRun table consumable 0 scene [] none scene
  | drawn {count : Nat} {scene next after : Scene} {draws : List TableDraw} {last : Option Fault}
      {result : TableResult} :
      TableDraw.outcome resolver ⟨table, consumable, scene⟩ = .ok result next →
      DrawRun table consumable count next draws last after →
      DrawRun table consumable (count + 1) scene (⟨table, consumable, scene⟩ :: draws) last after
  | refused {count : Nat} {scene after : Scene} {fault : Fault} :
      TableDraw.outcome resolver ⟨table, consumable, scene⟩ = .error fault after →
      fault.refusesTable = true →
      DrawRun table consumable (count + 1) scene [⟨table, consumable, scene⟩] none after
  | failed {count : Nat} {scene after : Scene} {fault : Fault} :
      TableDraw.outcome resolver ⟨table, consumable, scene⟩ = .error fault after →
      fault.refusesTable = false →
      DrawRun table consumable (count + 1) scene [⟨table, consumable, scene⟩] (some fault) after

/-- The draws of every placeholder are a run. -/
theorem drawRun (table : RandomTable) (request : DrawRequest) (count : Nat) (scene : Scene) :
    ∃ last after,
      DrawRun resolver table request.consumable count scene
        (resolver.drawsOf table request.consumable count scene) last after ∧
      (resolver.drawTexts table request count).EndsIn scene last after := by
  -- the run and the code take their turns together: after each draw the rest starts where it ended
  induction count generalizing scene with
  | zero => exact ⟨none, scene, .done scene, _, rfl⟩
  | succ count ih =>
    cases hdraw : resolver.drawOne table request.consumable scene with
    | ok result next =>
      obtain ⟨last, after, hrun, hend⟩ := ih next
      refine ⟨last, after, ?_, ?_⟩
      · simp only [drawsOf, hdraw]
        exact .drawn hdraw hrun
      · simp only [Act.EndsIn, drawTexts, Act.run_bind, Act.run_attempt, hdraw]
        cases last with
        | none =>
          obtain ⟨texts, htexts⟩ := hend
          cases texts with
          | error diagnostic => exact ⟨.error diagnostic, by rw [htexts]; rfl⟩
          | ok texts =>
            exact ⟨.ok (inflect result.description request.modifiers :: texts), by rw [htexts]; rfl⟩
        | some fault =>
          have hfault : resolver.drawTexts table request count next = .error fault after := hend
          simp only [hfault]
    | error fault next =>
      cases hrefuses : fault.refusesTable with
      | true =>
        refine ⟨none, next, ?_, ?_⟩
        · simp only [drawsOf, hdraw]
          exact .refused hdraw hrefuses
        · simp only [Act.EndsIn, drawTexts, Act.run_bind, Act.run_attempt, hdraw]
          cases fault <;> first | exact ⟨_, rfl⟩ | cases hrefuses
      | false =>
        refine ⟨some fault, next, ?_, ?_⟩
        · simp only [drawsOf, hdraw]
          exact .failed hdraw hrefuses
        · simp only [Act.EndsIn, drawTexts, Act.run_bind, Act.run_attempt, hdraw]
          cases fault <;> first | rfl | cases hrefuses

def tableAttempt : Except Diagnostic (List String) → Attempt
  | .error diagnostic => .error diagnostic
  | .ok texts => .ok (.text (join ", " texts))

theorem run_resolveTable (body : List Char) (scene : Scene) :
    resolver.resolveTable body scene =
      match scene.registry.find (tableParts body).1 with
      | .error fault => .error fault scene
      | .ok none => .ok (.error (.unknownTable (tableParts body).1)) scene
      | .ok (some table) =>
        match DrawRequest.ofParts table (tableParts body).2 with
        | .error fault => .error fault scene
        | .ok request => (tableAttempt <$> resolver.drawTexts table request request.picks) scene := by
  simp only [resolveTable, Act.run_bind, Act.run_get, Act.run_liftExcept]
  cases scene.registry.find (tableParts body).1 with
  | error fault => rfl
  | ok found =>
    cases found with
    | none => rfl
    | some table =>
      simp only [Act.run_ofExcept_ok, Act.run_bind, Act.run_map]
      cases DrawRequest.ofParts table (tableParts body).2 with
      | error fault => rfl
      | ok request =>
        simp only [Act.run_ofExcept_ok]
        cases resolver.drawTexts table request request.picks scene with
        | error fault after => rfl
        | ok texts after => cases texts <;> rfl

end Resolver

def Trial.draws (resolver : Resolver) (trial : Trial) : List TableDraw :=
  match Expression.ofBody resolver.items.isSome (trim trial.token.body) with
  | .table => resolver.tableDraws (trim trial.token.body) trial.scene
  | _ => []

end TaleLoom
