import TaleLoom.Proofs.Desk
import TaleLoom.Proofs.Registry.Lookup
import TaleLoom.Spark.Draw
/-!
When drawing keywords fails. `SparkLibrary.picks` are the keywords that the source gives, each with the
name of its table; every one of them is recorded under that name, and only a name that cannot be a key
makes a draw fail (`SparkLibrary.fails_drawFrom`).
-/

namespace TaleLoom.SparkLibrary

open Text

def picks : Nat → Nat → List (String × Value) → List String → Source → List (String × Value)
  | 0, _, _, _, _ => []
  | _, 0, _, _, _ => []
  | size + 1, wanted + 1, pool, seen, source =>
    let place := source.below pool.length
    match pool[place.1]? with
    | none => []
    | some pick =>
      let rest := pool.eraseIdx place.1
      if seen.contains (fold pick.1) then picks size (wanted + 1) rest seen place.2
      else pick :: picks size wanted rest (fold pick.1 :: seen) place.2

theorem run_noteUse {name : Value} {keyword : String} {scene : Scene} {sparks : SparkLibrary}
    (h : scene.sparks.recordUsage scene.desk.clock.millis name keyword = .ok sparks) :
    noteUse name keyword scene = .ok () { scene with sparks } := by
  simp only [noteUse, Act.run_bind, Act.run_get, Act.run_liftExcept, h, Act.run_ofExcept_ok,
    Act.run_modify]

/-- A keyword is recorded under every name that can be a key. -/
theorem exists_recordUsage {name : Value} (h : name.isKey = true) (library : SparkLibrary)
    (millis : Int) (keyword : String) :
    ∃ sparks, library.recordUsage millis name keyword = .ok sparks := by
  rw [recordUsage, Value.asKey, if_pos h]
  exact ⟨_, rfl⟩

/-- A keyword is recorded unless the name of its table cannot be a key; the desk stays. -/
theorem run_noteUse_ok {name : Value} (h : name.isKey = true) (keyword : String) (scene : Scene) :
    ∃ after, noteUse name keyword scene = .ok () after ∧ after.desk = scene.desk := by
  obtain ⟨sparks, hsparks⟩ := exists_recordUsage h scene.sparks scene.desk.clock.millis keyword
  exact ⟨{ scene with sparks }, run_noteUse hsparks, rfl⟩

theorem run_noteUse_error {name : Value} (h : name.isKey = false) (keyword : String)
    (scene : Scene) : noteUse name keyword scene = .error .wrongKind scene := by
  have hsparks : scene.sparks.recordUsage scene.desk.clock.millis name keyword =
      .error .wrongKind := by
    rw [recordUsage, Value.asKey, h]
    rfl
  simp only [noteUse, Act.run_bind, Act.run_get, Act.run_liftExcept, hsparks,
    Act.run_ofExcept_error]

/-- A draw fails exactly when it comes to a keyword of a table whose name cannot be a key. -/
theorem fails_drawFrom (size wanted : Nat) (pool : List (String × Value)) (seen : List String)
    (scene : Scene) :
    (drawFrom size wanted pool seen).Fails scene ↔
      ∃ pick ∈ picks size wanted pool seen scene.desk.source, pick.2.isKey = false := by
  unfold Act.Fails
  induction size generalizing wanted pool seen scene with
  | zero => simp [drawFrom, picks]
  | succ size ih =>
    cases wanted with
    | zero => simp [drawFrom, picks]
    | succ wanted =>
      let placed : Scene :=
        { scene with desk := scene.desk.placed pool.length "spark keyword" }
      have hplace : (liftM (Desk.drawPlace pool.length "spark keyword") : Act Scene Nat) scene =
          .ok (scene.desk.source.below pool.length).1 placed := by
        rw [Scene.run_liftDesk, Scene.run_atDesk, Desk.run_drawPlace]
      rw [drawFrom, Act.failsWith_bind_of_ok hplace, picks]
      cases hpick : pool[(scene.desk.source.below pool.length).1]? with
      | none => simp
      | some pick =>
        obtain ⟨keyword, name⟩ := pick
        simp only
        cases hseen : seen.contains (fold keyword) with
        | true =>
          simp only [if_true]
          exact ih (wanted + 1) _ seen placed
        | false =>
          simp only [Bool.false_eq_true, if_false, List.mem_cons, or_and_right, exists_or,
            exists_eq_left]
          cases hkey : name.isKey with
          | false =>
            have hnote := run_noteUse_error hkey keyword placed
            simp [Act.failsWith_bind, Act.failsWith_of_error hnote]
          | true =>
            obtain ⟨noted, hnote, hdesk⟩ := run_noteUse_ok hkey keyword placed
            rw [Act.failsWith_bind_of_ok hnote]
            simp only [bind_pure_comp, Act.failsWith_map, ih, hdesk, Bool.true_eq_false, false_or]
            rfl

/-- The keywords that a draw for a use comes to, with the names of their tables. -/
def picksFor (library : SparkLibrary) (count : Int) (purpose : SparkUse)
    (given : Option (List SparkTable)) (source : Source) : List (String × Value) :=
  let pool := ((library.inUse purpose given).map SparkTable.pool).flatten
  picks pool.length count.toNat pool [] source

theorem fails_generate (count : Int) (purpose : SparkUse) (given : Option (List SparkTable))
    (scene : Scene) :
    (generate count purpose given).Fails scene ↔
      ∃ pick ∈ scene.sparks.picksFor count purpose given scene.desk.source,
        pick.2.isKey = false := by
  rw [Act.Fails, generate, Act.failsWith_bind_of_ok (Act.run_get scene)]
  cases htables : scene.sparks.inUse purpose given with
  | nil =>
    simp [Act.failsWith_of_ok (Desk.run_warn _ _), picksFor, htables, picks]
  | cons table rest =>
    simp only [List.isEmpty_cons, Bool.false_eq_true, if_false, picksFor, htables]
    exact fails_drawFrom _ _ _ _ scene

end TaleLoom.SparkLibrary
