import TaleLoom.Proofs.Consumption.Draws
import TaleLoom.Proofs.Placeholder.Attempts
import TaleLoom.Proofs.Placeholder.Draws
import TaleLoom.Proofs.Spark.Draw
/-!
When a trial of a placeholder breaks a call, kind by kind. Each `Breaks` predicate names the causes: a
number of too many digits, a count that is no number, a name that cannot be a key, a table that cannot
be read or kept, and an item whose name is neither null nor a text. `Trial.breaks_iff` says that these are all.
-/

namespace TaleLoom

open Text Number

namespace WrittenInteger

def IsLong (w : WrittenInteger) : Prop := digitLimit < w.digits.length

theorem value_error {w : WrittenInteger} (h : w.IsLong) : w.value = .error .numeral := by
  rw [value, readDigits?_eq_none_iff.2 h]

theorem value_ok {w : WrittenInteger} (h : ¬ w.IsLong) :
    ∃ n, w.value = .ok n ∧ isTooLong n = false := by
  have hle : w.digits.length ≤ digitLimit := Nat.le_of_not_lt h
  refine ⟨_, by rw [value, readDigits?_of_le hle], isTooLong_eq_false ?_ hle⟩
  have hlt := digitsValue_lt w.digits
  split
  · rwa [Int.natAbs_neg, Int.natAbs_natCast]
  · rwa [Int.natAbs_natCast]

/-- An integer that can be read can be written. -/
theorem short_of_value {w : WrittenInteger} {n : Int} (h : w.value = .ok n) : isTooLong n = false := by
  by_cases hlong : w.IsLong
  · rw [value_error hlong] at h
    cases h
  · obtain ⟨m, hm, hshort⟩ := value_ok hlong
    rw [hm] at h
    rwa [← Except.ok.inj h]

end WrittenInteger

/-- A number is drawn from a range that is not empty and whose ends can be written. -/
theorem Desk.run_draw {low high : Int} (h : low ≤ high) (hlow : isTooLong low = false)
    (hhigh : isTooLong high = false) (reason : String) (desk : Desk) :
    ∃ n desk', draw low high reason desk = .ok n desk' ∧ isTooLong n = false := by
  let drawn := desk.source.below (high - low + 1).toNat
  have hlt : drawn.1 < (high - low + 1).toNat := desk.source.below_lt (by omega)
  suffices hrun : ∃ desk', draw low high reason desk = .ok (low + drawn.1) desk' by
    obtain ⟨desk', hrun⟩ := hrun
    exact ⟨_, desk', hrun, isTooLong_of_between hlow hhigh (by omega) (by omega)⟩
  simp only [draw, if_neg (Int.not_lt.2 h), Act.run_bind, Act.run_pure, run_below,
    digits_ok hlow, digits_ok hhigh, Act.run_liftExcept, Act.run_ofExcept_ok, run_record]
  exact ⟨_, rfl⟩

namespace Resolver

variable {scene : Scene}

def RangeBreaks (ends : Option (WrittenInteger × WrittenInteger)) : Prop :=
  ∃ first last, ends = some (first, last) ∧ (first.IsLong ∨ last.IsLong)

theorem fails_resolveRange (body : String) (ends : Option (WrittenInteger × WrittenInteger)) :
    (resolveRange body ends).Fails scene ↔ RangeBreaks ends := by
  cases ends with
  | none => simp [resolveRange, RangeBreaks]
  | some ends =>
    obtain ⟨first, last⟩ := ends
    have hbreaks : RangeBreaks (some (first, last)) ↔ first.IsLong ∨ last.IsLong := by
      simp [RangeBreaks]
    rw [hbreaks]
    by_cases hfirst : first.IsLong
    · have hrun : resolveRange body (some (first, last)) scene = .error .numeral scene := by
        simp only [resolveRange, Act.run_liftExcept, Act.run_bind,
          WrittenInteger.value_error hfirst, Act.run_ofExcept_error]
      simp only [Act.fails_of_error hrun, hfirst, true_or]
    · obtain ⟨low, hlow, hlowShort⟩ := WrittenInteger.value_ok hfirst
      by_cases hlast : last.IsLong
      · have hrun : resolveRange body (some (first, last)) scene = .error .numeral scene := by
          simp only [resolveRange, Act.run_liftExcept, Act.run_bind, hlow, Act.run_ofExcept_ok,
            WrittenInteger.value_error hlast, Act.run_ofExcept_error]
        simp only [Act.fails_of_error hrun, hlast, or_true]
      · obtain ⟨high, hhigh, hhighShort⟩ := WrittenInteger.value_ok hlast
        suffices hok : ∃ a t, resolveRange body (some (first, last)) scene = .ok a t by
          simp only [Act.not_fails_iff.2 hok, hfirst, hlast, or_self]
        simp only [resolveRange, hlow, hhigh, Act.run_liftExcept, Act.run_bind,
          Act.run_ofExcept_ok]
        by_cases hempty : low > high
        · exact ⟨_, _, by rw [if_pos hempty]; rfl⟩
        · obtain ⟨n, desk, hdraw, hshort⟩ := Desk.run_draw (Int.not_lt.1 hempty) hlowShort hhighShort
            ("placeholder: " ++ body) scene.desk
          simp only [if_neg hempty, Act.run_bind, Act.run_pure, Scene.run_liftDesk,
            Scene.run_atDesk, hdraw, digits_ok hshort, Act.run_ofExcept_ok]
          exact ⟨_, _, rfl⟩

def RollBreaks (formula : String) (source : Source) : Prop :=
  Formula.Unreadable (.text formula) ∨
    ∃ f, Formula.ofValue (.text formula) = .ok f ∧ isTooLong (f.totalOn source) = true

theorem fails_resolveRoll (body formula : String) :
    (resolveRoll body formula).Fails scene ↔ RollBreaks formula scene.desk.source := by
  unfold RollBreaks
  generalize hreason : "placeholder: " ++ body = reason
  rcases Formula.ofValue_cases (.text formula) with ⟨⟨f, hf⟩ | ⟨why, hwhy⟩, hread⟩ | ⟨-, hread⟩
  · have hroll := Desk.run_roll_ok hf reason scene.desk
    have hrun : (resolveRoll body formula).Fails scene ↔
        isTooLong (f.totalOn scene.desk.source) = true := by
      have htotal : (Desk.rollOf (.text formula) reason f scene.desk.source).total =
          f.totalOn scene.desk.source := rfl
      rw [Act.fails_iff]
      simp only [resolveRoll, Act.run_bind, Act.run_attempt, Scene.run_liftDesk, Scene.run_atDesk,
        hreason, hroll, Act.run_liftExcept, htotal]
      cases hlong : isTooLong (f.totalOn scene.desk.source) with
      | true => simp [digits_error hlong]
      | false => simp [digits_ok hlong]
    simp [hrun, hf, hread]
  · have hroll := Desk.run_roll_error hwhy reason scene.desk
    have hrun : resolveRoll body formula scene = .ok (.error (.dice formula)) scene := by
      simp only [resolveRoll, Act.run_bind, Act.run_attempt, Scene.run_liftDesk, Scene.run_atDesk,
        hreason, hroll, Act.run_pure]
    simp [Act.failsWith_of_ok hrun, hread, hwhy]
  · obtain ⟨fault, hrefuses, hfault⟩ := RandomTable.unreadable_iff.1 hread
    have hroll := Desk.run_roll_error hfault reason scene.desk
    have hrun : resolveRoll body formula scene = .error fault scene := by
      simp only [resolveRoll, Act.run_bind, Act.run_attempt, Scene.run_liftDesk, Scene.run_atDesk,
        hreason, hroll]
      cases fault <;> first | rfl | cases hrefuses
    simp only [Act.fails_of_error hrun, hread, true_or]

def OutcomeBreaks (value : List Char) (scene : Scene) : Prop :=
  ∃ n, readInteger? value = some n ∧
    scene.registry.difficultyTable.RollFails (some n) 0 scene.desk

theorem fails_resolveOutcome (value : List Char) :
    (resolveOutcome value).Fails scene ↔ OutcomeBreaks value scene := by
  unfold resolveOutcome OutcomeBreaks
  cases readInteger? value with
  | none => simp
  | some n =>
    simp only [bind_pure_comp, Act.failsWith_map, Option.some.injEq, exists_eq_left',
      Registry.rollDifficulty]
    rw [Act.failsWith_bind_of_ok (Act.run_get scene), Scene.run_liftDesk, Scene.failsWith_atDesk,
      Registry.failsWith_rollOn]
    exact RandomTable.fails_roll _ _ _ _

def ItemBreaks (resolver : Resolver) (category : ItemCategory) (source : Source) : Prop :=
  ∃ h : resolver.candidates category ≠ [],
    (Desk.chosen (resolver.candidates category) h source).name ≠ .null ∧
      ∀ s, (Desk.chosen (resolver.candidates category) h source).name ≠ .text s

def KeywordsBreak (count : Int) (tables : Option (List SparkTable)) (scene : Scene) : Prop :=
  tables ≠ some [] ∧
    ∃ pick ∈ scene.sparks.picksFor count .sparks tables scene.desk.source, pick.2.isKey = false

theorem fails_keywordsFrom (count : Int) (names : List String) (tables : Option (List SparkTable)) :
    (keywordsFrom count names tables).Fails scene ↔ KeywordsBreak count tables scene := by
  rw [KeywordsBreak, ← SparkLibrary.fails_generate, keywordsFrom]
  have hfinish (keywords : List String) (t : Scene) :
      ¬ (if keywords.isEmpty then pure (.error .noSparks)
        else pure (.ok (.text (join ", " keywords))) : Act Scene Attempt).Fails t := by
    split
    · exact Act.failsWith_pure _
    · exact Act.failsWith_pure _
  by_cases htables : tables = some []
  · simp [htables]
  · have hsome : (tables.map List.isEmpty).getD false = false := by
      cases tables with
      | none => rfl
      | some found => simpa using htables
    simp only [hsome, Bool.false_eq_true, if_false, Act.failsWith_bind, htables, ne_eq, not_false_iff,
      true_and]
    constructor
    · rintro (h | ⟨keywords, t, -, h⟩)
      · exact h
      · exact absurd h (hfinish keywords t)
    · exact Or.inl

/-- The tables of a library that some names stand for. -/
def tablesNamed (library : SparkLibrary) (names : List String) : List SparkTable :=
  names.filterMap fun name =>
    match library.find name with
    | .ok table => table
    | .error _ => none

/-- What the author is told of the names that stand for no table. -/
def absences (library : SparkLibrary) (names : List String) : List Notice :=
  names.filterMap fun name =>
    match library.find name with
    | .ok none => some ⟨.warning, "Spark table '" ++ name ++ "' not found"⟩
    | _ => none

/-- Looking for spark tables fails where it stumbles over a name. Else it finds those of the names and tells
of the names that stand for none. -/
theorem run_findSparkTables (names : List String) (scene : Scene) :
    ((∃ name ∈ names, scene.sparks.Stumbles name) ∧ (findSparkTables names).Fails scene) ∨
      (¬ ∃ name ∈ names, scene.sparks.Stumbles name) ∧
        findSparkTables names scene =
          .ok (tablesNamed scene.sparks names) (scene.told (absences scene.sparks names)) := by
  induction names generalizing scene with
  | nil => exact Or.inr ⟨by simp, by simp [findSparkTables, tablesNamed, absences]⟩
  | cons name rest ih =>
    simp only [List.exists_mem_cons_iff, not_or]
    cases hfind : scene.sparks.find name with
    | error fault =>
      have hrun : findSparkTables (name :: rest) scene = .error fault scene := by
        simp only [findSparkTables, Act.run_bind, Act.run_get, Act.run_liftExcept, hfind,
          Act.run_ofExcept_error]
      exact Or.inl ⟨Or.inl (SparkLibrary.find_error_iff.1 ⟨fault, hfind⟩), Act.fails_of_error hrun⟩
    | ok found =>
      have hfound : ¬ scene.sparks.Stumbles name := by
        rw [← SparkLibrary.find_error_iff, hfind]
        simp
      simp only [hfound, false_or, not_false_iff, true_and]
      cases found with
      | none =>
        let absent : Notice := ⟨.warning, "Spark table '" ++ name ++ "' not found"⟩
        have hrun : findSparkTables (name :: rest) scene = findSparkTables rest (scene.told [absent]) := by
          simp only [findSparkTables, Act.run_bind, Act.run_get, Act.run_liftExcept, hfind,
            Act.run_ofExcept_ok, Scene.run_liftDesk, Scene.run_atDesk, Desk.run_warn_told]
          rfl
        have htables : tablesNamed scene.sparks (name :: rest) = tablesNamed scene.sparks rest := by
          simp only [tablesNamed, List.filterMap_cons, hfind]
        have habsences : scene.told (absences scene.sparks (name :: rest)) =
            (scene.told [absent]).told (absences scene.sparks rest) := by
          simp only [absences, List.filterMap_cons, hfind, Scene.told, Desk.told_told]
          rfl
        rw [Act.Fails, Act.failsWith_congr hrun, hrun, htables, habsences]
        exact ih (scene.told [absent])
      | some table =>
        have hrun : findSparkTables (name :: rest) scene =
            ((table :: ·) <$> findSparkTables rest) scene := by
          simp only [findSparkTables, Act.run_bind, Act.run_get, Act.run_liftExcept, hfind,
            Act.run_ofExcept_ok, bind_pure_comp]
        have htables : tablesNamed scene.sparks (name :: rest) =
            table :: tablesNamed scene.sparks rest := by
          simp only [tablesNamed, List.filterMap_cons, hfind]
        have habsences : absences scene.sparks (name :: rest) = absences scene.sparks rest := by
          simp only [absences, List.filterMap_cons, hfind]
        rw [Act.Fails, Act.failsWith_congr hrun, htables, habsences, Act.failsWith_map]
        rcases ih scene with h | ⟨hnone, hrest⟩
        · exact Or.inl h
        · exact Or.inr ⟨hnone, by rw [hrun, Act.run_map, hrest]⟩

def SparksUnreadable (word : String) (spec : List Char) : Prop :=
  (word ≠ "spark" ∧ word ≠ "sparks") ∨
    ∃ last, (filledParts ':' spec).getLast? = some last ∧ last.all isDigit = true ∧
      readInteger? last = none

theorem sparkRequest_error_iff (word : String) (spec : List Char) :
    (∃ fault, sparkRequest word spec = .error fault) ↔ SparksUnreadable word spec := by
  have hword : (∃ fault, sparkCount word = .error fault) ↔ word ≠ "spark" ∧ word ≠ "sparks" := by
    unfold sparkCount
    by_cases hone : word = "spark"
    · simp [hone]
    · by_cases htwo : word = "sparks"
      · simp [htwo]
      · simp [hone, htwo]
  have hcount (parts : List (List Char)) : (∃ fault, splitCount parts = .error fault) ↔
      ∃ last, parts.getLast? = some last ∧ last.all isDigit = true ∧ readInteger? last = none := by
    unfold splitCount
    cases parts.getLast? with
    | none => simp
    | some last =>
      simp only [Option.some.injEq, exists_eq_left']
      cases last.all isDigit with
      | false => simp
      | true => cases readInteger? last <;> simp
  rw [SparksUnreadable, ← hword, ← hcount, sparkRequest]
  cases sparkCount word with
  | error fault => simp
  | ok usual =>
    cases splitCount (filledParts ':' spec) with
    | error fault => simp
    | ok split => simp

example : SparksUnreadable "sparks" ['²'] := Or.inr ⟨['²'], by decide, by decide, by decide⟩

def SparksBreak (word : String) (spec : List Char) (scene : Scene) : Prop :=
  SparksUnreadable word spec ∨
    ∃ count names, sparkRequest word spec = .ok (count, names) ∧
      ((∃ name ∈ names, scene.sparks.Stumbles name) ∨
        KeywordsBreak count
          (if names.isEmpty then none else some (tablesNamed scene.sparks names)) scene)

/-- Where it can be read what is asked for, the keywords come from the tables of the names, or from all
that are enabled where there is no name. -/
theorem run_resolveSparks {word : String} {spec : List Char} {count : Int} {names : List String}
    (h : sparkRequest word spec = .ok (count, names)) (scene : Scene) :
    resolveSparks word spec scene =
      (if names.isEmpty then keywordsFrom count names none
        else findSparkTables names >>= fun tables =>
          keywordsFrom count names (some tables) : Act Scene Attempt) scene := by
  simp only [resolveSparks, Act.run_bind, Act.run_liftExcept, h, Act.run_ofExcept_ok]

theorem fails_resolveSparks (word : String) (spec : List Char) :
    (resolveSparks word spec).Fails scene ↔ SparksBreak word spec scene := by
  rw [SparksBreak, ← sparkRequest_error_iff]
  cases hrequest : sparkRequest word spec with
  | error fault =>
    have hrun : resolveSparks word spec scene = .error fault scene := by
      simp only [resolveSparks, Act.run_bind, Act.run_liftExcept, hrequest, Act.run_ofExcept_error]
    simp [Act.fails_of_error hrun]
  | ok request =>
    obtain ⟨count, names⟩ := request
    have hrequested (p : Int → List String → Prop) :
        (∃ count' names', (.ok (count, names) : Except Fault _) = .ok (count', names') ∧
          p count' names') ↔ p count names := by
      constructor
      · rintro ⟨count', names', heq, h⟩
        cases heq
        exact h
      · exact fun h => ⟨count, names, rfl, h⟩
    rw [Act.Fails, Act.failsWith_congr (run_resolveSparks hrequest scene), hrequested]
    simp only [reduceCtorEq, exists_false, false_or]
    cases hnames : names.isEmpty with
    | true =>
      simp only [if_true, List.isEmpty_iff.1 hnames, List.not_mem_nil, false_and, exists_false,
        false_or]
      exact fails_keywordsFrom count [] none
    | false =>
      simp only [Bool.false_eq_true, if_false]
      rcases run_findSparkTables names scene with
        ⟨hstumbles, hfails⟩ | ⟨hnone, hfind⟩
      · simp only [Act.failsWith_bind, hfails, hstumbles, true_or]
      · rw [Act.failsWith_bind_of_ok hfind, ← Act.Fails, fails_keywordsFrom]
        simp only [hnone, false_or]
        rfl

end Resolver

end TaleLoom
