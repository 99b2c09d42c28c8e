import TaleLoom.Proofs.Notices
import TaleLoom.Proofs.Placeholder.Failure
/-!
Why a placeholder is refused lies in its own text and in the tables, neither of which a call changes.
So a placeholder that was refused once is refused in every scene with the same tables, and all that its
trial leaves behind is notices (`Resolver.hopeless_of_rejected`).
-/

namespace TaleLoom

open Text

namespace Scene

def Determined {α : Type} (base : Scene) (p : α → Prop) (act : Act Scene α) : Prop :=
  ∀ scene a after, scene.constants = base.constants → p a → act scene = .ok a after →
    ∀ other, other.constants = base.constants →
      ∃ after', act other = .ok a after' ∧ after'.unnoticed = other.unnoticed

namespace Determined

variable {α β : Type} {base : Scene} {p : α → Prop} {q : β → Prop} {act : Act Scene α}

theorem pure (a : α) : Determined base p (Pure.pure a) := by
  intro scene b after _ _ hrun other _
  cases hrun
  exact ⟨other, rfl, rfl⟩

/-- A step that never gives such a result. -/
theorem of_gives (h : act.Gives fun a => ¬ p a) : Determined base p act := by
  intro scene a after _ hp hrun
  exact absurd hp (h scene a after hrun)

theorem mono {p' : α → Prop} (h : Determined base p act) (hle : ∀ a, p' a → p a) :
    Determined base p' act :=
  fun scene a after hscene hp' => h scene a after hscene (hle a hp')

theorem ite {act' : Act Scene α} {c : Prop} [Decidable c] (h : Determined base p act)
    (h' : Determined base p act') : Determined base p (if c then act else act') := by
  split
  · exact h
  · exact h'

theorem ofExcept_bind {e : Except Fault α} {f : α → Act Scene β}
    (hf : ∀ a, e = .ok a → Determined base q (f a)) :
    Determined base q (Act.ofExcept e >>= f) := by
  cases e with
  | ok a => exact hf a rfl
  | error fault =>
    intro scene b after _ _ hrun
    cases hrun

/-- A step may read the tables. -/
theorem reading {f : Scene → Act Scene β}
    (hf : ∀ scene, scene.constants = base.constants → Determined base q (f scene))
    (hsame : ∀ scene other, other.constants = scene.constants → f other = f scene) :
    Determined base q (get >>= f) := by
  intro scene b after hscene hq hrun other hother
  have hread := hf scene hscene scene b after hscene hq hrun other hother
  rw [← hsame scene other (hother.trans hscene.symm)] at hread
  exact hread

/-- Where the first step gives what the tables determine or else the second one gives no such
result. -/
theorem bind {f : α → Act Scene β} (h : Determined base p act)
    (hf : ∀ a, p a → Determined base q (f a)) (hnot : ∀ a, ¬ p a → (f a).Gives fun b => ¬ q b) :
    Determined base q (act >>= f) := by
  intro scene b after hscene hq hrun other hother
  obtain ⟨a, next, hact, hrun⟩ := Act.parts_of_bind hrun
  have hp : p a := Classical.byContradiction fun hp => hnot a hp next b after hrun hq
  have htables {s t : Scene} (hs : s.constants = base.constants) (ht : t.unnoticed = s.unnoticed) :
      t.constants = base.constants := (eq_of_unnoticed ht constants).trans hs
  obtain ⟨next', hnext', hunnoticed⟩ := h scene a next hscene hp hact scene hscene
  obtain rfl : next = next' := (EStateM.Result.ok.inj (hact.symm.trans hnext')).2
  obtain ⟨middle, hmiddle, hsame⟩ := h scene a next hscene hp hact other hother
  obtain ⟨last, hlast, hunchanged⟩ := hf a hp next b after (htables hscene hunnoticed) hq hrun middle
    (htables hother hsame)
  refine ⟨last, ?_, hunchanged.trans hsame⟩
  rw [Act.run_bind, hmiddle]
  exact hlast

theorem map {f : α → β} (h : Determined base (fun a => q (f a)) act) :
    Determined base q (f <$> act) := by
  rw [map_eq_pure_bind]
  exact h.bind (fun a _ => pure (f a)) fun a hq => Act.Gives.pure hq

end Determined

end Scene

/-- The registry's tables all have a formula and rows with bounds, and their generators, which are the
host's code, do not fail like tables that have not. -/
def Registry.Sound (registry : Registry) : Prop :=
  ∀ table ∈ Keyed.values registry.builtIn ++ Keyed.values registry.custom, table.Sound

namespace Lookup

variable {α : Type} {nameOf : α → Value} {requested : String} {a : α}

theorem mem_of_findBy {matcher : Matcher} {collection : Keyed Value α}
    (h : findBy nameOf requested matcher collection = .ok (some a)) :
    a ∈ Keyed.values collection := by
  induction collection with
  | nil => cases h
  | cons entry rest ih =>
    obtain ⟨key, b⟩ := entry
    obtain ⟨hit, -, h⟩ := parts_of_bind_eq_ok h
    cases hit with
    | true =>
      cases h
      exact List.mem_cons_self
    | false => exact List.mem_cons_of_mem _ (ih h)

theorem mem_of_findOne {matchers : List Matcher} {collection : Keyed Value α}
    (h : findOne nameOf requested collection matchers = .ok (some a)) :
    a ∈ Keyed.values collection := by
  induction matchers with
  | nil => cases h
  | cons matcher rest ih =>
    obtain ⟨found, hfind, h⟩ := parts_of_bind_eq_ok h
    cases found with
    | some b =>
      cases h
      exact mem_of_findBy hfind
    | none => exact ih h

/-- What a lookup finds is in one of the collections. -/
theorem mem_of_findIn {matchers : List Matcher} {collections : List (Keyed Value α)}
    (h : findIn nameOf matchers requested collections = .ok (some a)) :
    a ∈ collections.flatMap Keyed.values := by
  induction collections with
  | nil => cases h
  | cons collection rest ih =>
    rw [List.flatMap_cons, List.mem_append]
    obtain ⟨found, hfind, h⟩ := parts_of_bind_eq_ok h
    cases found with
    | some b =>
      cases h
      exact Or.inl (mem_of_findOne hfind)
    | none => exact Or.inr (ih h)

end Lookup

theorem Registry.Sound.of_find {registry : Registry} (h : registry.Sound) {name : String}
    {table : RandomTable} (hfind : registry.find name = .ok (some table)) : table.Sound := by
  refine h table ?_
  have hmem := Lookup.mem_of_findIn hfind
  rwa [List.flatMap_cons, List.flatMap_singleton] at hmem

/-- A sound table is refused by no roll. -/
theorem RandomTable.Sound.not_refused_rollOn {table : RandomTable} (h : table.Sound) (rerolls : Int)
    (desk : Desk) :
    ¬ (Registry.rollOn table none rerolls).FailsWith (fun fault => fault.refusesTable = true) desk := by
  rw [Registry.failsWith_rollOn]
  exact h.not_refused rerolls desk

namespace Resolver

open ConsumptionStore

variable {resolver : Resolver} {table : RandomTable}

theorem not_refused_drawConsumable (h : table.Sound) (scene : Scene) :
    ¬ (resolver.drawConsumable table).FailsWith (fun fault => fault.refusesTable = true) scene := by
  generalize hstory : resolver.options.story = story
  have hfolder {fault : Fault} (hfault : fault = .isFolder ∨ fault = .notAFolder) :
      ¬ fault.refusesTable = true := by
    rcases hfault with rfl | rfl <;> exact Bool.false_ne_true
  have hdraw (name : String) (next : Scene) :
      ¬ (drawLeft (.text name) story (scene.store.pool table name story)).FailsWith
        (fun fault => fault.refusesTable = true) next := by
    rw [drawLeft, Scene.run_liftDesk, Act.failsWith_bind, Scene.failsWith_atDesk]
    rintro (hroll | ⟨result, rolled, -, hmark⟩)
    · exact (pool_sound h).not_refused_rollOn 50 _ hroll
    · cases hidentity : result.identity with
      | none => simp [hidentity] at hmark
      | some entry =>
        simp only [hidentity, Act.failsWith_bind, Act.failsWith_pure, and_false, exists_false,
          or_false] at hmark
        by_cases hwritable : rolled.Writable
        · obtain ⟨after, hmarked, -⟩ := run_markConsumed name story entry hwritable
          exact Act.failsWith_of_ok hmarked hmark
        · by_cases hentry : entry ∈ rolled.store.items name story
          · have hmarked : markConsumed (.text name) story entry rolled = .ok () rolled := by
              rw [markConsumed_eq, if_pos hentry, Act.run_pure]
            exact Act.failsWith_of_ok hmarked hmark
          · obtain ⟨fault, after, hmarked, hfault⟩ := run_markConsumed_error hwritable hentry
            exact hfolder hfault ((Act.failsWith_of_error hmarked).1 hmark)
  rw [drawConsumable_eq, hstory, Act.failsWith_bind]
  rcases asText_cases table.name with ⟨name, hname⟩ | hname
  · by_cases hwritable : scene.Writable
    · obtain ⟨left, havailable, -, -⟩ := run_available hname story hwritable
      rw [← Act.failsWith_bind, Act.failsWith_bind_of_ok havailable, hname]
      exact hdraw name left
    · by_cases hexhausted : scene.store.exhausted table name story
      · obtain ⟨fault, after, havailable, hfault⟩ := run_available_error hname hwritable hexhausted
        rw [Act.failsWith_of_error havailable, havailable]
        simp [hfolder hfault]
      · have havailable := run_available_of_left hname hexhausted
        rw [← Act.failsWith_bind, Act.failsWith_bind_of_ok havailable, hname]
        exact hdraw name scene
  · have hrun : available table story scene = .error .missingPart scene := by
      simp only [available, hname, Act.run_bind, Act.run_liftExcept, Act.run_ofExcept_error]
    rw [Act.failsWith_of_error hrun, hrun]
    simp [Fault.refusesTable]

theorem not_refused_drawOne (h : table.Sound) (consumable : Bool) (scene : Scene) :
    ¬ (resolver.drawOne table consumable).FailsWith (fun fault => fault.refusesTable = true)
      scene := by
  cases consumable with
  | true => exact not_refused_drawConsumable h scene
  | false =>
    rw [drawOne, if_neg Bool.false_ne_true, Scene.failsWith_atDesk]
    exact h.not_refused_rollOn 0 scene.desk

/-- Draws from a sound table end in no diagnostic, but in a text for each draw. -/
theorem gives_drawTexts (h : table.Sound) {p : TableResult → Prop} {request : DrawRequest}
    (hdraw : (resolver.drawOne table request.consumable).Gives p) (count : Nat) :
    (resolver.drawTexts table request count).Gives fun result => ∃ texts, result = .ok texts ∧
      texts.length = count ∧
      ∀ text ∈ texts, ∃ drawn, p drawn ∧ text = inflect drawn.description request.modifiers := by
  induction count with
  | zero => exact Act.Gives.pure ⟨[], rfl, rfl, by simp⟩
  | succ count ih =>
    intro scene result after hrun
    simp only [drawTexts, Act.run_bind, Act.run_attempt] at hrun
    cases hone : resolver.drawOne table request.consumable scene with
    | error fault next =>
      rw [hone] at hrun
      have hsound : ¬ (resolver.drawOne table request.consumable).FailsWith
          (fun fault => fault.refusesTable = true) scene :=
        not_refused_drawOne h request.consumable scene
      rw [Act.failsWith_of_error hone] at hsound
      cases fault <;> first | exact absurd rfl hsound | cases hrun
    | ok drawn next =>
      rw [hone] at hrun
      simp only [Act.run_bind] at hrun
      cases hrest : resolver.drawTexts table request count next with
      | error fault last =>
        rw [hrest] at hrun
        cases hrun
      | ok rest last =>
        obtain ⟨texts, rfl, hlength, htexts⟩ := ih next rest last hrest
        rw [hrest] at hrun
        cases hrun
        have hdrawn : p drawn := hdraw scene drawn next hone
        exact ⟨_, rfl, by rw [List.length_cons, hlength],
          List.forall_mem_cons.2 ⟨⟨drawn, hdrawn, rfl⟩, htexts⟩⟩

end Resolver

namespace SparkLibrary

open Scene

theorem find_of_constants {scene other : Scene} (h : other.constants = scene.constants)
    (name : String) : other.sparks.find name = scene.sparks.find name := by
  have htables : other.sparks.tables = scene.sparks.tables :=
    congrArg (fun c : Registry × Keyed Value SparkTable × SparkSettings => c.2.1) h
  rw [find, htables, ← find]

theorem inUse_of_constants {scene other : Scene} (h : other.constants = scene.constants)
    (purpose : SparkUse) (given : Option (List SparkTable)) :
    other.sparks.inUse purpose given = scene.sparks.inUse purpose given := by
  have hlibrary (library : SparkLibrary) (usage : Keyed Value SparkUsage) :
      { library with usage }.inUse purpose given = library.inUse purpose given := rfl
  have htables : other.sparks.tables = scene.sparks.tables :=
    congrArg (fun c : Registry × Keyed Value SparkTable × SparkSettings => c.2.1) h
  have hsettings : other.sparks.settings = scene.sparks.settings :=
    congrArg (fun c : Registry × Keyed Value SparkTable × SparkSettings => c.2.2) h
  rw [← hlibrary scene.sparks other.sparks.usage, ← htables, ← hsettings]

/-- The first keyword of a pool is new, so that a draw of some keywords gives one. -/
theorem gives_drawFrom {wanted : Nat} {pool : List (String × Value)} (hpool : pool ≠ []) :
    (drawFrom pool.length (wanted + 1) pool []).Gives fun keywords => ¬ keywords = [] := by
  obtain ⟨size, hsize⟩ : ∃ size, pool.length = size + 1 :=
    Nat.exists_eq_succ_of_ne_zero (mt List.length_eq_zero_iff.1 hpool)
  intro scene keywords after hrun
  have hplace : (scene.desk.source.below pool.length).1 < pool.length :=
    scene.desk.source.below_lt (by omega)
  rw [hsize] at hrun
  simp only [drawFrom, Act.run_bind, run_liftDesk, run_atDesk, Desk.run_drawPlace,
    List.getElem?_eq_getElem hplace, List.contains_nil, Bool.false_eq_true, if_false] at hrun
  split at hrun
  · split at hrun
    · cases hrun
      exact List.cons_ne_nil _ _
    · cases hrun
  · cases hrun

/-- That there are no keywords to give lies in the tables. -/
theorem determined_generate (base : Scene) (count : Int) (purpose : SparkUse)
    (given : Option (List SparkTable)) :
    Determined base (fun keywords => keywords = []) (generate count purpose given) := by
  refine Determined.reading (fun scene hscene => ?_) fun scene other hsame => ?_
  · refine Determined.ite ?_ ?_
    · intro scene keywords after _ hnone hrun other _
      cases hrun
      exact ⟨_, rfl, rfl⟩
    · generalize (scene.sparks.inUse purpose given).map SparkTable.pool = pools
      cases hpool : pools.flatten with
      | nil => exact Determined.pure []
      | cons first rest =>
        cases count.toNat with
        | zero => exact Determined.pure []
        | succ wanted => exact Determined.of_gives (gives_drawFrom (List.cons_ne_nil first rest))
  · rw [inUse_of_constants hsame]

end SparkLibrary

namespace Resolver

open Scene

def IsRefusal (attempt : Attempt) : Prop := ∃ d, attempt = .error d

theorem not_isRefusal_ok (v : Value) : ¬ IsRefusal (.ok v) := by
  rintro ⟨d, ⟨⟩⟩

abbrev Stubborn (base : Scene) (act : Act Scene Attempt) : Prop := Determined base IsRefusal act

variable (base : Scene)

theorem stubborn_resolveRange (body : String) (ends : Option (WrittenInteger × WrittenInteger)) :
    Stubborn base (resolveRange body ends) := by
  unfold resolveRange
  cases ends with
  | none => exact Determined.pure _
  | some ends =>
    refine Determined.ofExcept_bind fun low _ => Determined.ofExcept_bind fun high _ => ?_
    refine Determined.ite (Determined.pure _) (Determined.of_gives ?_)
    exact Act.Gives.bind fun n => Act.Gives.bind fun text => Act.Gives.pure (not_isRefusal_ok _)

theorem stubborn_resolveRoll (body formula : String) : Stubborn base (resolveRoll body formula) := by
  cases hformula : Formula.ofValue (.text formula) with
  | error fault =>
    have hroll (scene : Scene) : Act.attempt (Scene.atDesk (Desk.roll (.text formula)
        ("placeholder: " ++ body))) scene = .ok (.error fault) scene := by
      rw [Act.run_attempt, run_atDesk, Desk.run_roll_error hformula]
    intro scene attempt after _ _ hrun other _
    refine ⟨other, ?_, rfl⟩
    simp only [resolveRoll, Act.run_bind, run_liftDesk, hroll] at hrun ⊢
    cases fault <;> first | (cases hrun; rfl) | cases hrun
  | ok f =>
    intro scene attempt after _ hrefusal hrun
    simp only [resolveRoll, Act.run_bind, Act.run_attempt, run_liftDesk, run_atDesk,
      Desk.run_roll_ok hformula, Act.run_liftExcept] at hrun
    split at hrun
    · cases hrun
      exact absurd hrefusal (not_isRefusal_ok _)
    · cases hrun

theorem stubborn_resolveOutcome (value : List Char) : Stubborn base (resolveOutcome value) := by
  unfold resolveOutcome
  cases Number.readInteger? value with
  | none => exact Determined.pure _
  | some n => exact Determined.of_gives (Act.Gives.bind fun r => Act.Gives.pure (not_isRefusal_ok _))

theorem determined_findSparkTables (names : List String) :
    Determined base (fun _ => True) (findSparkTables names) := by
  induction names with
  | nil => exact Determined.pure _
  | cons name rest ih =>
    refine Determined.reading (fun scene _ => Determined.ofExcept_bind fun found _ => ?_)
      fun scene other hsame => by rw [SparkLibrary.find_of_constants hsame]
    cases found with
    | none =>
      refine Determined.bind (p := fun _ => True) ?_ (fun _ _ => ih) fun _ h => absurd trivial h
      intro scene a after _ _ hrun other _
      cases hrun
      exact ⟨_, rfl, rfl⟩
    | some table => exact Determined.map ih

theorem stubborn_keywordsFrom (count : Int) (names : List String)
    (tables : Option (List SparkTable)) : Stubborn base (keywordsFrom count names tables) := by
  refine Determined.ite (Determined.pure _) ?_
  refine Determined.bind (SparkLibrary.determined_generate base count .sparks tables) ?_ ?_
  · rintro keywords rfl
    exact Determined.pure _
  · intro keywords hkeywords
    rw [if_neg (by simpa using hkeywords)]
    exact Act.Gives.pure (not_isRefusal_ok _)

theorem stubborn_resolveSparks (word : String) (spec : List Char) :
    Stubborn base (resolveSparks word spec) := by
  refine Determined.ofExcept_bind fun (count, names) _ => ?_
  refine Determined.ite (stubborn_keywordsFrom base _ _ _) ?_
  exact Determined.bind (determined_findSparkTables base names)
    (fun tables _ => stubborn_keywordsFrom base _ _ _) fun tables h => absurd trivial h

theorem stubborn_resolveItem (resolver : Resolver) (category : ItemCategory) :
    Stubborn base (resolver.resolveItem category) := by
  refine Determined.ite (Determined.pure _) (Determined.of_gives ?_)
  exact Act.Gives.bind fun item => Act.Gives.pure (not_isRefusal_ok _)

theorem stubborn_resolveTable (hsound : base.registry.Sound) (resolver : Resolver)
    (body : List Char) : Stubborn base (resolver.resolveTable body) := by
  have hregistry {scene other : Scene} (h : other.constants = scene.constants) :
      other.registry = scene.registry := congrArg Prod.fst h
  refine Determined.reading (fun scene hscene => Determined.ofExcept_bind fun found hfind => ?_)
    fun scene other hsame => by rw [hregistry hsame]
  cases found with
  | none => exact Determined.pure _
  | some table =>
    have hfound : table.Sound := hsound.of_find (hregistry hscene ▸ hfind)
    refine Determined.ofExcept_bind fun request _ => Determined.of_gives ?_
    have hdraw : (resolver.drawOne table request.consumable).Gives fun _ => True :=
      fun _ _ _ _ => trivial
    have htexts := gives_drawTexts hfound hdraw request.picks
    refine htexts.and_then fun result hresult => ?_
    obtain ⟨texts, rfl, -⟩ := hresult
    exact Act.Gives.pure (not_isRefusal_ok _)

theorem stubborn_attempt (hsound : base.registry.Sound) (resolver : Resolver) (body : List Char) :
    Stubborn base (resolver.attempt body) := by
  unfold attempt
  cases Expression.ofBody resolver.items.isSome body with
  | range ends => exact stubborn_resolveRange base _ _
  | roll formula => exact stubborn_resolveRoll base _ _
  | outcome value => exact stubborn_resolveOutcome base _
  | sparks word spec => exact stubborn_resolveSparks base _ _
  | item category => exact stubborn_resolveItem base resolver _
  | table => exact stubborn_resolveTable base hsound resolver body

def Hopeless (resolver : Resolver) (base : Scene) (token : Token) : Prop :=
  ∀ scene, scene.constants = base.constants → ∃ after,
    resolver.resolveToken (trim token.body) scene = .ok none after ∧
      after.unnoticed = scene.unnoticed

variable {base}

/-- A refusal that is not marked leaves the placeholder in the text, and a notice. -/
theorem run_resolveToken_refused {resolver : Resolver} {body : List Char} {d : Diagnostic}
    {scene after : Scene} (hmark : resolver.options.markUnresolved = false)
    (h : resolver.attempt body scene = .ok (.error d) after) :
    ∃ told, resolver.resolveToken body scene = .ok none told ∧ told.unnoticed = after.unnoticed :=
  ⟨_, run_resolveToken_left hmark h, rfl⟩

/-- Where all tables are sound and all items have a name, a placeholder that a trial left in the text is
left there by every other trial. -/
theorem hopeless_of_rejected (hsound : base.registry.Sound) {resolver : Resolver}
    (hnamed : resolver.Named) {token : Token} {scene after : Scene} (hscene : scene.constants = base.constants)
    (h : resolver.resolveToken (trim token.body) scene = .ok none after) :
    resolver.Hopeless base token := by
  have hrun := resolver.run_resolveToken (trim token.body) scene
  cases hattempt : resolver.attempt (trim token.body) scene with
  | error fault next =>
    rw [hattempt] at hrun
    rw [h] at hrun
    cases hrun
  | ok attempt next =>
    cases attempt with
    | ok v =>
      rw [hattempt] at hrun
      rw [h] at hrun
      cases v <;> cases hrun
      exact absurd (nameless_of_null hattempt) (hnamed.not_nameless _ _)
    | error d =>
      have hmark : resolver.options.markUnresolved = false := by
        rw [hattempt] at hrun
        rw [h] at hrun
        cases hmark : resolver.options.markUnresolved with
        | false => rfl
        | true => simp [hmark] at hrun
      intro other hother
      obtain ⟨refused, hrefused, hunnoticed⟩ :=
        stubborn_attempt base hsound resolver (trim token.body) scene _ next hscene ⟨d, rfl⟩ hattempt
          other hother
      obtain ⟨told, hrun, htold⟩ := run_resolveToken_refused hmark hrefused
      exact ⟨told, hrun, htold.trans hunnoticed⟩

end Resolver

end TaleLoom
