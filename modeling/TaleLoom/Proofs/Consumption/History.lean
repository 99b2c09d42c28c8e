import TaleLoom.Proofs.Consumption.Rounds
import TaleLoom.Proofs.Placeholder.Refusals
/-!
Rounds over whole histories. The draws of a call that expands a text lead through it (`Leads`): pass by
pass, trial by trial and draw by draw the rounds go on, whether or not the call fails in the end. So
the draws of a pair come in rounds in every history, however calls, single draws and other steps
follow one another, and within the calls as well.
-/

namespace TaleLoom

open Text ConsumptionStore Resolver

variable {table : RandomTable} {name story : String} {resolver : Resolver}

def Own (resolver : Resolver) (table : RandomTable) (name story : String)
    (draws : List TableDraw) : Prop :=
  ∀ d ∈ draws, d.Touches resolver name story → d.table = table

theorem rowsOf_append (draws draws' : List TableDraw) :
    rowsOf resolver name story (draws ++ draws') =
      rowsOf resolver name story draws ++ rowsOf resolver name story draws' := by
  simp [rowsOf]

/-- Some draws lead from a scene to another: the rounds of the pair go on with what they give, up to
each of the draws and up to the end. -/
structure Leads (resolver : Resolver) (table : RandomTable) (name story : String) (s : Scene)
    (draws : List TableDraw) (t : Scene) : Prop where
  whole : Yields table name story s (rowsOf resolver name story draws) t
  upTo : ∀ earlier d later, draws = earlier ++ d :: later →
    Yields table name story s (rowsOf resolver name story earlier) d.scene

namespace Leads

variable {s t u : Scene} {draws draws' : List TableDraw}

theorem nil (h : (undisturbed name story).holds s t) : Leads resolver table name story s [] t where
  whole := .nil h
  upTo earlier d later heq := by simp at heq

theorem single {d : TableDraw} (h : Yields table name story d.scene
    (rowsOf resolver name story [d]) t) : Leads resolver table name story d.scene [d] t where
  whole := h
  upTo earlier d' later heq := by
    rcases List.cons_eq_append_iff.1 heq with ⟨rfl, heq⟩ | ⟨rest, rfl, heq⟩
    · obtain ⟨rfl, -⟩ := List.cons.inj heq
      exact .nil ((undisturbed name story).refl _)
    · simp at heq

theorem trans (h : Leads resolver table name story s draws t)
    (h' : Leads resolver table name story t draws' u) :
    Leads resolver table name story s (draws ++ draws') u where
  whole := by
    rw [rowsOf_append]
    exact h.whole.trans h'.whole
  upTo earlier d later heq := by
    rcases List.append_eq_append_iff.1 heq with ⟨rest, rfl, hrest⟩ | ⟨rest, hdraws, hrest⟩
    · rw [rowsOf_append]
      exact h.whole.trans (h'.upTo rest d later hrest)
    · rcases List.cons_eq_append_iff.1 hrest with ⟨rfl, hlater⟩ | ⟨more, rfl, -⟩
      · -- the draw is the first of the second part
        rw [List.append_nil] at hdraws
        subst hdraws
        have hfirst := h.whole.trans (h'.upTo [] d later hlater)
        simpa [rowsOf] using hfirst
      · exact h.upTo earlier d more hdraws

theorem aside (h : Leads resolver table name story s draws t)
    (h' : (undisturbed name story).holds t u) : Leads resolver table name story s draws u :=
  ⟨h.whole.aside h', h.upTo⟩

end Leads

theorem TableDraw.yields (htable : Drawable table name) {d : TableDraw}
    (hown : d.Touches resolver name story → d.table = table) :
    Yields table name story d.scene (rowsOf resolver name story [d])
      ((resolver.drawOne d.table d.consumable).after d.scene) := by
  by_cases htouches : d.Touches resolver name story
  · obtain ⟨other, consumable, scene⟩ := d
    obtain rfl : other = table := hown htouches
    cases consumable with
    | false => simp [Touches, key?] at htouches
    | true =>
      have hkey : key name resolver.options.story = key name story := by
        simpa [Touches, key?, htable.named] using htouches
      obtain rfl := story_eq_of_key_eq hkey
      have hrows : rowsOf resolver name resolver.options.story [⟨other, true, scene⟩] =
          [row? resolver ⟨other, true, scene⟩] := by
        simp [rowsOf, htouches]
      intro drawn hkept
      rw [hrows]
      exact hkept.draw htable
  · have hnone : rowsOf resolver name story [d] = [] := by simp [rowsOf, htouches]
    rw [hnone]
    exact .nil (d.undisturbed htouches d.scene)

theorem Resolver.DrawRun.leads (htable : Drawable table name) {other : RandomTable}
    {consumable : Bool} {count : Nat} {scene after : Scene} {draws : List TableDraw}
    {last : Option Fault} (h : DrawRun resolver other consumable count scene draws last after)
    (hown : Own resolver table name story draws) :
    Leads resolver table name story scene draws after := by
  induction h with
  | done scene => exact .nil ((undisturbed name story).refl scene)
  | @drawn count scene next after draws last result hout _ ih =>
    have hfirst := TableDraw.yields htable (hown _ List.mem_cons_self)
    rw [show (resolver.drawOne other consumable).after scene = next from Act.after_of_ok hout] at hfirst
    have hrest := ih fun d hd => hown d (List.mem_cons_of_mem _ hd)
    rw [← List.singleton_append]
    exact (Leads.single hfirst).trans hrest
  | refused hout _ =>
    rw [← Act.after_of_error hout]
    exact .single (TableDraw.yields htable (hown _ List.mem_cons_self))
  | failed hout _ =>
    rw [← Act.after_of_error hout]
    exact .single (TableDraw.yields htable (hown _ List.mem_cons_self))

theorem leads_resolveTable (htable : Drawable table name) (body : List Char) (scene : Scene)
    (hown : Own resolver table name story (resolver.tableDraws body scene)) :
    Leads resolver table name story scene (resolver.tableDraws body scene)
      ((resolver.resolveTable body).after scene) := by
  have hidle : Leads resolver table name story scene [] scene :=
    .nil ((undisturbed name story).refl scene)
  have hrun := resolver.run_resolveTable body scene
  unfold tableDraws at hown ⊢
  cases hfind : scene.registry.find (tableParts body).1 with
  | error fault =>
    rw [hfind] at hrun
    rw [Act.after_of_error hrun]
    exact hidle
  | ok found =>
    cases found with
    | none =>
      rw [hfind] at hrun
      rw [Act.after_of_ok hrun]
      exact hidle
    | some other =>
      cases hrequest : DrawRequest.ofParts other (tableParts body).2 with
      | error fault =>
        simp only [hfind, hrequest] at hrun ⊢
        rw [Act.after_of_error hrun]
        exact hidle
      | ok request =>
        simp only [hfind, hrequest] at hown hrun ⊢
        obtain ⟨last, after, hdraws, hend⟩ := drawRun resolver other request request.picks scene
        have hafter : (resolver.resolveTable body).after scene = after := by
          rw [Act.after_congr hrun, Act.after_map, Act.after_of_endsIn hend]
        rw [hafter]
        exact hdraws.leads htable hown

theorem Leads.bind {α β : Type} {act : Act Scene α} {f : α → Act Scene β} {scene : Scene}
    {draws : List TableDraw}
    (h : Leads resolver table name story scene draws (act.after scene))
    (hf : ∀ a, (f a).Keeps (undisturbed name story)) :
    Leads resolver table name story scene draws ((act >>= f).after scene) := by
  rw [Act.after_bind]
  cases hact : act scene with
  | ok a next =>
    rw [Act.after_of_ok hact] at h
    exact h.aside (hf a next)
  | error fault next =>
    rw [Act.after_of_error hact] at h
    exact h

/-- Only a placeholder that names a table can touch the entries of a pair. -/
theorem leads_attempt (htable : Drawable table name) {trial : Trial}
    (hown : Own resolver table name story (trial.draws resolver)) :
    Leads resolver table name story trial.scene (trial.draws resolver)
      ((resolver.attempt (trim trial.token.body)).after trial.scene) := by
  have hroutine {act : Act Scene Attempt} (h : act.Keeps Scene.routine) :
      Leads resolver table name story trial.scene [] (act.after trial.scene) :=
    .nil (undisturbed_of_routine (h trial.scene))
  unfold Trial.draws at hown ⊢
  unfold attempt
  cases hbody : Expression.ofBody resolver.items.isSome (trim trial.token.body) with
  | range ends => exact hroutine (keeps_resolveRange _ _)
  | roll formula => exact hroutine (keeps_resolveRoll _ _)
  | outcome value => exact hroutine (keeps_resolveOutcome _)
  | sparks word spec => exact hroutine (keeps_resolveSparks _ _)
  | item category => exact hroutine (keeps_resolveItem _ _)
  | table =>
    rw [hbody] at hown
    exact leads_resolveTable htable _ _ hown

theorem Trial.leads (htable : Drawable table name) {trial : Trial}
    (hown : Own resolver table name story (trial.draws resolver)) :
    Leads resolver table name story trial.scene (trial.draws resolver)
      ((resolver.resolveToken (trim trial.token.body)).after trial.scene) := by
  refine (leads_attempt htable hown).bind fun result => ?_
  cases result with
  | ok v => exact Act.Keeps.pure _
  | error diagnostic =>
    have hwarn := Scene.keeps_routine (Desk.keeps_warn (Desk.ofDepth_couldNotResolve
      (String.ofList (trim trial.token.body)) diagnostic.message))
    exact Act.Keeps.bind (hwarn.mono fun _ _ => undisturbed_of_routine) fun _ => Act.Keeps.pure _

def drawsBehind (resolver : Resolver) (trials : List Trial) : List TableDraw :=
  trials.flatMap (Trial.draws resolver)

theorem drawsBehind_cons (trial : Trial) (trials : List Trial) :
    drawsBehind resolver (trial :: trials) = trial.draws resolver ++ drawsBehind resolver trials :=
  List.flatMap_cons

theorem Own.left {draws draws' : List TableDraw}
    (h : Own resolver table name story (draws ++ draws')) : Own resolver table name story draws :=
  fun d hd => h d (List.mem_append_left _ hd)

theorem Own.right {draws draws' : List TableDraw}
    (h : Own resolver table name story (draws ++ draws')) : Own resolver table name story draws' :=
  fun d hd => h d (List.mem_append_right _ hd)

theorem Resolver.PassRun.leads (htable : Drawable table name) {depth : Int} {state : PassState}
    {segments : List Segment} {scene after : Scene} {trials : List Trial} {pieces : List Value}
    {last : Except Fault PassState}
    (h : PassRun resolver depth state segments scene trials pieces last after)
    (hown : Own resolver table name story (drawsBehind resolver trials)) :
    Leads resolver table name story scene (drawsBehind resolver trials) after := by
  induction h with
  | done state scene => exact .nil ((undisturbed name story).refl scene)
  | skipped _ _ ih => exact ih hown
  | rejected _ hout _ ih =>
    rw [drawsBehind_cons] at hown
    have hfirst := Trial.leads htable hown.left
    rw [drawsBehind_cons]
    rw [Act.after_of_ok hout] at hfirst
    exact hfirst.trans (ih hown.right)
  | replaced _ hout _ ih =>
    rw [drawsBehind_cons] at hown
    have hfirst := Trial.leads htable hown.left
    rw [drawsBehind_cons]
    rw [Act.after_of_ok hout] at hfirst
    refine (hfirst.aside ?_).trans (ih hown.right)
    exact undisturbed_posted _ _ _
  | failed _ hout =>
    rw [drawsBehind_cons] at hown
    have hfirst := Trial.leads htable hown.left
    rw [Act.after_of_error hout] at hfirst
    simpa [drawsBehind] using hfirst

theorem drawsBehind_append (trials trials' : List Trial) :
    drawsBehind resolver (trials ++ trials') =
      drawsBehind resolver trials ++ drawsBehind resolver trials' :=
  List.flatMap_append

theorem undisturbed_warned (scene : Scene) (left : Nat) :
    (undisturbed name story).holds scene (resolver.warned scene left) := by
  unfold warned
  split
  · exact (undisturbed name story).refl scene
  · exact ⟨rfl, id, fun h => writable_of_files rfl rfl h⟩

theorem Resolver.ExpandRun.leads (htable : Drawable table name) {count : Nat} {depth : Int}
    {rejected : List (List Char)} {text : List Char} {scene after : Scene}
    {passes : List PassTrail} {last : Except Fault (List Char)}
    (h : ExpandRun resolver count depth rejected text scene passes last after)
    (hown : Own resolver table name story (drawsBehind resolver (passes.flatMap (·.trials)))) :
    Leads resolver table name story scene (drawsBehind resolver (passes.flatMap (·.trials)))
      after := by
  induction h with
  | exhausted depth rejected text scene => exact .nil (undisturbed_warned scene _)
  | settled hrun _ =>
    rw [List.flatMap_singleton] at hown ⊢
    exact hrun.leads htable hown
  | continued hrun _ _ _ ih =>
    rw [List.flatMap_cons, drawsBehind_append] at hown
    rw [List.flatMap_cons, drawsBehind_append]
    exact (hrun.leads htable hown.left).trans (ih hown.right)
  | failed hrun =>
    rw [List.flatMap_singleton] at hown ⊢
    exact hrun.leads htable hown
  | broken hrun _ _ =>
    rw [List.flatMap_singleton] at hown ⊢
    exact hrun.leads htable hown

def callDraws (resolver : Resolver) (text : String) (depth : Int) (scene : Scene) :
    List TableDraw :=
  drawsBehind resolver (resolver.callTrials text depth scene)

/-- The draws of a call lead through it, whether or not it fails. -/
theorem leads_resolve (htable : Drawable table name) (text : String) (depth : Int) (scene : Scene)
    (hown : Own resolver table name story (callDraws resolver text depth scene)) :
    Leads resolver table name story scene (callDraws resolver text depth scene)
      ((resolver.resolve text depth).after scene) := by
  obtain ⟨last, after, hrun, heq⟩ := callRun resolver text depth scene
  have hafter : (resolver.resolve text depth).after scene = after := by
    cases last with
    | ok text' => exact Act.after_of_ok heq
    | error fault => exact Act.after_of_error heq
  rw [hafter]
  exact hrun.leads htable hown

section Lookups

theorem table_of_mem_drawsOf {other : RandomTable} {consumable : Bool} {count : Nat} {scene : Scene}
    {d : TableDraw} (h : d ∈ resolver.drawsOf other consumable count scene) : d.table = other := by
  induction count generalizing scene with
  | zero => cases h
  | succ count ih =>
    rw [drawsOf] at h
    rcases List.mem_cons.1 h with rfl | h
    · rfl
    · split at h
      · exact ih h
      · cases h

theorem find_of_mem_draws {trial : Trial} {d : TableDraw} (h : d ∈ trial.draws resolver) :
    ∃ spelling, trial.scene.registry.find spelling = .ok (some d.table) := by
  unfold Trial.draws at h
  split at h
  · unfold tableDraws at h
    split at h
    · next other hfind =>
      split at h
      · rw [table_of_mem_drawsOf h]
        exact ⟨_, hfind⟩
      · cases h
    · cases h
  · cases h

/-- The tables stay in every trial of a pass. -/
theorem Resolver.PassRun.constants {depth : Int} {state : PassState} {segments : List Segment}
    {scene after : Scene} {trials : List Trial} {pieces : List Value} {last : Except Fault PassState}
    (h : PassRun resolver depth state segments scene trials pieces last after) :
    after.constants = scene.constants ∧ ∀ trial ∈ trials, trial.scene.constants = scene.constants := by
  have htrial {token : Token} {scene next : Scene} {found : Option Value}
      (hout : Trial.outcome resolver ⟨depth, token, scene⟩ = .ok found next) :
      next.constants = scene.constants := (resolver.steady_resolveToken _).keeps.of_ok hout
  induction h with
  | done state scene => exact ⟨rfl, List.forall_mem_nil _⟩
  | skipped _ _ ih => exact ih
  | rejected _ hout _ ih =>
    exact ⟨ih.1.trans (htrial hout), List.forall_mem_cons.2
      ⟨rfl, fun trial hmem => (ih.2 trial hmem).trans (htrial hout)⟩⟩
  | replaced _ hout _ ih =>
    have hnext := htrial hout
    exact ⟨ih.1.trans hnext, List.forall_mem_cons.2 ⟨rfl, fun trial hmem => (ih.2 trial hmem).trans hnext⟩⟩
  | failed _ hout =>
    refine ⟨?_, List.forall_mem_singleton.2 rfl⟩
    rw [← Act.after_of_error hout]
    exact (resolver.steady_resolveToken _).keeps _

theorem Resolver.ExpandRun.constants {count : Nat} {depth : Int} {rejected : List (List Char)}
    {text : List Char} {scene after : Scene} {passes : List PassTrail} {last : Except Fault (List Char)}
    (h : ExpandRun resolver count depth rejected text scene passes last after) :
    after.constants = scene.constants ∧
      ∀ trial ∈ passes.flatMap (·.trials), trial.scene.constants = scene.constants := by
  induction h with
  | exhausted depth rejected text scene =>
    refine ⟨?_, List.forall_mem_nil _⟩
    unfold warned
    split <;> rfl
  | settled hrun _ => simpa using hrun.constants
  | continued hrun _ _ _ ih =>
    rw [List.flatMap_cons]
    refine ⟨ih.1.trans hrun.constants.1, fun trial htrial => ?_⟩
    rcases List.mem_append.1 htrial with htrial | htrial
    · exact hrun.constants.2 trial htrial
    · exact (ih.2 trial htrial).trans hrun.constants.1
  | failed hrun => simpa using hrun.constants
  | broken hrun _ _ => simpa using hrun.constants

/-- A call leaves the tables alone. -/
theorem constants_resolve (text : String) (depth : Int) (scene : Scene) :
    ((resolver.resolve text depth).after scene).constants = scene.constants := by
  obtain ⟨last, after, hrun, heq⟩ := callRun resolver text depth scene
  cases last with
  | ok text' => exact (congrArg Scene.constants (Act.after_of_ok heq)).trans hrun.constants.1
  | error fault => exact (congrArg Scene.constants (Act.after_of_error heq)).trans hrun.constants.1

/-- Where no other table is remembered under its key, calls draw from no other table for the pair. -/
theorem own_callDraws {scene : Scene}
    (h : ∀ other ∈ Keyed.values scene.registry.builtIn ++ Keyed.values scene.registry.custom,
      ∀ name', other.name = .text name' → key name' resolver.options.story = key name story →
        other = table)
    (text : String) (depth : Int) : Own resolver table name story (callDraws resolver text depth scene) := by
  obtain ⟨last, after, hrun, -⟩ := callRun resolver text depth scene
  intro d hd htouches
  obtain ⟨trial, htrial, hdraw⟩ := List.mem_flatMap.1 hd
  have hregistry : trial.scene.registry = scene.registry := congrArg Prod.fst (hrun.constants.2 trial htrial)
  obtain ⟨spelling, hfind⟩ := find_of_mem_draws hdraw
  have hmem := Lookup.mem_of_findIn hfind
  rw [hregistry, List.flatMap_cons, List.flatMap_singleton] at hmem
  unfold TableDraw.Touches TableDraw.key? at htouches
  split at htouches
  · next other _ hother => exact h d.table hmem other hother (Option.some.inj htouches)
  · cases htouches

end Lookups

/-- What can happen from a scene on, with what the draws of a pair of a table and a story gave: draws
for the story, calls that expand texts for any story, and anything that leaves the pair alone. A call
can be looked into before each of its draws. Where a call draws for the pair, it draws from this
table. -/
inductive History (table : RandomTable) (name story : String) (start : Scene) :
    List (Option Row) → Scene → Prop
  | start : History table name story start [] start
  | draw {drawn : List (Option Row)} {scene : Scene} (resolver : Resolver) :
      History table name story start drawn scene → resolver.options.story = story →
      History table name story start (drawn ++ [TableDraw.row? resolver ⟨table, true, scene⟩])
        ((resolver.drawConsumable table).after scene)
  | call {drawn : List (Option Row)} {scene : Scene} (resolver : Resolver) (text : String)
      (depth : Int) :
      History table name story start drawn scene →
      Own resolver table name story (callDraws resolver text depth scene) →
      History table name story start
        (drawn ++ rowsOf resolver name story (callDraws resolver text depth scene))
        ((resolver.resolve text depth).after scene)
  | within {drawn : List (Option Row)} {scene : Scene} {earlier later : List TableDraw}
      {d : TableDraw} (resolver : Resolver) (text : String) (depth : Int) :
      History table name story start drawn scene →
      Own resolver table name story (callDraws resolver text depth scene) →
      callDraws resolver text depth scene = earlier ++ d :: later →
      History table name story start (drawn ++ rowsOf resolver name story earlier) d.scene
  | aside {drawn : List (Option Row)} {scene after : Scene} :
      History table name story start drawn scene → (undisturbed name story).holds scene after →
      History table name story start drawn after

/-- Whatever happens, the draws of the pair stay in rounds. -/
theorem kept_of_history (htable : Drawable table name) {start scene : Scene}
    {drawn : List (Option Row)} (hstart : Kept table name story [] start)
    (h : History table name story start drawn scene) : Kept table name story drawn scene := by
  induction h with
  | start => exact hstart
  | draw resolver _ hstory ih =>
    subst hstory
    exact ih.draw htable
  | call resolver text depth _ hown ih => exact (leads_resolve htable text depth _ hown).whole _ ih
  | within resolver text depth _ hown hdraws ih =>
    exact (leads_resolve htable text depth _ hown).upTo _ _ _ hdraws _ ih
  | aside _ hdone ih => exact ih.aside hdone

/-- What a story has drawn, asked for by any name that stands for the table. -/
theorem run_consumedItems (htable : table.name = .text name) {resolver : Resolver} {scene : Scene}
    {spelling : String} (hfind : scene.registry.find spelling = .ok (some table)) :
    resolver.consumedItems spelling scene =
      .ok (scene.store.items name resolver.options.story) scene := by
  simp only [consumedItems, tableName, Act.run_bind, Act.run_get, Act.run_liftExcept, hfind,
    Act.run_ofExcept_ok, Act.run_pure, htable, Value.asText]

/-- In every history that starts with nothing drawn, each draw of the pair gives a row of the table and
the entries of the rows come in rounds. Under every name of the table the story has drawn exactly the
current round, in the order of the draws. -/
theorem rounds_of_history (htable : Drawable table name) {start : Scene}
    (hnothing : start.store.items name story = [])
    (hdistinct : (Keyed.keys start.store.records).Nodup) (hwritable : start.Writable)
    {drawn : List (Option Row)} {scene : Scene}
    (h : History table name story start drawn scene) :
    ∃ (rows : List Row) (current : List String), drawn = rows.map some ∧ rows ⊆ table.rows ∧
      InRounds table.identities (rows.map Row.identity) current ∧
      ∀ (resolver : Resolver) (spelling : String), resolver.options.story = story →
        scene.registry.find spelling = .ok (some table) →
        resolver.consumedItems spelling scene = .ok current scene := by
  have hstart : Kept table name story [] start :=
    ⟨⟨[], rfl, List.nil_subset _, hnothing ▸ .nil⟩, hdistinct, hwritable⟩
  have hkept := kept_of_history htable hstart h
  obtain ⟨rows, hdrawn, hrows, hrounds⟩ := hkept.rounds
  refine ⟨rows, _, hdrawn, hrows, hrounds, ?_⟩
  rintro resolver spelling rfl hfind
  exact run_consumedItems htable.named hfind

def omens : RandomTable where
  name := .text "Omens"
  formula := .text "1d2"
  rows := RandomTable.entryRows 1 ["raven", "fox"]

theorem omens_drawable : Drawable omens "Omens" where
  named := rfl
  rollable := by
    refine ⟨{ count := 1, sides := 2 }, rfl, ?_⟩
    intro row hrow
    simp only [omens, RandomTable.entryRows, List.mem_cons, List.not_mem_nil, or_false] at hrow
    rcases hrow with rfl | rfl
    · exact ⟨⟨some 1, rfl⟩, ⟨some 1, rfl⟩⟩
    · exact ⟨⟨some 2, rfl⟩, ⟨some 2, rfl⟩⟩
  renders := by
    intro row hrow
    simp only [omens, RandomTable.entryRows, List.mem_cons, List.not_mem_nil, or_false] at hrow
    rcases hrow with rfl | rfl
    all_goals exact Description.renders_literal _
  rows := by simp [omens, RandomTable.entryRows]

def crossroads : Scene :=
  { Scene.blank with
    registry := { builtIn := [], custom := [(.text "Omens", omens)] }
    desk := { Scene.blank.desk with source := .listed [0, 1, 0, 1] } }

theorem own_crossroads (resolver : Resolver) (text : String) (depth : Int) :
    Own resolver omens "Omens" "default" (callDraws resolver text depth crossroads) := by
  refine own_callDraws (fun other hother _ _ _ => ?_) text depth
  exact List.mem_singleton.1 hother

def toldCrossroads : Scene :=
  (({} : Resolver).resolve "\x7bomens.consumable.pick 2\x7d" 0).after crossroads

def sharedCrossroads : Scene :=
  (drawConsumable { options := { story := "elsewhere" } } omens).after toldCrossroads

def lastCrossroads : Scene := (({} : Resolver).drawConsumable omens).after sharedCrossroads

/-- A call draws both omens, another story draws one, and the next draw starts the second round. -/
theorem rounds_of_history_crossroads : Drawable omens "Omens" ∧
    crossroads.store.items "Omens" "default" = [] ∧ (Keyed.keys crossroads.store.records).Nodup ∧
    crossroads.Writable ∧ lastCrossroads.store.items "Omens" "elsewhere" = ["raven"] ∧
    lastCrossroads.registry.find "OMENS" = .ok (some omens) ∧
    ∃ drawn, History omens "Omens" "default" crossroads drawn lastCrossroads ∧
      drawn.map (Option.map Row.identity) = [some "raven", some "fox", some "fox"] ∧
      ∃ (rows : List Row) (current : List String), drawn = rows.map some ∧ rows ⊆ omens.rows ∧
        InRounds omens.identities (rows.map Row.identity) current ∧ current = ["fox"] ∧
        ({} : Resolver).consumedItems "OMENS" lastCrossroads = .ok current lastCrossroads := by
  have hnothing : crossroads.store.items "Omens" "default" = [] := rfl
  have hdistinct : (Keyed.keys crossroads.store.records).Nodup := List.nodup_nil
  have hwritable : crossroads.Writable := fun file hfile => by cases hfile
  have hconstants : lastCrossroads.constants = crossroads.constants := calc
    lastCrossroads.constants = sharedCrossroads.constants := (steady_drawOne {} omens true).keeps _
    _ = toldCrossroads.constants :=
      (steady_drawOne { options := { story := "elsewhere" } } omens true).keeps _
    _ = crossroads.constants := constants_resolve _ _ _
  have hregistry : lastCrossroads.registry = crossroads.registry := congrArg Prod.fst hconstants
  have hfind : lastCrossroads.registry.find "OMENS" = .ok (some omens) := by
    rw [hregistry]
    rfl
  have hkey (name' : String) (hname : omens.name = .text name') :
      key name' "elsewhere" ≠ key "Omens" "default" := by
    obtain rfl : "Omens" = name' := Value.text.inj hname
    decide +kernel
  have hcall := History.call {} "\x7bomens.consumable.pick 2\x7d" 0 .start (own_crossroads {} _ 0)
  have haside : (undisturbed "Omens" "default").holds toldCrossroads sharedCrossroads :=
    undisturbed_drawConsumable hkey toldCrossroads
  have hshared := hcall.aside haside
  have hlast := hshared.draw {} rfl
  refine ⟨omens_drawable, hnothing, hdistinct, hwritable, by decide +kernel, hfind, _, hlast,
    by decide +kernel, ?_⟩
  obtain ⟨rows, current, hdrawn, hrows, hrounds, hspelled⟩ :=
    rounds_of_history omens_drawable hnothing hdistinct hwritable hlast
  have hitems := hspelled {} "OMENS" rfl hfind
  refine ⟨rows, current, hdrawn, hrows, hrounds, ?_, hitems⟩
  obtain ⟨rfl, -⟩ := EStateM.Result.ok.inj (hitems.symm.trans (run_consumedItems rfl hfind))
  decide +kernel

end TaleLoom
