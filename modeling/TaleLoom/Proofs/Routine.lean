import TaleLoom.Placeholder.Resolver
import TaleLoom.Proofs.Desk
/-!
What the steps behind a placeholder leave alone. None of them posts an expansion or warns of the
greatest depth, and only draws that are remembered touch the files and the consumption store.
-/

namespace TaleLoom

def depthWarningLead : String := "Maximum placeholder resolution depth ("

def Notice.ofDepth (notice : Notice) : Bool :=
  depthWarningLead.toList.isPrefixOf notice.text.toList

namespace Desk

def expansions (desk : Desk) : List EventDetail := (desk.log.ofKind .expansion).map (·.detail)

def depthWarnings (desk : Desk) : List Notice := desk.notices.toList.filter Notice.ofDepth

def telling : Frame Desk := .fixing fun desk => (desk.log.paused, desk.expansions, desk.depthWarnings)

def routine : Frame Desk := (Frame.fixing fun desk => desk.files).and telling

theorem depthWarnings_push {desk : Desk} {notice : Notice} :
    depthWarnings { desk with notices := desk.notices.push notice } =
      desk.depthWarnings ++ if notice.ofDepth then [notice] else [] := by
  simp only [depthWarnings, Array.toList_push, List.filter_append]
  cases h : notice.ofDepth <;> simp [h]

theorem head?_append {s t : String} {c : Char} (h : s.toList.head? = some c) :
    (s ++ t).toList.head? = some c := by
  rw [String.toList_append, List.head?_append, h]
  rfl

/-- A warning that starts with another letter does not warn of the greatest depth. -/
theorem ofDepth_eq_false {severity : Severity} {text : String} {first : Char}
    (htext : text.toList.head? = some first) (h : first ≠ 'M') :
    Notice.ofDepth ⟨severity, text⟩ = false := by
  obtain ⟨rest, hrest⟩ : ∃ rest, text.toList = first :: rest :=
    List.head?_eq_some_iff.1 htext
  obtain ⟨lead, hlead⟩ : ∃ lead, depthWarningLead.toList = 'M' :: lead := ⟨_, rfl⟩
  simp only [Notice.ofDepth, hlead, hrest, List.isPrefixOf, Bool.and_eq_false_imp, beq_iff_eq]
  exact fun heq => absurd heq.symm h

theorem keeps_warn {text : String} (h : Notice.ofDepth ⟨.warning, text⟩ = false) :
    (warn text).Keeps routine := by
  refine Act.Keeps.modify fun desk => ⟨rfl, ?_⟩
  show (_, _, depthWarnings _) = _
  rw [depthWarnings_push, h]
  simp [expansions]

theorem ofDepth_subscriberWarning (name : String) : (subscriberWarning name).ofDepth = false :=
  ofDepth_eq_false (head?_append (head?_append rfl)) (by decide)

theorem ofDepth_couldNotResolve (body message : String) :
    Notice.ofDepth ⟨.warning, "Could not resolve placeholder '" ++ body ++ "': " ++ message⟩ = false :=
  ofDepth_eq_false (head?_append (head?_append (head?_append rfl))) (by decide)

/-- The log after an event tells of the expansions before, and of the event if it is one. -/
theorem expansions_posted (desk : Desk) (detail : EventDetail) (context : Value) :
    (desk.posted detail context).expansions =
      desk.expansions ++ if desk.log.paused || detail.kind ≠ .expansion then [] else [detail] :=
  desk.details_posted detail context .expansion

theorem depthWarnings_posted (desk : Desk) (detail : EventDetail) (context : Value) :
    (desk.posted detail context).depthWarnings = desk.depthWarnings := by
  simp only [depthWarnings, posted, Array.toList_append, List.filter_append,
    List.append_right_eq_self, List.filter_eq_nil_iff, List.mem_map]
  rintro notice ⟨name, -, rfl⟩
  simp [ofDepth_subscriberWarning]

theorem routine_posted (desk : Desk) {detail : EventDetail} (h : detail.kind ≠ .expansion)
    (context : Value) : routine.holds desk (desk.posted detail context) := by
  refine ⟨rfl, ?_⟩
  show (_, _, _) = _
  rw [paused_posted, expansions_posted, depthWarnings_posted]
  simp [h]

theorem keeps_post {detail : EventDetail} (h : detail.kind ≠ .expansion) (context : Value) :
    (post detail context).Keeps routine := by
  intro desk
  rw [Act.after_of_ok (run_post detail context desk)]
  exact routine_posted desk h context

theorem keeps_record (r : Roll) : (record r).Keeps routine :=
  Act.Keeps.bind (Act.Keeps.modify fun _ => routine.refl _) fun _ =>
    Act.Keeps.discard (keeps_post (by simp [EventDetail.kind]) _)

theorem keeps_below (n : Nat) : (below n).Keeps routine :=
  Act.Keeps.modifyGet fun _ => routine.refl _

theorem keeps_castFaces (sides count : Nat) : (castFaces sides count).Keeps routine := by
  induction count with
  | zero => exact Act.Keeps.pure _
  | succ count ih => exact Act.Keeps.bind (keeps_below sides) fun _ => Act.Keeps.map ih

theorem keeps_roll (formula : Value) (reason : String) : (roll formula reason).Keeps routine :=
  Act.Keeps.bind (Act.Keeps.ofExcept _) fun _ => Act.Keeps.bind (keeps_castFaces _ _) fun _ =>
    Act.Keeps.bind (keeps_record _) fun _ => Act.Keeps.pure _

theorem keeps_draw (low high : Int) (reason : String) : (draw low high reason).Keeps routine := by
  refine Act.Keeps.ite (Act.Keeps.bind (Act.Keeps.throw _) fun _ => ?_) ?_
  all_goals
    exact Act.Keeps.bind (keeps_below _) fun _ => Act.Keeps.bind (Act.Keeps.ofExcept _) fun _ =>
      Act.Keeps.bind (Act.Keeps.ofExcept _) fun _ => Act.Keeps.bind (keeps_record _) fun _ =>
        Act.Keeps.pure _

theorem keeps_drawPlace (count : Nat) (reason : String) :
    (drawPlace count reason).Keeps routine :=
  Act.Keeps.bind (keeps_below _) fun _ =>
    Act.Keeps.bind (keeps_record _) fun _ => Act.Keeps.pure _

theorem keeps_choose {α : Type} (items : List α) (reason : String) :
    (choose items reason).Keeps routine := by
  refine Act.Keeps.ite (Act.Keeps.bind (Act.Keeps.throw _) fun _ => ?_) ?_
  all_goals
    refine Act.Keeps.bind (keeps_drawPlace _ _) fun place => ?_
    split
    · exact Act.Keeps.pure _
    · exact Act.Keeps.throw _

theorem keeps_turnWheel (wheel : Nat) : (turnWheel wheel).Keeps routine := by
  refine Act.Keeps.modifyGet fun desk => ?_
  split
  · exact routine.refl _
  · exact routine.refl _

end Desk

/-- What lasts through everything that a generator can do at the desk lasts through the generator. -/
theorem Generator.keeps_run {frame : Frame Desk}
    (hroll : ∀ formula reason, (Desk.roll formula reason).Keeps frame)
    (hdraw : ∀ low high reason, (Desk.draw low high reason).Keeps frame)
    (hchoose : ∀ (texts : List String) reason, (Desk.choose texts reason).Keeps frame)
    (htell : ∀ context, (Desk.post .custom context).Keeps frame)
    (hturn : ∀ wheel, (Desk.turnWheel wheel).Keeps frame) (g : Generator) : g.run.Keeps frame := by
  induction g with
  | say text => exact Act.Keeps.pure _
  | fail fault => exact Act.Keeps.throw _
  | roll formula reason _ ih => exact (hroll formula reason).attempt.bind ih
  | draw low high reason _ ih => exact (hdraw low high reason).attempt.bind ih
  | choose texts reason _ ih => exact (hchoose texts reason).attempt.bind ih
  | tell context _ ih => exact (htell context).discard.bind fun _ => ih
  | turn wheel _ ih => exact (hturn wheel).bind ih

theorem Description.keeps_render (d : Description) : d.render.Keeps Desk.routine := by
  cases d with
  | literal text => exact Act.Keeps.pure _
  | generated label name generator =>
    exact generator.keeps_run Desk.keeps_roll Desk.keeps_draw Desk.keeps_choose
      (Desk.keeps_post (by simp [EventDetail.kind])) Desk.keeps_turnWheel

namespace RandomTable

variable (table : RandomTable) (difficulty : Option Int)

theorem keeps_reroll (attempts : Nat) (dice : Roll) (row : Option Row) :
    (table.reroll difficulty attempts dice row).Keeps Desk.routine := by
  induction attempts generalizing dice row with
  | zero => exact Act.Keeps.pure _
  | succ attempts ih =>
    refine Act.Keeps.ite (Act.Keeps.pure _) ?_
    exact Act.Keeps.bind (Desk.keeps_roll _ _) fun _ =>
      Act.Keeps.bind (Act.Keeps.ofExcept _) fun _ => ih _ _

theorem keeps_fallback (rerolls : Int) (row : Option Row) :
    (table.fallback rerolls row).Keeps Desk.routine :=
  Act.Keeps.ite (Act.Keeps.map (Desk.keeps_choose _ _)) (Act.Keeps.pure _)

theorem keeps_describe (total : Int) (row : Option Row) :
    (table.describe total row).Keeps Desk.routine := by
  cases row with
  | some row => exact row.description.keeps_render
  | none =>
    refine Act.Keeps.bind (Act.Keeps.ofExcept _) fun number => ?_
    refine Act.Keeps.bind (Desk.keeps_warn ?_) fun _ => Act.Keeps.pure _
    exact Desk.ofDepth_eq_false (Desk.head?_append (Desk.head?_append (Desk.head?_append rfl)))
      (by decide)

theorem keeps_roll (rerolls : Int) : (table.roll difficulty rerolls).Keeps Desk.routine :=
  Act.Keeps.bind (Desk.keeps_roll _ _) fun _ => Act.Keeps.bind (Act.Keeps.ofExcept _) fun _ =>
    Act.Keeps.bind (table.keeps_reroll _ _ _ _) fun _ =>
      Act.Keeps.bind (table.keeps_fallback _ _) fun _ =>
        Act.Keeps.bind (table.keeps_describe _ _) fun _ => Act.Keeps.pure _

end RandomTable

theorem Registry.keeps_rollOn (table : RandomTable) (difficulty : Option Int) (rerolls : Int) :
    (rollOn table difficulty rerolls).Keeps Desk.routine :=
  Act.Keeps.bind (table.keeps_roll _ _) fun _ =>
    Act.Keeps.bind (Act.Keeps.discard (Desk.keeps_post (by simp [EventDetail.kind]) _)) fun _ =>
      Act.Keeps.pure _

namespace Scene

def routine : Frame Scene :=
  (Frame.fixing fun scene => (scene.registry, scene.store)).and (Desk.routine.on (·.desk))

def telling : Frame Scene :=
  (Frame.fixing fun scene => scene.registry).and (Desk.telling.on (·.desk))

theorem telling_of_routine {s t : Scene} (h : routine.holds s t) : telling.holds s t :=
  ⟨congrArg Prod.fst h.1, h.2.2⟩

theorem keeps_routine {α : Type} {act : Act Desk α} (h : act.Keeps Desk.routine) :
    (atDesk act).Keeps routine :=
  Act.Keeps.within h fun _ _ hdesk => ⟨rfl, hdesk⟩

end Scene

namespace SparkLibrary

theorem keeps_noteUse (name : Value) (keyword : String) :
    (noteUse name keyword).Keeps Scene.routine :=
  Act.Keeps.bind Act.Keeps.get fun _ => Act.Keeps.bind (Act.Keeps.ofExcept _) fun _ =>
    Act.Keeps.modify fun _ => ⟨rfl, Desk.routine.refl _⟩

theorem keeps_drawFrom (size wanted : Nat) (pool : List (String × Value)) (seen : List String) :
    (drawFrom size wanted pool seen).Keeps Scene.routine := by
  induction size generalizing wanted pool seen with
  | zero => exact Act.Keeps.pure _
  | succ size ih =>
    cases wanted with
    | zero => exact Act.Keeps.pure _
    | succ wanted =>
      refine Act.Keeps.bind (Scene.keeps_routine (Desk.keeps_drawPlace _ _)) fun place => ?_
      cases pool[place]? with
      | none => exact Act.Keeps.pure _
      | some drawn =>
        refine Act.Keeps.ite (ih _ _ _) ?_
        exact Act.Keeps.bind (keeps_noteUse _ _) fun _ => Act.Keeps.map (ih _ _ _)

theorem keeps_generate (count : Int) (purpose : SparkUse) (given : Option (List SparkTable)) :
    (generate count purpose given).Keeps Scene.routine := by
  refine Act.Keeps.bind Act.Keeps.get fun scene => ?_
  refine Act.Keeps.ite ?_ (keeps_drawFrom _ _ _ _)
  refine Act.Keeps.bind (Scene.keeps_routine (Desk.keeps_warn ?_)) fun _ => Act.Keeps.pure _
  exact Desk.ofDepth_eq_false rfl (by decide)

end SparkLibrary

namespace Resolver

theorem keeps_resolveRange (body : String) (ends : Option (WrittenInteger × WrittenInteger)) :
    (resolveRange body ends).Keeps Scene.routine := by
  unfold resolveRange
  cases ends with
  | none => exact Act.Keeps.pure _
  | some ends =>
    refine Act.Keeps.bind (Act.Keeps.ofExcept _) fun low => ?_
    refine Act.Keeps.bind (Act.Keeps.ofExcept _) fun high => ?_
    refine Act.Keeps.ite (Act.Keeps.pure _) ?_
    exact Act.Keeps.bind (Scene.keeps_routine (Desk.keeps_draw _ _ _)) fun _ =>
      Act.Keeps.bind (Act.Keeps.ofExcept _) fun _ => Act.Keeps.pure _

theorem keeps_resolveRoll (body formula : String) :
    (resolveRoll body formula).Keeps Scene.routine := by
  refine Act.Keeps.bind (Act.Keeps.attempt (Scene.keeps_routine (Desk.keeps_roll _ _))) fun r => ?_
  split
  · exact Act.Keeps.bind (Act.Keeps.ofExcept _) fun _ => Act.Keeps.pure _
  · exact Act.Keeps.pure _
  · exact Act.Keeps.throw _

theorem keeps_resolveOutcome (value : List Char) : (resolveOutcome value).Keeps Scene.routine := by
  unfold resolveOutcome
  cases Number.readInteger? value with
  | none => exact Act.Keeps.pure _
  | some n =>
    refine Act.Keeps.bind (Act.Keeps.bind Act.Keeps.get fun scene => ?_) fun _ => Act.Keeps.pure _
    exact Scene.keeps_routine (Registry.keeps_rollOn _ _ _)

theorem keeps_resolveItem (resolver : Resolver) (category : ItemCategory) :
    (resolver.resolveItem category).Keeps Scene.routine := by
  refine Act.Keeps.ite (Act.Keeps.pure _) ?_
  exact Act.Keeps.bind (Scene.keeps_routine (Desk.keeps_choose _ _)) fun _ => Act.Keeps.pure _

theorem keeps_findSparkTables (names : List String) :
    (findSparkTables names).Keeps Scene.routine := by
  induction names with
  | nil => exact Act.Keeps.pure _
  | cons name rest ih =>
    refine Act.Keeps.bind Act.Keeps.get fun scene => ?_
    refine Act.Keeps.bind (Act.Keeps.ofExcept _) fun found => ?_
    cases found with
    | some table => exact Act.Keeps.map ih
    | none =>
      refine Act.Keeps.bind (Scene.keeps_routine (Desk.keeps_warn ?_)) fun _ => ih
      exact Desk.ofDepth_eq_false (Desk.head?_append (Desk.head?_append rfl)) (by decide)

theorem keeps_keywordsFrom (count : Int) (names : List String)
    (tables : Option (List SparkTable)) :
    (keywordsFrom count names tables).Keeps Scene.routine := by
  refine Act.Keeps.ite (Act.Keeps.pure _) ?_
  refine Act.Keeps.bind (SparkLibrary.keeps_generate _ _ _) fun keywords => ?_
  exact Act.Keeps.ite (Act.Keeps.pure _) (Act.Keeps.pure _)

theorem keeps_resolveSparks (word : String) (spec : List Char) :
    (resolveSparks word spec).Keeps Scene.routine := by
  refine Act.Keeps.bind (Act.Keeps.ofExcept _) fun (count, names) => ?_
  refine Act.Keeps.ite (keeps_keywordsFrom _ _ _) ?_
  exact Act.Keeps.bind (keeps_findSparkTables _) fun _ => keeps_keywordsFrom _ _ _

end Resolver

section Draws

theorem Scene.keeps_telling {α : Type} {act : Act Desk α} (h : act.Keeps Desk.telling) :
    (atDesk act).Keeps telling :=
  Act.Keeps.within h fun _ _ hdesk => ⟨rfl, hdesk⟩

namespace ConsumptionStore

theorem telling_persist : persist.Keeps Scene.telling := by
  refine Act.Keeps.bind Act.Keeps.get fun scene => ?_
  dsimp only
  split
  · exact Act.Keeps.pure _
  · have hfiles (files : FileTree) : (modify fun desk : Desk => { desk with files } :
        Act Desk PUnit).Keeps Desk.telling := Act.Keeps.modify fun _ => rfl
    refine Act.Keeps.bind (Scene.keeps_telling ?_) fun _ => Scene.keeps_telling ?_
    · exact Act.Keeps.bind (Act.Keeps.bind Act.Keeps.get fun _ => Act.Keeps.ofExcept _) hfiles
    · exact Act.Keeps.bind (Act.Keeps.bind Act.Keeps.get fun _ => Act.Keeps.ofExcept _) hfiles

theorem telling_change (f : Keyed String ConsumedRecord → Keyed String ConsumedRecord) :
    (change f).Keeps Scene.telling :=
  Act.Keeps.modify fun _ => ⟨rfl, Desk.telling.refl _⟩

theorem telling_note (table : Value) (story action : String) (entry : Value) :
    (note table story action entry).Keeps Scene.telling :=
  Act.Keeps.discard (Scene.keeps_telling ((Desk.keeps_post (by simp [EventDetail.kind]) _).mono
    fun _ _ h => h.2))

theorem telling_available (table : RandomTable) (story : String) :
    (available table story).Keeps Scene.telling := by
  refine Act.Keeps.bind (Act.Keeps.ofExcept _) fun name => ?_
  refine Act.Keeps.bind Act.Keeps.get fun scene => ?_
  refine Act.Keeps.ite (Act.Keeps.pure _) ?_
  split
  · exact Act.Keeps.bind (telling_change _) fun _ => Act.Keeps.bind telling_persist fun _ =>
      Act.Keeps.bind (telling_note _ _ _ _) fun _ => Act.Keeps.pure _
  · exact Act.Keeps.pure _

theorem telling_markConsumed (table : Value) (story entry : String) :
    (markConsumed table story entry).Keeps Scene.telling := by
  refine Act.Keeps.bind (Act.Keeps.ofExcept _) fun name => ?_
  refine Act.Keeps.bind Act.Keeps.get fun scene => ?_
  refine Act.Keeps.ite (Act.Keeps.pure _) ?_
  exact Act.Keeps.bind (telling_change _) fun _ => Act.Keeps.bind telling_persist fun _ =>
    telling_note _ _ _ _

end ConsumptionStore

namespace Resolver

variable (resolver : Resolver)

theorem telling_drawOne (table : RandomTable) (consumable : Bool) :
    (resolver.drawOne table consumable).Keeps Scene.telling := by
  refine Act.Keeps.ite ?_ ?_
  · refine Act.Keeps.bind (ConsumptionStore.telling_available _ _) fun pool => ?_
    refine Act.Keeps.bind ?_ fun result => ?_
    · exact (Scene.keeps_routine (Registry.keeps_rollOn _ _ _)).mono fun _ _ =>
        Scene.telling_of_routine
    · split
      · exact Act.Keeps.bind (ConsumptionStore.telling_markConsumed _ _ _) fun _ => Act.Keeps.pure _
      · exact Act.Keeps.pure _
  · exact (Scene.keeps_routine (Registry.keeps_rollOn _ _ _)).mono fun _ _ =>
      Scene.telling_of_routine

theorem telling_drawTexts (table : RandomTable) (request : DrawRequest) (count : Nat) :
    (resolver.drawTexts table request count).Keeps Scene.telling := by
  induction count with
  | zero => exact Act.Keeps.pure _
  | succ count ih =>
    refine Act.Keeps.bind (Act.Keeps.attempt (resolver.telling_drawOne table request.consumable))
      fun drawn => ?_
    split
    · exact Act.Keeps.pure _
    · exact Act.Keeps.pure _
    · exact Act.Keeps.throw _
    · refine Act.Keeps.bind ih fun texts => ?_
      split
      · exact Act.Keeps.pure _
      · exact Act.Keeps.pure _

theorem telling_resolveTable (body : List Char) :
    (resolver.resolveTable body).Keeps Scene.telling := by
  refine Act.Keeps.bind Act.Keeps.get fun scene => ?_
  refine Act.Keeps.bind (Act.Keeps.ofExcept _) fun found => ?_
  split
  · exact Act.Keeps.pure _
  · refine Act.Keeps.bind (Act.Keeps.ofExcept _) fun request => ?_
    refine Act.Keeps.bind (resolver.telling_drawTexts _ _ _) fun texts => ?_
    split
    · exact Act.Keeps.pure _
    · exact Act.Keeps.pure _

theorem telling_attempt (body : List Char) : (resolver.attempt body).Keeps Scene.telling := by
  unfold attempt
  cases Expression.ofBody resolver.items.isSome body with
  | range ends => exact (keeps_resolveRange _ _).mono fun _ _ => Scene.telling_of_routine
  | roll formula => exact (keeps_resolveRoll _ _).mono fun _ _ => Scene.telling_of_routine
  | outcome value => exact (keeps_resolveOutcome _).mono fun _ _ => Scene.telling_of_routine
  | sparks word spec => exact (keeps_resolveSparks _ _).mono fun _ _ => Scene.telling_of_routine
  | item category =>
    exact (keeps_resolveItem resolver _).mono fun _ _ => Scene.telling_of_routine
  | table => exact resolver.telling_resolveTable body

/-- An attempt at a placeholder neither posts an expansion nor warns of the greatest depth. -/
theorem telling_resolveToken (body : List Char) :
    (resolver.resolveToken body).Keeps Scene.telling := by
  refine Act.Keeps.bind (resolver.telling_attempt body) fun result => ?_
  split
  · exact Act.Keeps.pure _
  · refine Act.Keeps.bind (Scene.keeps_telling ((Desk.keeps_warn ?_).mono fun _ _ h => h.2))
      fun _ => Act.Keeps.pure _
    exact Desk.ofDepth_couldNotResolve _ _

end Resolver

end Draws

end TaleLoom
