import TaleLoom.Proofs.Placeholder.Breaks
import TaleLoom.Template
/-!
Relations between the desk before and the desk after that last through everything the library does.
A relation is `Desk.Quiet` if it lasts through rolls, draws, events of other kinds, the texts given out
in turn and changes of files, and so through what never warns: choices, draws of keywords, and the
remembering and forgetting of draws. If it lasts through warnings too it is `Desk.Lasting`, and lasts
through rolls on tables and the expansion of texts and templates, whether they end well or fail.
-/

namespace TaleLoom

open Number Text

/-- The relation lasts through each step of a desk that does not warn. Places are drawn among at least one
thing. -/
structure Desk.Quiet (frame : Frame Desk) : Prop where
  roll (formula : Value) (reason : String) : (Desk.roll formula reason).Keeps frame
  draw (low high : Int) (reason : String) : (Desk.draw low high reason).Keeps frame
  place {count : Nat} (hcount : 0 < count) (reason : String) :
    (Desk.drawPlace count reason).Keeps frame
  post {detail : EventDetail} (hkind : detail.kind ≠ .roll) (context : Value) :
    (Desk.post detail context).Keeps frame
  wheel (number : Nat) : (Desk.turnWheel number).Keeps frame
  files (files : FileTree) : (modify fun desk => { desk with files } : Act Desk PUnit).Keeps frame

structure Desk.Lasting (frame : Frame Desk) : Prop extends Desk.Quiet frame where
  warn (text : String) : (Desk.warn text).Keeps frame

namespace Scene

def deskwise (frame : Frame Desk) : Frame Scene := frame.on (·.desk)

variable {frame : Frame Desk}

theorem keeps_deskwise {α : Type} {act : Act Desk α} (h : act.Keeps frame) :
    (atDesk act).Keeps (deskwise frame) :=
  Act.Keeps.within h fun _ _ hdesk => hdesk

/-- A change of anything but the desk. -/
theorem keeps_aside {f : Scene → Scene} (hf : ∀ scene, (f scene).desk = scene.desk) :
    (modify f : Act Scene PUnit).Keeps (deskwise frame) := by
  apply Act.Keeps.modify
  intro scene
  show frame.holds scene.desk (f scene).desk
  rw [hf]
  exact frame.refl _

end Scene

namespace Desk.Quiet

variable {frame : Frame Desk}

/-- A relation that lasts through the taking of single numbers lasts through rolls and draws. -/
theorem of_steps (hbelow : ∀ n, (below n).Keeps frame) (hrecord : ∀ r, (record r).Keeps frame)
    (hpost : ∀ {detail : EventDetail}, detail.kind ≠ .roll →
      ∀ context, (Desk.post detail context).Keeps frame)
    (hwheel : ∀ number, (turnWheel number).Keeps frame)
    (hfiles : ∀ files, (modify fun desk => { desk with files } : Act Desk PUnit).Keeps frame) :
    Quiet frame where
  roll formula reason := by
    have hcast (sides count : Nat) : (castFaces sides count).Keeps frame := by
      induction count with
      | zero => exact Act.Keeps.pure _
      | succ count ih => exact Act.Keeps.bind (hbelow sides) fun _ => Act.Keeps.map ih
    exact Act.Keeps.bind (Act.Keeps.ofExcept _) fun _ => Act.Keeps.bind (hcast _ _) fun _ =>
      Act.Keeps.bind (hrecord _) fun _ => Act.Keeps.pure _
  draw low high reason := by
    refine Act.Keeps.ite (Act.Keeps.bind (Act.Keeps.throw _) fun _ => ?_) ?_
    all_goals
      exact Act.Keeps.bind (hbelow _) fun _ => Act.Keeps.bind (Act.Keeps.ofExcept _) fun _ =>
        Act.Keeps.bind (Act.Keeps.ofExcept _) fun _ => Act.Keeps.bind (hrecord _) fun _ =>
          Act.Keeps.pure _
  place _ _ :=
    Act.Keeps.bind (hbelow _) fun _ => Act.Keeps.bind (hrecord _) fun _ => Act.Keeps.pure _
  post := hpost
  wheel := hwheel
  files := hfiles

variable (h : Quiet frame)
include h

theorem choose {α : Type} (items : List α) (reason : String) :
    (Desk.choose items reason).Keeps frame := by
  cases items with
  | nil => exact Act.Keeps.throw _
  | cons item rest =>
    refine Act.Keeps.bind (h.place (Nat.succ_pos _) _) fun place => ?_
    split
    · exact Act.Keeps.pure _
    · exact Act.Keeps.throw _

theorem render (d : Description) : d.render.Keeps frame := by
  cases d with
  | literal text => exact Act.Keeps.pure _
  | generated label name generator =>
    exact generator.keeps_run h.roll h.draw h.choose (h.post (by simp [EventDetail.kind])) h.wheel

section Tables

variable (table : RandomTable)

theorem reroll (difficulty : Option Int) (attempts : Nat) (dice : Roll) (row : Option Row) :
    (table.reroll difficulty attempts dice row).Keeps frame := by
  induction attempts generalizing dice row with
  | zero => exact Act.Keeps.pure _
  | succ attempts ih =>
    apply Act.Keeps.ite (Act.Keeps.pure _)
    exact Act.Keeps.bind (h.roll _ _) fun _ =>
      Act.Keeps.bind (Act.Keeps.ofExcept _) fun _ => ih _ _

theorem fallback (rerolls : Int) (row : Option Row) :
    (table.fallback rerolls row).Keeps frame :=
  Act.Keeps.ite (Act.Keeps.map (h.choose _ _)) (Act.Keeps.pure _)

end Tables

theorem makeFolders (p : Path) : (Desk.makeFolders p).Keeps frame :=
  Act.Keeps.bind Act.Keeps.get fun _ => Act.Keeps.bind (Act.Keeps.ofExcept _) h.files

theorem writeText (p : Path) (text : String) : (Desk.writeText p text).Keeps frame :=
  Act.Keeps.bind Act.Keeps.get fun _ => Act.Keeps.bind (Act.Keeps.ofExcept _) h.files

section Consumption

theorem persist : ConsumptionStore.persist.Keeps (Scene.deskwise frame) := by
  refine Act.Keeps.bind Act.Keeps.get fun scene => ?_
  dsimp only
  split
  · exact Act.Keeps.pure _
  · exact Act.Keeps.bind (Scene.keeps_deskwise (h.makeFolders _)) fun _ =>
      Scene.keeps_deskwise (h.writeText _ _)

omit h in
theorem change (f : Keyed String ConsumedRecord → Keyed String ConsumedRecord) :
    (ConsumptionStore.change f).Keeps (Scene.deskwise frame) :=
  Scene.keeps_aside fun _ => rfl

theorem note (table : Value) (story action : String) (entry : Value) :
    (ConsumptionStore.note table story action entry).Keeps (Scene.deskwise frame) :=
  Act.Keeps.discard (Scene.keeps_deskwise (h.post (by simp [EventDetail.kind]) _))

theorem available (table : RandomTable) (story : String) :
    (ConsumptionStore.available table story).Keeps (Scene.deskwise frame) := by
  refine Act.Keeps.bind (Act.Keeps.ofExcept _) fun name => ?_
  refine Act.Keeps.bind Act.Keeps.get fun scene => ?_
  apply Act.Keeps.ite (Act.Keeps.pure _)
  split
  · exact Act.Keeps.bind (change _) fun _ => Act.Keeps.bind h.persist fun _ =>
      Act.Keeps.bind (h.note _ _ _ _) fun _ => Act.Keeps.pure _
  · exact Act.Keeps.pure _

theorem markConsumed (table : Value) (story entry : String) :
    (ConsumptionStore.markConsumed table story entry).Keeps (Scene.deskwise frame) := by
  refine Act.Keeps.bind (Act.Keeps.ofExcept _) fun name => ?_
  refine Act.Keeps.bind Act.Keeps.get fun scene => ?_
  apply Act.Keeps.ite (Act.Keeps.pure _)
  exact Act.Keeps.bind (change _) fun _ => Act.Keeps.bind h.persist fun _ => h.note _ _ _ _

/-- The records are changed and written if some of them are gone, and the reset is posted. -/
theorem forget (kept : Keyed String ConsumedRecord) (fewer : Prop) [Decidable fewer] (table : Value)
    (story : String) :
    (do
      ConsumptionStore.change fun _ => kept
      if fewer then ConsumptionStore.persist
      ConsumptionStore.note table story "reset" : Act Scene Unit).Keeps (Scene.deskwise frame) := by
  refine Act.Keeps.bind (change _) fun _ => ?_
  apply Act.Keeps.ite
  · exact Act.Keeps.bind h.persist fun _ => h.note _ _ _ _
  · exact h.note _ _ _ _

theorem reset (table : Value) (story : Option String) :
    (ConsumptionStore.reset table story).Keeps (Scene.deskwise frame) :=
  Act.Keeps.bind Act.Keeps.get fun _ => Act.Keeps.bind (Act.Keeps.ofExcept _) fun _ =>
    h.forget _ _ _ _

theorem resetStory (story : String) :
    (ConsumptionStore.resetStory story).Keeps (Scene.deskwise frame) :=
  Act.Keeps.bind Act.Keeps.get fun _ => h.forget _ _ _ _

end Consumption

section Keywords

omit h in
theorem noteUse (name : Value) (keyword : String) :
    (SparkLibrary.noteUse name keyword).Keeps (Scene.deskwise frame) :=
  Act.Keeps.bind Act.Keeps.get fun _ => Act.Keeps.bind (Act.Keeps.ofExcept _) fun _ =>
    Scene.keeps_aside fun _ => rfl

/-- Each draw takes its keyword out of the pool, so the pool is never empty when a place in it is
drawn. -/
theorem drawFrom {size : Nat} (wanted : Nat) {pool : List (String × Value)} (hsize : pool.length = size)
    (seen : List String) :
    (SparkLibrary.drawFrom size wanted pool seen).Keeps (Scene.deskwise frame) := by
  induction size generalizing wanted pool seen with
  | zero => exact Act.Keeps.pure _
  | succ size ih =>
    cases wanted with
    | zero => exact Act.Keeps.pure _
    | succ wanted =>
      have hpool : 0 < pool.length := by omega
      refine Act.Keeps.bind (Scene.keeps_deskwise (h.place hpool _)) fun place => ?_
      cases hdrawn : pool[place]? with
      | none => exact Act.Keeps.pure _
      | some drawn =>
        have hplace : place < pool.length := (List.getElem?_eq_some_iff.1 hdrawn).1
        have hrest : (pool.eraseIdx place).length = size := by
          rw [List.length_eraseIdx_of_lt hplace]
          omega
        apply Act.Keeps.ite (ih _ hrest _)
        exact Act.Keeps.bind (noteUse _ _) fun _ => Act.Keeps.map (ih _ hrest _)

/-- Where there are tables to draw from, nothing is warned of. -/
theorem generate {count : Int} {purpose : SparkUse} {given : Option (List SparkTable)} {scene : Scene}
    (htables : scene.sparks.inUse purpose given ≠ []) :
    (Scene.deskwise frame).holds scene ((SparkLibrary.generate count purpose given).after scene) := by
  have hfilled : (scene.sparks.inUse purpose given).isEmpty = false := List.isEmpty_eq_false_iff.2 htables
  let pool := ((scene.sparks.inUse purpose given).map SparkTable.pool).flatten
  have hrun : SparkLibrary.generate count purpose given scene =
      SparkLibrary.drawFrom pool.length count.toNat pool [] scene := by
    simp only [SparkLibrary.generate, Act.run_bind, Act.run_get, hfilled, Bool.false_eq_true, if_false,
      pool]
  rw [Act.after_congr hrun]
  exact h.drawFrom _ rfl _ scene

end Keywords

section Placeholders

theorem resolveRange (body : String) (ends : Option (WrittenInteger × WrittenInteger)) :
    (Resolver.resolveRange body ends).Keeps (Scene.deskwise frame) := by
  unfold Resolver.resolveRange
  cases ends with
  | none => exact Act.Keeps.pure _
  | some ends =>
    refine Act.Keeps.bind (Act.Keeps.ofExcept _) fun low => ?_
    refine Act.Keeps.bind (Act.Keeps.ofExcept _) fun high => ?_
    apply Act.Keeps.ite (Act.Keeps.pure _)
    exact Act.Keeps.bind (Scene.keeps_deskwise (h.draw _ _ _)) fun _ =>
      Act.Keeps.bind (Act.Keeps.ofExcept _) fun _ => Act.Keeps.pure _

theorem resolveRoll (body formula : String) :
    (Resolver.resolveRoll body formula).Keeps (Scene.deskwise frame) := by
  refine Act.Keeps.bind (Act.Keeps.attempt (Scene.keeps_deskwise (h.roll _ _))) fun r => ?_
  split
  · exact Act.Keeps.bind (Act.Keeps.ofExcept _) fun _ => Act.Keeps.pure _
  · exact Act.Keeps.pure _
  · exact Act.Keeps.throw _

variable (resolver : Resolver)

theorem resolveItem (category : ItemCategory) :
    (resolver.resolveItem category).Keeps (Scene.deskwise frame) := by
  apply Act.Keeps.ite (Act.Keeps.pure _)
  exact Act.Keeps.bind (Scene.keeps_deskwise (h.choose _ _)) fun _ => Act.Keeps.pure _

theorem resetConsumption (name : Option String) :
    (resolver.resetConsumption name).Keeps (Scene.deskwise frame) := by
  unfold Resolver.resetConsumption
  cases name with
  | none => exact h.resetStory _
  | some name =>
    apply Act.Keeps.ite (h.resetStory _)
    refine Act.Keeps.bind ?_ fun _ => h.reset _ _
    refine Act.Keeps.bind Act.Keeps.get fun _ => Act.Keeps.bind (Act.Keeps.ofExcept _) fun found => ?_
    split
    · exact Act.Keeps.pure _
    · exact Act.Keeps.pure _

end Placeholders

end Desk.Quiet

/-! ### What may warn -/

namespace Desk.Lasting

variable {frame : Frame Desk} (h : Lasting frame)
include h

section Tables

variable (table : RandomTable) (difficulty : Option Int)

theorem describe (total : Int) (row : Option Row) : (table.describe total row).Keeps frame := by
  cases row with
  | some row => exact h.render row.description
  | none =>
    exact Act.Keeps.bind (Act.Keeps.ofExcept _) fun _ =>
      Act.Keeps.bind (h.warn _) fun _ => Act.Keeps.pure _

theorem rollTable (rerolls : Int) : (table.roll difficulty rerolls).Keeps frame :=
  Act.Keeps.bind (h.roll _ _) fun _ => Act.Keeps.bind (Act.Keeps.ofExcept _) fun _ =>
    Act.Keeps.bind (h.reroll table _ _ _ _) fun _ =>
      Act.Keeps.bind (h.fallback table _ _) fun _ =>
        Act.Keeps.bind (h.describe table _ _) fun _ => Act.Keeps.pure _

theorem rollOn (rerolls : Int) : (Registry.rollOn table difficulty rerolls).Keeps frame :=
  Act.Keeps.bind (h.rollTable table _ _) fun _ =>
    Act.Keeps.bind (Act.Keeps.discard (h.post (by simp [EventDetail.kind]) _)) fun _ =>
      Act.Keeps.pure _

end Tables

theorem rollNamed (name : String) (difficulty : Option Int) (rerolls : Int) :
    (Registry.rollNamed name difficulty rerolls).Keeps (Scene.deskwise frame) := by
  refine Act.Keeps.bind Act.Keeps.get fun scene => ?_
  refine Act.Keeps.bind (Act.Keeps.ofExcept _) fun found => ?_
  cases found with
  | none =>
    exact Act.Keeps.bind (Scene.keeps_deskwise (h.warn _)) fun _ => Act.Keeps.pure _
  | some table =>
    exact Act.Keeps.bind (Scene.keeps_deskwise (h.rollOn table _ _)) fun _ => Act.Keeps.pure _

theorem rollDifficulty (difficulty : Int) :
    (Registry.rollDifficulty difficulty).Keeps (Scene.deskwise frame) :=
  Act.Keeps.bind Act.Keeps.get fun _ => Scene.keeps_deskwise (h.rollOn _ _ _)

theorem generate (count : Int) (purpose : SparkUse) (given : Option (List SparkTable)) :
    (SparkLibrary.generate count purpose given).Keeps (Scene.deskwise frame) := by
  refine Act.Keeps.bind Act.Keeps.get fun scene => ?_
  apply Act.Keeps.ite
  · exact Act.Keeps.bind (Scene.keeps_deskwise (h.warn _)) fun _ => Act.Keeps.pure _
  · exact h.drawFrom _ rfl _

theorem generateNamed (count : Int) (names : Option (List String)) :
    (SparkLibrary.generateNamed count names).Keeps (Scene.deskwise frame) := by
  refine Act.Keeps.bind Act.Keeps.get fun scene => ?_
  split
  · exact h.generate _ _ _
  · exact h.generate _ _ _
  · exact Act.Keeps.bind (Act.Keeps.ofExcept _) fun _ => h.generate _ _ _

section Placeholders

theorem resolveOutcome (value : List Char) :
    (Resolver.resolveOutcome value).Keeps (Scene.deskwise frame) := by
  unfold Resolver.resolveOutcome
  cases Number.readInteger? value with
  | none => exact Act.Keeps.pure _
  | some n => exact Act.Keeps.bind (h.rollDifficulty n) fun _ => Act.Keeps.pure _

theorem findSparkTables (names : List String) :
    (Resolver.findSparkTables names).Keeps (Scene.deskwise frame) := by
  induction names with
  | nil => exact Act.Keeps.pure _
  | cons name rest ih =>
    refine Act.Keeps.bind Act.Keeps.get fun scene => ?_
    refine Act.Keeps.bind (Act.Keeps.ofExcept _) fun found => ?_
    cases found with
    | some table => exact Act.Keeps.map ih
    | none => exact Act.Keeps.bind (Scene.keeps_deskwise (h.warn _)) fun _ => ih

theorem keywordsFrom (count : Int) (names : List String) (tables : Option (List SparkTable)) :
    (Resolver.keywordsFrom count names tables).Keeps (Scene.deskwise frame) := by
  apply Act.Keeps.ite (Act.Keeps.pure _)
  refine Act.Keeps.bind (h.generate _ _ _) fun keywords => ?_
  exact Act.Keeps.ite (Act.Keeps.pure _) (Act.Keeps.pure _)

theorem resolveSparks (word : String) (spec : List Char) :
    (Resolver.resolveSparks word spec).Keeps (Scene.deskwise frame) := by
  refine Act.Keeps.bind (Act.Keeps.ofExcept _) fun (count, names) => ?_
  apply Act.Keeps.ite (h.keywordsFrom _ _ _)
  exact Act.Keeps.bind (h.findSparkTables _) fun _ => h.keywordsFrom _ _ _

variable (resolver : Resolver)

theorem drawConsumable (table : RandomTable) :
    (resolver.drawConsumable table).Keeps (Scene.deskwise frame) := by
  refine Act.Keeps.bind (h.available _ _) fun pool => ?_
  refine Act.Keeps.bind (Scene.keeps_deskwise (h.rollOn _ _ _)) fun result => ?_
  split
  · exact Act.Keeps.bind (h.markConsumed _ _ _) fun _ => Act.Keeps.pure _
  · exact Act.Keeps.pure _

theorem drawOne (table : RandomTable) (consumable : Bool) :
    (resolver.drawOne table consumable).Keeps (Scene.deskwise frame) :=
  Act.Keeps.ite (h.drawConsumable resolver table) (Scene.keeps_deskwise (h.rollOn _ _ _))

theorem drawTexts (table : RandomTable) (request : Resolver.DrawRequest) (count : Nat) :
    (resolver.drawTexts table request count).Keeps (Scene.deskwise frame) := by
  induction count with
  | zero => exact Act.Keeps.pure _
  | succ count ih =>
    refine Act.Keeps.bind (Act.Keeps.attempt (h.drawOne resolver table request.consumable))
      fun drawn => ?_
    split
    · exact Act.Keeps.pure _
    · exact Act.Keeps.pure _
    · exact Act.Keeps.throw _
    · refine Act.Keeps.bind ih fun texts => ?_
      split
      · exact Act.Keeps.pure _
      · exact Act.Keeps.pure _

theorem resolveTable (body : List Char) :
    (resolver.resolveTable body).Keeps (Scene.deskwise frame) := by
  refine Act.Keeps.bind Act.Keeps.get fun scene => ?_
  refine Act.Keeps.bind (Act.Keeps.ofExcept _) fun found => ?_
  split
  · exact Act.Keeps.pure _
  · refine Act.Keeps.bind (Act.Keeps.ofExcept _) fun request => ?_
    refine Act.Keeps.bind (h.drawTexts resolver _ _ _) fun texts => ?_
    split
    · exact Act.Keeps.pure _
    · exact Act.Keeps.pure _

theorem attempt (body : List Char) :
    (resolver.attempt body).Keeps (Scene.deskwise frame) := by
  unfold Resolver.attempt
  cases Expression.ofBody resolver.items.isSome body with
  | range ends => exact h.resolveRange _ _
  | roll formula => exact h.resolveRoll _ _
  | outcome value => exact h.resolveOutcome _
  | sparks word spec => exact h.resolveSparks _ _
  | item category => exact h.resolveItem resolver _
  | table => exact h.resolveTable resolver body

theorem resolveToken (body : List Char) :
    (resolver.resolveToken body).Keeps (Scene.deskwise frame) := by
  refine Act.Keeps.bind (h.attempt resolver body) fun result => ?_
  split
  · exact Act.Keeps.pure _
  · exact Act.Keeps.bind (Scene.keeps_deskwise (h.warn _)) fun _ => Act.Keeps.pure _

theorem passSegment (depth : Int) (state : Resolver.PassState) (segment : Segment) :
    (resolver.passSegment depth state segment).Keeps (Scene.deskwise frame) := by
  cases segment with
  | plain c => exact Act.Keeps.pure _
  | token t =>
    apply Act.Keeps.ite (Act.Keeps.pure _)
    apply Act.Keeps.ite (Act.Keeps.pure _)
    refine Act.Keeps.bind (h.resolveToken resolver _) fun result => ?_
    split
    · exact Act.Keeps.pure _
    · refine Act.Keeps.bind (Act.Keeps.discard (Scene.keeps_deskwise ?_)) fun _ => Act.Keeps.pure _
      exact h.post (by simp [EventDetail.kind]) _

theorem passSegments (depth : Int) (state : Resolver.PassState) (segments : List Segment) :
    (resolver.passSegments depth state segments).Keeps (Scene.deskwise frame) := by
  induction segments generalizing state with
  | nil => exact Act.Keeps.pure _
  | cons segment rest ih =>
    exact Act.Keeps.bind (h.passSegment resolver depth state segment) fun _ =>
      Act.Keeps.bind (ih _) fun _ => Act.Keeps.pure _

theorem pass (depth : Int) (rejected : List (List Char)) (text : List Char) :
    (resolver.pass depth rejected text).Keeps (Scene.deskwise frame) := by
  refine Act.Keeps.bind (h.passSegments resolver depth _ _) fun _ => ?_
  apply Act.Keeps.ite
  · exact Act.Keeps.bind (Act.Keeps.ofExcept _) fun _ => Act.Keeps.pure _
  · exact Act.Keeps.pure _

theorem expand (passes : Nat) (depth : Int) (rejected : List (List Char)) (text : List Char) :
    (resolver.expand passes depth rejected text).Keeps (Scene.deskwise frame) := by
  induction passes generalizing depth rejected text with
  | zero =>
    apply Act.Keeps.ite
    · exact Act.Keeps.bind (Scene.keeps_deskwise (h.warn _)) fun _ => Act.Keeps.pure _
    · exact Act.Keeps.pure _
  | succ passes ih =>
    refine Act.Keeps.bind (h.pass resolver depth rejected text) fun _ => ?_
    exact Act.Keeps.ite (ih _ _ _) (Act.Keeps.pure _)

theorem resolve (text : String) (depth : Int) :
    (resolver.resolve text depth).Keeps (Scene.deskwise frame) :=
  Act.Keeps.bind (h.expand resolver _ _ _ _) fun _ => Act.Keeps.pure _

theorem execute (templates : Keyed String Template) (key : String) :
    (Template.execute resolver templates key).Keeps (Scene.deskwise frame) := by
  unfold Template.execute
  split
  · next t _ =>
    unfold Template.run
    split
    · exact h.resolve resolver _ _
    · exact Act.Keeps.throw _
  · exact Act.Keeps.throw _

end Placeholders

end Desk.Lasting

/-! ### The room for documents -/

namespace Desk

theorem keeps_room_post (detail : EventDetail) (context : Value) :
    (post detail context).Keeps (.fixing (·.room)) := by
  intro desk
  rw [Act.after_of_ok (run_post detail context desk)]
  rfl

theorem keeps_room_record (r : Roll) : (record r).Keeps (.fixing (·.room)) :=
  Act.Keeps.bind (Act.Keeps.modify fun _ => rfl) fun _ => Act.Keeps.discard (keeps_room_post _ _)

theorem keeps_room_turnWheel (number : Nat) : (turnWheel number).Keeps (.fixing (·.room)) := by
  apply Act.Keeps.modifyGet
  intro desk
  split
  · rfl
  · rfl

/-- No step of a desk changes how deep a document may be. -/
theorem room_lasts : Lasting (.fixing (·.room)) where
  toQuiet := .of_steps (fun _ => Act.Keeps.modifyGet fun _ => rfl) keeps_room_record
    (fun _ => keeps_room_post _) keeps_room_turnWheel fun _ => Act.Keeps.modify fun _ => rfl
  warn _ := Act.Keeps.modify fun _ => rfl

end Desk

end TaleLoom
