import TaleLoom.Placeholder.Resolver
import TaleLoom.Proofs.Desk
/-!
What a trial of a placeholder depends on. Notices decide nothing: whatever the author was told before, a
step behind a placeholder ends with the same result or the same fault, and in states that differ at
most in their notices. Nor do the pass mode and the greatest depth, which only say how the passes of a
call go (`Resolver.resolveToken_atPace`).
-/

namespace TaleLoom

namespace Act

variable {σ τ α β γ : Type}

/-- Two ends of a step agree: they have the same result or fault, in states that look the same. -/
inductive Alike (view : σ → τ) : EStateM.Result Fault σ α → EStateM.Result Fault σ α → Prop
  | ok (a : α) {s t : σ} : view s = view t → Alike view (.ok a s) (.ok a t)
  | error (fault : Fault) {s t : σ} : view s = view t → Alike view (.error fault s) (.error fault t)

def Blind (view : σ → τ) (act : Act σ α) : Prop :=
  ∀ s t, view s = view t → Alike view (act s) (act t)

namespace Alike

variable {view : σ → τ} {r r' r'' : EStateM.Result Fault σ α}

theorem refl (r : EStateM.Result Fault σ α) : Alike view r r := by
  cases r with
  | ok a s => exact .ok a rfl
  | error fault s => exact .error fault rfl

theorem symm (h : Alike view r r') : Alike view r' r := by
  cases h with
  | ok a hview => exact .ok a hview.symm
  | error fault hview => exact .error fault hview.symm

theorem trans (h : Alike view r r') (h' : Alike view r' r'') : Alike view r r'' := by
  cases h with
  | ok a hview =>
    cases h' with
    | ok _ hview' => exact .ok a (hview.trans hview')
  | error fault hview =>
    cases h' with
    | error _ hview' => exact .error fault (hview.trans hview')

theorem map {act act' : Act σ α} {s t : σ} (h : Alike view (act s) (act' t)) (f : α → β) :
    Alike view ((f <$> act) s) ((f <$> act') t) := by
  rw [run_map, run_map]
  generalize act s = r, act' t = r' at h ⊢
  cases h with
  | ok a hview => exact .ok (f a) hview
  | error fault hview => exact .error fault hview

theorem of_ok {a : α} {s : σ} (h : Alike view (.ok a s) r) : ∃ t, r = .ok a t ∧ view s = view t := by
  cases h with
  | ok _ hview => exact ⟨_, rfl, hview⟩

theorem of_error {fault : Fault} {s : σ} (h : Alike view (.error fault s) r) :
    ∃ t, r = .error fault t ∧ view s = view t := by
  cases h with
  | error _ hview => exact ⟨_, rfl, hview⟩

end Alike

namespace Blind

variable {view : σ → τ} {act : Act σ α}

theorem of_ok (h : act.Blind view) {s t s' : σ} (hst : view s = view t) {a : α}
    (hs : act s = .ok a s') : ∃ t', act t = .ok a t' ∧ view s' = view t' := by
  have hact := h s t hst
  rw [hs] at hact
  exact hact.of_ok

theorem of_error (h : act.Blind view) {s t s' : σ} (hst : view s = view t) {fault : Fault}
    (hs : act s = .error fault s') : ∃ t', act t = .error fault t' ∧ view s' = view t' := by
  have hact := h s t hst
  rw [hs] at hact
  exact hact.of_error

theorem pure (a : α) : (Pure.pure a : Act σ α).Blind view := fun _ _ h => .ok a h

theorem throw (fault : Fault) : (throw fault : Act σ α).Blind view := fun _ _ h => .error fault h

theorem ofExcept (e : Except Fault α) : (Act.ofExcept e : Act σ α).Blind view := by
  intro s t h
  cases e with
  | ok a => exact .ok a h
  | error fault => exact .error fault h

theorem modify {f : σ → σ} (h : ∀ s t, view s = view t → view (f s) = view (f t)) :
    (modify f : Act σ PUnit).Blind view := by
  intro s t hst
  rw [run_modify, run_modify]
  exact .ok _ (h s t hst)

theorem modifyGet {f : σ → α × σ}
    (h : ∀ s t, view s = view t → (f s).1 = (f t).1 ∧ view (f s).2 = view (f t).2) :
    (modifyGet f : Act σ α).Blind view := by
  intro s t hst
  obtain ⟨hresult, hview⟩ := h s t hst
  rw [run_modifyGet, run_modifyGet, hresult]
  exact .ok _ hview

theorem bind {f : α → Act σ β} (h : act.Blind view) (hf : ∀ a, (f a).Blind view) :
    (act >>= f).Blind view := by
  intro s t hst
  have hact := h s t hst
  rw [run_bind, run_bind]
  generalize act s = r, act t = r' at hact ⊢
  cases hact with
  | ok a hview => exact hf a _ _ hview
  | error fault hview => exact .error fault hview

theorem map {f : α → β} (h : act.Blind view) : (f <$> act).Blind view := by
  rw [map_eq_pure_bind]
  exact h.bind fun a => Blind.pure (f a)

theorem discard (h : act.Blind view) : (discard act : Act σ PUnit).Blind view := map h

theorem attempt (h : act.Blind view) : act.attempt.Blind view := by
  intro s t hst
  have hact := h s t hst
  rw [run_attempt, run_attempt]
  generalize act s = r, act t = r' at hact ⊢
  cases hact with
  | ok a hview => exact .ok _ hview
  | error fault hview => exact .ok _ hview

theorem ite {act' : Act σ α} {p : Prop} [Decidable p] (h : act.Blind view) (h' : act'.Blind view) :
    (if p then act else act').Blind view := by
  split
  · exact h
  · exact h'

/-- A step may read the state, if what it goes on with is the same in states that look the same. -/
theorem reading {f : σ → Act σ β} (hf : ∀ s, (f s).Blind view)
    (hsame : ∀ s t, view s = view t → f s = f t) : (get >>= f : Act σ β).Blind view := by
  intro s t hst
  rw [run_bind, run_bind]
  simp only [run_get, hsame s t hst]
  exact hf t s t hst

end Blind

end Act

namespace Desk

def unnoticed (desk : Desk) : Desk := { desk with notices := #[] }

/-- Desks that differ in notices alone have the same parts otherwise. -/
theorem eq_of_unnoticed {γ : Type} {s t : Desk} (h : s.unnoticed = t.unnoticed) (part : Desk → γ)
    (hpart : ∀ desk : Desk, part desk.unnoticed = part desk := by exact fun _ => rfl) :
    part s = part t := by
  rw [← hpart s, ← hpart t, h]

abbrev Steady {α : Type} (act : Act Desk α) : Prop := act.Blind unnoticed

theorem steady_warn (text : String) : Steady (warn text) :=
  Act.Blind.modify fun _ _ h => h

theorem steady_post (detail : EventDetail) (context : Value) : Steady (post detail context) := by
  intro s t h
  rw [run_post, run_post]
  have hclock : s.clock = t.clock := eq_of_unnoticed h Desk.clock
  have hlog : s.log = t.log := eq_of_unnoticed h Desk.log
  have hposted (desk : Desk) : (desk.posted detail context).unnoticed =
      (desk.unnoticed.posted detail context).unnoticed := rfl
  rw [hclock, hlog]
  exact .ok _ (by rw [hposted s, hposted t, h])

theorem steady_record (r : Roll) : Steady (record r) := by
  refine Act.Blind.bind (Act.Blind.modify fun s t h => ?_) fun _ => (steady_post _ _).discard
  exact congrArg (fun desk : Desk => { desk with rolls := desk.rolls.push r }) h

theorem steady_below (n : Nat) : Steady (below n) := by
  refine Act.Blind.modifyGet fun s t h => ?_
  have hsource : s.source = t.source := eq_of_unnoticed h Desk.source
  refine ⟨by rw [hsource], ?_⟩
  exact congrArg (fun desk : Desk => { desk with source := (desk.source.below n).2 }) h

theorem steady_castFaces (sides count : Nat) : Steady (castFaces sides count) := by
  induction count with
  | zero => exact Act.Blind.pure _
  | succ count ih => exact (steady_below sides).bind fun _ => ih.map

theorem steady_roll (formula : Value) (reason : String) : Steady (roll formula reason) :=
  Act.Blind.bind (Act.Blind.ofExcept _) fun _ => Act.Blind.bind (steady_castFaces _ _) fun _ =>
    Act.Blind.bind (steady_record _) fun _ => Act.Blind.pure _

theorem steady_draw (low high : Int) (reason : String) : Steady (draw low high reason) := by
  refine Act.Blind.ite (Act.Blind.bind (Act.Blind.throw _) fun _ => ?_) ?_
  all_goals
    exact Act.Blind.bind (steady_below _) fun _ => Act.Blind.bind (Act.Blind.ofExcept _) fun _ =>
      Act.Blind.bind (Act.Blind.ofExcept _) fun _ => Act.Blind.bind (steady_record _) fun _ =>
        Act.Blind.pure _

theorem steady_drawPlace (count : Nat) (reason : String) : Steady (drawPlace count reason) :=
  Act.Blind.bind (steady_below _) fun _ =>
    Act.Blind.bind (steady_record _) fun _ => Act.Blind.pure _

theorem steady_choose {α : Type} (items : List α) (reason : String) :
    Steady (choose items reason) := by
  refine Act.Blind.ite (Act.Blind.bind (Act.Blind.throw _) fun _ => ?_) ?_
  all_goals
    refine Act.Blind.bind (steady_drawPlace _ _) fun place => ?_
    split
    · exact Act.Blind.pure _
    · exact Act.Blind.throw _

theorem steady_turnWheel (wheel : Nat) : Steady (turnWheel wheel) := by
  refine Act.Blind.modifyGet fun s t h => ?_
  have hwheels : s.wheels = t.wheels := eq_of_unnoticed h Desk.wheels
  rw [hwheels]
  split
  · next text rest _ =>
    refine ⟨rfl, ?_⟩
    exact congrArg (fun desk : Desk =>
      { desk with wheels := t.wheels.setIfInBounds wheel (rest ++ [text]) }) h
  · exact ⟨rfl, h⟩

theorem steady_replaceFiles (f : FileTree → Except Fault FileTree) :
    Steady (do
      let files ← f (← get).files
      modify fun desk => { desk with files }) := by
  refine Act.Blind.reading (fun desk => ?_) fun s t h => by rw [eq_of_unnoticed h Desk.files]
  refine Act.Blind.bind (Act.Blind.ofExcept _) fun files => Act.Blind.modify fun s t h => ?_
  exact congrArg (fun desk : Desk => { desk with files }) h

theorem steady_makeFolders (p : Path) : Steady (makeFolders p) :=
  steady_replaceFiles fun files => files.makeFolders p

theorem steady_writeText (p : Path) (text : String) : Steady (writeText p text) :=
  steady_replaceFiles fun files => files.write p (.text text)

end Desk

section Tables

open Desk

theorem Generator.steady_run (g : Generator) : Steady g.run := by
  induction g with
  | say text => exact Act.Blind.pure _
  | fail fault => exact Act.Blind.throw _
  | roll formula reason _ ih => exact (steady_roll formula reason).attempt.bind ih
  | draw low high reason _ ih => exact (steady_draw low high reason).attempt.bind ih
  | choose texts reason _ ih => exact (steady_choose texts reason).attempt.bind ih
  | tell context _ ih => exact (steady_post .custom context).discard.bind fun _ => ih
  | turn wheel _ ih => exact (steady_turnWheel wheel).bind ih

theorem Description.steady_render (d : Description) : Steady d.render := by
  cases d with
  | literal text => exact Act.Blind.pure _
  | generated label name generator => exact generator.steady_run

namespace RandomTable

variable (table : RandomTable) (difficulty : Option Int)

theorem steady_reroll (attempts : Nat) (dice : Roll) (row : Option Row) :
    Steady (table.reroll difficulty attempts dice row) := by
  induction attempts generalizing dice row with
  | zero => exact Act.Blind.pure _
  | succ attempts ih =>
    refine Act.Blind.ite (Act.Blind.pure _) ?_
    exact Act.Blind.bind (Desk.steady_roll _ _) fun _ =>
      Act.Blind.bind (Act.Blind.ofExcept _) fun _ => ih _ _

theorem steady_fallback (rerolls : Int) (row : Option Row) : Steady (table.fallback rerolls row) :=
  Act.Blind.ite (Act.Blind.map (steady_choose _ _)) (Act.Blind.pure _)

theorem steady_describe (total : Int) (row : Option Row) : Steady (table.describe total row) := by
  cases row with
  | some row => exact row.description.steady_render
  | none =>
    exact Act.Blind.bind (Act.Blind.ofExcept _) fun _ =>
      Act.Blind.bind (steady_warn _) fun _ => Act.Blind.pure _

theorem steady_roll (rerolls : Int) : Steady (table.roll difficulty rerolls) :=
  Act.Blind.bind (Desk.steady_roll _ _) fun _ => Act.Blind.bind (Act.Blind.ofExcept _) fun _ =>
    Act.Blind.bind (table.steady_reroll _ _ _ _) fun _ =>
      Act.Blind.bind (table.steady_fallback _ _) fun _ =>
        Act.Blind.bind (table.steady_describe _ _) fun _ => Act.Blind.pure _

end RandomTable

theorem Registry.steady_rollOn (table : RandomTable) (difficulty : Option Int) (rerolls : Int) :
    Steady (rollOn table difficulty rerolls) :=
  Act.Blind.bind (table.steady_roll _ _) fun _ =>
    Act.Blind.bind (steady_post _ _).discard fun _ => Act.Blind.pure _

end Tables

namespace Scene

def unnoticed (scene : Scene) : Scene := { scene with desk := scene.desk.unnoticed }

/-- What no step behind a placeholder changes: the tables, and the settings of keywords. -/
def constants (scene : Scene) : Registry × Keyed Value SparkTable × SparkSettings :=
  (scene.registry, scene.sparks.tables, scene.sparks.settings)

/-- Scenes that differ in notices alone have the same parts otherwise. -/
theorem eq_of_unnoticed {γ : Type} {s t : Scene} (h : s.unnoticed = t.unnoticed) (part : Scene → γ)
    (hpart : ∀ scene : Scene, part scene.unnoticed = part scene := by exact fun _ => rfl) :
    part s = part t := by
  rw [← hpart s, ← hpart t, h]

structure Steady {α : Type} (act : Act Scene α) : Prop where
  blind : act.Blind unnoticed
  keeps : act.Keeps (.fixing constants)

namespace Steady

variable {α β γ : Type} {act : Act Scene α}

theorem pure (a : α) : Steady (Pure.pure a : Act Scene α) := ⟨.pure a, .pure a⟩

theorem throw (fault : Fault) : Steady (throw fault : Act Scene α) := ⟨.throw fault, .throw fault⟩

theorem ofExcept (e : Except Fault α) : Steady (Act.ofExcept e : Act Scene α) :=
  ⟨.ofExcept e, .ofExcept e⟩

theorem bind {f : α → Act Scene β} (h : Steady act) (hf : ∀ a, Steady (f a)) : Steady (act >>= f) :=
  ⟨h.blind.bind fun a => (hf a).blind, h.keeps.bind fun a => (hf a).keeps⟩

theorem map {f : α → β} (h : Steady act) : Steady (f <$> act) := ⟨h.blind.map, h.keeps.map⟩

theorem discard (h : Steady act) : Steady (discard act : Act Scene PUnit) :=
  ⟨h.blind.discard, h.keeps.discard⟩

theorem attempt (h : Steady act) : Steady act.attempt := ⟨h.blind.attempt, h.keeps.attempt⟩

theorem ite {act' : Act Scene α} {p : Prop} [Decidable p] (h : Steady act) (h' : Steady act') :
    Steady (if p then act else act') := by
  split
  · exact h
  · exact h'

/-- A step may read anything but the notices. -/
theorem reading {f : Scene → Act Scene β} (hf : ∀ scene, Steady (f scene))
    (hsame : ∀ scene : Scene, f scene.unnoticed = f scene := by exact fun _ => rfl) :
    Steady (get >>= f) :=
  ⟨.reading (fun scene => (hf scene).blind) fun _ _ h => eq_of_unnoticed h f hsame,
    Act.Keeps.get.bind fun scene => (hf scene).keeps⟩

theorem atDesk {act : Act Desk α} (h : Desk.Steady act) : Steady (atDesk act) where
  blind s t hst := by
    have hdesk : s.desk.unnoticed = t.desk.unnoticed :=
      congrArg (fun scene : Scene => scene.desk) hst
    have hview {desk desk' : Desk} (hdesk' : desk.unnoticed = desk'.unnoticed) :
        unnoticed { s with desk } = unnoticed { t with desk := desk' } := by
      have hscene (scene : Scene) (desk : Desk) : unnoticed { scene with desk } =
          { scene.unnoticed with desk := desk.unnoticed } := rfl
      rw [hscene s desk, hscene t desk', hst, hdesk']
    have hact := h _ _ hdesk
    rw [run_atDesk, run_atDesk]
    generalize act s.desk = r, act t.desk = r' at hact ⊢
    cases hact with
    | ok a hdesk' => exact .ok a (hview hdesk')
    | error fault hdesk' => exact .error fault (hview hdesk')
  keeps := keeps_atDesk act fun _ _ => rfl

end Steady

end Scene

namespace SparkLibrary

open Scene

theorem recordUsage_tables {library sparks : SparkLibrary} {millis : Int} {name : Value}
    {keyword : String} (h : library.recordUsage millis name keyword = .ok sparks) :
    sparks.tables = library.tables ∧ sparks.settings = library.settings := by
  unfold recordUsage at h
  cases hkey : name.asKey with
  | error fault => simp [hkey] at h
  | ok key =>
    simp only [hkey, ok_bind, pure_eq_ok, Except.ok.injEq] at h
    subst h
    exact ⟨rfl, rfl⟩

theorem steady_noteUse (name : Value) (keyword : String) : Steady (noteUse name keyword) := by
  constructor
  case blind =>
    intro s t h
    have hsparks : s.sparks = t.sparks := eq_of_unnoticed h Scene.sparks
    have hmillis : s.desk.clock.millis = t.desk.clock.millis :=
      eq_of_unnoticed h fun scene => scene.desk.clock.millis
    simp only [noteUse, Act.run_bind, Act.run_get, Act.run_liftExcept, hsparks, hmillis]
    cases t.sparks.recordUsage t.desk.clock.millis name keyword with
    | error fault => exact .error fault h
    | ok sparks => exact .ok _ (congrArg (fun scene : Scene => { scene with sparks }) h)
  case keeps =>
    intro scene
    simp only [noteUse, Act.after, Act.run_bind, Act.run_get, Act.run_liftExcept]
    cases hrecord : scene.sparks.recordUsage scene.desk.clock.millis name keyword with
    | error fault => rfl
    | ok sparks =>
      obtain ⟨htables, hsettings⟩ := recordUsage_tables hrecord
      show (_, sparks.tables, sparks.settings) = _
      rw [htables, hsettings]
      rfl

theorem steady_drawFrom (size wanted : Nat) (pool : List (String × Value)) (seen : List String) :
    Steady (drawFrom size wanted pool seen) := by
  induction size generalizing wanted pool seen with
  | zero => exact Steady.pure _
  | succ size ih =>
    cases wanted with
    | zero => exact Steady.pure _
    | succ wanted =>
      refine Steady.bind (Steady.atDesk (Desk.steady_drawPlace _ _)) fun place => ?_
      cases pool[place]? with
      | none => exact Steady.pure _
      | some drawn =>
        refine Steady.ite (ih _ _ _) ?_
        exact Steady.bind (steady_noteUse _ _) fun _ => Steady.map (ih _ _ _)

theorem steady_generate (count : Int) (purpose : SparkUse) (given : Option (List SparkTable)) :
    Steady (generate count purpose given) := by
  refine Steady.reading fun scene => ?_
  refine Steady.ite ?_ (steady_drawFrom _ _ _ _)
  exact Steady.bind (Steady.atDesk (Desk.steady_warn _)) fun _ => Steady.pure _

end SparkLibrary

namespace ConsumptionStore

open Scene

theorem steady_persist : Steady persist := by
  refine Steady.reading fun scene => ?_
  dsimp only
  split
  · exact Steady.pure _
  · exact Steady.bind (Steady.atDesk (Desk.steady_makeFolders _)) fun _ =>
      Steady.atDesk (Desk.steady_writeText _ _)

theorem steady_change (f : Keyed String ConsumedRecord → Keyed String ConsumedRecord) :
    Steady (change f) where
  blind := Act.Blind.modify fun _ _ h => congrArg (fun scene : Scene =>
    { scene with store := { scene.store with records := f scene.store.records } }) h
  keeps := Act.Keeps.modify fun _ => rfl

theorem steady_note (table : Value) (story action : String) (entry : Value) :
    Steady (note table story action entry) :=
  Steady.discard (Steady.atDesk (Desk.steady_post _ _))

theorem steady_available (table : RandomTable) (story : String) : Steady (available table story) := by
  refine Steady.bind (Steady.ofExcept _) fun name => Steady.reading fun scene => ?_
  refine Steady.ite (Steady.pure _) ?_
  split
  · exact Steady.bind (steady_change _) fun _ => Steady.bind steady_persist fun _ =>
      Steady.bind (steady_note _ _ _ _) fun _ => Steady.pure _
  · exact Steady.pure _

theorem steady_markConsumed (table : Value) (story entry : String) :
    Steady (markConsumed table story entry) := by
  refine Steady.bind (Steady.ofExcept _) fun name => Steady.reading fun scene => ?_
  refine Steady.ite (Steady.pure _) ?_
  exact Steady.bind (steady_change _) fun _ => Steady.bind steady_persist fun _ =>
    steady_note _ _ _ _

end ConsumptionStore

namespace Resolver

open Scene

theorem steady_resolveRange (body : String) (ends : Option (WrittenInteger × WrittenInteger)) :
    Steady (resolveRange body ends) := by
  unfold resolveRange
  cases ends with
  | none => exact Steady.pure _
  | some ends =>
    refine Steady.bind (Steady.ofExcept _) fun low => Steady.bind (Steady.ofExcept _) fun high => ?_
    refine Steady.ite (Steady.pure _) ?_
    exact Steady.bind (Steady.atDesk (Desk.steady_draw _ _ _)) fun _ =>
      Steady.bind (Steady.ofExcept _) fun _ => Steady.pure _

theorem steady_resolveRoll (body formula : String) : Steady (resolveRoll body formula) := by
  refine Steady.bind (Steady.attempt (Steady.atDesk (Desk.steady_roll _ _))) fun r => ?_
  split
  · exact Steady.bind (Steady.ofExcept _) fun _ => Steady.pure _
  · exact Steady.pure _
  · exact Steady.throw _

theorem steady_resolveOutcome (value : List Char) : Steady (resolveOutcome value) := by
  unfold resolveOutcome
  cases Number.readInteger? value with
  | none => exact Steady.pure _
  | some n =>
    refine Steady.bind (Steady.reading fun scene => ?_) fun _ => Steady.pure _
    exact Steady.atDesk (Registry.steady_rollOn _ _ _)

theorem steady_findSparkTables (names : List String) : Steady (findSparkTables names) := by
  induction names with
  | nil => exact Steady.pure _
  | cons name rest ih =>
    refine Steady.reading fun scene => Steady.bind (Steady.ofExcept _) fun found => ?_
    cases found with
    | none => exact Steady.bind (Steady.atDesk (Desk.steady_warn _)) fun _ => ih
    | some table => exact Steady.map ih

theorem steady_keywordsFrom (count : Int) (names : List String)
    (tables : Option (List SparkTable)) : Steady (keywordsFrom count names tables) := by
  refine Steady.ite (Steady.pure _) ?_
  refine Steady.bind (SparkLibrary.steady_generate _ _ _) fun keywords => ?_
  exact Steady.ite (Steady.pure _) (Steady.pure _)

theorem steady_resolveSparks (word : String) (spec : List Char) :
    Steady (resolveSparks word spec) := by
  refine Steady.bind (Steady.ofExcept _) fun (count, names) => ?_
  refine Steady.ite (steady_keywordsFrom _ _ _) ?_
  exact Steady.bind (steady_findSparkTables _) fun _ => steady_keywordsFrom _ _ _

variable (resolver : Resolver)

theorem steady_resolveItem (category : ItemCategory) : Steady (resolver.resolveItem category) := by
  refine Steady.ite (Steady.pure _) ?_
  exact Steady.bind (Steady.atDesk (Desk.steady_choose _ _)) fun _ => Steady.pure _

theorem steady_drawOne (table : RandomTable) (consumable : Bool) :
    Steady (resolver.drawOne table consumable) := by
  refine Steady.ite ?_ (Steady.atDesk (Registry.steady_rollOn _ _ _))
  refine Steady.bind (ConsumptionStore.steady_available _ _) fun pool => ?_
  refine Steady.bind (Steady.atDesk (Registry.steady_rollOn _ _ _)) fun result => ?_
  split
  · exact Steady.bind (ConsumptionStore.steady_markConsumed _ _ _) fun _ => Steady.pure _
  · exact Steady.pure _

theorem steady_drawTexts (table : RandomTable) (request : DrawRequest) (count : Nat) :
    Steady (resolver.drawTexts table request count) := by
  induction count with
  | zero => exact Steady.pure _
  | succ count ih =>
    refine Steady.bind (Steady.attempt (resolver.steady_drawOne table request.consumable))
      fun drawn => ?_
    split
    · exact Steady.pure _
    · exact Steady.pure _
    · exact Steady.throw _
    · refine Steady.bind ih fun texts => ?_
      split
      · exact Steady.pure _
      · exact Steady.pure _

theorem steady_resolveTable (body : List Char) : Steady (resolver.resolveTable body) := by
  refine Steady.reading fun scene => Steady.bind (Steady.ofExcept _) fun found => ?_
  split
  · exact Steady.pure _
  · refine Steady.bind (Steady.ofExcept _) fun request => ?_
    refine Steady.bind (resolver.steady_drawTexts _ _ _) fun texts => ?_
    split
    · exact Steady.pure _
    · exact Steady.pure _

theorem steady_attempt (body : List Char) : Steady (resolver.attempt body) := by
  unfold attempt
  cases Expression.ofBody resolver.items.isSome body with
  | range ends => exact steady_resolveRange _ _
  | roll formula => exact steady_resolveRoll _ _
  | outcome value => exact steady_resolveOutcome _
  | sparks word spec => exact steady_resolveSparks _ _
  | item category => exact resolver.steady_resolveItem _
  | table => exact resolver.steady_resolveTable body

/-- What an attempt at a placeholder comes to does not depend on what the author was told before. -/
theorem steady_resolveToken (body : List Char) : Steady (resolver.resolveToken body) := by
  refine Steady.bind (resolver.steady_attempt body) fun result => ?_
  split
  · exact Steady.pure _
  · exact Steady.bind (Steady.atDesk (Desk.steady_warn _)) fun _ => Steady.pure _

/-- The resolver with another pass mode and another greatest depth. -/
def atPace (resolver : Resolver) (expandAll : Bool) (maxDepth : Int) : Resolver :=
  { resolver with options :=
    { resolver.options with expandAllPerPass := expandAll, maxDepth } }

variable (expandAll : Bool) (maxDepth : Int)

@[simp] theorem maxDepth_atPace :
    (resolver.atPace expandAll maxDepth).options.maxDepth = maxDepth := rfl

theorem drawTexts_atPace (table : RandomTable) (request : DrawRequest) (count : Nat) :
    (resolver.atPace expandAll maxDepth).drawTexts table request count =
      resolver.drawTexts table request count := by
  induction count with
  | zero => rfl
  | succ count ih =>
    have hdraw : (resolver.atPace expandAll maxDepth).drawOne table request.consumable =
        resolver.drawOne table request.consumable := rfl
    simp only [drawTexts, ih, hdraw]

/-- An attempt at a placeholder knows nothing of the passes that it is made in. -/
theorem attempt_atPace (body : List Char) :
    (resolver.atPace expandAll maxDepth).attempt body = resolver.attempt body := by
  have htable : (resolver.atPace expandAll maxDepth).resolveTable body =
      resolver.resolveTable body := by
    simp only [resolveTable, drawTexts_atPace]
  have hitems : (resolver.atPace expandAll maxDepth).items = resolver.items := rfl
  rw [attempt, attempt, hitems]
  cases Expression.ofBody resolver.items.isSome body with
  | table => exact htable
  | _ => rfl

theorem resolveToken_atPace (body : List Char) :
    (resolver.atPace expandAll maxDepth).resolveToken body = resolver.resolveToken body := by
  have hmark : (resolver.atPace expandAll maxDepth).options.markUnresolved =
      resolver.options.markUnresolved := rfl
  rw [resolveToken, resolveToken, attempt_atPace, hmark]

end Resolver

end TaleLoom
