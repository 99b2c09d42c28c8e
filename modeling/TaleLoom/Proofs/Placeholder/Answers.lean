import TaleLoom.Proofs.Placeholder.Diagnostics
import TaleLoom.Proofs.Table.Coverage
/-!
Placeholders whose answer lies in the tables alone (`Decided`): whatever was drawn before, and from
whatever source, their trials come to the same. Such are a placeholder that names a table with one row
(`decided_of_oneRow`) and one that is always refused (`decided_of_refused`). What takes their place is
flat wherever the row, or the name of a table that cannot be rolled on, is.
-/

namespace TaleLoom

open Text ConsumptionStore

namespace RandomTable

variable {table : RandomTable} {f : Formula} {row : Row} {text : String}

/-- The table has one row, which covers every total that its dice can show, and the text of the row is
written in it. -/
structure HasOneRow (table : RandomTable) (f : Formula) (text : String) (row : Row) : Prop where
  rollable : table.Rollable f
  rows : table.rows = [row]
  covers : ∀ faces, f.Shows faces → row.covers none (f.total faces) = .ok true
  literal : row.description = .literal text

theorem HasOneRow.renders (h : table.HasOneRow f text row) : table.Renders := by
  intro other hother
  rw [h.rows, List.mem_singleton] at hother
  rw [hother, h.literal]
  exact Description.renders_literal text

theorem HasOneRow.sound (h : table.HasOneRow f text row) : table.Sound :=
  ⟨⟨f, h.rollable⟩, fun other hother => (h.renders other hother).firm⟩

theorem hasOneRow_always (name text : String) :
    (always name text).HasOneRow ⟨1, 1, 0⟩ text ⟨.null, .null, .literal text⟩ where
  rollable := rollable_always name text
  rows := rfl
  covers _ _ := rfl
  literal := rfl

theorem gives_describe {total : Int} (hliteral : row.description = .literal text) :
    (table.describe total (some row)).Gives fun description => description = text := by
  rw [describe, hliteral]
  exact Act.Gives.pure rfl

/-- The description of a roll is that of its row. -/
theorem gives_roll_description (difficulty : Option Int) (rerolls : Int) :
    (table.roll difficulty rerolls).Gives fun result =>
      ∀ row text, result.row = some row → row.description = .literal text →
        result.description = text := by
  refine Act.Gives.bind fun dice => Act.Gives.bind fun row => Act.Gives.bind fun (dice, row) =>
    Act.Gives.bind fun row => ?_
  cases row with
  | none => exact Act.Gives.bind fun description => Act.Gives.pure (by rintro row text ⟨⟩)
  | some found =>
    have hdescribe : (table.describe dice.total (some found)).Gives fun description =>
        ∀ text, found.description = .literal text → description = text := by
      intro desk description after hrun text hliteral
      exact gives_describe hliteral desk description after hrun
    refine hdescribe.and_then fun description hdescription => Act.Gives.pure ?_
    rintro row text ⟨⟩ hliteral
    exact hdescription text hliteral

/-- Every roll on a table with one row comes to the text of that row. -/
theorem gives_rollOn_oneRow (h : table.HasOneRow f text row) (rerolls : Int) :
    (Registry.rollOn table none rerolls).Gives fun result => result.description = text := by
  have hroll : (table.roll none rerolls).Gives fun result => result.description = text := by
    intro desk result after hrun
    have hshows := Formula.shows_faces (Formula.pos_of_ofValue h.rollable.formula).2 desk.source
    have hrow : table.rowFor none (f.totalOn desk.source) = .ok (some row) := by
      have hcovers : row.covers none (f.totalOn desk.source) = .ok true := h.covers _ hshows
      simp [rowFor, h.rows, Row.lastCovering_eq, Row.search, hcovers]
    obtain ⟨result', after', hrun', -, hsome⟩ := run_roll_of_some h.rollable
      (h.renders row (mem_of_rowFor hrow)) hrow rerolls
    obtain rfl : result = result' := (EStateM.Result.ok.inj (hrun.symm.trans hrun')).1
    exact gives_roll_description none rerolls desk result after hrun row text hsome h.literal
  exact hroll.and_then fun result hresult => Act.Gives.bind fun _ => Act.Gives.pure hresult

/-- A table whose formula is refused never comes to a result. -/
theorem never_rollOn {fault : Fault} (h : Formula.ofValue table.formula = .error fault)
    (rerolls : Int) : (Registry.rollOn table none rerolls).Gives fun _ => False := by
  have hdice (reason : String) : (Desk.roll table.formula reason).Gives fun _ => False := by
    intro desk rolled after hrun
    rw [Desk.run_roll_error h] at hrun
    cases hrun
  have hroll : (table.roll none rerolls).Gives fun _ => False :=
    (hdice _).and_then fun _ => False.elim
  exact hroll.and_then fun _ => False.elim

end RandomTable

namespace ConsumptionStore

theorem gives_available_formula (table : RandomTable) (story : String) :
    (available table story).Gives fun pool => pool.formula = table.formula := by
  refine Act.Gives.bind fun name => Act.Gives.bind fun scene => ?_
  refine Act.Gives.ite (Act.Gives.pure rfl) ?_
  split
  · exact Act.Gives.bind fun _ => Act.Gives.bind fun _ => Act.Gives.bind fun _ => Act.Gives.pure rfl
  · exact Act.Gives.pure rfl

/-- What is left of a table with one row is the table. -/
theorem gives_available_oneRow {table : RandomTable} {row : Row} (h : table.rows = [row])
    (story : String) : (available table story).Gives fun pool => pool = table := by
  refine Act.Gives.bind fun name => Act.Gives.bind fun scene => ?_
  refine Act.Gives.ite (Act.Gives.pure rfl) ?_
  split
  · exact Act.Gives.bind fun _ => Act.Gives.bind fun _ => Act.Gives.bind fun _ => Act.Gives.pure rfl
  · next rows hsome =>
    refine Act.Gives.pure ?_
    have hrows : remaining table.rows (scene.store.items name story) = table.rows := by
      rw [h] at hsome ⊢
      unfold remaining at hsome ⊢
      by_cases hrow : row.identity ∈ scene.store.items name story
      · simp [hrow] at hsome
      · simp [hrow]
    rw [hrows]
    rfl

end ConsumptionStore

namespace Resolver

open Scene

variable {resolver : Resolver} {base : Scene} {t : Token}

theorem gives_atDesk {α : Type} {p : α → Prop} {act : Act Desk α} (h : act.Gives p) :
    (atDesk act).Gives p := by
  intro scene a after hrun
  rw [run_atDesk] at hrun
  split at hrun
  · next b desk hdesk =>
    cases hrun
    exact h scene.desk a desk hdesk
  · cases hrun

/-- In some scene with the tables of `base`, a trial of the placeholder comes to this. -/
def Returns (resolver : Resolver) (base : Scene) (t : Token) (found : Option Value) : Prop :=
  ∃ scene after, scene.constants = base.constants ∧
    resolver.resolveToken (trim t.body) scene = .ok found after

structure Decided (answers : Token → Option Value → Prop) (t : Token) : Prop where
  unique : ∀ found found', answers t found → answers t found' → found = found'
  flat : ∀ v, answers t (some v) → ∃ s : String, v = .text s ∧ Flat s.toList

def shown (resolver : Resolver) : Attempt → Option Value
  | .ok v => v.present?
  | .error d => if resolver.options.markUnresolved then some (.text d.message) else none

theorem attempt_of_returns {found : Option Value} (h : resolver.Returns base t found) :
    ∃ scene attempt after, scene.constants = base.constants ∧
      resolver.attempt (trim t.body) scene = .ok attempt after ∧ found = resolver.shown attempt := by
  obtain ⟨scene, last, htables, hrun⟩ := h
  have htoken := resolver.run_resolveToken (trim t.body) scene
  obtain ⟨attempt, after, hattempt, -⟩ := Act.parts_of_bind hrun
  refine ⟨scene, attempt, after, htables, hattempt, ?_⟩
  rw [hattempt, hrun] at htoken
  cases attempt with
  | ok v => exact (EStateM.Result.ok.inj htoken).1
  | error d => exact (EStateM.Result.ok.inj htoken).1

section OneRow

/-- The placeholder names a table with one row, whose text is flat. -/
def NamesOneRow (resolver : Resolver) (base : Scene) (t : Token) : Prop :=
  ∃ table f text row, resolver.NamesTable base t table ∧ table.HasOneRow f text row ∧
    Flat text.toList

theorem namesOneRow_always {name text : String}
    (h : resolver.NamesTable base t (.always name text)) (hflat : Flat text.toList) :
    resolver.NamesOneRow base t :=
  ⟨_, _, _, _, h, RandomTable.hasOneRow_always name text, hflat⟩

theorem gives_drawOne_oneRow {table : RandomTable} {f : Formula} {text : String} {row : Row}
    (h : table.HasOneRow f text row) (consumable : Bool) :
    (resolver.drawOne table consumable).Gives fun result => result.description = text := by
  have hroll {pool : RandomTable} (hpool : pool = table) (rerolls : Int) :
      (atDesk (Registry.rollOn pool none rerolls)).Gives fun result => result.description = text :=
    hpool ▸ gives_atDesk (RandomTable.gives_rollOn_oneRow h rerolls)
  refine Act.Gives.ite ?_ (hroll rfl 0)
  refine (gives_available_oneRow h.rows _).and_then fun pool hpool => ?_
  refine (hroll hpool 50).and_then fun result hresult => ?_
  split
  · exact Act.Gives.bind fun _ => Act.Gives.pure hresult
  · exact Act.Gives.pure hresult

/-- Every text that is drawn from a table with one row is the text of that row, with the modifiers. -/
theorem drawTexts_oneRow {table : RandomTable} {f : Formula} {text : String} {row : Row}
    (h : table.HasOneRow f text row) {request : DrawRequest} {count : Nat} {scene after : Scene}
    {result : Except Diagnostic (List String)}
    (hrun : resolver.drawTexts table request count scene = .ok result after) :
    result = .ok (List.replicate count (inflect text request.modifiers)) := by
  obtain ⟨drawn, rfl, hlength, hdrawn⟩ := gives_drawTexts h.sound
    (gives_drawOne_oneRow h request.consumable) count scene result after hrun
  refine congrArg Except.ok (List.eq_replicate_iff.2 ⟨hlength, fun s hs => ?_⟩)
  obtain ⟨result, hresult, rfl⟩ := hdrawn s hs
  rw [hresult]

theorem decided_of_oneRow (h : resolver.NamesOneRow base t) : Decided (resolver.Returns base) t := by
  obtain ⟨table, f, text, row, hnamed, hone, hflat⟩ := h
  have hreturns {found : Option Value} (hfound : resolver.Returns base t found) :
      ∃ request, DrawRequest.ofParts table (tableParts (trim t.body)).2 = .ok request ∧
        found = some (.text (join ", "
          (List.replicate request.picks (inflect text request.modifiers)))) := by
    obtain ⟨scene, attempt, after, htables, hrun, rfl⟩ := attempt_of_returns hfound
    simp only [Resolver.attempt, hnamed.read] at hrun
    obtain ⟨request, result, hrequest, hdraws, rfl⟩ := draws_of_resolveTable htables hnamed.found hrun
    obtain rfl := drawTexts_oneRow hone hdraws
    exact ⟨request, hrequest, rfl⟩
  constructor
  case unique =>
    intro found found' hfound hfound'
    obtain ⟨request, hrequest, rfl⟩ := hreturns hfound
    obtain ⟨request', hrequest', rfl⟩ := hreturns hfound'
    obtain rfl := Except.ok.inj (hrequest.symm.trans hrequest')
    rfl
  case flat =>
    intro v hv
    obtain ⟨request, -, hvalue⟩ := hreturns hv
    refine ⟨_, Option.some.inj hvalue, flat_join fun s hs => ?_⟩
    rw [List.eq_of_mem_replicate hs]
    exact flat_inflect hflat _

end OneRow

section Refused

/-- Every attempt at the placeholder that comes to an end is refused. -/
def AlwaysRefused (resolver : Resolver) (base : Scene) (t : Token) : Prop :=
  ∀ scene attempt after, scene.constants = base.constants →
    resolver.attempt (trim t.body) scene = .ok attempt after → ∃ d, attempt = .error d

theorem alwaysRefused_of_unknown (hread : Expression.ofBody resolver.items.isSome (trim t.body) = .table)
    (hfind : base.registry.find (tableParts (trim t.body)).1 = .ok none) :
    resolver.AlwaysRefused base t := by
  intro scene attempt after htables hrun
  have hregistry : scene.registry = base.registry := congrArg Prod.fst htables
  simp only [Resolver.attempt, hread, run_resolveTable, hregistry, hfind] at hrun
  cases hrun
  exact ⟨_, rfl⟩

/-- A request asks for one draw at least. -/
theorem DrawRequest.picks_pos {table : RandomTable} {parts : List (List Char)} {request : DrawRequest}
    (h : DrawRequest.ofParts table parts = .ok request) : 0 < request.picks := by
  have hadd {first next : DrawRequest} {part : List Char} (hfirst : 0 < first.picks)
      (hnext : first.add part = .ok next) : 0 < next.picks := by
    unfold DrawRequest.add at hnext
    split at hnext
    · cases hnext
      exact hfirst
    split at hnext
    · cases hnext
      exact hfirst
    split at hnext
    · split at hnext
      · cases hnext
        exact Nat.lt_min.2 ⟨Nat.lt_of_lt_of_le Nat.one_pos (Nat.le_max_right _ 1), by decide⟩
      · cases hnext
    · cases hnext
      exact hfirst
  have hall (parts : List (List Char)) (first : DrawRequest) (hfirst : 0 < first.picks)
      (hrun : parts.foldlM DrawRequest.add first = .ok request) : 0 < request.picks := by
    induction parts generalizing first with
    | nil =>
      cases hrun
      exact hfirst
    | cons part rest ih =>
      rw [List.foldlM_cons] at hrun
      cases hnext : first.add part with
      | error fault =>
        rw [hnext] at hrun
        cases hrun
      | ok next =>
        rw [hnext] at hrun
        exact ih next (hadd hfirst hnext) hrun
  exact hall parts _ Nat.one_pos h

theorem never_drawOne {table : RandomTable} {fault : Fault}
    (h : Formula.ofValue table.formula = .error fault) (consumable : Bool) :
    (resolver.drawOne table consumable).Gives fun _ => False := by
  refine Act.Gives.ite ?_ (gives_atDesk (RandomTable.never_rollOn h 0))
  refine (gives_available_formula table _).and_then fun pool hpool => ?_
  rw [← hpool] at h
  exact (gives_atDesk (RandomTable.never_rollOn h 50)).and_then fun _ => False.elim

/-- A table whose formula is refused is never drawn from. -/
theorem alwaysRefused_of_formula {table : RandomTable} {fault : Fault}
    (htable : resolver.NamesTable base t table)
    (hformula : Formula.ofValue table.formula = .error fault) : resolver.AlwaysRefused base t := by
  intro scene attempt after htables hrun
  simp only [Resolver.attempt, htable.read] at hrun
  obtain ⟨request, result, hrequest, hdraws, rfl⟩ := draws_of_resolveTable htables htable.found hrun
  obtain ⟨count, hcount⟩ := Nat.exists_eq_add_one.2 (DrawRequest.picks_pos hrequest)
  rw [hcount] at hdraws
  obtain ⟨drawn, next, hfirst, hdraws⟩ := Act.parts_of_bind hdraws
  rw [Act.run_attempt] at hfirst
  cases hone : resolver.drawOne table request.consumable scene with
  | ok drawn next => exact (never_drawOne hformula _ scene drawn next hone).elim
  | error fault next =>
    rw [hone] at hfirst
    cases hfirst
    cases fault <;> cases hdraws <;> exact ⟨_, rfl⟩

theorem decided_of_refused (ht : t.Proper) (h : resolver.AlwaysRefused base t)
    (hnames : resolver.options.markUnresolved = true →
      ∀ table, resolver.NamesTable base t table → Flat table.name.plain.toList) :
    Decided (resolver.Returns base) t := by
  obtain ⟨only, honly, hmessage⟩ := refused_only resolver base ht
  have hreturns {found : Option Value} (hfound : resolver.Returns base t found) :
      found = resolver.shown (.error only) := by
    obtain ⟨scene, attempt, after, htables, hrun, rfl⟩ := attempt_of_returns hfound
    obtain ⟨d, rfl⟩ := h scene attempt after htables hrun
    rw [honly d ⟨scene, after, htables, hrun⟩]
  constructor
  case unique => exact fun found found' hfound hfound' => (hreturns hfound).trans (hreturns hfound').symm
  case flat =>
    intro v hv
    have hvalue := hreturns hv
    cases hmark : resolver.options.markUnresolved with
    | false => simp [shown, hmark] at hvalue
    | true =>
      simp only [shown, hmark, if_true, Option.some.injEq] at hvalue
      refine ⟨only.message, hvalue, ?_⟩
      rcases hmessage with hflat | ⟨table, htable, rfl⟩
      · exact hflat
      · exact flat_bracketed (by decide) (hnames hmark table htable)

end Refused

end Resolver

end TaleLoom
