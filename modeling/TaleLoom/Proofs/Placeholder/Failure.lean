import TaleLoom.Proofs.Placeholder.Passes
import TaleLoom.Proofs.Placeholder.TableBreaks
/-!
When a call that expands a text fails: exactly when one of its trials breaks it (`resolve_fails_iff`).
A trial breaks a call by failing, or by putting a value that is no text in a placeholder's place, over
which the pass stumbles in the end.
-/

namespace TaleLoom

open Text

namespace Resolver

open Attempt

/-- An attempt at the text of a placeholder breaks the call. -/
def Breaks (resolver : Resolver) (body : List Char) (scene : Scene) : Prop :=
  match Expression.ofBody resolver.items.isSome body with
  | .range ends => RangeBreaks ends
  | .roll formula => RollBreaks (String.ofList formula) scene.desk.source
  | .outcome value => OutcomeBreaks value scene
  | .sparks word spec => SparksBreak word spec scene
  | .item category => resolver.ItemBreaks category scene.desk.source
  | .table => resolver.TableBreaks body scene

def Misfits (resolver : Resolver) (body : List Char) (scene : Scene) : Prop :=
  ∃ v t, resolver.attempt body scene = .ok (.ok v) t ∧ v ≠ .null ∧ ∀ s, v ≠ .text s

theorem not_misfits_of_gives {resolver : Resolver} {body : List Char}
    (h : (resolver.attempt body).Gives IsText) (scene : Scene) : ¬ resolver.Misfits body scene := by
  rintro ⟨v, t, hrun, -, hv⟩
  obtain ⟨s, hs⟩ := h scene _ t hrun v rfl
  exact hv s hs

theorem misfits_item_iff {resolver : Resolver} {body : List Char} {category : ItemCategory}
    (h : Expression.ofBody resolver.items.isSome body = .item category) (scene : Scene) :
    ¬ (resolver.attempt body).Fails scene ∧
      (resolver.Misfits body scene ↔ resolver.ItemBreaks category scene.desk.source) := by
  have hattempt : resolver.attempt body = resolver.resolveItem category := by
    simp only [attempt, h]
  rw [Misfits, hattempt, ItemBreaks]
  by_cases hnone : resolver.candidates category = []
  · have hrun := run_resolveItem_none hnone scene
    exact ⟨Act.failsWith_of_ok hrun, by simp [hrun, hnone]⟩
  · obtain ⟨after, hrun⟩ := run_resolveItem hnone scene
    exact ⟨Act.failsWith_of_ok hrun, by simp [hrun, hnone]⟩

/-- An attempt breaks the call by failing or by giving a value that is no text. -/
theorem breaks_iff (resolver : Resolver) (body : List Char) (scene : Scene) :
    resolver.Breaks body scene ↔
      (resolver.attempt body).Fails scene ∨ resolver.Misfits body scene := by
  have hgives (h : (resolver.attempt body).Gives IsText) :
      ((resolver.attempt body).Fails scene ∨ resolver.Misfits body scene) ↔
        (resolver.attempt body).Fails scene := by
    simp only [not_misfits_of_gives h scene, or_false]
  cases hbody : Expression.ofBody resolver.items.isSome body with
  | range ends =>
    have hattempt : resolver.attempt body = resolveRange (String.ofList body) ends := by
      simp only [attempt, hbody]
    rw [hgives (hattempt ▸ gives_resolveRange _ _), hattempt, fails_resolveRange]
    simp only [Breaks, hbody]
  | roll formula =>
    have hattempt : resolver.attempt body =
        resolveRoll (String.ofList body) (String.ofList formula) := by
      simp only [attempt, hbody]
    rw [hgives (hattempt ▸ gives_resolveRoll _ _), hattempt, fails_resolveRoll]
    simp only [Breaks, hbody]
  | outcome value =>
    have hattempt : resolver.attempt body = resolveOutcome value := by
      simp only [attempt, hbody]
    rw [hgives (hattempt ▸ gives_resolveOutcome _), hattempt, fails_resolveOutcome]
    simp only [Breaks, hbody]
  | sparks word spec =>
    have hattempt : resolver.attempt body = resolveSparks word spec := by
      simp only [attempt, hbody]
    rw [hgives (hattempt ▸ gives_resolveSparks _ _), hattempt, fails_resolveSparks]
    simp only [Breaks, hbody]
  | item category =>
    obtain ⟨hfails, hmisfits⟩ := misfits_item_iff hbody scene
    simp only [Breaks, hbody, hfails, hmisfits, false_or]
  | table =>
    have hattempt : resolver.attempt body = resolver.resolveTable body := by
      simp only [attempt, hbody]
    rw [hgives (hattempt ▸ gives_resolveTable _ _), hattempt, fails_resolveTable]
    simp only [Breaks, hbody]

end Resolver

namespace Trial

def Breaks (resolver : Resolver) (trial : Trial) : Prop :=
  resolver.Breaks (trim trial.token.body) trial.scene

/-- A trial breaks its call by failing or by giving a value that is no text. -/
theorem breaks_iff (resolver : Resolver) (trial : Trial) :
    trial.Breaks resolver ↔
      match trial.outcome resolver with
      | .ok none _ => False
      | .ok (some v) _ => ∀ s, v ≠ .text s
      | .error _ _ => True := by
  have hrun := resolver.run_resolveToken (trim trial.token.body) trial.scene
  rw [Breaks, Resolver.breaks_iff, Act.fails_iff, Resolver.Misfits, outcome]
  cases hattempt : resolver.attempt (trim trial.token.body) trial.scene with
  | error fault after =>
    simp only [hattempt] at hrun
    simp [hrun]
  | ok attempt after =>
    cases attempt with
    | ok v =>
      simp only [hattempt] at hrun
      cases v <;> simp [hrun, Value.present?]
    | error d =>
      simp only [hattempt] at hrun
      cases hmark : resolver.options.markUnresolved <;> simp [hrun, hmark]

end Trial

namespace Resolver

variable {resolver : Resolver} {depth : Int} {state : PassState} {segments : List Segment}
  {scene after : Scene} {trials : List Trial} {pieces : List Value} {last : Except Fault PassState}

theorem pieceText_error_iff {piece : Value} :
    (∃ fault, pieceText piece = .error fault) ↔ ∀ s, piece ≠ .text s := by
  cases piece <;> simp [pieceText]

theorem joinPieces_error_iff :
    (∃ fault, joinPieces pieces = .error fault) ↔ ∃ piece ∈ pieces, ∀ s, piece ≠ .text s := by
  induction pieces with
  | nil => simp [joinPieces, Except.map]
  | cons piece rest ih =>
    rw [List.exists_mem_cons_iff, ← ih, ← pieceText_error_iff, joinPieces_cons]
    cases pieceText piece with
    | error fault => simp
    | ok cs => cases joinPieces rest <;> simp [Except.map]

namespace PassRun

/-- One of the trials breaks the call exactly where the pass fails or leaves a piece that is no text. -/
theorem breaks_iff (h : PassRun resolver depth state segments scene trials pieces last after) :
    (∃ trial ∈ trials, trial.Breaks resolver) ↔
      (∃ fault, last = .error fault) ∨ ∃ piece ∈ pieces, ∀ s, piece ≠ .text s := by
  have hkept (segment : Segment) : ¬ ∀ s, segment.kept ≠ .text s := fun hs => hs _ rfl
  induction h with
  | done state scene => simp
  | skipped _ _ ih => simp only [List.exists_mem_cons_iff, hkept, false_or, ih]
  | rejected _ hout _ ih =>
    rw [List.exists_mem_cons_iff, List.exists_mem_cons_iff, Trial.breaks_iff, hout]
    simp only [hkept, false_or, ih]
  | replaced _ hout _ ih =>
    rw [List.exists_mem_cons_iff, List.exists_mem_cons_iff, Trial.breaks_iff, hout]
    simp only [ih]
    exact or_left_comm
  | failed _ hout =>
    rw [List.exists_mem_cons_iff, Trial.breaks_iff, hout]
    simp

/-- A piece that is no text stands in the place of a placeholder. -/
theorem expansionsOf_ne_nil (h : PassRun resolver depth state segments scene trials pieces last after)
    (hpiece : ∃ piece ∈ pieces, ∀ s, piece ≠ .text s) : resolver.expansionsOf trials ≠ [] := by
  have hkept (segment : Segment) : ¬ ∀ s, segment.kept ≠ .text s := fun hs => hs _ rfl
  induction h with
  | done state scene => simp at hpiece
  | skipped _ _ ih =>
    simp only [List.exists_mem_cons_iff, hkept, false_or] at hpiece
    exact ih hpiece
  | rejected _ hout _ ih =>
    simp only [List.exists_mem_cons_iff, hkept, false_or] at hpiece
    rw [expansionsOf_of_rejected hout]
    exact ih hpiece
  | replaced _ hout _ _ =>
    rw [expansionsOf_of_replaced hout]
    exact List.cons_ne_nil _ _
  | failed _ _ => simp at hpiece

end PassRun

/-- A call fails exactly where one of its trials breaks it. -/
theorem ExpandRun.breaks_iff {count : Nat} {rejected : List (List Char)} {text : List Char}
    {passes : List PassTrail} {last : Except Fault (List Char)}
    (h : ExpandRun resolver count depth rejected text scene passes last after) :
    (∃ trial ∈ passes.flatMap (·.trials), trial.Breaks resolver) ↔
      ∃ fault, last = .error fault := by
  induction h with
  | exhausted depth rejected text scene => simp
  | settled hpass hreplaced =>
    have hexpansions : ¬ resolver.expansionsOf _ ≠ [] := fun hne =>
      absurd (hpass.replaced_iff.2 (Or.inr hne)) (by simp [hreplaced])
    have hpieces := mt hpass.expansionsOf_ne_nil hexpansions
    simp only [List.flatMap_singleton, hpass.breaks_iff, hpieces, reduceCtorEq, exists_false, or_self]
  | @continued _ _ _ _ _ _ _ _ _ pieces _ _ _ hpass _ hjoin _ ih =>
    have hpieces : ¬ ∃ piece ∈ pieces, ∀ s, piece ≠ .text s := by
      rw [← joinPieces_error_iff, hjoin]
      simp
    simp only [List.flatMap_cons, List.mem_append, or_and_right, exists_or, hpass.breaks_iff,
      hpieces, reduceCtorEq, exists_false, false_or, ih]
  | failed hpass =>
    simp [hpass.breaks_iff]
  | broken hpass _ hjoin =>
    have hpieces := joinPieces_error_iff.1 ⟨_, hjoin⟩
    simp only [List.flatMap_singleton, hpass.breaks_iff, hpieces, or_true, Except.error.injEq,
      exists_eq']

/-- Expanding a text fails exactly where one of its trials breaks the call. -/
theorem resolve_fails_iff (resolver : Resolver) (text : String) (depth : Int) (scene : Scene) :
    (resolver.resolve text depth).Fails scene ↔
      ∃ trial ∈ resolver.callTrials text depth scene, trial.Breaks resolver := by
  obtain ⟨last, after, hrun, hresolve⟩ := resolver.callRun text depth scene
  rw [Act.fails_iff, hresolve, callTrials, hrun.breaks_iff]
  cases last <;> simp

end Resolver

end TaleLoom
