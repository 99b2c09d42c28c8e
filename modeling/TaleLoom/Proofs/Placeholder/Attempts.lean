import TaleLoom.Proofs.Placeholder.Trail
/-!
What an attempt at a placeholder gives, and what takes the placeholder's place. All kinds but one give a
diagnostic or a text; an item may have any value for a name. A placeholder is left in the text where its
attempt ends in a diagnostic that is not marked, or where the item that is drawn has no name.
-/

namespace TaleLoom

open Text

def Attempt.IsText (attempt : Attempt) : Prop := ∀ v, attempt = .ok v → ∃ s, v = .text s

namespace Attempt

theorem isText_diagnostic (d : Diagnostic) : IsText (.error d) := by
  rintro v ⟨⟩

theorem isText_text (s : String) : IsText (.ok (.text s)) := by
  rintro v ⟨⟩
  exact ⟨s, rfl⟩

end Attempt

namespace Resolver

open Attempt

theorem gives_resolveRange (body : String) (ends : Option (WrittenInteger × WrittenInteger)) :
    (resolveRange body ends).Gives IsText := by
  cases ends with
  | none => exact Act.Gives.pure (isText_diagnostic _)
  | some ends =>
    refine Act.Gives.bind fun low => Act.Gives.bind fun high => ?_
    refine Act.Gives.ite (Act.Gives.pure (isText_diagnostic _)) ?_
    exact Act.Gives.bind fun n => Act.Gives.bind fun text => Act.Gives.pure (isText_text _)

theorem gives_resolveRoll (body formula : String) : (resolveRoll body formula).Gives IsText := by
  refine Act.Gives.bind fun rolled => ?_
  split
  · exact Act.Gives.bind fun text => Act.Gives.pure (isText_text _)
  · exact Act.Gives.pure (isText_diagnostic _)
  · exact Act.Gives.throw _

theorem gives_resolveOutcome (value : List Char) : (resolveOutcome value).Gives IsText := by
  unfold resolveOutcome
  split
  · exact Act.Gives.pure (isText_diagnostic _)
  · exact Act.Gives.bind fun result => Act.Gives.pure (isText_text _)

theorem gives_keywordsFrom (count : Int) (names : List String) (tables : Option (List SparkTable)) :
    (keywordsFrom count names tables).Gives IsText := by
  refine Act.Gives.ite (Act.Gives.pure (isText_diagnostic _)) (Act.Gives.bind fun keywords => ?_)
  exact Act.Gives.ite (Act.Gives.pure (isText_diagnostic _)) (Act.Gives.pure (isText_text _))

theorem gives_resolveSparks (word : String) (spec : List Char) :
    (resolveSparks word spec).Gives IsText := by
  refine Act.Gives.bind fun request => ?_
  refine Act.Gives.ite (gives_keywordsFrom _ _ _) ?_
  exact Act.Gives.bind fun tables => gives_keywordsFrom _ _ _

theorem gives_resolveTable (resolver : Resolver) (body : List Char) :
    (resolver.resolveTable body).Gives IsText := by
  refine Act.Gives.bind fun scene => Act.Gives.bind fun found => ?_
  split
  · exact Act.Gives.pure (isText_diagnostic _)
  · refine Act.Gives.bind fun request => Act.Gives.bind fun texts => ?_
    split
    · exact Act.Gives.pure (isText_diagnostic _)
    · exact Act.Gives.pure (isText_text _)

def candidates (resolver : Resolver) (category : ItemCategory) : List Item :=
  (resolver.items.getD []).filter (·.category = category)

theorem run_resolveItem_none {resolver : Resolver} {category : ItemCategory}
    (h : resolver.candidates category = []) (scene : Scene) :
    resolver.resolveItem category scene = .ok (.error (.noItems category)) scene := by
  have hnone : ((resolver.items.getD []).filter (·.category = category)).isEmpty = true :=
    List.isEmpty_iff.2 h
  simp only [resolveItem, hnone, if_true, Act.run_pure]

theorem run_resolveItem {resolver : Resolver} {category : ItemCategory}
    (h : resolver.candidates category ≠ []) (scene : Scene) :
    ∃ after, resolver.resolveItem category scene =
      .ok (.ok (Desk.chosen (resolver.candidates category) h scene.desk.source).name) after := by
  have hsome : ((resolver.items.getD []).filter (·.category = category)).isEmpty = false :=
    List.isEmpty_eq_false_iff.2 h
  obtain ⟨desk, hchoose⟩ : ∃ desk, Desk.choose
      ((resolver.items.getD []).filter (·.category = category)) ("random " ++ lower category.name)
        scene.desk = .ok (Desk.chosen (resolver.candidates category) h scene.desk.source) desk :=
    ⟨_, Desk.run_choose h _ _⟩
  simp only [resolveItem, hsome, Bool.false_eq_true, if_false, Act.run_bind, Act.run_pure,
    Scene.run_liftDesk, Scene.run_atDesk, hchoose]
  exact ⟨_, rfl⟩

def ItemNameless (resolver : Resolver) (category : ItemCategory) (source : Source) : Prop :=
  ∃ h : resolver.candidates category ≠ [],
    (Desk.chosen (resolver.candidates category) h source).name = .null

def Nameless (resolver : Resolver) (body : List Char) (scene : Scene) : Prop :=
  ∃ category, Expression.ofBody resolver.items.isSome body = .item category ∧
    resolver.ItemNameless category scene.desk.source

def Named (resolver : Resolver) : Prop := ∀ item ∈ resolver.items.getD [], item.name ≠ .null

theorem Named.not_nameless {resolver : Resolver} (h : resolver.Named) (body : List Char)
    (scene : Scene) : ¬ resolver.Nameless body scene := by
  rintro ⟨category, -, hnone, hnull⟩
  have hmem := Desk.chosen_mem (resolver.candidates category) hnone scene.desk.source
  exact h _ (List.mem_filter.1 hmem).1 hnull

/-- Nothing but an item without a name gives nothing. -/
theorem nameless_of_null {resolver : Resolver} {body : List Char} {scene after : Scene}
    (h : resolver.attempt body scene = .ok (.ok .null) after) : resolver.Nameless body scene := by
  have hnever (hgives : (resolver.attempt body).Gives IsText) : resolver.Nameless body scene := by
    obtain ⟨s, hs⟩ := hgives scene _ after h .null rfl
    cases hs
  cases hbody : Expression.ofBody resolver.items.isSome body with
  | range ends => exact hnever (by simpa only [attempt, hbody] using gives_resolveRange _ ends)
  | roll formula => exact hnever (by simpa only [attempt, hbody] using gives_resolveRoll _ _)
  | outcome value => exact hnever (by simpa only [attempt, hbody] using gives_resolveOutcome value)
  | sparks word spec => exact hnever (by simpa only [attempt, hbody] using gives_resolveSparks word spec)
  | table => exact hnever (by simpa only [attempt, hbody] using gives_resolveTable resolver body)
  | item category =>
    refine ⟨category, hbody, ?_⟩
    simp only [attempt, hbody] at h
    by_cases hnone : resolver.candidates category = []
    · rw [run_resolveItem_none hnone] at h
      cases h
    · obtain ⟨last, hrun⟩ := run_resolveItem hnone scene
      rw [hrun] at h
      exact ⟨hnone, Except.ok.inj (EStateM.Result.ok.inj h).1⟩

def refusal (body : List Char) (d : Diagnostic) : Notice :=
  ⟨.warning, "Could not resolve placeholder '" ++ String.ofList body ++ "': " ++ d.message⟩

/-- What takes a placeholder's place is what the attempt gives; only the attempt can fail. -/
theorem run_resolveToken (resolver : Resolver) (body : List Char) (scene : Scene) :
    match resolver.attempt body scene with
    | .ok (.ok v) after => resolver.resolveToken body scene = .ok v.present? after
    | .ok (.error d) after => resolver.resolveToken body scene =
        .ok (if resolver.options.markUnresolved then some (.text d.message) else none)
          (after.told [refusal body d])
    | .error fault after => resolver.resolveToken body scene = .error fault after := by
  cases hrun : resolver.attempt body scene with
  | error fault after => simp only [resolveToken, Act.run_bind, hrun]
  | ok attempt after =>
    cases attempt with
    | ok v => simp only [resolveToken, Act.run_bind, hrun, Act.run_pure]
    | error d =>
      simp only [resolveToken, Act.run_bind, hrun, Scene.run_liftDesk, Scene.run_atDesk,
        Desk.run_warn_told, Act.run_pure]
      rfl

section Attempts

variable {resolver : Resolver} {body : List Char} {scene after : Scene}

theorem run_resolveToken_answered {v : Value} (h : resolver.attempt body scene = .ok (.ok v) after) :
    resolver.resolveToken body scene = .ok v.present? after := by
  have hrun := resolver.run_resolveToken body scene
  rwa [h] at hrun

/-- Where diagnostics are not put into the text, a placeholder that is refused is left there. -/
theorem run_resolveToken_left {d : Diagnostic} (hmark : resolver.options.markUnresolved = false)
    (h : resolver.attempt body scene = .ok (.error d) after) :
    resolver.resolveToken body scene = .ok none (after.told [refusal body d]) := by
  have hrun := resolver.run_resolveToken body scene
  rw [h] at hrun
  simpa only [hmark, Bool.false_eq_true, if_false] using hrun

end Attempts

end Resolver

end TaleLoom
