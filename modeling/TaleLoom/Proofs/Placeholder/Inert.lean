import TaleLoom.Proofs.Placeholder.Continuation
import TaleLoom.Proofs.Placeholder.FlatAnswers
/-!
A placeholder that fails without a draw is inert. Its trials leave it where it stands and tell of it in
notices only (`Resolver.hopeless_of_idle`). So two calls, one on a text with the placeholder and one on
the text without it, go side by side (`Act.Couples`): they try the same other placeholders in the same
order, pass by pass, and among flat texts the placeholder never joins up with what stands around it
(`Resolver.resolve_inert`).
-/

namespace TaleLoom

open Text

namespace Act

variable {σ α β γ δ : Type}

inductive Coupled (rel : σ → σ → Prop) (p : α → β → Prop) :
    EStateM.Result Fault σ α → EStateM.Result Fault σ β → Prop
  | ok {a : α} {b : β} {s t : σ} : p a b → rel s t → Coupled rel p (.ok a s) (.ok b t)
  | error (fault : Fault) {s t : σ} : rel s t → Coupled rel p (.error fault s) (.error fault t)

def Couples (rel : σ → σ → Prop) (p : α → β → Prop) (act : Act σ α) (act' : Act σ β) : Prop :=
  ∀ s t, rel s t → Coupled rel p (act s) (act' t)

namespace Couples

variable {rel : σ → σ → Prop} {p : α → β → Prop} {q : γ → δ → Prop} {act : Act σ α} {act' : Act σ β}

theorem pure {a : α} {b : β} (h : p a b) : Couples rel p (Pure.pure a) (Pure.pure b) := by
  intro s t hst
  exact .ok h hst

theorem bind {f : α → Act σ γ} {f' : β → Act σ δ} (h : Couples rel p act act')
    (hf : ∀ a b, p a b → Couples rel q (f a) (f' b)) : Couples rel q (act >>= f) (act' >>= f') := by
  intro s t hst
  have hends := h s t hst
  rw [run_bind, run_bind]
  generalize act s = r, act' t = r' at hends ⊢
  cases hends with
  | ok hp hnext => exact hf _ _ hp _ _ hnext
  | error fault hnext => exact .error fault hnext

/-- A step that only one side makes, and that leads to a related state. -/
theorem bind_left {f : α → Act σ γ} {other : Act σ δ}
    (h : ∀ s t, rel s t → ∃ a s', act s = .ok a s' ∧ rel s' t ∧ Couples rel q (f a) other) :
    Couples rel q (act >>= f) other := by
  intro s t hst
  obtain ⟨a, s', hact, hnext, hrest⟩ := h s t hst
  rw [run_bind, hact]
  exact hrest s' t hnext

theorem map {f : α → γ} {f' : β → δ} (h : Couples rel p act act')
    (hf : ∀ a b, p a b → q (f a) (f' b)) : Couples rel q (f <$> act) (f' <$> act') := by
  rw [map_eq_pure_bind, map_eq_pure_bind]
  exact h.bind fun a b hp => pure (hf a b hp)

end Couples

end Act

namespace Scene

structure Twins (base scene other : Scene) : Prop where
  same : scene.unnoticed = other.unnoticed
  rests : resting.holds base scene

namespace Twins

variable {base scene other : Scene}

theorem of_unnoticed {next : Scene} (h : Twins base scene other)
    (hnext : next.unnoticed = scene.unnoticed) : Twins base next other := by
  refine ⟨hnext.trans h.same, ?_⟩
  have hrests : resting.holds scene next := by
    refine ⟨eq_of_unnoticed hnext constants, Desk.turned_of_wheels ?_⟩
    exact eq_of_unnoticed hnext fun scene => scene.desk.wheels
  exact resting.trans h.rests hrests

theorem of_unnoticed_right {next : Scene} (h : Twins base scene other)
    (hnext : next.unnoticed = other.unnoticed) : Twins base scene next :=
  ⟨h.same.trans hnext.symm, h.rests⟩

theorem expanded (h : Twins base scene other) (t : Token) (start start' : Scene) {depth : Int}
    (v : Value) : Twins base (scene.expanded ⟨depth, t, start⟩ v) (other.expanded ⟨depth, t, start'⟩ v) := by
  refine ⟨Resolver.unnoticed_expanded h.same ⟨depth, t, start⟩ v, ?_⟩
  have hrests : resting.holds scene (scene.expanded ⟨depth, t, start⟩ v) :=
    ⟨rfl, Desk.turned_of_wheels rfl⟩
  exact resting.trans h.rests hrests

theorem constants_eq (h : Twins base scene other) :
    scene.constants = base.constants ∧ other.constants = base.constants :=
  ⟨h.rests.1, (eq_of_unnoticed h.same constants).symm.trans h.rests.1⟩

end Twins

/-- A step that depends on no notice comes to the same in two scenes that differ in notices. -/
theorem couples_of_steady {α : Type} {base : Scene} {p : α → Prop} {act : Act Scene α}
    (h : Steady act) (hyields : act.Yields (resting.holds base) p) :
    Act.Couples (Twins base) (fun a b => a = b ∧ p a) act act := by
  intro scene other hscenes
  have hends := h.blind scene other hscenes.same
  have hrests := hyields.keeps scene hscenes.rests
  cases hrun : act scene with
  | ok a next =>
    rw [hrun] at hends
    rw [Act.after_of_ok hrun] at hrests
    obtain ⟨next', hrun', hsame⟩ := hends.of_ok
    rw [hrun']
    exact .ok ⟨rfl, hyields.gives scene a next hscenes.rests hrun⟩ ⟨hsame, hrests⟩
  | error fault next =>
    rw [hrun] at hends
    rw [Act.after_of_error hrun] at hrests
    obtain ⟨next', hrun', hsame⟩ := hends.of_error
    rw [hrun']
    exact .error fault ⟨hsame, hrests⟩

end Scene

namespace Resolver

open Scene Act

variable {resolver : Resolver} {base : Scene} {u : Token} {depth : Int}

section Idle

def IsIdleRefusal (attempt : Attempt) : Prop :=
  ∃ d, attempt = .error d ∧ ∀ name, d ≠ .invalidTable name

theorem isRefusal_of_idle (attempt : Attempt) (h : IsIdleRefusal attempt) : IsRefusal attempt := by
  obtain ⟨d, hd, -⟩ := h
  exact ⟨d, hd⟩

/-- That a placeholder names no table, or asks for something that cannot be read or is not there, lies
in its text and in the tables. -/
theorem determined_attempt_idle (base : Scene) (resolver : Resolver) (body : List Char) :
    Determined base IsIdleRefusal (resolver.attempt body) := by
  unfold attempt
  cases Expression.ofBody resolver.items.isSome body with
  | range ends => exact (stubborn_resolveRange base _ _).mono isRefusal_of_idle
  | roll formula => exact (stubborn_resolveRoll base _ _).mono isRefusal_of_idle
  | outcome value => exact (stubborn_resolveOutcome base _).mono isRefusal_of_idle
  | sparks word spec => exact (stubborn_resolveSparks base _ _).mono isRefusal_of_idle
  | item category => exact (stubborn_resolveItem base resolver _).mono isRefusal_of_idle
  | table =>
    refine Determined.reading (fun scene _ => Determined.ofExcept_bind fun found _ => ?_)
      fun scene other hsame => by rw [show other.registry = scene.registry from congrArg Prod.fst hsame]
    cases found with
    | none => exact Determined.pure _
    | some table =>
      refine Determined.ofExcept_bind fun request _ => Determined.of_gives ?_
      have hdraws : (resolver.drawTexts table request request.picks).Gives fun result =>
          ∀ d, result = .error d → d = .invalidTable table.name :=
        gives_drawTexts_refused table request request.picks
      refine hdraws.and_then fun result hresult => ?_
      cases result with
      | ok texts =>
        refine Act.Gives.pure ?_
        rintro ⟨d, ⟨⟩, -⟩
      | error d =>
        refine Act.Gives.pure ?_
        rintro ⟨d', ⟨⟩, hvalid⟩
        exact hvalid table.name (hresult d rfl)

/-- The placeholder fails without a draw: it names no table, or asks in vain for a number, a total, an
outcome, keywords or an item. -/
def FailsIdly (resolver : Resolver) (scene : Scene) (t : Token) : Prop :=
  ∃ attempt after, resolver.attempt (trim t.body) scene = .ok attempt after ∧ IsIdleRefusal attempt

theorem hopeless_of_idle (hmark : resolver.options.markUnresolved = false)
    (h : resolver.FailsIdly base u) : resolver.Hopeless base u := by
  obtain ⟨attempt, after, hattempt, hidle⟩ := h
  intro scene hscene
  obtain ⟨refused, hrefused, hunnoticed⟩ := determined_attempt_idle base resolver (trim u.body)
    base attempt after rfl hidle hattempt scene hscene
  obtain ⟨d, rfl, -⟩ := hidle
  obtain ⟨told, hrun, htold⟩ := run_resolveToken_refused hmark hrefused
  exact ⟨told, hrun, htold.trans hunnoticed⟩

end Idle

structure AgreeBut (u : Token) (state state' : PassState) : Prop where
  replaced : state.replaced = state'.replaced
  rejected : ∀ t : Token, t.Proper → t ≠ u → (t.text ∈ state.rejected ↔ t.text ∈ state'.rejected)

namespace AgreeBut

variable {state state' : PassState}

theorem refl (state : PassState) : AgreeBut u state state := ⟨rfl, fun _ _ _ => Iff.rfl⟩

theorem symm (h : AgreeBut u state state') : AgreeBut u state' state :=
  ⟨h.replaced.symm, fun t ht hne => (h.rejected t ht hne).symm⟩

theorem trans {state'' : PassState} (h : AgreeBut u state state') (h' : AgreeBut u state' state'') :
    AgreeBut u state state'' :=
  ⟨h.replaced.trans h'.replaced, fun t ht hne => (h.rejected t ht hne).trans (h'.rejected t ht hne)⟩

theorem reject_inert (hu : u.Proper) (state : PassState) : AgreeBut u (state.reject u) state := by
  refine ⟨rfl, fun t ht hne => ?_⟩
  have htext : t.text ≠ u.text := fun htext => hne (Token.text_inj ht hu htext)
  simp [PassState.reject, htext]

theorem reject (h : AgreeBut u state state') (t : Token) :
    AgreeBut u (state.reject t) (state'.reject t) := by
  refine ⟨h.replaced, fun t' ht' hne => ?_⟩
  simp only [PassState.reject, List.mem_cons, h.rejected t' ht' hne]

theorem replace (h : AgreeBut u state state') : AgreeBut u state.replace state'.replace :=
  ⟨rfl, h.rejected⟩

theorem restart (h : AgreeBut u state state') :
    AgreeBut u { rejected := state.rejected } { rejected := state'.rejected } :=
  ⟨rfl, h.rejected⟩

/-- Every other placeholder has a trial in both passes or in neither. -/
theorem trialOf (h : AgreeBut u state state') {t : Token} (ht : t.Proper) (hne : t ≠ u)
    (scene other : Scene) :
    resolver.trialOf depth state scene (.token t) = none ∧
        resolver.trialOf depth state' other (.token t) = none ∨
      resolver.trialOf depth state scene (.token t) = some ⟨depth, t, scene⟩ ∧
        resolver.trialOf depth state' other (.token t) = some ⟨depth, t, other⟩ := by
  have hrejected : state.rejected.contains t.text = state'.rejected.contains t.text := by
    rw [Bool.eq_iff_iff, List.contains_iff_mem, List.contains_iff_mem]
    exact h.rejected t ht hne
  simp only [Resolver.trialOf, hrejected, h.replaced]
  split
  · exact Or.inl ⟨rfl, rfl⟩
  · exact Or.inr ⟨rfl, rfl⟩

end AgreeBut

section Passing

/-- An inert placeholder stays where it is, whether or not the pass tries it. -/
theorem run_passSegment_inert (hu : u.Proper) (hhopeless : resolver.Hopeless base u) (depth : Int)
    (state : PassState) {scene : Scene} (hscene : scene.constants = base.constants) :
    ∃ state' after, resolver.passSegment depth state (.token u) scene =
        .ok (Segment.kept (.token u), state') after ∧
      AgreeBut u state' state ∧ after.unnoticed = scene.unnoticed := by
  cases htrial : resolver.trialOf depth state scene (.token u) with
  | none => exact ⟨state, scene, run_passSegment_of_none htrial, .refl state, rfl⟩
  | some trial =>
    obtain ⟨t, ht, rfl⟩ := trialOf_eq_some htrial
    cases ht
    obtain ⟨after, hrun, hafter⟩ := hhopeless scene hscene
    have hout : Trial.outcome resolver ⟨depth, u, scene⟩ = .ok none after := hrun
    have hpass := run_passSegment_of_some htrial
    rw [hout] at hpass
    exact ⟨state.reject u, after, hpass, .reject_inert hu state, hafter⟩

/-- Whatever a placeholder leads to is flat: the texts of rows, the keywords and the names of items are,
and a refusal leaves no mark. -/
structure Tidy (resolver : Resolver) (base : Scene) : Prop where
  texts : base.FlatTexts
  names : resolver.FlatNames
  unmarked : resolver.options.markUnresolved = false

theorem flat_segment {segment : Segment} (h : segment.Sound) : Flat segment.text := by
  rw [Flat, h.segments_text]
  exact List.forall_mem_singleton.2 h

/-- One segment in two passes that stand alike. -/
theorem couples_passSegment (htidy : resolver.Tidy base) (hu : u.Proper)
    (hhopeless : resolver.Hopeless base u) {segment : Segment} (hsegment : segment.Sound)
    {state state' : PassState} (hstate : AgreeBut u state state') :
    Couples (Twins base)
      (fun out out' => out.1 = out'.1 ∧ out.1.IsFlat ∧ AgreeBut u out.2 out'.2)
      (resolver.passSegment depth state segment) (resolver.passSegment depth state' segment) := by
  have hkept : segment.kept.IsFlat := by
    refine ⟨_, rfl, ?_⟩
    rw [String.toList_ofList]
    exact flat_segment hsegment
  intro scene other hscenes
  cases hsegment with
  | @plain c hfree =>
    have hnone (state : PassState) (scene : Scene) :
        resolver.trialOf depth state scene (.plain c) = none := rfl
    rw [run_passSegment_of_none (hnone state scene), run_passSegment_of_none (hnone state' other)]
    exact .ok ⟨rfl, hkept, hstate⟩ hscenes
  | @token t ht =>
    by_cases hne : t = u
    · subst hne
      obtain ⟨hleft, hright⟩ := hscenes.constants_eq
      obtain ⟨next, after, hrun, hnext, hafter⟩ :=
        run_passSegment_inert hu hhopeless depth state hleft
      obtain ⟨next', after', hrun', hnext', hafter'⟩ :=
        run_passSegment_inert hu hhopeless depth state' hright
      rw [hrun, hrun']
      exact .ok ⟨rfl, hkept, (hnext.trans hstate).trans hnext'.symm⟩
        ((hscenes.of_unnoticed hafter).of_unnoticed_right hafter')
    · rcases hstate.trialOf ht hne scene other with ⟨htrial, htrial'⟩ | ⟨htrial, htrial'⟩
      · rw [run_passSegment_of_none htrial, run_passSegment_of_none htrial']
        exact .ok ⟨rfl, hkept, hstate⟩ hscenes
      · rw [run_passSegment_of_some htrial, run_passSegment_of_some htrial']
        have hout : Coupled (Twins base)
            (fun found found' => found = found' ∧ ∀ v, found = some v → v.IsFlat)
            (Trial.outcome resolver ⟨depth, t, scene⟩) (Trial.outcome resolver ⟨depth, t, other⟩) :=
          couples_of_steady (resolver.steady_resolveToken (trim t.body))
            (yields_resolveToken htidy.texts htidy.names htidy.unmarked (trim t.body)) scene other hscenes
        generalize Trial.outcome resolver ⟨depth, t, scene⟩ = r,
          Trial.outcome resolver ⟨depth, t, other⟩ = r' at hout ⊢
        cases hout with
        | error fault hnext => exact .error fault hnext
        | @ok found found' next next' hfound hnext =>
          obtain ⟨rfl, hflat⟩ := hfound
          cases found with
          | none => exact .ok ⟨rfl, hkept, hstate.reject t⟩ hnext
          | some v => exact .ok ⟨rfl, hflat v rfl, hstate.replace⟩ (hnext.expanded t scene other v)

/-- The pieces of a row of segments in two passes that stand alike. -/
theorem couples_passSegments (htidy : resolver.Tidy base) (hu : u.Proper)
    (hhopeless : resolver.Hopeless base u) {row : List Segment}
    (hrow : ∀ segment ∈ row, segment.Sound) {state state' : PassState}
    (hstate : AgreeBut u state state') :
    Couples (Twins base)
      (fun out out' => out.1 = out'.1 ∧ (∃ cs, joinPieces out.1 = .ok cs ∧ Flat cs) ∧
        AgreeBut u out.2 out'.2)
      (resolver.passSegments depth state row) (resolver.passSegments depth state' row) := by
  induction row generalizing state state' with
  | nil => exact Couples.pure ⟨rfl, ⟨[], rfl, flat_of_all (by decide)⟩, hstate⟩
  | cons segment rest ih =>
    obtain ⟨hsegment, hrest⟩ := List.forall_mem_cons.1 hrow
    refine Couples.bind (couples_passSegment htidy hu hhopeless hsegment hstate) ?_
    rintro ⟨piece, next⟩ ⟨_, next'⟩ ⟨rfl, ⟨text, rfl, hpiece⟩, hnext⟩
    refine Couples.bind (ih hrest hnext) ?_
    rintro ⟨pieces, last⟩ ⟨_, last'⟩ ⟨rfl, ⟨cs, hjoin, hcs⟩, hlast⟩
    refine Couples.pure ⟨rfl, ⟨text.toList ++ cs, ?_, hpiece.append hcs⟩, hlast⟩
    exact joinPieces_text text hjoin

theorem passSegments_append (state : PassState) (row row' : List Segment) :
    resolver.passSegments depth state (row ++ row') = (do
      let (pieces, next) ← resolver.passSegments depth state row
      let (pieces', last) ← resolver.passSegments depth next row'
      return (pieces ++ pieces', last)) := by
  induction row generalizing state with
  | nil => simp [passSegments]
  | cons segment rest ih => simp [passSegments, ih]

theorem joinPieces_append {pieces pieces' : List Value} {cs ds : List Char}
    (h : joinPieces pieces = .ok cs) (h' : joinPieces pieces' = .ok ds) :
    joinPieces (pieces ++ pieces') = .ok (cs ++ ds) := by
  induction pieces generalizing cs with
  | nil =>
    cases h
    exact h'
  | cons v rest ih =>
    obtain ⟨s, others, rfl, hrest, rfl⟩ := parts_of_joinPieces h
    rw [List.append_assoc]
    exact joinPieces_text s (ih hrest)

def PutIn (u : Token) (text text' : List Char) : Prop :=
  ∃ front back, Flat front ∧ Flat back ∧ text = front ++ u.text ++ back ∧ text' = front ++ back

/-- The pieces of a text with the inert placeholder and of the text without it. -/
theorem couples_pieces (htidy : resolver.Tidy base) (hu : u.Proper)
    (hhopeless : resolver.Hopeless base u) {state state' : PassState}
    (hstate : AgreeBut u state state') {text text' : List Char} (htext : PutIn u text text') :
    Couples (Twins base)
      (fun out out' => (∃ cs cs', joinPieces out.1 = .ok cs ∧ joinPieces out'.1 = .ok cs' ∧
        PutIn u cs cs') ∧ AgreeBut u out.2 out'.2)
      (resolver.passSegments depth state (segments text))
      (resolver.passSegments depth state' (segments text')) := by
  obtain ⟨front, back, hfront, hback, rfl, rfl⟩ := htext
  -- flat texts are cut apart around the placeholder, and not through it
  have htoken : (Segment.token u).Sound := .token hu
  have hwith : segments (front ++ u.text ++ back) = segments front ++ .token u :: segments back := by
    have hflat : Flat u.text := flat_segment htoken
    have hsingle : segments u.text = [.token u] := htoken.segments_text
    rw [segments_append (hfront.append hflat) hback, segments_append hfront hflat, hsingle,
      List.append_assoc, List.singleton_append]
  rw [hwith, segments_append hfront hback, passSegments_append, passSegments_append]
  refine Couples.bind (couples_passSegments htidy hu hhopeless hfront hstate) ?_
  rintro ⟨pieces, next⟩ ⟨_, next'⟩ ⟨rfl, ⟨cs, hcs, hcsflat⟩, hnext⟩
  -- then one pass comes to the placeholder, and both go on with what is behind it
  simp only [passSegments, bind_assoc, pure_bind]
  refine Couples.bind_left fun scene other hscenes => ?_
  obtain ⟨middle, after, hrun, hmiddle, hafter⟩ :=
    run_passSegment_inert hu hhopeless depth next hscenes.constants_eq.1
  refine ⟨_, after, hrun, hscenes.of_unnoticed hafter, ?_⟩
  refine Couples.bind (couples_passSegments htidy hu hhopeless hback (hmiddle.trans hnext)) ?_
  rintro ⟨pieces', last⟩ ⟨_, last'⟩ ⟨rfl, ⟨ds, hds, hdsflat⟩, hlast⟩
  dsimp only at hcs hds ⊢
  have hrest : joinPieces (Segment.kept (.token u) :: pieces') = .ok (u.text ++ ds) :=
    joinPieces_kept (.token u) hds
  refine Couples.pure ⟨⟨cs ++ (u.text ++ ds), cs ++ ds, joinPieces_append hcs hrest,
    joinPieces_append hcs hds, ?_⟩, hlast⟩
  exact ⟨cs, ds, hcsflat, hdsflat, (List.append_assoc _ _ _).symm, rfl⟩

/-- A pass over a text with the inert placeholder goes as one over the text without it. -/
theorem couples_pass (htidy : resolver.Tidy base) (hu : u.Proper)
    (hhopeless : resolver.Hopeless base u) {rejected rejected' : List (List Char)}
    (hstate : AgreeBut u { rejected } { rejected := rejected' }) {text text' : List Char}
    (htext : PutIn u text text') :
    Couples (Twins base) (fun out out' => PutIn u out.1 out'.1 ∧ AgreeBut u out.2 out'.2)
      (resolver.pass depth rejected text) (resolver.pass depth rejected' text') := by
  refine Couples.bind (couples_pieces htidy hu hhopeless hstate htext) ?_
  rintro ⟨pieces, state⟩ ⟨pieces', state'⟩ ⟨⟨cs, cs', hcs, hcs', hput⟩, hlast⟩
  dsimp only at hcs hcs' ⊢
  have hreplaced : state.replaced = state'.replaced := hlast.replaced
  rw [hcs, hcs', hreplaced]
  cases state'.replaced with
  | true => exact Couples.pure ⟨hput, hlast⟩
  | false => exact Couples.pure ⟨htext, hlast⟩

/-- So does a whole expansion, pass by pass. -/
theorem couples_expand (htidy : resolver.Tidy base) (hu : u.Proper)
    (hhopeless : resolver.Hopeless base u) (count : Nat) (depth : Int)
    {rejected rejected' : List (List Char)}
    (hstate : AgreeBut u { rejected } { rejected := rejected' }) {text text' : List Char}
    (htext : PutIn u text text') :
    Couples (Twins base) (PutIn u) (resolver.expand count depth rejected text)
      (resolver.expand count depth rejected' text') := by
  induction count generalizing depth rejected rejected' text text' with
  | zero =>
    intro scene other hscenes
    rw [run_warn_pending, run_warn_pending]
    exact .ok htext ((hscenes.of_unnoticed (unnoticed_warned resolver scene _)).of_unnoticed_right
      (unnoticed_warned resolver other _))
  | succ count ih =>
    refine Couples.bind (couples_pass htidy hu hhopeless hstate htext) ?_
    rintro ⟨next, state⟩ ⟨next', state'⟩ ⟨hput, hlast⟩
    dsimp only at hput ⊢
    have hreplaced : state.replaced = state'.replaced := hlast.replaced
    rw [hreplaced]
    cases state'.replaced with
    | true => exact ih (depth + 1) hlast.restart hput
    | false => exact Couples.pure hput

end Passing

section Calls

/-- A placeholder that fails without a draw is inert among flat texts. A call on a text with it either
comes to what the call on the text without it comes to, with the placeholder put in somewhere, or it
breaks off with the same fault; and the two leave scenes that differ in notices alone. So they have
drawn the same from the same source, and posted the same expansions at the same depths, and what was
consumed and which keywords were used is the same. -/
theorem resolve_inert {scene : Scene} (htidy : resolver.Tidy scene) (hu : u.Proper)
    (hfails : resolver.FailsIdly scene u) {front back : String} (hfront : Flat front.toList)
    (hback : Flat back.toList) (depth : Int) :
    (∃ left right after after',
      resolver.resolve (front ++ String.ofList u.text ++ back) depth scene =
        .ok (left ++ String.ofList u.text ++ right) after ∧
      resolver.resolve (front ++ back) depth scene = .ok (left ++ right) after' ∧
      after.unnoticed = after'.unnoticed ∧ after.desk.source = after'.desk.source ∧
      after.desk.rolls = after'.desk.rolls ∧ after.desk.expansions = after'.desk.expansions ∧
      after.store = after'.store ∧ after.sparks = after'.sparks) ∨
    ∃ fault after after',
      resolver.resolve (front ++ String.ofList u.text ++ back) depth scene = .error fault after ∧
      resolver.resolve (front ++ back) depth scene = .error fault after' ∧
      after.unnoticed = after'.unnoticed := by
  have hput : PutIn u (front ++ String.ofList u.text ++ back).toList (front ++ back).toList :=
    ⟨front.toList, back.toList, hfront, hback, by simp, by simp⟩
  have hcouples := couples_expand htidy hu (hopeless_of_idle htidy.unmarked hfails)
    (resolver.options.maxDepth - depth).toNat depth (.refl { rejected := [] }) hput
  have hends : Coupled (Twins scene) (fun text text' => PutIn u text.toList text'.toList)
      (resolver.resolve (front ++ String.ofList u.text ++ back) depth scene)
      (resolver.resolve (front ++ back) depth scene) := by
    rw [resolve_eq_map, resolve_eq_map]
    exact hcouples.map (by simp) scene scene ⟨rfl, resting.refl scene⟩
  generalize resolver.resolve (front ++ String.ofList u.text ++ back) depth scene = r,
    resolver.resolve (front ++ back) depth scene = r' at hends ⊢
  cases hends with
  | error fault hscenes => exact Or.inr ⟨fault, _, _, rfl, rfl, hscenes.same⟩
  | @ok text text' after after' htext hscenes =>
    obtain ⟨left, right, -, -, hwith, hwithout⟩ := htext
    have htext : text = String.ofList left ++ String.ofList u.text ++ String.ofList right := by
      rw [← String.toList_inj, hwith]
      simp
    have htext' : text' = String.ofList left ++ String.ofList right := by
      rw [← String.toList_inj, hwithout]
      simp
    have hsame := hscenes.same
    refine Or.inl ⟨String.ofList left, String.ofList right, after, after', by rw [htext],
      by rw [htext'], hsame, ?_⟩
    exact ⟨eq_of_unnoticed hsame fun scene => scene.desk.source,
      eq_of_unnoticed hsame fun scene => scene.desk.rolls,
      eq_of_unnoticed hsame fun scene => scene.desk.expansions,
      eq_of_unnoticed hsame Scene.store, eq_of_unnoticed hsame Scene.sparks⟩

theorem failsIdly_of_unknown {scene : Scene} {t : Token}
    (hread : Expression.ofBody resolver.items.isSome (trim t.body) = .table)
    (hfind : scene.registry.find (tableParts (trim t.body)).1 = .ok none) :
    resolver.FailsIdly scene t := by
  refine ⟨.error (.unknownTable (tableParts (trim t.body)).1), scene, ?_, _, rfl, ?_⟩
  · simp only [attempt, hread, run_resolveTable, hfind]
  · rintro name ⟨⟩

theorem tidy_stairs : Tidy {} stairs where
  texts := by
    have hrows : ∀ table ∈ stairs.registry.tables, ∀ row ∈ table.rows, row.description.isFlat = true := by
      decide +kernel
    exact ⟨fun table htable row hrow => Description.flatAt_of_isFlat (hrows table htable row hrow),
      by decide +kernel⟩
  names := List.forall_mem_nil _
  unmarked := rfl

/-- Between two placeholders that lead on to others, one without a table stays as it is. -/
theorem resolve_inert_stairs :
    Tidy {} stairs ∧ (Token.mk false ['n', 'o']).Proper ∧
      FailsIdly {} stairs ⟨false, ['n', 'o']⟩ ∧ Flat "\x7bt\x7d".toList ∧
      ∃ after after',
        resolve {} "\x7bt\x7d\x7bno\x7d\x7bt\x7d" 0 stairs = .ok "end\x7bno\x7dend" after ∧
        resolve {} "\x7bt\x7d\x7bt\x7d" 0 stairs = .ok "endend" after' ∧
        after.unnoticed = after'.unnoticed ∧ after.desk.expansions = after'.desk.expansions := by
  have hproper : (Token.mk false ['n', 'o']).Proper := by decide
  have hfails : FailsIdly {} stairs ⟨false, ['n', 'o']⟩ :=
    failsIdly_of_unknown (by decide +kernel) rfl
  have hflat : Flat "\x7bt\x7d".toList := by decide +kernel
  obtain ⟨after, hrun⟩ : ∃ after, resolve {} "\x7bt\x7d\x7bno\x7d\x7bt\x7d" 0 stairs =
      .ok "end\x7bno\x7dend" after := ok_of_result? (by decide +kernel)
  obtain ⟨after', hrun'⟩ : ∃ after', resolve {} "\x7bt\x7d\x7bt\x7d" 0 stairs =
      .ok "endend" after' := ok_of_result? (by decide +kernel)
  refine ⟨tidy_stairs, hproper, hfails, hflat, after, after', hrun, hrun', ?_⟩
  rcases resolve_inert tidy_stairs hproper hfails hflat hflat 0 with
    ⟨left, right, next, next', hwith, hwithout, hsame, -, -, hexpansions, -⟩ | ⟨fault, next, next', hwith, -⟩
  · obtain rfl := (EStateM.Result.ok.inj (hrun.symm.trans hwith)).2
    obtain rfl := (EStateM.Result.ok.inj (hrun'.symm.trans hwithout)).2
    exact ⟨hsame, hexpansions⟩
  · have hnever := hrun.symm.trans hwith
    cases hnever

end Calls

end Resolver

end TaleLoom
