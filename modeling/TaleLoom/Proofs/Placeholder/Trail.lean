import TaleLoom.Placeholder.Resolver
import TaleLoom.Proofs.Desk
/-!
The trail of a call that expands a text: the trials of placeholders in order, each with the scene that
it was made from. `passTrials` and `passes` follow the expansion itself. `PassRun` says once what a
pass does with each segment and `ExpandRun` what a call does with each pass; `passRun` and `expandRun`
say that every pass and every call does so, whether or not it fails.
-/

namespace TaleLoom

open Text

structure Trial where
  depth : Int
  token : Token
  scene : Scene

namespace Trial

def outcome (resolver : Resolver) (trial : Trial) : EStateM.Result Fault Scene (Option Value) :=
  resolver.resolveToken (trim trial.token.body) trial.scene

def isRejected (resolver : Resolver) (trial : Trial) : Bool :=
  match trial.outcome resolver with
  | .ok none _ => true
  | _ => false

def expanded (trial : Trial) (v : Value) : EventDetail :=
  .expansion (.text (String.ofList trial.token.text)) v (.int trial.depth)

def value? (resolver : Resolver) (trial : Trial) : Option Value :=
  match trial.outcome resolver with
  | .ok v _ => v
  | .error _ _ => none

def expansion? (resolver : Resolver) (trial : Trial) : Option EventDetail :=
  (trial.value? resolver).map trial.expanded

end Trial

theorem segments_of_at? {c : Char} {cs rest : List Char} {t : Token}
    (h : Token.at? (c :: cs) = some (t, rest)) :
    segments (c :: cs) = .token t :: segments rest := by
  rw [segments]
  split
  · next hfound =>
    rw [h] at hfound
    obtain ⟨rfl, rfl⟩ := Prod.mk.inj (Option.some.inj hfound)
    rfl
  · next hnone =>
    rw [h] at hnone
    cases hnone

namespace Resolver

def expansionsOf (resolver : Resolver) (trials : List Trial) : List EventDetail :=
  trials.filterMap (Trial.expansion? resolver)

def rejectedTexts (resolver : Resolver) (trials : List Trial) : List (List Char) :=
  (trials.filter (Trial.isRejected resolver)).map (·.token.text)

end Resolver

def Scene.expanded (scene : Scene) (trial : Trial) (v : Value) : Scene :=
  scene.posted (trial.expanded v) (.object [])

def Segment.kept (segment : Segment) : Value := .text (String.ofList segment.text)

namespace Resolver

namespace PassState

def reject (state : PassState) (token : Token) : PassState :=
  { state with rejected := token.text :: state.rejected }

def replace (state : PassState) : PassState := { state with replaced := true }

end PassState

variable (resolver : Resolver) (depth : Int)

def trialOf (state : PassState) (scene : Scene) : Segment → Option Trial
  | .plain _ => none
  | .token t =>
    if state.rejected.contains t.text || (state.replaced && !resolver.options.expandAllPerPass)
    then none else some ⟨depth, t, scene⟩

/-- The trials of a pass over some segments. -/
def passTrials : PassState → List Segment → Scene → List Trial
  | _, [], _ => []
  | state, segment :: rest, scene =>
    (resolver.trialOf depth state scene segment).toList ++
      match resolver.passSegment depth state segment scene with
      | .ok (_, state) scene => passTrials state rest scene
      | .error _ _ => []

/-- A pass over some segments: its trials, the pieces that it leaves, and how it ends. -/
inductive PassRun :
    PassState → List Segment → Scene → List Trial → List Value → Except Fault PassState → Scene → Prop
  | done (state : PassState) (scene : Scene) : PassRun state [] scene [] [] (.ok state) scene
  | skipped {state : PassState} {segment : Segment} {rest : List Segment} {scene after : Scene}
      {trials : List Trial} {pieces : List Value} {last : Except Fault PassState} :
      resolver.trialOf depth state scene segment = none →
      PassRun state rest scene trials pieces last after →
      PassRun state (segment :: rest) scene trials (segment.kept :: pieces) last after
  | rejected {state : PassState} {token : Token} {rest : List Segment} {scene next after : Scene}
      {trials : List Trial} {pieces : List Value} {last : Except Fault PassState} :
      resolver.trialOf depth state scene (.token token) = some ⟨depth, token, scene⟩ →
      Trial.outcome resolver ⟨depth, token, scene⟩ = .ok none next →
      PassRun (state.reject token) rest next trials pieces last after →
      PassRun state (.token token :: rest) scene (⟨depth, token, scene⟩ :: trials)
        (Segment.kept (.token token) :: pieces) last after
  | replaced {state : PassState} {token : Token} {rest : List Segment} {scene next after : Scene}
      {trials : List Trial} {pieces : List Value} {last : Except Fault PassState} {v : Value} :
      resolver.trialOf depth state scene (.token token) = some ⟨depth, token, scene⟩ →
      Trial.outcome resolver ⟨depth, token, scene⟩ = .ok (some v) next →
      PassRun state.replace rest (next.expanded ⟨depth, token, scene⟩ v) trials pieces last after →
      PassRun state (.token token :: rest) scene (⟨depth, token, scene⟩ :: trials) (v :: pieces) last
        after
  | failed {state : PassState} {token : Token} {rest : List Segment} {scene after : Scene}
      {fault : Fault} :
      resolver.trialOf depth state scene (.token token) = some ⟨depth, token, scene⟩ →
      Trial.outcome resolver ⟨depth, token, scene⟩ = .error fault after →
      PassRun state (.token token :: rest) scene [⟨depth, token, scene⟩] [] (.error fault) after

variable {resolver depth}

theorem trialOf_eq_some {state : PassState} {scene : Scene} {segment : Segment} {trial : Trial}
    (h : resolver.trialOf depth state scene segment = some trial) :
    ∃ token, segment = .token token ∧ trial = ⟨depth, token, scene⟩ := by
  cases segment with
  | plain c => cases h
  | token token =>
    simp only [trialOf] at h
    split at h
    · cases h
    · exact ⟨token, rfl, (Option.some.inj h).symm⟩

/-- A segment without a trial stays what it is. -/
theorem run_passSegment_of_none {state : PassState} {scene : Scene} {segment : Segment}
    (h : resolver.trialOf depth state scene segment = none) :
    resolver.passSegment depth state segment scene = .ok (segment.kept, state) scene := by
  cases segment with
  | plain c =>
    rw [passSegment, Segment.kept, Segment.text, ← String.singleton_eq_ofList]
    rfl
  | token token =>
    simp only [trialOf] at h
    split at h
    · next hskip =>
      simp only [passSegment]
      rcases Bool.or_eq_true_iff.1 hskip with hrejected | hstop
      · simp only [hrejected, if_true]
        rfl
      · simp only [hstop, if_true]
        split <;> rfl
    · cases h

/-- A segment with a trial becomes what the trial gives. -/
theorem run_passSegment_of_some {state : PassState} {scene : Scene} {token : Token}
    (h : resolver.trialOf depth state scene (.token token) = some ⟨depth, token, scene⟩) :
    resolver.passSegment depth state (.token token) scene =
      match Trial.outcome resolver ⟨depth, token, scene⟩ with
      | .ok none next => .ok (Segment.kept (.token token), state.reject token) next
      | .ok (some v) next => .ok (v, state.replace) (next.expanded ⟨depth, token, scene⟩ v)
      | .error fault next => .error fault next := by
  simp only [trialOf] at h
  split at h
  · cases h
  next htry =>
    simp only [Bool.or_eq_true, not_or, Bool.not_eq_true] at htry
    simp only [passSegment, htry.1, htry.2, Bool.false_eq_true, if_false, Act.run_bind,
      Trial.outcome]
    cases resolver.resolveToken (trim token.body) scene with
    | error fault next => rfl
    | ok found next =>
      cases found with
      | none => rfl
      | some v =>
        simp only [Act.run_bind, Act.run_discard, Scene.run_liftDesk, Scene.run_atDesk,
          Desk.run_post, Act.run_pure]
        rfl

variable (resolver depth) in
/-- Every pass is a run over its segments. -/
theorem passRun (state : PassState) (segments : List Segment) (scene : Scene) :
    ∃ pieces last after,
      PassRun resolver depth state segments scene (resolver.passTrials depth state segments scene)
        pieces last after ∧
      resolver.passSegments depth state segments scene =
        match last with
        | .ok state' => .ok (pieces, state') after
        | .error fault => .error fault after := by
  induction segments generalizing state scene with
  | nil => exact ⟨[], .ok state, scene, .done state scene, rfl⟩
  | cons segment rest ih =>
    -- a segment without a trial stays; with one, the trial says how the pass goes on
    cases htrial : resolver.trialOf depth state scene segment with
    | none =>
      have hrun := run_passSegment_of_none htrial
      obtain ⟨pieces, last, after, hrest, heq⟩ := ih state scene
      refine ⟨segment.kept :: pieces, last, after, ?_, ?_⟩
      · simp only [passTrials, htrial, hrun, Option.toList_none, List.nil_append]
        exact .skipped htrial hrest
      · simp only [passSegments, Act.run_bind, hrun, heq]
        cases last <;> rfl
    | some trial =>
      obtain ⟨token, rfl, rfl⟩ := trialOf_eq_some htrial
      have hrun := run_passSegment_of_some htrial
      cases hout : Trial.outcome resolver ⟨depth, token, scene⟩ with
      | error fault next =>
        rw [hout] at hrun
        refine ⟨[], .error fault, next, ?_, ?_⟩
        · simp only [passTrials, htrial, hrun, Option.toList_some, List.append_nil]
          exact .failed htrial hout
        · simp only [passSegments, Act.run_bind, hrun]
      | ok found next =>
        cases found with
        | none =>
          rw [hout] at hrun
          obtain ⟨pieces, last, after, hrest, heq⟩ := ih (state.reject token) next
          refine ⟨Segment.kept (.token token) :: pieces, last, after, ?_, ?_⟩
          · simp only [passTrials, htrial, hrun, Option.toList_some, List.singleton_append]
            exact .rejected htrial hout hrest
          · simp only [passSegments, Act.run_bind, hrun, heq]
            cases last <;> rfl
        | some v =>
          rw [hout] at hrun
          obtain ⟨pieces, last, after, hrest, heq⟩ :=
            ih state.replace (next.expanded ⟨depth, token, scene⟩ v)
          refine ⟨v :: pieces, last, after, ?_, ?_⟩
          · simp only [passTrials, htrial, hrun, Option.toList_some, List.singleton_append]
            exact .replaced htrial hout hrest
          · simp only [passSegments, Act.run_bind, hrun, heq]
            cases last <;> rfl

/-- The pieces are joined one after the other. -/
theorem joinPieces_cons (v : Value) (pieces : List Value) :
    joinPieces (v :: pieces) =
      (pieceText v >>= fun cs => (joinPieces pieces).map fun ds => cs ++ ds) := by
  rw [joinPieces, List.mapM_cons, joinPieces]
  cases pieceText v with
  | error fault => rfl
  | ok cs => cases pieces.mapM pieceText <;> rfl

/-- Pieces that can be joined are texts. -/
theorem parts_of_joinPieces {v : Value} {pieces : List Value} {text : List Char}
    (h : joinPieces (v :: pieces) = .ok text) :
    ∃ s rest, v = .text s ∧ joinPieces pieces = .ok rest ∧ text = s.toList ++ rest := by
  rw [joinPieces_cons] at h
  cases v with
  | text s =>
    cases hrest : joinPieces pieces with
    | ok rest =>
      rw [hrest] at h
      exact ⟨s, rest, rfl, rfl, (Except.ok.inj h).symm⟩
    | error fault =>
      rw [hrest] at h
      cases h
  | _ => cases h

theorem joinPieces_text {pieces : List Value} {ds : List Char} (s : String)
    (h : joinPieces pieces = .ok ds) : joinPieces (.text s :: pieces) = .ok (s.toList ++ ds) := by
  rw [joinPieces_cons, h]
  rfl

theorem joinPieces_kept {pieces : List Value} {ds : List Char} (segment : Segment)
    (h : joinPieces pieces = .ok ds) :
    joinPieces (segment.kept :: pieces) = .ok (segment.text ++ ds) := by
  have hjoin := joinPieces_text (String.ofList segment.text) h
  rwa [String.toList_ofList] at hjoin

variable (resolver depth) in
/-- A pass leaves its pieces as the text, or the old text where nothing was replaced. -/
theorem run_pass (rejected : List (List Char)) (text : List Char) (scene : Scene) :
    resolver.pass depth rejected text scene =
      match resolver.passSegments depth { rejected } (segments text) scene with
      | .error fault after => .error fault after
      | .ok (pieces, state) after =>
        if state.replaced then
          match joinPieces pieces with
          | .ok text' => .ok (text', state) after
          | .error fault => .error fault after
        else .ok (text, state) after := by
  rw [pass, Act.run_bind]
  cases resolver.passSegments depth { rejected } (segments text) scene with
  | error fault after => rfl
  | ok result after =>
    obtain ⟨pieces, state⟩ := result
    cases hreplaced : state.replaced with
    | false => simp only [hreplaced, Bool.false_eq_true, if_false, Act.run_pure]
    | true =>
      simp only [hreplaced, if_true, Act.run_bind, Act.run_liftExcept]
      cases joinPieces pieces <;> rfl

end Resolver

structure PassTrail where
  depth : Int
  trials : List Trial

namespace Resolver

def passes (resolver : Resolver) :
    Nat → Int → List (List Char) → List Char → Scene → List PassTrail
  | 0, _, _, _, _ => []
  | count + 1, depth, rejected, text, scene =>
    ⟨depth, resolver.passTrials depth { rejected } (segments text) scene⟩ ::
      match resolver.pass depth rejected text scene with
      | .ok (text, state) scene =>
        if state.replaced then resolver.passes count (depth + 1) state.rejected text scene else []
      | .error _ _ => []

def depthWarning (resolver : Resolver) (left : Nat) : Notice :=
  ⟨.warning, "Maximum placeholder resolution depth (" ++ Number.decimal resolver.options.maxDepth ++
    ") reached with " ++ Nat.repr left ++ " placeholder(s) left"⟩

def warned (resolver : Resolver) (scene : Scene) (left : Nat) : Scene :=
  if left = 0 then scene
  else { scene with desk := { scene.desk with
    notices := scene.desk.notices.push (resolver.depthWarning left) } }

/-- A call that expands a text: its passes, and how it ends. -/
inductive ExpandRun (resolver : Resolver) :
    Nat → Int → List (List Char) → List Char → Scene → List PassTrail → Except Fault (List Char) →
      Scene → Prop
  | exhausted (depth : Int) (rejected : List (List Char)) (text : List Char) (scene : Scene) :
      ExpandRun resolver 0 depth rejected text scene [] (.ok text)
        (resolver.warned scene (pending rejected text).length)
  | settled {count : Nat} {depth : Int} {rejected : List (List Char)} {text : List Char}
      {scene after : Scene} {trials : List Trial} {pieces : List Value} {state : PassState} :
      PassRun resolver depth { rejected } (segments text) scene trials pieces (.ok state) after →
      state.replaced = false →
      ExpandRun resolver (count + 1) depth rejected text scene [⟨depth, trials⟩] (.ok text) after
  | continued {count : Nat} {depth : Int} {rejected : List (List Char)} {text text' : List Char}
      {scene next after : Scene} {trials : List Trial} {pieces : List Value} {state : PassState}
      {passes : List PassTrail} {last : Except Fault (List Char)} :
      PassRun resolver depth { rejected } (segments text) scene trials pieces (.ok state) next →
      state.replaced = true → joinPieces pieces = .ok text' →
      ExpandRun resolver count (depth + 1) state.rejected text' next passes last after →
      ExpandRun resolver (count + 1) depth rejected text scene (⟨depth, trials⟩ :: passes) last after
  | failed {count : Nat} {depth : Int} {rejected : List (List Char)} {text : List Char}
      {scene after : Scene} {trials : List Trial} {pieces : List Value} {fault : Fault} :
      PassRun resolver depth { rejected } (segments text) scene trials pieces (.error fault) after →
      ExpandRun resolver (count + 1) depth rejected text scene [⟨depth, trials⟩] (.error fault) after
  | broken {count : Nat} {depth : Int} {rejected : List (List Char)} {text : List Char}
      {scene after : Scene} {trials : List Trial} {pieces : List Value} {state : PassState}
      {fault : Fault} :
      PassRun resolver depth { rejected } (segments text) scene trials pieces (.ok state) after →
      state.replaced = true → joinPieces pieces = .error fault →
      ExpandRun resolver (count + 1) depth rejected text scene [⟨depth, trials⟩] (.error fault) after

theorem run_warn_pending (resolver : Resolver) (rejected : List (List Char)) (text : List Char)
    (depth : Int) (scene : Scene) :
    resolver.expand 0 depth rejected text scene =
      .ok text (resolver.warned scene (pending rejected text).length) := by
  simp only [expand, warned]
  cases hleft : pending rejected text with
  | nil => rfl
  | cons token rest => rfl

theorem expandRun (resolver : Resolver) (count : Nat) (depth : Int) (rejected : List (List Char))
    (text : List Char) (scene : Scene) :
    ∃ last after,
      ExpandRun resolver count depth rejected text scene
        (resolver.passes count depth rejected text scene) last after ∧
      resolver.expand count depth rejected text scene =
        match last with
        | .ok text' => .ok text' after
        | .error fault => .error fault after := by
  induction count generalizing depth rejected text scene with
  | zero =>
    exact ⟨_, _, .exhausted depth rejected text scene, run_warn_pending resolver rejected text depth _⟩
  | succ count ih =>
    obtain ⟨pieces, last, next, hrun, heq⟩ :=
      passRun resolver depth { rejected } (segments text) scene
    have hpass := run_pass resolver depth rejected text scene
    rw [heq] at hpass
    cases last with
    | error fault =>
      refine ⟨.error fault, next, ?_, ?_⟩
      · simp only [passes, hpass]
        exact .failed hrun
      · simp only [expand, Act.run_bind, hpass]
    | ok state =>
      cases hreplaced : state.replaced with
      | false =>
        simp only [hreplaced, Bool.false_eq_true, if_false] at hpass
        refine ⟨.ok text, next, ?_, ?_⟩
        · simp only [passes, hpass, hreplaced, Bool.false_eq_true, if_false]
          exact .settled hrun hreplaced
        · simp only [expand, Act.run_bind, hpass, hreplaced, Bool.false_eq_true, if_false,
            Act.run_pure]
      | true =>
        simp only [hreplaced, if_true] at hpass
        cases hjoin : joinPieces pieces with
        | error fault =>
          rw [hjoin] at hpass
          refine ⟨.error fault, next, ?_, ?_⟩
          · simp only [passes, hpass]
            exact .broken hrun hreplaced hjoin
          · simp only [expand, Act.run_bind, hpass]
        | ok text' =>
          rw [hjoin] at hpass
          obtain ⟨last, after, hrest, hexpand⟩ := ih (depth + 1) state.rejected text' next
          refine ⟨last, after, ?_, ?_⟩
          · simp only [passes, hpass, hreplaced, if_true]
            exact .continued hrun hreplaced hjoin hrest
          · simp only [expand, Act.run_bind, hpass, hreplaced, if_true]
            exact hexpand

/-- The passes of a call that expands a text at a depth. -/
def callPasses (resolver : Resolver) (text : String) (depth : Int) (scene : Scene) :
    List PassTrail :=
  resolver.passes (resolver.options.maxDepth - depth).toNat depth [] text.toList scene

def callTrials (resolver : Resolver) (text : String) (depth : Int) (scene : Scene) : List Trial :=
  (resolver.callPasses text depth scene).flatMap (·.trials)

theorem resolve_eq_map (resolver : Resolver) (text : String) (depth : Int) :
    resolver.resolve text depth = String.ofList <$>
      resolver.expand (resolver.options.maxDepth - depth).toNat depth [] text.toList :=
  bind_pure_comp _ _

/-- A call that expands a text at a depth is a run over its passes. -/
theorem callRun (resolver : Resolver) (text : String) (depth : Int) (scene : Scene) :
    ∃ last after,
      ExpandRun resolver (resolver.options.maxDepth - depth).toNat depth [] text.toList scene
        (resolver.callPasses text depth scene) last after ∧
      resolver.resolve text depth scene =
        match last with
        | .ok text' => .ok (String.ofList text') after
        | .error fault => .error fault after := by
  obtain ⟨last, after, hrun, heq⟩ := expandRun resolver (resolver.options.maxDepth - depth).toNat
    depth [] text.toList scene
  refine ⟨last, after, hrun, ?_⟩
  simp only [resolve, Act.run_bind, heq]
  cases last <;> rfl

end Resolver

end TaleLoom
