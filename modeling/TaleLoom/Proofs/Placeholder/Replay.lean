import Mathlib.Data.List.SplitBy
import TaleLoom.Proofs.Placeholder.Passes
/-!
The log tells how a text was expanded. It names the placeholder of every expansion and what took its
place, but not where it stood; `replay` finds the place again, by taking the first placeholder of that
text from left to right. A placeholder that was passed over or left is never taken for a later one,
since no placeholder of its text is expanded afterwards (`PassRun.replays`). So the expansions that a
call logs turn its text into its result (`replay_resolve`).
-/

namespace TaleLoom

/-- An expansion that the log tells of. -/
structure Expansion where
  token : String
  replacement : String
  depth : Int
  deriving DecidableEq, Repr

namespace Expansion

def detail (e : Expansion) : EventDetail := .expansion (.text e.token) (.text e.replacement) (.int e.depth)

def sameDepth (e e' : Expansion) : Bool := e.depth = e'.depth

end Expansion

def replayPass : List Segment → List Expansion → Option (List Char)
  | [], [] => some []
  | [], _ :: _ => none
  | .plain c :: rest, es => (replayPass rest es).map (c :: ·)
  | .token t :: rest, [] => (replayPass rest []).map (t.text ++ ·)
  | .token t :: rest, e :: es =>
    if e.token.toList = t.text then (replayPass rest es).map (e.replacement.toList ++ ·)
    else (replayPass rest (e :: es)).map (t.text ++ ·)

def replay (es : List Expansion) (text : List Char) : Option (List Char) :=
  (es.splitBy Expansion.sameDepth).foldlM (fun text es => replayPass (segments text) es) text

/-- A segment that is none of the placeholders expanded stays. -/
theorem replayPass_kept {segment : Segment} {es : List Expansion}
    (h : ∀ t, segment = .token t → ∀ e ∈ es, e.token.toList ≠ t.text) (rest : List Segment) :
    replayPass (segment :: rest) es = (replayPass rest es).map (segment.text ++ ·) := by
  cases segment with
  | plain c => rw [replayPass]; rfl
  | token t =>
    cases es with
    | nil => rw [replayPass]; rfl
    | cons e es =>
      have hother : e.token.toList ≠ t.text := h t rfl e List.mem_cons_self
      rw [replayPass, if_neg hother]
      rfl

theorem replayPass_replaced {t : Token} {e : Expansion} (h : e.token.toList = t.text)
    (rest : List Segment) (es : List Expansion) :
    replayPass (.token t :: rest) (e :: es) =
      (replayPass rest es).map (e.replacement.toList ++ ·) := by
  rw [replayPass, if_pos h]

/-- The passes of an expansion, one depth after another, each with an expansion at least. -/
inductive Ascending : Int → List (List Expansion) → Prop
  | nil (depth : Int) : Ascending depth []
  | cons {depth : Int} {es : List Expansion} {passes : List (List Expansion)} :
      es ≠ [] → (∀ e ∈ es, e.depth = depth) → Ascending (depth + 1) passes →
      Ascending depth (es :: passes)

namespace Ascending

variable {depth : Int} {passes : List (List Expansion)}

theorem le_depth (h : Ascending depth passes) {e : Expansion} (he : e ∈ passes.flatten) :
    depth ≤ e.depth := by
  induction h with
  | nil depth => cases he
  | cons _ hdepth _ ih =>
    rw [List.flatten_cons, List.mem_append] at he
    rcases he with he | he
    · exact Int.le_of_eq (hdepth e he).symm
    · have hlater := ih he
      omega

theorem pairwise_depth (h : Ascending depth passes) :
    passes.flatten.Pairwise fun e e' => e.depth ≤ e'.depth := by
  induction h with
  | nil depth => exact List.Pairwise.nil
  | cons _ hdepth hrest ih =>
    rw [List.flatten_cons, List.pairwise_append]
    refine ⟨?_, ih, ?_⟩
    · apply List.pairwise_of_forall_mem_list
      intro e he e' he'
      exact Int.le_of_eq ((hdepth e he).trans (hdepth e' he').symm)
    · intro e he e' he'
      have hlater := hrest.le_depth he'
      have hnow := hdepth e he
      omega

/-- The passes can be told apart by their depths. -/
theorem splitBy_flatten (h : Ascending depth passes) :
    passes.flatten.splitBy Expansion.sameDepth = passes := by
  induction h with
  | nil depth => rfl
  | @cons depth es passes hfilled hdepth hrest ih =>
    have hchain : es.IsChain fun e e' => Expansion.sameDepth e e' = true := by
      apply List.Pairwise.isChain
      apply List.pairwise_of_forall_mem_list
      intro e he e' he'
      exact decide_eq_true ((hdepth e he).trans (hdepth e' he').symm)
    have happart : ∀ e ∈ es.getLast?, ∀ e' ∈ passes.flatten.head?,
        Expansion.sameDepth e e' = false := by
      intro e he e' he'
      have hnow := hdepth e (List.mem_of_getLast? he)
      have hlater := hrest.le_depth (List.mem_of_head? he')
      apply decide_eq_false
      omega
    rw [List.flatten_cons, List.splitBy_append happart, List.splitBy_of_isChain hfilled hchain, ih]
    rfl

end Ascending

namespace Resolver

variable {resolver : Resolver} {depth : Int}

/-- A placeholder is passed over if it was rejected before, or if the pass has stopped. -/
theorem trialOf_eq_none {state : PassState} {scene : Scene} {token : Token}
    (h : resolver.trialOf depth state scene (.token token) = none) :
    token.text ∈ state.rejected ∨
      state.replaced = true ∧ resolver.options.expandAllPerPass = false := by
  rw [or_iff_not_imp_left]
  simpa [trialOf] using h

/-- A placeholder that is tried was not rejected before. -/
theorem not_mem_rejected {state : PassState} {scene : Scene} {token : Token} {trial : Trial}
    (h : resolver.trialOf depth state scene (.token token) = some trial) :
    token.text ∉ state.rejected := by
  simp only [trialOf] at h
  split at h
  · cases h
  · next htry =>
    intro hmem
    exact htry (by simp [hmem])

namespace PassRun

variable {state : PassState} {row : List Segment} {scene after : Scene} {trials : List Trial}
  {pieces : List Value} {last : Except Fault PassState}

/-- Replaying what a pass logged gives the text that the pass leaves. -/
theorem replays (h : PassRun resolver depth state row scene trials pieces last after)
    {state' : PassState} (hlast : last = .ok state') {text : List Char}
    (hjoin : joinPieces pieces = .ok text) :
    ∃ es : List Expansion, resolver.expansionsOf trials = es.map Expansion.detail ∧
      (∀ e ∈ es, e.depth = depth ∧ e.token.toList ∉ state.rejected) ∧
      replayPass row es = some text := by
  induction h generalizing text with
  | done state scene =>
    obtain rfl := Except.ok.inj hjoin
    exact ⟨[], rfl, by simp, rfl⟩
  | @skipped state segment rest scene after trials pieces last htrial hrest ih =>
    obtain ⟨s, text', hs, hjoin', rfl⟩ := parts_of_joinPieces hjoin
    obtain ⟨es, hes, hfresh, hreplay⟩ := ih hlast hjoin'
    refine ⟨es, hes, hfresh, ?_⟩
    have hother : ∀ t, segment = .token t → ∀ e ∈ es, e.token.toList ≠ t.text := by
      rintro t rfl e he hsame
      have hskip := trialOf_eq_none htrial
      rcases hskip with hrejected | ⟨hreplaced, hstop⟩
      · exact (hfresh e he).2 (hsame ▸ hrejected)
      · -- nothing is expanded any more
        rw [hrest.trials_eq_nil hstop hreplaced] at hes
        rw [List.map_eq_nil_iff.1 hes.symm] at he
        cases he
    obtain rfl := Value.text.inj hs
    rw [replayPass_kept hother, hreplay, Option.map_some, String.toList_ofList]
  | @rejected state token rest scene next after trials pieces last htrial hout hrest ih =>
    obtain ⟨s, text', hs, hjoin', rfl⟩ := parts_of_joinPieces hjoin
    obtain ⟨es, hes, hfresh, hreplay⟩ := ih hlast hjoin'
    have hlater : ∀ e ∈ es, e.token.toList ≠ token.text ∧ e.token.toList ∉ state.rejected := by
      intro e he
      simpa [PassState.reject] using (hfresh e he).2
    have hother : ∀ t, Segment.token token = .token t → ∀ e ∈ es, e.token.toList ≠ t.text := by
      rintro t ⟨⟩ e he
      exact (hlater e he).1
    refine ⟨es, ?_, ?_, ?_⟩
    · rw [expansionsOf_of_rejected hout, hes]
    · intro e he
      exact ⟨(hfresh e he).1, (hlater e he).2⟩
    · obtain rfl := Value.text.inj hs
      rw [replayPass_kept hother, hreplay, Option.map_some, String.toList_ofList]
  | @replaced state token rest scene next after trials pieces last v htrial hout hrest ih =>
    obtain ⟨s, text', rfl, hjoin', rfl⟩ := parts_of_joinPieces hjoin
    obtain ⟨es, hes, hfresh, hreplay⟩ := ih hlast hjoin'
    let e : Expansion := ⟨String.ofList token.text, s, depth⟩
    refine ⟨e :: es, ?_, ?_, ?_⟩
    · rw [expansionsOf_of_replaced hout, hes]
      rfl
    · intro e' he'
      rcases List.mem_cons.1 he' with rfl | he'
      · refine ⟨rfl, ?_⟩
        rw [String.toList_ofList]
        exact not_mem_rejected htrial
      · exact hfresh e' he'
    · have htoken : e.token.toList = token.text := String.toList_ofList
      rw [replayPass_replaced htoken, hreplay, Option.map_some]
  | failed _ _ => cases hlast

end PassRun

/-- Replaying what a call logged, pass by pass, gives its result. -/
theorem ExpandRun.replays {count : Nat} {rejected : List (List Char)} {text result : List Char}
    {scene after : Scene} {passes : List PassTrail} {last : Except Fault (List Char)}
    (h : ExpandRun resolver count depth rejected text scene passes last after)
    (hlast : last = .ok result) (hlog : scene.desk.log.paused = false) :
    ∃ logged : List (List Expansion), Ascending depth logged ∧
      after.desk.expansions =
        scene.desk.expansions ++ logged.flatten.map Expansion.detail ∧
      logged.foldlM (fun text es => replayPass (segments text) es) text = some result := by
  induction h with
  | exhausted depth rejected text scene =>
    obtain rfl := Except.ok.inj hlast
    refine ⟨[], .nil depth, ?_, rfl⟩
    rw [expansions_warned]
    simp
  | @settled count depth rejected text scene after trials pieces state hpass hsettled =>
    obtain rfl := Except.ok.inj hlast
    have hnone : resolver.expansionsOf trials = [] := by
      by_contra hsome
      have hreplaced := hpass.replaced_iff.2 (Or.inr hsome)
      rw [hsettled] at hreplaced
      cases hreplaced
    have htells := hpass.tells.expansions
    rw [hnone] at htells
    exact ⟨[], .nil depth, by simpa using htells, rfl⟩
  | @continued count depth rejected text text' scene next after trials pieces state passes last
      hpass hreplaced hjoin hrest ih =>
    obtain ⟨es, hes, hfresh, hreplay⟩ := hpass.replays rfl hjoin
    have htells := hpass.tells
    have hpaused : next.desk.log.paused = false := htells.paused.trans hlog
    obtain ⟨logged, hascending, hexpansions, hresult⟩ := ih hlast hpaused
    have hfilled : es ≠ [] := by
      rintro rfl
      exact (hpass.replaced_iff.1 hreplaced).elim (by simp) (fun hsome => hsome hes)
    refine ⟨es :: logged, .cons hfilled (fun e he => (hfresh e he).1) hascending, ?_, ?_⟩
    · have hfirst := htells.expansions
      rw [hlog, if_neg Bool.false_ne_true, hes] at hfirst
      rw [hexpansions, hfirst, List.flatten_cons, List.map_append, List.append_assoc]
    · rw [List.foldlM_cons, hreplay]
      exact hresult
  | failed _ => cases hlast
  | broken _ _ _ => cases hlast

/-- The expansions that a call logs turn its text into its result: where the log is not paused and the
call ends well, replaying what was added to the log, one pass for a depth, gives the result. The depths
do not descend, so the expansions of one depth stand together. -/
theorem replay_resolve {text result : String} {depth : Int} {scene after : Scene}
    (hlog : scene.desk.log.paused = false)
    (h : resolver.resolve text depth scene = .ok result after) :
    ∃ es : List Expansion,
      after.desk.expansions = scene.desk.expansions ++ es.map Expansion.detail ∧
      (es.Pairwise fun e e' => e.depth ≤ e'.depth) ∧
      replay es text.toList = some result.toList := by
  obtain ⟨last, stop, hrun, heq⟩ := callRun resolver text depth scene
  cases last with
  | error fault =>
    rw [h] at heq
    cases heq
  | ok chars =>
    obtain ⟨rfl, rfl⟩ := EStateM.Result.ok.inj (h.symm.trans heq)
    obtain ⟨logged, hascending, hexpansions, hresult⟩ := hrun.replays rfl hlog
    refine ⟨logged.flatten, hexpansions, hascending.pairwise_depth, ?_⟩
    rw [replay, hascending.splitBy_flatten, String.toList_ofList]
    exact hresult

/-- Of two placeholders that stand there twice, the first is left and the second is expanded, in passes
of one expansion each. -/
theorem replay_resolve_twice : Scene.blank.desk.log.paused = false ∧ ∃ (after : Scene)
    (es : List Expansion),
    ({ options := { expandAllPerPass := false } } : Resolver).resolve
      "\x7bw\x7d\x7brand 1-1\x7d\x7bw\x7d\x7brand 1-1\x7d" 0 Scene.blank =
        .ok "\x7bw\x7d1\x7bw\x7d1" after ∧
      after.desk.expansions = Scene.blank.desk.expansions ++ es.map Expansion.detail ∧
      replay es "\x7bw\x7d\x7brand 1-1\x7d\x7bw\x7d\x7brand 1-1\x7d".toList =
        some "\x7bw\x7d1\x7bw\x7d1".toList := by
  have hlog : Scene.blank.desk.log.paused = false := rfl
  obtain ⟨after, hrun⟩ : ∃ after, ({ options := { expandAllPerPass := false } } : Resolver).resolve
      "\x7bw\x7d\x7brand 1-1\x7d\x7bw\x7d\x7brand 1-1\x7d" 0 Scene.blank =
        .ok "\x7bw\x7d1\x7bw\x7d1" after := Act.ok_of_result? (by decide +kernel)
  obtain ⟨es, hexpansions, -, hreplay⟩ := replay_resolve hlog hrun
  exact ⟨hlog, after, es, hrun, hexpansions, hreplay⟩

end Resolver

end TaleLoom
