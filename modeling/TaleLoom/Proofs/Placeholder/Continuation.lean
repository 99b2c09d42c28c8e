import TaleLoom.Proofs.Placeholder.Refusals
import TaleLoom.Proofs.Placeholder.Segments
/-!
Going on with a text whose expansion stopped at a depth. A call remembers the placeholders that it
rejected, and a second call knows nothing of them; but where all tables are sound a rejected
placeholder is hopeless, so that remembering it saves a trial and decides nothing. `freshExpand`
expands a text without remembering anything: every call ends as it does, but for the notices
(`expand_alike_fresh`), and it can be stopped and taken up again at every depth
(`freshExpand_stopped`).
-/

namespace TaleLoom

namespace Resolver

open Scene Text Act

section Fresh

variable (resolver : Resolver)

def freshSegment (depth : Int) (replaced : Bool) : Segment → Act Scene (Value × Bool)
  | .plain c => pure (Segment.kept (.plain c), replaced)
  | .token t =>
    if replaced && !resolver.options.expandAllPerPass then
      pure (Segment.kept (.token t), replaced)
    else do
      match ← resolver.resolveToken (trim t.body) with
      | none => return (Segment.kept (.token t), replaced)
      | some v =>
        discard <| Desk.post (.expansion (Segment.kept (.token t)) v (.int depth))
        return (v, true)

def freshSegments (depth : Int) : Bool → List Segment → Act Scene (List Value × Bool)
  | replaced, [] => pure ([], replaced)
  | replaced, segment :: rest => do
    let (piece, replaced) ← resolver.freshSegment depth replaced segment
    let (pieces, replaced) ← freshSegments depth replaced rest
    return (piece :: pieces, replaced)

def freshPass (depth : Int) (text : List Char) : Act Scene (List Char × Bool) := do
  let (pieces, replaced) ← resolver.freshSegments depth false (segments text)
  if replaced then return (← joinPieces pieces, true) else return (text, false)

def freshExpand : Nat → Int → List Char → Act Scene (List Char)
  | 0, _, text => pure text
  | passes + 1, depth, text => do
    let (text, replaced) ← resolver.freshPass depth text
    if replaced then freshExpand passes (depth + 1) text else return text

variable {resolver}

theorem steady_freshSegment (depth : Int) (replaced : Bool) (segment : Segment) :
    Steady (resolver.freshSegment depth replaced segment) := by
  cases segment with
  | plain c => exact Steady.pure _
  | token t =>
    refine Steady.ite (Steady.pure _) (Steady.bind (resolver.steady_resolveToken _) fun found => ?_)
    cases found with
    | none => exact Steady.pure _
    | some v =>
      exact Steady.bind (Steady.discard (Steady.atDesk (Desk.steady_post _ _))) fun _ =>
        Steady.pure _

theorem steady_freshSegments (depth : Int) (replaced : Bool) (row : List Segment) :
    Steady (resolver.freshSegments depth replaced row) := by
  induction row generalizing replaced with
  | nil => exact Steady.pure _
  | cons segment rest ih =>
    exact Steady.bind (steady_freshSegment depth replaced segment) fun (_, replaced) =>
      Steady.bind (ih replaced) fun _ => Steady.pure _

theorem steady_freshPass (depth : Int) (text : List Char) :
    Steady (resolver.freshPass depth text) :=
  Steady.bind (steady_freshSegments depth false (segments text)) fun _ =>
    Steady.ite (Steady.bind (Steady.ofExcept _) fun _ => Steady.pure _) (Steady.pure _)

theorem steady_freshExpand (passes : Nat) (depth : Int) (text : List Char) :
    Steady (resolver.freshExpand passes depth text) := by
  induction passes generalizing depth text with
  | zero => exact Steady.pure _
  | succ passes ih =>
    exact Steady.bind (steady_freshPass depth text) fun _ => Steady.ite (ih _ _) (Steady.pure _)

/-- Only the pass mode and what its trials come to matter to a pass. -/
theorem freshExpand_congr {resolver' : Resolver}
    (hmode : resolver'.options.expandAllPerPass = resolver.options.expandAllPerPass)
    (htrial : ∀ body, resolver'.resolveToken body = resolver.resolveToken body) (passes : Nat)
    (depth : Int) (text : List Char) :
    resolver'.freshExpand passes depth text = resolver.freshExpand passes depth text := by
  have hsegment (depth : Int) (replaced : Bool) (segment : Segment) :
      resolver'.freshSegment depth replaced segment =
        resolver.freshSegment depth replaced segment := by
    cases segment with
    | plain c => rfl
    | token t => simp only [freshSegment, hmode, htrial]
  have hsegments (depth : Int) (replaced : Bool) (row : List Segment) :
      resolver'.freshSegments depth replaced row = resolver.freshSegments depth replaced row := by
    induction row generalizing replaced with
    | nil => rfl
    | cons segment rest ih => simp only [freshSegments, hsegment, ih]
  have hpass (depth : Int) (text : List Char) :
      resolver'.freshPass depth text = resolver.freshPass depth text := by
    simp only [freshPass, hsegments]
  induction passes generalizing depth text with
  | zero => rfl
  | succ passes ih => simp only [freshExpand, hpass, ih]

theorem run_freshSegments_cons {depth : Int} {replaced replaced' : Bool} {segment : Segment}
    {piece : Value} {scene next : Scene}
    (h : resolver.freshSegment depth replaced segment scene = .ok (piece, replaced') next)
    (rest : List Segment) :
    resolver.freshSegments depth replaced (segment :: rest) scene =
      ((fun out : List Value × Bool => (piece :: out.1, out.2)) <$>
        resolver.freshSegments depth replaced' rest) next := by
  simp only [freshSegments, Act.run_bind, h, Act.run_map]
  cases resolver.freshSegments depth replaced' rest next <;> rfl

end Fresh

section Remembering

variable {resolver : Resolver} {base : Scene} {depth : Int}

def passEnd (pieces : List Value) (last : Except Fault PassState) (after : Scene) :
    EStateM.Result Fault Scene (List Value × Bool) :=
  match last with
  | .ok state => .ok (pieces, state.replaced) after
  | .error fault => .error fault after

theorem alike_cons {pieces : List Value} {last : Except Fault PassState} {after other : Scene}
    {act : Act Scene (List Value × Bool)} (piece : Value)
    (h : Alike unnoticed (passEnd pieces last after) (act other)) :
    Alike unnoticed (passEnd (piece :: pieces) last after)
      (((fun out : List Value × Bool => (piece :: out.1, out.2)) <$> act) other) := by
  rw [Act.run_map]
  generalize act other = r at h ⊢
  cases last with
  | ok state =>
    cases h with
    | ok _ hview => exact .ok _ hview
  | error fault =>
    cases h with
    | error _ hview => exact .error _ hview

/-- A trial that a pass makes is made in a pass that remembers nothing too. -/
theorem freshSegment_of_trial {state : PassState} {token : Token} {scene : Scene}
    (h : resolver.trialOf depth state scene (.token token) = some ⟨depth, token, scene⟩) :
    resolver.freshSegment depth state.replaced (.token token) = (do
      match ← resolver.resolveToken (trim token.body) with
      | none => return (Segment.kept (.token token), state.replaced)
      | some v =>
        discard <| Desk.post (.expansion (Segment.kept (.token token)) v (.int depth))
        return (v, true) : Act Scene (Value × Bool)) := by
  have hgo : (state.replaced && !resolver.options.expandAllPerPass) = false := by
    cases hstop : state.replaced && !resolver.options.expandAllPerPass with
    | false => rfl
    | true => simp [trialOf, hstop] at h
  simp only [freshSegment, hgo, Bool.false_eq_true, if_false]

/-- A segment without a trial is left alone in a pass that remembers nothing too, after a trial that
leaves nothing but notices. -/
theorem freshSegment_of_skipped {state : PassState} {segment : Segment} {scene other : Scene}
    (h : resolver.trialOf depth state scene segment = none)
    (hproper : ∀ t, segment = .token t → t.Proper)
    (hrejected : AllRejected (resolver.Hopeless base) state.rejected)
    (hother : other.constants = base.constants) :
    ∃ next, resolver.freshSegment depth state.replaced segment other =
      .ok (segment.kept, state.replaced) next ∧ next.unnoticed = other.unnoticed := by
  cases segment with
  | plain c => exact ⟨other, rfl, rfl⟩
  | token t =>
    cases hstop : state.replaced && !resolver.options.expandAllPerPass with
    | true => exact ⟨other, by simp only [freshSegment, hstop, if_true, Act.run_pure], rfl⟩
    | false =>
      have hmem : t.text ∈ state.rejected := by simpa [trialOf, hstop] using h
      obtain ⟨next, hrun, hnext⟩ := hrejected t (hproper t rfl) hmem other hother
      refine ⟨next, ?_, hnext⟩
      simp only [freshSegment, hstop, Bool.false_eq_true, if_false, Act.run_bind, hrun, Act.run_pure]

theorem constants_of_outcome {token : Token} {scene after : Scene} {found : Option Value}
    (h : Trial.outcome resolver ⟨depth, token, scene⟩ = .ok found after) :
    after.constants = scene.constants :=
  (resolver.steady_resolveToken (trim token.body)).keeps.of_ok h

theorem unnoticed_expanded {s t : Scene} (h : s.unnoticed = t.unnoticed) (trial : Trial) (v : Value) :
    (s.expanded trial v).unnoticed = (t.expanded trial v).unnoticed := by
  have hrun (scene : Scene) : ∃ e, atDesk (Desk.post (trial.expanded v) (.object [])) scene =
      .ok e (scene.expanded trial v) := by
    rw [run_atDesk, Desk.run_post]
    exact ⟨_, rfl⟩
  obtain ⟨e, hs⟩ := hrun s
  obtain ⟨e', ht⟩ := hrun t
  obtain ⟨t', hposted, hview⟩ := (Steady.atDesk (Desk.steady_post _ _)).blind.of_ok h hs
  rw [ht] at hposted
  rwa [← (EStateM.Result.ok.inj hposted).2] at hview

/-- A pass that remembers hopeless placeholders ends as one that remembers none. -/
theorem PassRun.alike_fresh (hsound : base.registry.Sound) (hnamed : resolver.Named)
    {state : PassState} {row : List Segment} {scene after : Scene} {trials : List Trial} {pieces : List Value}
    {last : Except Fault PassState}
    (h : PassRun resolver depth state row scene trials pieces last after)
    (hproper : ∀ t, .token t ∈ row → t.Proper)
    (hrejected : AllRejected (resolver.Hopeless base) state.rejected)
    (hscene : scene.constants = base.constants) {other : Scene}
    (hother : scene.unnoticed = other.unnoticed) :
    Alike unnoticed (passEnd pieces last after)
      (resolver.freshSegments depth state.replaced row other) := by
  have hsame (token : Token) := (resolver.steady_resolveToken (trim token.body)).blind
  induction h generalizing other with
  | done state scene => exact .ok _ hother
  | @skipped state segment rest scene after trials pieces last htrial _ ih =>
    have htables : other.constants = base.constants :=
      (Scene.eq_of_unnoticed hother Scene.constants).symm.trans hscene
    obtain ⟨next, hrun, hnext⟩ := freshSegment_of_skipped htrial
      (fun t ht => hproper t (ht ▸ List.mem_cons_self)) hrejected htables
    rw [run_freshSegments_cons hrun]
    exact alike_cons _ (ih (fun t ht => hproper t (List.mem_cons_of_mem _ ht)) hrejected hscene
      (hother.trans hnext.symm))
  | @rejected state token rest scene next after trials pieces last htrial hout _ ih =>
    obtain ⟨next', hout', hnext⟩ := (hsame token).of_ok hother hout
    have hrun : resolver.freshSegment depth state.replaced (.token token) other =
        .ok (Segment.kept (.token token), state.replaced) next' := by
      simp only [freshSegment_of_trial htrial, Act.run_bind, hout', Act.run_pure]
    have hhopeless := hopeless_of_rejected hsound hnamed hscene hout
    rw [run_freshSegments_cons hrun]
    exact alike_cons _ (ih (fun t ht => hproper t (List.mem_cons_of_mem _ ht))
      (hrejected.cons (hproper token List.mem_cons_self) hhopeless)
      ((constants_of_outcome hout).trans hscene) hnext)
  | @replaced state token rest scene next after trials pieces last v htrial hout _ ih =>
    obtain ⟨next', hout', hnext⟩ := (hsame token).of_ok hother hout
    have hrun : resolver.freshSegment depth state.replaced (.token token) other =
        .ok (v, true) (next'.expanded ⟨depth, token, scene⟩ v) := by
      simp only [freshSegment_of_trial htrial, Act.run_bind, hout', Act.run_discard, run_liftDesk,
        run_atDesk, Desk.run_post, Act.run_pure]
      rfl
    rw [run_freshSegments_cons hrun]
    exact alike_cons _ (ih (fun t ht => hproper t (List.mem_cons_of_mem _ ht)) hrejected
      ((constants_of_outcome hout).trans hscene) (unnoticed_expanded hnext _ v))
  | @failed state token rest scene after fault htrial hout =>
    obtain ⟨next', hout', hnext⟩ := (hsame token).of_error hother hout
    have hrun : resolver.freshSegments depth state.replaced (.token token :: rest) other =
        .error fault next' := by
      simp only [freshSegments, freshSegment_of_trial htrial, Act.run_bind, hout']
    rw [hrun]
    exact .error fault hnext

/-- After a pass the placeholders that it remembers are hopeless, and the tables are what they were. -/
theorem PassRun.hopeless (hsound : base.registry.Sound) (hnamed : resolver.Named) {state state' : PassState}
    {row : List Segment} {scene after : Scene} {trials : List Trial} {pieces : List Value}
    (h : PassRun resolver depth state row scene trials pieces (.ok state') after)
    (hproper : ∀ t, .token t ∈ row → t.Proper)
    (hrejected : AllRejected (resolver.Hopeless base) state.rejected)
    (hscene : scene.constants = base.constants) :
    AllRejected (resolver.Hopeless base) state'.rejected ∧ after.constants = base.constants := by
  generalize hlast : (Except.ok state' : Except Fault PassState) = last at h
  induction h with
  | done state scene =>
    obtain rfl := Except.ok.inj hlast
    exact ⟨hrejected, hscene⟩
  | skipped _ _ ih =>
    exact ih (fun t ht => hproper t (List.mem_cons_of_mem _ ht)) hrejected hscene hlast
  | @rejected state token rest scene next after trials pieces last htrial hout _ ih =>
    have hhopeless := hopeless_of_rejected hsound hnamed hscene hout
    exact ih (fun t ht => hproper t (List.mem_cons_of_mem _ ht))
      (hrejected.cons (hproper token List.mem_cons_self) hhopeless)
      ((constants_of_outcome hout).trans hscene) hlast
  | replaced _ hout _ ih =>
    exact ih (fun t ht => hproper t (List.mem_cons_of_mem _ ht)) hrejected
      ((constants_of_outcome hout).trans hscene) hlast
  | failed _ _ => cases hlast

def callEnd (last : Except Fault (List Char)) (after : Scene) :
    EStateM.Result Fault Scene (List Char) :=
  match last with
  | .ok text => .ok text after
  | .error fault => .error fault after

theorem unnoticed_warned (resolver : Resolver) (scene : Scene) (left : Nat) :
    (resolver.warned scene left).unnoticed = scene.unnoticed := by
  unfold warned
  split <;> rfl

/-- Remembering hopeless placeholders changes nothing but the notices. -/
theorem ExpandRun.alike_fresh (hsound : base.registry.Sound) (hnamed : resolver.Named) {count : Nat}
    {rejected : List (List Char)} {text : List Char} {scene after : Scene}
    {passes : List PassTrail} {last : Except Fault (List Char)}
    (h : ExpandRun resolver count depth rejected text scene passes last after)
    (hrejected : AllRejected (resolver.Hopeless base) rejected)
    (hscene : scene.constants = base.constants) {other : Scene}
    (hother : scene.unnoticed = other.unnoticed) :
    Alike unnoticed (callEnd last after) (resolver.freshExpand count depth text other) := by
  have hpass {depth : Int} {rejected : List (List Char)} {text : List Char} {scene next other : Scene}
      {trials : List Trial} {pieces : List Value} {last : Except Fault PassState}
      (hrun : PassRun resolver depth { rejected } (segments text) scene trials pieces last next)
      (hrejected : AllRejected (resolver.Hopeless base) rejected)
      (hscene : scene.constants = base.constants) (hother : scene.unnoticed = other.unnoticed) :
      Alike unnoticed (passEnd pieces last next)
        (resolver.freshSegments depth false (segments text) other) :=
    hrun.alike_fresh hsound hnamed (fun _ => proper_of_mem_segments) hrejected hscene hother
  induction h generalizing other with
  | exhausted depth rejected text scene =>
    exact .ok _ ((unnoticed_warned resolver scene _).trans hother)
  | settled hrun hsettled =>
    obtain ⟨next, hfresh, hnext⟩ := (hpass hrun hrejected hscene hother).of_ok
    simp only [freshExpand, freshPass, Act.run_bind, hfresh, hsettled, Bool.false_eq_true, if_false,
      Act.run_pure]
    exact .ok _ hnext
  | continued hrun hreplaced hjoin _ ih =>
    obtain ⟨next, hfresh, hnext⟩ := (hpass hrun hrejected hscene hother).of_ok
    obtain ⟨hstill, htables⟩ :=
      hrun.hopeless hsound hnamed (fun _ => proper_of_mem_segments) hrejected hscene
    simp only [freshExpand, freshPass, Act.run_bind, hfresh, hreplaced, if_true, Act.run_liftExcept,
      hjoin, Act.run_ofExcept_ok, Act.run_pure]
    exact ih hstill htables hnext
  | failed hrun =>
    obtain ⟨next, hfresh, hnext⟩ := (hpass hrun hrejected hscene hother).of_error
    simp only [freshExpand, freshPass, Act.run_bind, hfresh]
    exact .error _ hnext
  | broken hrun hreplaced hjoin =>
    obtain ⟨next, hfresh, hnext⟩ := (hpass hrun hrejected hscene hother).of_ok
    simp only [freshExpand, freshPass, Act.run_bind, hfresh, hreplaced, if_true, Act.run_liftExcept,
      hjoin, Act.run_ofExcept_error]
    exact .error _ hnext

/-- A call ends as one that remembers nothing, but for the notices. -/
theorem expand_alike_fresh {scene : Scene} (hsound : scene.registry.Sound) (hnamed : resolver.Named)
    (count : Nat)
    (depth : Int) (text : List Char) :
    Alike unnoticed (resolver.expand count depth [] text scene)
      (resolver.freshExpand count depth text scene) := by
  obtain ⟨last, after, hrun, heq⟩ := resolver.expandRun count depth [] text scene
  have halike := hrun.alike_fresh hsound hnamed AllRejected.nil rfl rfl
  rw [heq]
  cases last <;> exact halike

end Remembering

section Stopping

variable {resolver : Resolver} {base : Scene} {depth : Int}

/-- A replacement is not forgotten in the rest of a pass. -/
theorem gives_freshSegments_replaced (row : List Segment) :
    (resolver.freshSegments depth true row).Gives fun out => out.2 = true := by
  have hsegment (segment : Segment) : (resolver.freshSegment depth true segment).Gives
      fun out => out.2 = true := by
    cases segment with
    | plain c => exact Act.Gives.pure rfl
    | token t =>
      refine Act.Gives.ite (Act.Gives.pure rfl) (Act.Gives.bind fun found => ?_)
      cases found with
      | none => exact Act.Gives.pure rfl
      | some v => exact Act.Gives.bind fun _ => Act.Gives.pure rfl
  induction row with
  | nil => exact Act.Gives.pure rfl
  | cons segment rest ih =>
    refine (hsegment segment).and_then fun (piece, replaced) hreplaced => ?_
    obtain rfl : replaced = true := hreplaced
    exact ih.and_then fun (pieces, replaced) hstill => Act.Gives.pure hstill

/-- A pass over some segments makes the first one's part and goes on to the others. -/
theorem parts_of_freshSegments {replaced last : Bool} {segment : Segment} {rest : List Segment}
    {scene after : Scene} {pieces : List Value}
    (h : resolver.freshSegments depth replaced (segment :: rest) scene = .ok (pieces, last) after) :
    ∃ piece next pieces' replaced', resolver.freshSegment depth replaced segment scene =
        .ok (piece, replaced') next ∧
      resolver.freshSegments depth replaced' rest next = .ok (pieces', last) after := by
  rw [freshSegments] at h
  obtain ⟨⟨piece, replaced'⟩, next, hfirst, h⟩ := Act.parts_of_bind h
  obtain ⟨⟨pieces', last'⟩, stop, hrest, h⟩ := Act.parts_of_bind h
  cases h
  exact ⟨piece, next, pieces', replaced', hfirst, hrest⟩

/-- A placeholder that is left alone, while nothing is replaced yet, proves hopeless. -/
theorem hopeless_of_freshSegment {t : Token} {scene after : Scene} {piece : Value}
    (hsound : base.registry.Sound) (hnamed : resolver.Named)
    (hscene : scene.constants = base.constants)
    (h : resolver.freshSegment depth false (.token t) scene = .ok (piece, false) after) :
    resolver.Hopeless base t := by
  simp only [freshSegment, Bool.false_and, Bool.false_eq_true, if_false] at h
  obtain ⟨found, next, htrial, h⟩ := Act.parts_of_bind h
  cases found with
  | none => exact hopeless_of_rejected hsound hnamed hscene htrial
  | some v =>
    obtain ⟨-, posted, -, h⟩ := Act.parts_of_bind h
    cases h

/-- In a pass that replaces nothing every placeholder proves hopeless. -/
theorem hopeless_of_settled {row : List Segment} {scene after : Scene} {pieces : List Value}
    (hsound : base.registry.Sound) (hnamed : resolver.Named)
    (hscene : scene.constants = base.constants)
    (h : resolver.freshSegments depth false row scene = .ok (pieces, false) after) :
    ∀ t, .token t ∈ row → resolver.Hopeless base t := by
  induction row generalizing scene pieces with
  | nil =>
    intro t ht
    cases ht
  | cons segment rest ih =>
    obtain ⟨piece, next, pieces', replaced, hfirst, hrest⟩ := parts_of_freshSegments h
    cases replaced with
    | true =>
      have hnever := gives_freshSegments_replaced rest next _ _ hrest
      cases hnever
    | false =>
      have htables := (steady_freshSegment depth false segment).keeps.of_ok hfirst
      have hothers := ih (htables.trans hscene) hrest
      intro t ht
      rcases List.mem_cons.1 ht with rfl | ht
      · exact hopeless_of_freshSegment hsound hnamed hscene hfirst
      · exact hothers t ht

/-- A pass that replaces nothing leaves the text as it was. -/
theorem settled_of_freshPass {text text' : List Char} {scene after : Scene}
    (h : resolver.freshPass depth text scene = .ok (text', false) after) :
    text' = text ∧
      ∃ pieces, resolver.freshSegments depth false (segments text) scene = .ok (pieces, false) after := by
  obtain ⟨⟨pieces, replaced⟩, next, hrun, h⟩ := Act.parts_of_bind h
  cases replaced with
  | false =>
    cases h
    exact ⟨rfl, pieces, hrun⟩
  | true =>
    obtain ⟨joined, stop, -, h⟩ := Act.parts_of_bind h
    cases h

/-- A pass over hopeless placeholders leaves nothing but notices. -/
theorem run_freshPass_hopeless {text : List Char} {scene : Scene}
    (hscene : scene.constants = base.constants)
    (h : ∀ t, .token t ∈ segments text → resolver.Hopeless base t) (depth : Int) :
    ∃ after, resolver.freshPass depth text scene = .ok (text, false) after ∧
      after.unnoticed = scene.unnoticed := by
  have hrow (row : List Segment) (scene : Scene) (hscene : scene.constants = base.constants)
      (h : ∀ t, .token t ∈ row → resolver.Hopeless base t) :
      ∃ pieces after, resolver.freshSegments depth false row scene = .ok (pieces, false) after ∧
        after.unnoticed = scene.unnoticed := by
    induction row generalizing scene with
    | nil => exact ⟨[], scene, rfl, rfl⟩
    | cons segment rest ih =>
      have hfirst : ∃ next, resolver.freshSegment depth false segment scene =
          .ok (segment.kept, false) next ∧ next.unnoticed = scene.unnoticed := by
        cases segment with
        | plain c => exact ⟨scene, rfl, rfl⟩
        | token t =>
          obtain ⟨next, hrun, hnext⟩ := h t List.mem_cons_self scene hscene
          refine ⟨next, ?_, hnext⟩
          simp only [freshSegment, Bool.false_and, Bool.false_eq_true, if_false, Act.run_bind, hrun,
            Act.run_pure]
      obtain ⟨next, hrun, hnext⟩ := hfirst
      obtain ⟨pieces, after, hrest, hafter⟩ := ih next ((eq_of_unnoticed hnext constants).trans hscene)
        fun t ht => h t (List.mem_cons_of_mem _ ht)
      refine ⟨segment.kept :: pieces, after, ?_, hafter.trans hnext⟩
      rw [run_freshSegments_cons hrun, Act.run_map, hrest]
  obtain ⟨pieces, after, hrun, hafter⟩ := hrow (segments text) scene hscene h
  refine ⟨after, ?_, hafter⟩
  simp only [freshPass, Act.run_bind, hrun, Bool.false_eq_true, if_false, Act.run_pure]

/-- So many passes, and then so many more from where they stopped, are all of them at once. -/
theorem freshExpand_stopped (hsound : base.registry.Sound) (hnamed : resolver.Named) {first : Nat}
    {text middle : List Char} {scene next : Scene} (hscene : scene.constants = base.constants)
    (h : resolver.freshExpand first depth text scene = .ok middle next) (more : Nat) :
    Alike unnoticed (resolver.freshExpand (first + more) depth text scene)
      (resolver.freshExpand more (depth + first) middle next) := by
  -- pass by pass: a pass that replaces something is a step of both calls
  induction first generalizing depth text scene with
  | zero =>
    cases h
    rw [Nat.zero_add, Int.natCast_zero, Int.add_zero]
    exact .refl _
  | succ first ih =>
    rw [Nat.succ_add]
    simp only [freshExpand, Act.run_bind] at h ⊢
    cases hpass : resolver.freshPass depth text scene with
    | error fault after =>
      rw [hpass] at h
      cases h
    | ok out after =>
      obtain ⟨text', replaced⟩ := out
      have htables : after.constants = base.constants :=
        ((steady_freshPass depth text).keeps.of_ok hpass).trans hscene
      rw [hpass] at h
      simp only at h ⊢
      cases replaced with
      | true =>
        have hrest := ih htables h
        rwa [show depth + (first + 1 : Nat) = depth + 1 + first by omega]
      | false =>
        cases h
        obtain ⟨rfl, pieces, hrun⟩ := settled_of_freshPass hpass
        cases more with
        | zero => exact .refl _
        | succ more =>
          obtain ⟨last, hlast, hview⟩ := run_freshPass_hopeless htables
            (hopeless_of_settled hsound hnamed hscene hrun) (depth + (first + 1 : Nat))
          simp only [freshExpand, Act.run_bind, hlast, Bool.false_eq_true, if_false, Act.run_pure]
          exact .ok _ hview.symm

theorem resolve_alike_fresh {resolver : Resolver} {scene : Scene} (hsound : scene.registry.Sound)
    (hnamed : resolver.Named) (text : String) (depth : Int) :
    Alike unnoticed (resolver.resolve text depth scene) ((String.ofList <$>
      resolver.freshExpand (resolver.options.maxDepth - depth).toNat depth text.toList) scene) := by
  rw [resolve_eq_map]
  exact (expand_alike_fresh hsound hnamed _ depth text.toList).map String.ofList

/-- A text that was expanded to a depth can be expanded further from there: the second call ends as one
call for the whole depth does, in scenes that differ at most in what the author was told. So the text,
the source of randomness, the records of draws, the files and the log are the same. -/
theorem resolve_continued {expandAll : Bool} {least most : Int} (hleast : 0 ≤ least)
    (hmost : least ≤ most) {text middle : String} {scene next : Scene}
    (hsound : scene.registry.Sound) (hnamed : resolver.Named)
    (h : (resolver.atPace expandAll least).resolve text 0 scene = .ok middle next) :
    Alike unnoticed ((resolver.atPace expandAll most).resolve middle least next)
        ((resolver.atPace expandAll most).resolve text 0 scene) ∧
      ∀ result after, (resolver.atPace expandAll most).resolve middle least next =
          .ok result after →
        ∃ after', (resolver.atPace expandAll most).resolve text 0 scene = .ok result after' ∧
          after'.desk.source = after.desk.source ∧ after'.store = after.store ∧
          after'.desk.files = after.desk.files ∧ after'.desk.log = after.desk.log ∧
          after'.desk.expansions = after.desk.expansions := by
  obtain ⟨first, rfl⟩ : ∃ first : Nat, least = first := ⟨least.toNat, by omega⟩
  obtain ⟨more, rfl⟩ : ∃ more : Nat, most = first + more := ⟨(most - first).toNat, by omega⟩
  have hfresh (maxDepth : Int) (passes : Nat) (depth : Int) (text : List Char) :
      (resolver.atPace expandAll maxDepth).freshExpand passes depth text =
        (resolver.atPace expandAll 0).freshExpand passes depth text := by
    have htrial (body : List Char) : (resolver.atPace expandAll maxDepth).resolveToken body =
        (resolver.atPace expandAll 0).resolveToken body := by
      rw [resolveToken_atPace, resolveToken_atPace]
    have hmode : (resolver.atPace expandAll maxDepth).options.expandAllPerPass =
        (resolver.atPace expandAll 0).options.expandAllPerPass := rfl
    exact freshExpand_congr hmode htrial passes depth text
  have hnamed (maxDepth : Int) : (resolver.atPace expandAll maxDepth).Named := hnamed
  -- the first call, and where it leaves a pass that remembers nothing
  have hfirst := resolve_alike_fresh hsound (hnamed first) text 0
  rw [h, hfresh, maxDepth_atPace, Int.sub_zero, Int.toNat_natCast] at hfirst
  obtain ⟨stopped, hstopped, hnext⟩ := hfirst.of_ok
  obtain ⟨chars, hchars, rfl⟩ : ∃ chars, (resolver.atPace expandAll 0).freshExpand first 0 text.toList
      scene = .ok chars stopped ∧ middle = String.ofList chars := by
    rw [Act.run_map] at hstopped
    split at hstopped
    · next chars t hrun =>
      cases hstopped
      exact ⟨chars, hrun, rfl⟩
    · cases hstopped
  have hsoundNext : next.registry.Sound := by
    have htables : next.constants = scene.constants :=
      (eq_of_unnoticed hnext constants).trans ((steady_freshExpand _ _ _).keeps.of_ok hchars)
    have hregistry : next.registry = scene.registry := congrArg Prod.fst htables
    rwa [hregistry]
  -- the second call and the call for the whole depth, which go on from there alike
  have hsecond := resolve_alike_fresh hsoundNext (hnamed (first + more)) (String.ofList chars) first
  have hwhole := resolve_alike_fresh hsound (hnamed (first + more)) text 0
  have hmore : ((first : Int) + more - first).toNat = more := by omega
  have hall : ((first : Int) + more - 0).toNat = first + more := by omega
  rw [hfresh, maxDepth_atPace, hmore, String.toList_ofList] at hsecond
  rw [hfresh, maxDepth_atPace, hall] at hwhole
  have hgoOn := freshExpand_stopped hsound (hnamed 0) rfl hchars more
  rw [Int.zero_add] at hgoOn
  have hsteady : Steady ((resolver.atPace expandAll 0).freshExpand more first chars) :=
    steady_freshExpand more first chars
  have hmoved := (hsteady.map (f := String.ofList)).blind next stopped hnext
  have halike : Alike unnoticed
      ((resolver.atPace expandAll (first + more)).resolve (String.ofList chars) first next)
      ((resolver.atPace expandAll (first + more)).resolve text 0 scene) :=
    (hsecond.trans hmoved).trans ((hgoOn.symm.map String.ofList).trans hwhole.symm)
  refine ⟨halike, fun result after hrun => ?_⟩
  rw [hrun] at halike
  obtain ⟨after', hrun', hview⟩ := halike.of_ok
  have hsame := hview.symm
  exact ⟨after', hrun', eq_of_unnoticed hsame fun scene => scene.desk.source,
    eq_of_unnoticed hsame Scene.store, eq_of_unnoticed hsame fun scene => scene.desk.files,
    eq_of_unnoticed hsame fun scene => scene.desk.log,
    eq_of_unnoticed hsame fun scene => scene.desk.expansions⟩

def stairs : Scene :=
  { Scene.blank with registry :=
    { builtIn := []
      custom := [(.text "t", .always "t" "\x7bu\x7d"), (.text "u", .always "u" "end")] } }

theorem sound_stairs : stairs.registry.Sound := by
  intro table htable
  have htables : Keyed.values stairs.registry.builtIn ++ Keyed.values stairs.registry.custom =
      [.always "t" "\x7bu\x7d", .always "u" "end"] := rfl
  rw [htables] at htable
  rcases List.mem_pair.1 htable with rfl | rfl
  all_goals exact RandomTable.sound_always _ _

/-- The first call rejects one placeholder and stops one table short, and the second one, which tries
both again, comes to the text and the log of a single call. -/
theorem resolve_continued_stairs : stairs.registry.Sound ∧ Named {} ∧ (0 : Int) ≤ 1 ∧ (1 : Int) ≤ 3 ∧
    ∃ next after after',
      (atPace {} true 1).resolve "\x7bw\x7d, \x7bt\x7d" 0 stairs = .ok "\x7bw\x7d, \x7bu\x7d" next ∧
      (atPace {} true 3).resolve "\x7bw\x7d, \x7bu\x7d" 1 next = .ok "\x7bw\x7d, end" after ∧
      (atPace {} true 3).resolve "\x7bw\x7d, \x7bt\x7d" 0 stairs =
        .ok "\x7bw\x7d, end" after' ∧
      after'.desk.expansions = after.desk.expansions := by
  have hnamed : Named {} := List.forall_mem_nil _
  have hleast : (0 : Int) ≤ 1 := by decide
  have hmost : (1 : Int) ≤ 3 := by decide
  obtain ⟨next, hfirst⟩ : ∃ next, (atPace {} true 1).resolve "\x7bw\x7d, \x7bt\x7d" 0 stairs =
      .ok "\x7bw\x7d, \x7bu\x7d" next := Act.ok_of_result? (by decide +kernel)
  obtain ⟨whole, hwhole⟩ : ∃ whole, (atPace {} true 3).resolve "\x7bw\x7d, \x7bt\x7d" 0 stairs =
      .ok "\x7bw\x7d, end" whole := Act.ok_of_result? (by decide +kernel)
  obtain ⟨halike, hparts⟩ := resolve_continued hleast hmost sound_stairs hnamed hfirst
  rw [hwhole] at halike
  obtain ⟨after, hsecond, -⟩ := halike.symm.of_ok
  obtain ⟨after', hrun, -, -, -, -, hexpansions⟩ := hparts _ after hsecond
  exact ⟨sound_stairs, hnamed, hleast, hmost, next, after, after', hfirst, hsecond, hrun, hexpansions⟩

def landing : Scene := { stairs with desk := { stairs.desk with source := .listed [0, 0, 0, 4] } }

/-- An item without a name is drawn by the first call and again by the second one, so that the die that is
rolled next shows another face. -/
theorem nameless_drawn_again : ∃ next after after',
    (atPace ghost true 1).resolve "\x7brandom_character\x7d, \x7bt\x7d" 0 landing =
        .ok "\x7brandom_character\x7d, \x7bu\x7d" next ∧
      (atPace ghost true 3).resolve "\x7brandom_character\x7d, \x7bu\x7d" 1 next =
        .ok "\x7brandom_character\x7d, end" after ∧
      (atPace ghost true 3).resolve "\x7brandom_character\x7d, \x7bt\x7d" 0 landing =
        .ok "\x7brandom_character\x7d, end" after' ∧
      (after.desk.source.below 6).1 = 0 ∧ (after'.desk.source.below 6).1 = 4 := by
  obtain ⟨next, hfirst⟩ : ∃ next, (atPace ghost true 1).resolve "\x7brandom_character\x7d, \x7bt\x7d" 0
      landing = .ok "\x7brandom_character\x7d, \x7bu\x7d" next := Act.ok_of_result? (by decide +kernel)
  obtain ⟨after', hwhole⟩ : ∃ after', (atPace ghost true 3).resolve
      "\x7brandom_character\x7d, \x7bt\x7d" 0 landing = .ok "\x7brandom_character\x7d, end" after' :=
    Act.ok_of_result? (by decide +kernel)
  obtain ⟨after, hsecond⟩ : ∃ after, (atPace ghost true 3).resolve
      "\x7brandom_character\x7d, \x7bu\x7d" 1 next = .ok "\x7brandom_character\x7d, end" after := by
    rw [← Act.after_of_ok hfirst]
    exact Act.ok_of_result? (by decide +kernel)
  refine ⟨next, after, after', hfirst, hsecond, hwhole, ?_, ?_⟩
  · rw [← Act.after_of_ok hsecond, ← Act.after_of_ok hfirst]
    decide +kernel
  · rw [← Act.after_of_ok hwhole]
    decide +kernel

end Stopping

end Resolver

end TaleLoom
