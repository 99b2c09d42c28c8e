import TaleLoom.Proofs.Placeholder.Attempts
import TaleLoom.Proofs.Routine
/-!
How a call that expands a text ends. The rejected placeholders that are carried from pass to pass are
those whose trials left them (`PassRun.rejected_eq`), and a pass that replaces nothing has tried or
passed over every placeholder of its text for that reason (`PassRun.rejected_of_settled`). So a call
either stops at a text all of whose placeholders were rejected, or it reaches the greatest depth and
says how many it left. -/

namespace TaleLoom

namespace Scene

structure Tells (details : List EventDetail) (s t : Scene) : Prop where
  paused : t.desk.log.paused = s.desk.log.paused
  expansions : t.desk.expansions = s.desk.expansions ++ if s.desk.log.paused then [] else details
  depthWarnings : t.desk.depthWarnings = s.desk.depthWarnings

namespace Tells

variable {s t u : Scene} {details details' : List EventDetail}

theorem refl (s : Scene) : Tells [] s s := ⟨rfl, by simp, rfl⟩

theorem of_telling (h : telling.holds s t) : Tells [] s t := by
  obtain ⟨-, hdesk⟩ := h
  simp only [Frame.on, Desk.telling, Frame.fixing, Prod.mk.injEq] at hdesk
  exact ⟨hdesk.1, by simp [hdesk.2.1], hdesk.2.2⟩

theorem trans (h : Tells details s t) (h' : Tells details' t u) : Tells (details ++ details') s u where
  paused := h'.paused.trans h.paused
  expansions := by
    rw [h'.expansions, h.expansions, h.paused]
    cases s.desk.log.paused <;> simp
  depthWarnings := h'.depthWarnings.trans h.depthWarnings

theorem expanded (scene : Scene) (trial : Trial) (v : Value) :
    Tells [trial.expanded v] scene (scene.expanded trial v) where
  paused := Desk.paused_posted _ _ _
  expansions := by
    simp only [Scene.expanded, Scene.posted, Desk.expansions_posted]
    cases scene.desk.log.paused <;> simp [Trial.expanded, EventDetail.kind]
  depthWarnings := Desk.depthWarnings_posted _ _ _

end Tells

end Scene

namespace Trial

variable {resolver : Resolver} {trial : Trial} {after : Scene}

theorem tells_of_ok {v : Option Value} (h : trial.outcome resolver = .ok v after) :
    Scene.Tells [] trial.scene after :=
  .of_telling ((resolver.telling_resolveToken _).of_ok h)

theorem tells_of_error {fault : Fault} (h : trial.outcome resolver = .error fault after) :
    Scene.Tells [] trial.scene after :=
  .of_telling ((resolver.telling_resolveToken _).of_error h)

theorem expansion?_of_rejected (h : trial.outcome resolver = .ok none after) :
    trial.expansion? resolver = none := by
  simp [expansion?, value?, h]

theorem expansion?_of_replaced {v : Value} (h : trial.outcome resolver = .ok (some v) after) :
    trial.expansion? resolver = some (trial.expanded v) := by
  simp [expansion?, value?, h]

theorem expansion?_of_failed {fault : Fault} (h : trial.outcome resolver = .error fault after) :
    trial.expansion? resolver = none := by
  simp [expansion?, value?, h]

theorem isRejected_of_rejected (h : trial.outcome resolver = .ok none after) :
    trial.isRejected resolver = true := by
  simp [isRejected, h]

theorem isRejected_of_replaced {v : Value} (h : trial.outcome resolver = .ok (some v) after) :
    trial.isRejected resolver = false := by
  simp [isRejected, h]

def IsNameless (resolver : Resolver) (trial : Trial) : Prop :=
  resolver.Nameless (Text.trim trial.token.body) trial.scene

/-- Where diagnostics take the place of what cannot be expanded, only an item without a name leaves its
placeholder. -/
theorem isNameless_of_mark (hmark : resolver.options.markUnresolved = true)
    (h : trial.isRejected resolver = true) : trial.IsNameless resolver := by
  have hrun := resolver.run_resolveToken (Text.trim trial.token.body) trial.scene
  unfold isRejected outcome at h
  cases hattempt : resolver.attempt (Text.trim trial.token.body) trial.scene with
  | error fault after =>
    rw [hattempt] at hrun
    simp [hrun] at h
  | ok attempt after =>
    rw [hattempt] at hrun
    cases attempt with
    | error diagnostic => simp [hrun, hmark] at h
    | ok v =>
      cases v <;> simp [hrun, Value.present?] at h
      exact Resolver.nameless_of_null hattempt

end Trial

namespace Resolver

variable {resolver : Resolver} {trial : Trial} {after : Scene}

theorem expansionsOf_of_rejected (h : trial.outcome resolver = .ok none after)
    (trials : List Trial) :
    resolver.expansionsOf (trial :: trials) = resolver.expansionsOf trials :=
  List.filterMap_cons_none (Trial.expansion?_of_rejected h)

theorem expansionsOf_of_replaced {v : Value} (h : trial.outcome resolver = .ok (some v) after)
    (trials : List Trial) :
    resolver.expansionsOf (trial :: trials) = trial.expanded v :: resolver.expansionsOf trials :=
  List.filterMap_cons_some (Trial.expansion?_of_replaced h)

theorem expansionsOf_of_failed {fault : Fault} (h : trial.outcome resolver = .error fault after) :
    resolver.expansionsOf [trial] = [] :=
  List.filterMap_cons_none (Trial.expansion?_of_failed h)

theorem rejectedTexts_of_rejected (h : trial.outcome resolver = .ok none after)
    (trials : List Trial) :
    resolver.rejectedTexts (trial :: trials) = trial.token.text :: resolver.rejectedTexts trials := by
  simp [rejectedTexts, Trial.isRejected_of_rejected h]

theorem rejectedTexts_of_replaced {v : Value} (h : trial.outcome resolver = .ok (some v) after)
    (trials : List Trial) :
    resolver.rejectedTexts (trial :: trials) = resolver.rejectedTexts trials := by
  simp [rejectedTexts, Trial.isRejected_of_replaced h]

end Resolver

namespace Resolver.PassRun

variable {resolver : Resolver} {depth : Int} {state state' : PassState} {segments : List Segment}
  {scene after : Scene} {trials : List Trial} {pieces : List Value} {last : Except Fault PassState}

/-- The log tells of the trials that replaced something. -/
theorem tells (h : PassRun resolver depth state segments scene trials pieces last after) :
    scene.Tells (resolver.expansionsOf trials) after := by
  induction h with
  | done state scene => exact .refl scene
  | skipped _ _ ih => exact ih
  | rejected _ hout _ ih =>
    rw [expansionsOf_of_rejected hout]
    exact (Trial.tells_of_ok hout).trans ih
  | replaced _ hout _ ih =>
    rw [expansionsOf_of_replaced hout]
    exact (Trial.tells_of_ok hout).trans ((Scene.Tells.expanded _ _ _).trans ih)
  | failed _ hout =>
    rw [expansionsOf_of_failed hout]
    exact Trial.tells_of_error hout

/-- The rejected placeholders are those before the pass and those whose trials left them. -/
theorem rejected_eq (h : PassRun resolver depth state segments scene trials pieces (.ok state') after) :
    state'.rejected = (resolver.rejectedTexts trials).reverse ++ state.rejected := by
  -- the end is made a variable, so that the induction is over every run and failed runs drop out
  generalize hlast : (Except.ok state' : Except Fault PassState) = last at h
  induction h with
  | done state scene =>
    obtain rfl := Except.ok.inj hlast
    rfl
  | skipped _ _ ih => exact ih hlast
  | rejected _ hout _ ih =>
    rw [ih hlast, rejectedTexts_of_rejected hout]
    simp [PassState.reject]
  | replaced _ hout _ ih =>
    rw [ih hlast, rejectedTexts_of_replaced hout]
    rfl
  | failed _ _ => cases hlast

/-- A placeholder is replaced in the pass exactly when one was before or a trial replaces one. -/
theorem replaced_iff (h : PassRun resolver depth state segments scene trials pieces (.ok state') after) :
    state'.replaced = true ↔ state.replaced = true ∨ resolver.expansionsOf trials ≠ [] := by
  generalize hlast : (Except.ok state' : Except Fault PassState) = last at h
  induction h with
  | done state scene =>
    obtain rfl := Except.ok.inj hlast
    simp [expansionsOf]
  | skipped _ _ ih => exact ih hlast
  | rejected _ hout _ ih =>
    rw [ih hlast, expansionsOf_of_rejected hout]
    rfl
  | replaced _ hout _ ih =>
    rw [ih hlast, expansionsOf_of_replaced hout]
    simp [PassState.replace]
  | failed _ _ => cases hlast

/-- After a first replacement a pass that stops there has no more trials. -/
theorem trials_eq_nil (h : PassRun resolver depth state segments scene trials pieces last after)
    (hstop : resolver.options.expandAllPerPass = false) (hreplaced : state.replaced = true) :
    trials = [] := by
  have hnone {state : PassState} {scene : Scene} {token : Token} (hreplaced : state.replaced = true) :
      resolver.trialOf depth state scene (.token token) = none := by
    simp [trialOf, hstop, hreplaced]
  induction h with
  | done state scene => rfl
  | skipped _ _ ih => exact ih hreplaced
  | rejected htrial _ _ _ => simp [hnone hreplaced] at htrial
  | replaced htrial _ _ _ => simp [hnone hreplaced] at htrial
  | failed htrial _ => simp [hnone hreplaced] at htrial

/-- A pass that stops at the first replacement makes one at most. -/
theorem length_expansions_le (h : PassRun resolver depth state segments scene trials pieces last after)
    (hstop : resolver.options.expandAllPerPass = false) :
    (resolver.expansionsOf trials).length ≤ 1 := by
  induction h with
  | done state scene => exact Nat.zero_le 1
  | skipped _ _ ih => exact ih
  | rejected _ hout _ ih =>
    rw [expansionsOf_of_rejected hout]
    exact ih
  | replaced _ hout hrest _ =>
    rw [expansionsOf_of_replaced hout, hrest.trials_eq_nil hstop rfl]
    exact Nat.le_refl 1
  | failed _ hout =>
    rw [expansionsOf_of_failed hout]
    exact Nat.zero_le 1

/-- Where a pass replaces nothing, every placeholder of its text has been rejected. -/
theorem rejected_of_settled
    (h : PassRun resolver depth state segments scene trials pieces (.ok state') after)
    (hsettled : state'.replaced = false) {token : Token} (htoken : .token token ∈ segments) :
    token.text ∈ state'.rejected := by
  generalize hlast : (Except.ok state' : Except Fault PassState) = last at h
  induction h with
  | done state scene => cases htoken
  | @skipped state segment rest scene after trials pieces last htrial hrest ih =>
    subst hlast
    rcases List.mem_cons.1 htoken with rfl | htoken
    · -- nothing was replaced before it either, so it was passed over for its rejection
      have hbefore := mt hrest.replaced_iff.2 (by simp [hsettled])
      simp only [not_or, Bool.not_eq_true] at hbefore
      have hskip : token.text ∈ state.rejected := by simpa [trialOf, hbefore.1] using htrial
      rw [hrest.rejected_eq]
      exact List.mem_append_right _ hskip
    · exact ih htoken rfl
  | rejected _ hout hrest ih =>
    subst hlast
    rcases List.mem_cons.1 htoken with heq | htoken
    · obtain rfl := Segment.token.inj heq
      rw [hrest.rejected_eq]
      exact List.mem_append_right _ List.mem_cons_self
    · exact ih htoken rfl
  | replaced _ _ hrest _ =>
    subst hlast
    have hreplaced := hrest.replaced_iff.2 (Or.inl rfl)
    rw [hsettled] at hreplaced
    cases hreplaced
  | failed _ _ => cases hlast

theorem depth_of_mem (h : PassRun resolver depth state segments scene trials pieces last after)
    {trial : Trial} (htrial : trial ∈ trials) : trial.depth = depth := by
  induction h with
  | done state scene => cases htrial
  | skipped _ _ ih => exact ih htrial
  | rejected _ _ _ ih =>
    rcases List.mem_cons.1 htrial with rfl | htrial
    · rfl
    · exact ih htrial
  | replaced _ _ _ ih =>
    rcases List.mem_cons.1 htrial with rfl | htrial
    · rfl
    · exact ih htrial
  | failed _ _ =>
    obtain rfl := List.mem_singleton.1 htrial
    rfl

theorem expansion_depth (h : PassRun resolver depth state segments scene trials pieces last after)
    {detail : EventDetail} (hdetail : detail ∈ resolver.expansionsOf trials) :
    ∃ token v, detail = .expansion token v (.int depth) := by
  obtain ⟨trial, htrial, heq⟩ := List.mem_filterMap.1 hdetail
  obtain ⟨v, -, rfl⟩ := Option.map_eq_some_iff.1 heq
  rw [← h.depth_of_mem htrial]
  exact ⟨_, v, rfl⟩

end Resolver.PassRun

def PassTrail.expansions (resolver : Resolver) (p : PassTrail) : List EventDetail :=
  resolver.expansionsOf p.trials

namespace Resolver

def rejectedBy (resolver : Resolver) (passes : List PassTrail) : List (List Char) :=
  resolver.rejectedTexts (passes.flatMap (·.trials))

/-- Passes at one depth after another, each of which replaced something: exactly one placeholder where
a pass stops at the first. -/
structure Climb (resolver : Resolver) (depth : Int) (replacing : List PassTrail) : Prop where
  depths : ∀ (i : Nat) (p : PassTrail), replacing[i]? = some p → p.depth = depth + i
  replaces : ∀ p ∈ replacing, p.expansions resolver ≠ []
  single : resolver.options.expandAllPerPass = false →
    ∀ p ∈ replacing, (p.expansions resolver).length = 1
  told : ∀ p ∈ replacing, ∀ detail ∈ p.expansions resolver,
    ∃ token v, detail = .expansion token v (.int p.depth)

/-- The call stops with a pass that replaces nothing, at a text of rejected placeholders. -/
structure Settles (resolver : Resolver) (depth : Int) (passes replacing : List PassTrail)
    (rejected : List (List Char)) (result : List Char) (s t : Scene) : Prop where
  last : ∃ last, passes = replacing ++ [last] ∧ last.depth = depth + replacing.length ∧
    last.expansions resolver = []
  rejected : ∀ token ∈ tokens result, token.text ∈ rejected ++ resolver.rejectedBy passes
  silent : t.desk.depthWarnings = s.desk.depthWarnings

/-- Every pass of the call replaced something, and the log warns of what is left. -/
structure Deepens (resolver : Resolver) (passes replacing : List PassTrail)
    (rejected : List (List Char)) (result : List Char) (s t : Scene) : Prop where
  all : passes = replacing
  warned : ∃ left, left = ((tokens result).filter fun token =>
      token.text ∉ rejected ++ resolver.rejectedBy passes).length ∧
    t.desk.depthWarnings =
      s.desk.depthWarnings ++ if left = 0 then [] else [resolver.depthWarning left]

namespace Climb

variable {resolver : Resolver} {depth : Int}

theorem nil : Climb resolver depth [] := ⟨by simp, by simp, by simp, by simp⟩

theorem cons {state : PassState} {rejected : List (List Char)} {text : List Char}
    {scene next : Scene} {trials : List Trial} {pieces : List Value} {replacing : List PassTrail}
    (h : PassRun resolver depth { rejected } (segments text) scene trials pieces (.ok state) next)
    (hreplaced : state.replaced = true) (hclimb : Climb resolver (depth + 1) replacing) :
    Climb resolver depth (⟨depth, trials⟩ :: replacing) := by
  have hexpansions : resolver.expansionsOf trials ≠ [] :=
    (h.replaced_iff.1 hreplaced).resolve_left (by simp)
  constructor
  case depths =>
    intro i p hp
    cases i with
    | zero =>
      obtain rfl : ⟨depth, trials⟩ = p := by simpa using hp
      simp
    | succ i =>
      have hdepth := hclimb.depths i p (by simpa using hp)
      omega
  case replaces => exact List.forall_mem_cons.2 ⟨hexpansions, hclimb.replaces⟩
  case single =>
    intro hstop
    refine List.forall_mem_cons.2 ⟨?_, hclimb.single hstop⟩
    have hle := h.length_expansions_le hstop
    have hpos := List.length_pos_iff.2 hexpansions
    exact Nat.le_antisymm hle hpos
  case told =>
    refine List.forall_mem_cons.2 ⟨fun detail hdetail => ?_, hclimb.told⟩
    exact h.expansion_depth hdetail

end Climb

variable {resolver : Resolver} {depth : Int}

theorem mem_segments_of_mem_tokens {text : List Char} {token : Token} (h : token ∈ tokens text) :
    .token token ∈ segments text := by
  obtain ⟨segment, hmem, heq⟩ := List.mem_filterMap.1 h
  cases segment with
  | plain c => cases heq
  | token t =>
    obtain rfl := Option.some.inj heq
    exact hmem

theorem ofDepth_depthWarning (resolver : Resolver) (left : Nat) :
    (resolver.depthWarning left).ofDepth = true := by
  simp only [Notice.ofDepth, depthWarning, depthWarningLead, String.toList_append,
    List.append_assoc, List.isPrefixOf_iff_prefix]
  exact List.prefix_append _ _

theorem depthWarnings_warned (resolver : Resolver) (scene : Scene) (left : Nat) :
    (resolver.warned scene left).desk.depthWarnings =
      scene.desk.depthWarnings ++ if left = 0 then [] else [resolver.depthWarning left] := by
  unfold warned
  split
  · simp
  · rw [Desk.depthWarnings_push, ofDepth_depthWarning]
    rfl

theorem expansions_warned (resolver : Resolver) (scene : Scene) (left : Nat) :
    (resolver.warned scene left).desk.expansions = scene.desk.expansions := by
  unfold warned
  split <;> rfl

theorem rejectedBy_cons (resolver : Resolver) (p : PassTrail) (passes : List PassTrail) :
    resolver.rejectedBy (p :: passes) =
      resolver.rejectedTexts p.trials ++ resolver.rejectedBy passes := by
  simp [rejectedBy, rejectedTexts]

theorem mem_rejectedBy_cons {state : PassState} {rejected : List (List Char)} {text : List Char}
    {scene next : Scene} {trials : List Trial} {pieces : List Value}
    (h : PassRun resolver depth { rejected } (segments text) scene trials pieces (.ok state) next)
    (passes : List PassTrail) (s : List Char) :
    s ∈ rejected ++ resolver.rejectedBy (⟨depth, trials⟩ :: passes) ↔
      s ∈ state.rejected ++ resolver.rejectedBy passes := by
  rw [rejectedBy_cons, h.rejected_eq]
  simp only [List.mem_append, List.mem_reverse]
  constructor
  · rintro (hs | hs | hs)
    · exact Or.inl (Or.inr hs)
    · exact Or.inl (Or.inl hs)
    · exact Or.inr hs
  · rintro ((hs | hs) | hs)
    · exact Or.inr (Or.inl hs)
    · exact Or.inl hs
    · exact Or.inr (Or.inr hs)

/-- A call climbs for some passes, and then it settles or the greatest depth is reached. -/
theorem ExpandRun.ends {count : Nat} {rejected : List (List Char)} {text result : List Char}
    {scene after : Scene} {passes : List PassTrail}
    (h : ExpandRun resolver count depth rejected text scene passes (.ok result) after) :
    ∃ replacing, Climb resolver depth replacing ∧
      (after.desk.expansions = scene.desk.expansions ++
        if scene.desk.log.paused then [] else replacing.flatMap (·.expansions resolver)) ∧
      (replacing.length < count ∧ Settles resolver depth passes replacing rejected result scene after ∨
        replacing.length = count ∧ Deepens resolver passes replacing rejected result scene after) := by
  generalize hlast : (Except.ok result : Except Fault (List Char)) = last at h
  induction h with
  | exhausted depth rejected text scene =>
    obtain rfl := Except.ok.inj hlast
    refine ⟨[], .nil, by simp [expansions_warned], Or.inr ⟨rfl, rfl, _, rfl, ?_⟩⟩
    have hpending : pending rejected result = (tokens result).filter fun token =>
        token.text ∉ rejected ++ resolver.rejectedBy [] := by
      simp [pending, rejectedBy, rejectedTexts]
    rw [depthWarnings_warned, hpending]
  | @settled count depth rejected text scene after trials pieces state hrun hsettled =>
    obtain rfl := Except.ok.inj hlast
    -- the last pass: nothing is replaced, so all its placeholders end up rejected
    have hnone : resolver.expansionsOf trials = [] := by
      have hreplaced := mt hrun.replaced_iff.2 (by simp [hsettled])
      simpa using hreplaced
    have htells := hrun.tells
    refine ⟨[], .nil, by simp [htells.expansions, hnone], Or.inl ⟨Nat.succ_pos count, ?_⟩⟩
    refine ⟨⟨_, rfl, by simp, hnone⟩, ?_, htells.depthWarnings⟩
    intro token htoken
    have hmem := hrun.rejected_of_settled hsettled (mem_segments_of_mem_tokens htoken)
    rw [hrun.rejected_eq] at hmem
    simpa [rejectedBy, or_comm] using hmem
  | @continued count depth rejected text text' scene next after trials pieces state passes last hrun
      hreplaced hjoin hrest ih =>
    -- what this pass rejected stays rejected, so the end of the rest is the end of the call
    obtain ⟨replacing, hclimb, hlog, hend⟩ := ih hlast
    have htells := hrun.tells
    refine ⟨⟨depth, trials⟩ :: replacing, hclimb.cons hrun hreplaced, ?_, ?_⟩
    · rw [hlog, htells.expansions, htells.paused]
      cases scene.desk.log.paused <;> simp [PassTrail.expansions]
    · rcases hend with ⟨hlt, ⟨final, hpasses, hdepth, hquiet⟩, hrejected, hsilent⟩ |
        ⟨heq, hall, left, hleft, hwarn⟩
      · have hdepth' : final.depth = depth + (replacing.length + 1 : Nat) := by omega
        refine Or.inl ⟨Nat.succ_lt_succ hlt, ⟨final, by simp [hpasses], hdepth', hquiet⟩, ?_, ?_⟩
        · intro token htoken
          exact (mem_rejectedBy_cons hrun passes _).2 (hrejected token htoken)
        · exact hsilent.trans htells.depthWarnings
      · refine Or.inr ⟨by simp [heq], by simp [hall], left, ?_, ?_⟩
        · simp only [hleft, mem_rejectedBy_cons hrun passes]
        · rw [hwarn, htells.depthWarnings]
  | failed _ => cases hlast
  | broken _ _ _ => cases hlast

theorem isNameless_of_mem_rejectedBy (hmark : resolver.options.markUnresolved = true)
    {passes : List PassTrail} {s : List Char} (h : s ∈ resolver.rejectedBy passes) :
    ∃ trial ∈ passes.flatMap (·.trials), trial.token.text = s ∧ trial.IsNameless resolver := by
  obtain ⟨trial, htrial, rfl⟩ := List.mem_map.1 h
  obtain ⟨hmem, hrejected⟩ := List.mem_filter.1 htrial
  exact ⟨trial, hmem, rfl, Trial.isNameless_of_mark hmark hrejected⟩

/-- A call that returns climbs for some passes at depths below the greatest one. Then it either stops
there, at a text all of whose placeholders it has rejected, or it reaches the greatest depth and warns
of exactly the placeholders that it has not rejected. Where diagnostics take the place of what cannot be
expanded, nothing is left below the greatest depth but placeholders for which an item without a name was
chosen. -/
theorem resolve_ends {text result : String} {scene after : Scene}
    (h : resolver.resolve text depth scene = .ok result after) :
    ∃ replacing, Climb resolver depth replacing ∧
      replacing.length ≤ (resolver.options.maxDepth - depth).toNat ∧
      (∀ p ∈ replacing, p.depth < resolver.options.maxDepth) ∧
      (after.desk.expansions = scene.desk.expansions ++
        if scene.desk.log.paused then [] else replacing.flatMap (·.expansions resolver)) ∧
      (depth + replacing.length < resolver.options.maxDepth ∧
          Settles resolver depth (resolver.callPasses text depth scene) replacing [] result.toList
            scene after ∧
          (resolver.options.markUnresolved = true → ∀ token ∈ tokens result.toList,
            ∃ trial ∈ resolver.callTrials text depth scene,
              trial.token.text = token.text ∧ trial.IsNameless resolver) ∨
        (resolver.options.maxDepth ≤ depth ∧ replacing = [] ∨
            depth + replacing.length = resolver.options.maxDepth) ∧
          Deepens resolver (resolver.callPasses text depth scene) replacing [] result.toList scene
            after) := by
  obtain ⟨last, after', hrun, heq⟩ := callRun resolver text depth scene
  cases last with
  | error fault =>
    rw [h] at heq
    cases heq
  | ok out =>
    rw [h] at heq
    obtain ⟨rfl, rfl⟩ := EStateM.Result.ok.inj heq
    rw [String.toList_ofList]
    obtain ⟨replacing, hclimb, hlog, hend⟩ := hrun.ends
    have hle : replacing.length ≤ (resolver.options.maxDepth - depth).toNat := by
      rcases hend with ⟨hlt, -⟩ | ⟨heq, -⟩
      · exact Nat.le_of_lt hlt
      · exact Nat.le_of_eq heq
    refine ⟨replacing, hclimb, hle, ?_, hlog, ?_⟩
    · intro p hp
      obtain ⟨i, hi, rfl⟩ := List.mem_iff_getElem.1 hp
      have hdepth := hclimb.depths i _ (List.getElem?_eq_getElem hi)
      omega
    · rcases hend with ⟨hlt, hsettles⟩ | ⟨hlength, hdeepens⟩
      · refine Or.inl ⟨by omega, hsettles, fun hmark token htoken => ?_⟩
        have hmem := hsettles.rejected token htoken
        rw [List.nil_append] at hmem
        exact isNameless_of_mem_rejectedBy hmark hmem
      · refine Or.inr ⟨?_, hdeepens⟩
        -- at the greatest depth already no pass is made; else one is made at every depth below
        by_cases hdepth : resolver.options.maxDepth ≤ depth
        · exact Or.inl ⟨hdepth, List.length_eq_zero_iff.1 (by omega)⟩
        · exact Or.inr (by omega)

def ladder : Scene :=
  { Scene.blank with registry :=
    { builtIn := []
      custom := [(.text "up", .ofEntries (.text "up") ["\x7btop\x7d"]),
        (.text "top", .ofEntries (.text "top") ["roof"]),
        (.text "hum", .ofEntries (.text "hum") ["\x7bhum\x7d"])] } }

def shallow : Resolver := { options := { maxDepth := 3 } }

/-- One call replaces something in two passes and settles, with a name of no table left in the text. The
other one comes to the greatest depth, where it warns of the one placeholder that it leaves. -/
theorem resolve_ends_ladder :
    (∃ after replacing, resolve {} "\x7bup\x7d, \x7bx\x7d" 0 ladder = .ok "roof, \x7bx\x7d" after ∧
      Climb {} 0 replacing ∧ (replacing.flatMap (·.expansions {})).length = 2 ∧
      Settles {} 0 (callPasses {} "\x7bup\x7d, \x7bx\x7d" 0 ladder) replacing []
        "roof, \x7bx\x7d".toList ladder after) ∧
    ∃ after replacing, resolve shallow "\x7bhum\x7d" 0 ladder = .ok "\x7bhum\x7d" after ∧
      Climb shallow 0 replacing ∧ replacing.length = 3 ∧
      Deepens shallow (callPasses shallow "\x7bhum\x7d" 0 ladder) replacing [] "\x7bhum\x7d".toList
        ladder after ∧
      after.desk.depthWarnings = [depthWarning shallow 1] := by
  constructor
  case left =>
    obtain ⟨after, hrun⟩ : ∃ after, resolve {} "\x7bup\x7d, \x7bx\x7d" 0 ladder =
        .ok "roof, \x7bx\x7d" after := Act.ok_of_result? (by decide +kernel)
    have hpasses : (callPasses {} "\x7bup\x7d, \x7bx\x7d" 0 ladder).length = 3 := by decide +kernel
    have hexpansions : after.desk.expansions.length = 2 := by
      rw [← Act.after_of_ok hrun]
      decide +kernel
    obtain ⟨replacing, hclimb, -, -, hlog, ⟨-, hsettles, -⟩ | ⟨hdepth, hdeepens⟩⟩ := resolve_ends hrun
    · have hstart : ladder.desk.expansions = [] := rfl
      rw [hlog, hstart, List.nil_append, if_neg (by decide)] at hexpansions
      exact ⟨after, replacing, hrun, hclimb, hexpansions, hsettles⟩
    · -- three passes are fewer than the greatest depth
      rw [hdeepens.all] at hpasses
      rcases hdepth with ⟨hbelow, -⟩ | hdepth
      · exact absurd hbelow (by decide)
      · rw [hpasses] at hdepth
        exact absurd hdepth (by decide)
  case right =>
    obtain ⟨after, hrun⟩ : ∃ after, resolve shallow "\x7bhum\x7d" 0 ladder =
        .ok "\x7bhum\x7d" after := Act.ok_of_result? (by decide +kernel)
    have hwarnings : after.desk.depthWarnings = [depthWarning shallow 1] := by
      rw [← Act.after_of_ok hrun]
      decide +kernel
    obtain ⟨replacing, hclimb, -, -, -, ⟨-, hsettles, -⟩ | ⟨hdepth, hdeepens⟩⟩ := resolve_ends hrun
    · have hsilent := hsettles.silent
      rw [hwarnings] at hsilent
      exact absurd hsilent (by decide)
    · rcases hdepth with ⟨hbelow, -⟩ | hdepth
      · exact absurd hbelow (by decide)
      · rw [Int.zero_add] at hdepth
        exact ⟨after, replacing, hrun, hclimb, Int.ofNat.inj hdepth, hdeepens, hwarnings⟩

def ghost : Resolver := { options := { markUnresolved := true }, items := some [.named .null 0] }

/-- A placeholder for which an item without a name is chosen stays, though diagnostics are asked for. The
item was drawn, and the author is not told. -/
theorem nameless_stays :
    ∃ after, resolve ghost "\x7brandom_character\x7d" 0 .blank = .ok "\x7brandom_character\x7d" after ∧
      after.desk.rolls.size = 1 ∧ after.desk.notices = #[] := by
  obtain ⟨after, hrun⟩ : ∃ after, resolve ghost "\x7brandom_character\x7d" 0 .blank =
      .ok "\x7brandom_character\x7d" after := Act.ok_of_result? (by decide +kernel)
  refine ⟨after, hrun, ?_⟩
  rw [← Act.after_of_ok hrun]
  decide +kernel

end Resolver

end TaleLoom
