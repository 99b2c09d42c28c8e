import TaleLoom.Proofs.Placeholder.Diagnostics
import TaleLoom.Proofs.Unwarned
/-!
Texts that are sure to be cleared of braces. A text clears in no pass if it holds no brace, and in one
pass more if each of its placeholders is sure to be answered by a text that clears before
(`Resolver.ClearsIn`). Such a text is expanded without a warning to one that holds no brace, and no
placeholder of it is expanded deeper than its passes go (`Resolver.delivers_resolve`).
-/

namespace TaleLoom

open Number Text

namespace Bare

variable {cs : List Char}

/-- A text without braces is cut into its characters. -/
theorem segments (h : Bare cs) : TaleLoom.segments cs = cs.map .plain := by
  have hsound : ∀ segment ∈ cs.map Segment.plain, segment.Sound := by
    intro segment hmem
    obtain ⟨c, hc, rfl⟩ := List.mem_map.1 hmem
    exact .plain (h c hc)
  have hwritten := segments_written hsound
  rwa [List.flatMap_map, show cs.flatMap (fun c => Segment.text (.plain c)) = cs from
    List.flatMap_singleton' cs] at hwritten

theorem tokens (h : Bare cs) : TaleLoom.tokens cs = [] := by
  rw [TaleLoom.tokens, h.segments, List.filterMap_map]
  exact List.filterMap_eq_nil_iff.2 fun _ _ => rfl

end Bare

structure Closed (q : List Char → Prop) : Prop where
  bare {cs : List Char} : Bare cs → q cs
  append {cs ds : List Char} : q cs → q ds → q (cs ++ ds)

theorem Closed.join {q : List Char → Prop} (hq : Closed q) {separator : String}
    (hseparator : Bare separator.toList) {texts : List String} (h : ∀ text ∈ texts, q text.toList) :
    q (join separator texts).toList := by
  rw [TaleLoom.Text.join, String.toList_intercalate]
  induction texts with
  | nil => exact hq.bare (by simp [Bare])
  | cons text rest ih =>
    obtain ⟨htext, hrest⟩ := List.forall_mem_cons.1 h
    cases rest with
    | nil => simpa using htext
    | cons next others =>
      rw [List.map_cons, List.map_cons, List.intercalate_cons_cons]
      exact hq.append (hq.append htext (hq.bare hseparator)) (ih hrest)

def EventDetail.ExpandsBelow (limit : Int) (detail : EventDetail) : Prop :=
  ∃ token replacement depth,
    detail = expansion token replacement (.int depth) ∧ 0 ≤ depth ∧ depth < limit

namespace Scene

def Traced (base : Scene) (limit : Int) (scene : Scene) : Prop :=
  ∃ told, scene.desk.expansions = base.desk.expansions ++ told ∧
    ∀ detail ∈ told, detail.ExpandsBelow limit

def ReadyBelow (base : Scene) (limit : Int) (scene : Scene) : Prop :=
  base.Ready scene ∧ base.Traced limit scene

theorem readyBelow_self {scene : Scene} (h : scene.Writable) (limit : Int) : scene.ReadyBelow limit scene :=
  ⟨⟨rfl, h, Desk.unwarned.refl _⟩, [], (List.append_nil _).symm, List.forall_mem_nil _⟩

theorem traced_of_telling {base s t : Scene} {limit : Int} (h : telling.holds s t)
    (hs : base.Traced limit s) : base.Traced limit t := by
  obtain ⟨told, htold, hbelow⟩ := hs
  have hsame : t.desk.expansions = s.desk.expansions := congrArg (·.2.1) h.2
  exact ⟨told, hsame.trans htold, hbelow⟩

/-- An expansion is posted. -/
theorem delivers_expansion {base : Scene} {limit depth : Int} (hdepth : 0 ≤ depth) (hlimit : depth < limit)
    (token v : Value) :
    (atDesk (Desk.post (.expansion token v (.int depth)))).Delivers (base.ReadyBelow limit)
      fun _ => True := by
  rintro scene ⟨hready, told, htold, hbelow⟩
  let detail : EventDetail := .expansion token v (.int depth)
  refine ⟨_, scene.posted detail (.object []), by rw [run_atDesk, Desk.run_post]; rfl, ⟨?_, ?_⟩, trivial⟩
  · exact ⟨hready.constants, ConsumptionStore.writable_of_files (s := scene) rfl rfl hready.writable,
      Desk.unwarned.trans hready.unwarned (Desk.unwarned_posted _ _ _)⟩
  · refine ⟨told ++ if scene.desk.log.paused then [] else [detail], ?_, ?_⟩
    · show (scene.desk.posted detail (.object [])).expansions = _
      rw [Desk.expansions_posted, htold, List.append_assoc]
      simp [detail, EventDetail.kind]
    · intro other hother
      rcases List.mem_append.1 hother with hother | hother
      · exact hbelow other hother
      · split at hother
        · cases hother
        · obtain rfl := List.mem_singleton.1 hother
          exact ⟨token, v, depth, rfl, hdepth, hlimit⟩

end Scene

namespace Resolver

section Clearing

variable (resolver : Resolver) (base : Scene)

def Answers (q : List Char → Prop) (body : List Char) : Prop :=
  (resolver.attempt body).Delivers base.Ready fun attempt =>
    ∃ s, attempt = .ok (.text s) ∧ q s.toList

def ClearsIn : Nat → List Char → Prop
  | 0, cs => Bare cs
  | passes + 1, cs => Flat cs ∧ ∀ token ∈ tokens cs, resolver.Answers base (ClearsIn passes) (trim token.body)

variable {resolver base}

theorem closed_clearsIn (passes : Nat) : Closed (resolver.ClearsIn base passes) := by
  cases passes with
  | zero => exact ⟨fun h => h, fun h h' => Bare.append h h'⟩
  | succ passes =>
    constructor
    case bare =>
      intro cs h
      refine ⟨flat_of_free h, ?_⟩
      rw [h.tokens]
      exact List.forall_mem_nil _
    case append =>
      rintro cs ds ⟨hcs, htokens⟩ ⟨hds, htokens'⟩
      refine ⟨hcs.append hds, ?_⟩
      rw [tokens, segments_append hcs hds, List.filterMap_append]
      intro token htoken
      exact (List.mem_append.1 htoken).elim (htokens token) (htokens' token)

end Clearing

/-! ### Passes over a text that clears -/

variable {resolver : Resolver} {base : Scene} {q : List Char → Prop} {depth limit : Int}

theorem delivers_resolveToken {body : List Char} (h : resolver.Answers base q body) :
    (resolver.resolveToken body).Delivers (base.ReadyBelow limit) fun found =>
      ∃ s, found = some (.text s) ∧ q s.toList := by
  have hready : (resolver.resolveToken body).Delivers base.Ready fun found =>
      ∃ s, found = some (.text s) ∧ q s.toList := by
    refine Act.Delivers.bind h ?_
    rintro attempt ⟨s, rfl, hs⟩
    exact Act.Delivers.pure ⟨s, rfl, hs⟩
  exact hready.also (resolver.telling_resolveToken body) fun _ _ => Scene.traced_of_telling

def SegmentClears (resolver : Resolver) (base : Scene) (q : List Char → Prop) : Segment → Prop
  | .plain c => isBrace c = false
  | .token token => resolver.Answers base q (trim token.body)

/-- What a pass over some segments comes to: their pieces have the property, nothing is rejected, and
where nothing is replaced there was no brace. -/
structure Cleared (q : List Char → Prop) (row : List Segment) (before : PassState)
    (out : List Value × PassState) : Prop where
  pieces : ∃ cs, joinPieces out.1 = .ok cs ∧ q cs
  rejected : out.2.rejected = []
  kept : before.replaced = true → out.2.replaced = true
  bare : out.2.replaced = false → Bare (row.flatMap Segment.text)

theorem delivers_passSegment (hall : resolver.options.expandAllPerPass = true) (hdepth : 0 ≤ depth)
    (hlimit : depth < limit) {token : Token} (h : resolver.Answers base q (trim token.body))
    {state : PassState} (hstate : state.rejected = []) :
    (resolver.passSegment depth state (.token token)).Delivers (base.ReadyBelow limit) fun out =>
      (∃ s, out.1 = .text s ∧ q s.toList) ∧ out.2.rejected = [] ∧ out.2.replaced = true := by
  simp only [passSegment, hstate, hall, List.contains_nil, Bool.not_true, Bool.and_false,
    Bool.false_eq_true, if_false]
  refine Act.Delivers.bind (delivers_resolveToken h) ?_
  rintro found ⟨s, rfl, hs⟩
  refine Act.Delivers.bind (Scene.delivers_expansion hdepth hlimit _ _).discard fun _ _ => ?_
  exact Act.Delivers.pure ⟨⟨s, rfl, hs⟩, rfl, rfl⟩

theorem delivers_passSegments (hall : resolver.options.expandAllPerPass = true) (hq : Closed q)
    (hdepth : 0 ≤ depth) (hlimit : depth < limit) {row : List Segment}
    (hrow : ∀ segment ∈ row, SegmentClears resolver base q segment) {state : PassState}
    (hstate : state.rejected = []) :
    (resolver.passSegments depth state row).Delivers (base.ReadyBelow limit) (Cleared q row state) := by
  induction row generalizing state with
  | nil =>
    have hnil : Bare [] := by decide
    exact Act.Delivers.pure ⟨⟨[], rfl, hq.bare hnil⟩, hstate, id, fun _ => hnil⟩
  | cons segment rest ih =>
    obtain ⟨hsegment, hrest⟩ := List.forall_mem_cons.1 hrow
    cases segment with
    | plain c =>
      have hc : Bare [c] := List.forall_mem_singleton.2 hsegment
      have hpiece : (resolver.passSegment depth state (.plain c)).Delivers (base.ReadyBelow limit)
          fun out => out = (.text (String.singleton c), state) := Act.Delivers.pure rfl
      refine Act.Delivers.bind hpiece ?_
      rintro _ rfl
      refine Act.Delivers.bind (ih hrest hstate) fun out hout => Act.Delivers.pure ?_
      obtain ⟨cs, hjoin, hcs⟩ := hout.pieces
      refine ⟨⟨_, joinPieces_text (String.singleton c) hjoin, ?_⟩, hout.rejected, hout.kept, ?_⟩
      · rw [String.toList_singleton]
        exact hq.append (hq.bare hc) hcs
      · intro hkept
        rw [List.flatMap_cons]
        exact hc.append (hout.bare hkept)
    | token token =>
      have hpiece := delivers_passSegment hall hdepth hlimit hsegment hstate
      refine Act.Delivers.bind hpiece ?_
      rintro ⟨v, next⟩ ⟨⟨s, rfl, hs⟩, hnext, hreplaced⟩
      refine Act.Delivers.bind (ih hrest hnext) fun out hout => Act.Delivers.pure ?_
      obtain ⟨cs, hjoin, hcs⟩ := hout.pieces
      have hout' := hout.kept hreplaced
      refine ⟨⟨_, joinPieces_text s hjoin, hq.append hs hcs⟩, hout.rejected, fun _ => hout', ?_⟩
      intro hkept
      rw [hout'] at hkept
      cases hkept

/-- A pass over a text that clears brings it one pass nearer, or finds no brace in it. -/
theorem delivers_pass (hall : resolver.options.expandAllPerPass = true) {passes : Nat}
    (hdepth : 0 ≤ depth) (hlimit : depth < limit) {text : List Char}
    (h : resolver.ClearsIn base (passes + 1) text) :
    (resolver.pass depth [] text).Delivers (base.ReadyBelow limit) fun out =>
      out.2.rejected = [] ∧
        if out.2.replaced then resolver.ClearsIn base passes out.1 else Bare out.1 := by
  obtain ⟨hflat, htokens⟩ := h
  have hrow : ∀ segment ∈ segments text,
      SegmentClears resolver base (resolver.ClearsIn base passes) segment := by
    intro segment hsegment
    cases segment with
    | plain c =>
      cases hflat _ hsegment with
      | plain hc => exact hc
    | token token => exact htokens token (List.mem_filterMap.2 ⟨_, hsegment, rfl⟩)
  refine Act.Delivers.bind (delivers_passSegments hall (closed_clearsIn passes) hdepth hlimit hrow rfl) ?_
  rintro ⟨pieces, state⟩ ⟨⟨cs, hjoin, hcs⟩, hrejected, -, hbare⟩
  dsimp only at hjoin hrejected hbare ⊢
  cases hreplaced : state.replaced with
  | true =>
    simp only [if_true]
    apply Act.Delivers.ofExcept_bind hjoin
    apply Act.Delivers.pure
    exact ⟨hrejected, by rwa [if_pos hreplaced]⟩
  | false =>
    simp only [Bool.false_eq_true, if_false]
    have htext : Bare text := by
      rw [← flatten_segments text]
      exact hbare hreplaced
    apply Act.Delivers.pure
    exact ⟨hrejected, by rwa [hreplaced, if_neg (by decide)]⟩

/-- A text without braces stays as it is, however many passes are allowed. -/
theorem run_expand_bare (resolver : Resolver) (passes : Nat) (depth : Int) {text : List Char}
    (h : Bare text) (scene : Scene) : resolver.expand passes depth [] text scene = .ok text scene := by
  cases passes with
  | zero =>
    have hleft : pending [] text = [] := by rw [pending, h.tokens, List.filter_nil]
    simp only [expand, hleft, List.isEmpty_nil, Bool.not_true, Bool.false_eq_true, if_false, Act.run_pure]
  | succ passes =>
    have hrow (row : List Char) (state : PassState) :
        ∃ pieces, resolver.passSegments depth state (row.map .plain) scene = .ok (pieces, state) scene := by
      induction row with
      | nil => exact ⟨[], rfl⟩
      | cons c rest ih =>
        obtain ⟨pieces, hpieces⟩ := ih
        refine ⟨.text (String.singleton c) :: pieces, ?_⟩
        simp only [List.map_cons, passSegments, Act.run_bind, passSegment, Act.run_pure, hpieces]
    obtain ⟨pieces, hpieces⟩ := hrow text { rejected := [] }
    have hpass := run_pass resolver depth [] text scene
    rw [h.segments, hpieces] at hpass
    simp only [Bool.false_eq_true, if_false] at hpass
    simp only [expand, Act.run_bind, hpass, Bool.false_eq_true, if_false, Act.run_pure]

/-- Enough passes over a text that clears leave no brace and no warning, and tell of no expansion below
those that it takes. -/
theorem delivers_expand (hall : resolver.options.expandAllPerPass = true) {needed passes : Nat}
    (hpasses : needed ≤ passes) (hdepth : 0 ≤ depth) (hlimit : depth + needed ≤ limit)
    {text : List Char} (h : resolver.ClearsIn base needed text) :
    (resolver.expand passes depth [] text).Delivers (base.ReadyBelow limit) Bare := by
  -- each pass takes one of the needed ones off, and the depth goes up with it
  induction needed generalizing passes depth text with
  | zero =>
    intro scene hscene
    exact ⟨text, scene, run_expand_bare resolver passes depth h scene, hscene, h⟩
  | succ needed ih =>
    obtain ⟨passes, rfl⟩ : ∃ fewer, passes = fewer + 1 := ⟨passes - 1, by omega⟩
    have hbelow : depth < limit := by omega
    refine Act.Delivers.bind (delivers_pass hall hdepth hbelow h) ?_
    rintro ⟨text', state⟩ ⟨hrejected, hnext⟩
    dsimp only at hrejected hnext ⊢
    cases hreplaced : state.replaced with
    | true =>
      rw [if_pos hreplaced] at hnext
      simp only [if_true, hrejected]
      exact ih (by omega) (by omega) (by omega) hnext
    | false =>
      rw [hreplaced, if_neg (by decide)] at hnext
      simp only [Bool.false_eq_true, if_false]
      exact Act.Delivers.pure hnext

theorem delivers_resolve (hall : resolver.options.expandAllPerPass = true) {needed : Nat}
    (hneeded : needed ≤ resolver.options.maxDepth) {text : String}
    (h : resolver.ClearsIn base needed text.toList) :
    (resolver.resolve text 0).Delivers (base.ReadyBelow needed) fun s => Bare s.toList := by
  have hexpand : (resolver.expand (resolver.options.maxDepth - 0).toNat 0 [] text.toList).Delivers
      (base.ReadyBelow needed) Bare :=
    delivers_expand hall (by omega) (Int.le_refl 0) (by omega) h
  refine Act.Delivers.bind hexpand fun cs hcs => Act.Delivers.pure ?_
  rwa [String.toList_ofList]

end Resolver

end TaleLoom
