import TaleLoom.Proofs.Placeholder.Answers
/-!
The two pass modes agree where the answers of the placeholders lie in the tables. `Expands` says once
what a row of segments comes to when everything in it is expanded, and it comes to one row only
(`Expands.unique`). A pass of either mode replaces some of the placeholders by what they return
(`Rewrites`), which changes nothing about that (`Expands.of_rewrites`); and where a call stops before
the greatest depth, what is left expands to itself. So both modes stop at the same text
(`resolve_modes_agree`).
-/

namespace TaleLoom

open Text

namespace Resolver

open Scene

variable {resolver : Resolver} {base : Scene}

theorem mem_tokens_of_mem_segments {t : Token} {cs : List Char} (h : .token t ∈ segments cs) : t ∈ tokens cs :=
  List.mem_filterMap.2 ⟨.token t, h, rfl⟩

section Expanding

variable {answers : Token → Option Value → Prop}

/-- What a row of segments comes to: a placeholder that is left stays, and what takes the place of
another one is expanded in its turn. -/
inductive Expands (answers : Token → Option Value → Prop) : List Segment → List Segment → Prop
  | nil : Expands answers [] []
  | plain {c : Char} {rest rest' : List Segment} : Expands answers rest rest' →
      Expands answers (.plain c :: rest) (.plain c :: rest')
  | left {t : Token} {rest rest' : List Segment} : answers t none →
      Expands answers rest rest' →
      Expands answers (.token t :: rest) (.token t :: rest')
  | replaced {t : Token} {s : String} {inner rest rest' : List Segment} :
      answers t (some (.text s)) → Expands answers (segments s.toList) inner →
      Expands answers rest rest' → Expands answers (.token t :: rest) (inner ++ rest')

/-- A placeholder that can come up: it stands in the text, or in what takes the place of one that can
come up. -/
inductive Occurs (answers : Token → Option Value → Prop) (text : List Char) : Token → Prop
  | written {t : Token} : .token t ∈ segments text → Occurs answers text t
  | given {t t' : Token} {s : String} : Occurs answers text t →
      answers t (some (.text s)) → .token t' ∈ segments s.toList →
      Occurs answers text t'

theorem Occurs.proper {text : List Char} {t : Token} (h : Occurs answers text t) : t.Proper := by
  cases h with
  | written hmem => exact proper_of_mem_segments hmem
  | given _ _ hmem => exact proper_of_mem_segments hmem

def TokensIn (p : Token → Prop) (row : List Segment) : Prop := ∀ t, .token t ∈ row → p t

theorem TokensIn.tail {p : Token → Prop} {segment : Segment} {rest : List Segment}
    (h : TokensIn p (segment :: rest)) : TokensIn p rest :=
  fun t ht => h t (List.mem_cons_of_mem _ ht)

/-- A row comes to one row only. -/
theorem Expands.unique {text : List Char}
    (hdecided : ∀ t, Occurs answers text t → Decided answers t)
    {row out out' : List Segment} (hrow : TokensIn (Occurs answers text) row)
    (h : Expands answers row out) (h' : Expands answers row out') : out = out' := by
  induction h generalizing out' with
  | nil =>
    cases h'
    rfl
  | plain _ ih =>
    cases h' with
    | plain hrest => rw [ih hrow.tail hrest]
  | @left t rest rest' hnone _ ih =>
    have ht := hrow t List.mem_cons_self
    cases h' with
    | left _ hrest => rw [ih hrow.tail hrest]
    | replaced hsome _ _ =>
      have hboth := (hdecided t ht).unique _ _ hnone hsome
      cases hboth
  | @replaced t s inner rest rest' hsome _ _ ihinner ihrest =>
    have ht := hrow t List.mem_cons_self
    cases h' with
    | left hnone _ =>
      have hboth := (hdecided t ht).unique _ _ hnone hsome
      cases hboth
    | replaced hsome' hinner hrest =>
      have hboth := (hdecided t ht).unique _ _ hsome hsome'
      cases hboth
      rw [ihinner (fun t' ht' => .given ht hsome ht') hinner, ihrest hrow.tail hrest]

/-- What two rows come to one after the other is what each of them comes to. -/
theorem Expands.split {row row' out : List Segment} (h : Expands answers (row ++ row') out) :
    ∃ first second, out = first ++ second ∧ Expands answers row first ∧
      Expands answers row' second := by
  induction row generalizing out with
  | nil => exact ⟨[], out, rfl, .nil, h⟩
  | cons segment rest ih =>
    rw [List.cons_append] at h
    cases h with
    | plain hrest =>
      obtain ⟨first, second, rfl, hfirst, hsecond⟩ := ih hrest
      exact ⟨_ :: first, second, rfl, .plain hfirst, hsecond⟩
    | left hnone hrest =>
      obtain ⟨first, second, rfl, hfirst, hsecond⟩ := ih hrest
      exact ⟨_ :: first, second, rfl, .left hnone hfirst, hsecond⟩
    | @replaced _ _ inner _ _ hsome hinner hrest =>
      obtain ⟨first, second, rfl, hfirst, hsecond⟩ := ih hrest
      exact ⟨inner ++ first, second, (List.append_assoc _ _ _).symm, .replaced hsome hinner hfirst,
        hsecond⟩

/-- A row of placeholders that are all left comes to itself. -/
theorem Expands.self {row : List Segment}
    (h : TokensIn (fun t => answers t none) row) : Expands answers row row := by
  induction row with
  | nil => exact .nil
  | cons segment rest ih =>
    cases segment with
    | plain c => exact .plain (ih h.tail)
    | token t => exact .left (h t List.mem_cons_self) (ih h.tail)

/-- Some of the placeholders of a row are replaced by what they return. -/
inductive Rewrites (answers : Token → Option Value → Prop) : List Segment → List Segment → Prop
  | nil : Rewrites answers [] []
  | kept {segment : Segment} {rest rest' : List Segment} : Rewrites answers rest rest' →
      Rewrites answers (segment :: rest) (segment :: rest')
  | replaced {t : Token} {s : String} {rest rest' : List Segment} :
      answers t (some (.text s)) → Rewrites answers rest rest' →
      Rewrites answers (.token t :: rest) (segments s.toList ++ rest')

/-- Replacing some of its placeholders leaves a row at what it comes to. -/
theorem Expands.of_rewrites {row row' out : List Segment} (h : Rewrites answers row row')
    (hout : Expands answers row' out) : Expands answers row out := by
  induction h generalizing out with
  | nil => exact hout
  | kept _ ih =>
    cases hout with
    | plain hrest => exact .plain (ih hrest)
    | left hnone hrest => exact .left hnone (ih hrest)
    | replaced hsome hinner hrest => exact .replaced hsome hinner (ih hrest)
  | replaced hsome _ ih =>
    obtain ⟨inner, rest, rfl, hinner, hrest⟩ := hout.split
    exact .replaced hsome hinner (ih hrest)

end Expanding

section Passes

variable {answers : Token → Option Value → Prop} {text : List Char}

structure Fit (answers : Token → Option Value → Prop) (text : List Char) (row : List Segment) : Prop where
  sound : ∀ segment ∈ row, segment.Sound
  occurs : TokensIn (Occurs answers text) row

namespace Fit

variable {row rest : List Segment} {segment : Segment}

theorem tail (h : Fit answers text (segment :: rest)) : Fit answers text rest :=
  ⟨fun s hs => h.sound s (List.mem_cons_of_mem _ hs), h.occurs.tail⟩

theorem proper {t : Token} (h : Fit answers text (.token t :: rest)) : t.Proper := by
  cases h.sound _ List.mem_cons_self with
  | token ht => exact ht

theorem start (h : Flat text) : Fit answers text (segments text) :=
  ⟨h, fun _ ht => .written ht⟩

theorem rewritten (hdecided : ∀ t, Occurs answers text t → Decided answers t)
    {row row' : List Segment} (h : Rewrites answers row row')
    (hrow : Fit answers text row) : Fit answers text row' := by
  induction h with
  | nil => exact hrow
  | kept _ ih =>
    have hrest := ih hrow.tail
    refine ⟨List.forall_mem_cons.2 ⟨hrow.sound _ List.mem_cons_self, hrest.sound⟩, fun t ht => ?_⟩
    rcases List.mem_cons.1 ht with rfl | ht
    · exact hrow.occurs t List.mem_cons_self
    · exact hrest.occurs t ht
  | @replaced t s rest rest' hsome _ ih =>
    have hrest := ih hrow.tail
    have ht := hrow.occurs t List.mem_cons_self
    obtain ⟨s', hs', hflat⟩ := (hdecided t ht).flat _ hsome
    cases hs'
    constructor
    · intro segment hmem
      exact (List.mem_append.1 hmem).elim (hflat segment) (hrest.sound segment)
    · intro t' ht'
      rcases List.mem_append.1 ht' with ht' | ht'
      · exact .given ht hsome ht'
      · exact hrest.occurs t' ht'

end Fit

theorem returns_of_outcome {t : Token} {depth : Int} {scene after : Scene} {found : Option Value}
    (hscene : scene.constants = base.constants)
    (h : Trial.outcome resolver ⟨depth, t, scene⟩ = .ok found after) :
    resolver.Returns base t found ∧ after.constants = base.constants := by
  refine ⟨⟨scene, after, hscene, h⟩, ?_⟩
  exact ((resolver.steady_resolveToken (trim t.body)).keeps.of_ok h).trans hscene

/-- A pass replaces some of the placeholders by what they return, and remembers only such as are
left. -/
theorem PassRun.rewrites {depth : Int} {state state' : PassState} {row : List Segment}
    {scene after : Scene} {trials : List Trial} {pieces : List Value}
    (hdecided : ∀ t, Occurs (resolver.Returns base) text t → Decided (resolver.Returns base) t)
    (h : PassRun resolver depth state row scene trials pieces (.ok state') after)
    (hrow : Fit (resolver.Returns base) text row)
    (hrejected : AllRejected (fun t => resolver.Returns base t none) state.rejected)
    (hscene : scene.constants = base.constants) :
    ∃ row', Rewrites (resolver.Returns base) row row' ∧ joinPieces pieces = .ok (row'.flatMap Segment.text) ∧
      AllRejected (fun t => resolver.Returns base t none) state'.rejected ∧
      after.constants = base.constants := by
  generalize hlast : (Except.ok state' : Except Fault PassState) = last at h
  induction h with
  | done state scene =>
    obtain rfl := Except.ok.inj hlast
    exact ⟨[], .nil, rfl, hrejected, hscene⟩
  | @skipped state segment rest scene after trials pieces last _ _ ih =>
    obtain ⟨row', hrewrites, hjoin, hstill, htables⟩ := ih hrow.tail hrejected hscene hlast
    exact ⟨segment :: row', .kept hrewrites, joinPieces_kept _ hjoin, hstill, htables⟩
  | @rejected state token rest scene next after trials pieces last _ hout _ ih =>
    obtain ⟨hreturns, hnext⟩ := returns_of_outcome hscene hout
    obtain ⟨row', hrewrites, hjoin, hstill, htables⟩ :=
      ih hrow.tail (hrejected.cons hrow.proper hreturns) hnext hlast
    exact ⟨.token token :: row', .kept hrewrites, joinPieces_kept _ hjoin, hstill, htables⟩
  | @replaced state token rest scene next after trials pieces last v _ hout _ ih =>
    obtain ⟨hreturns, hnext⟩ := returns_of_outcome hscene hout
    obtain ⟨row', hrewrites, hjoin, hstill, htables⟩ := ih hrow.tail hrejected hnext hlast
    obtain ⟨s, rfl, -⟩ := (hdecided token (hrow.occurs token List.mem_cons_self)).flat v hreturns
    refine ⟨segments s.toList ++ row', .replaced hreturns hrewrites, ?_, hstill, htables⟩
    rw [List.flatMap_append, flatten_segments]
    exact joinPieces_text s hjoin
  | failed _ _ => cases hlast

/-- The warning of the greatest depth names at least one placeholder, so a call without it leaves
none. -/
theorem pending_eq_nil {scene : Scene} {rejected : List (List Char)} {text : List Char}
    (h : (resolver.warned scene (pending rejected text).length).desk.depthWarnings =
      scene.desk.depthWarnings) : pending rejected text = [] := by
  rw [depthWarnings_warned] at h
  split at h
  · next hlength => exact List.length_eq_zero_iff.1 hlength
  · have hlengths := congrArg List.length h
    simp at hlengths

/-- A call that does not stop at the greatest depth expands its text completely. -/
theorem ExpandRun.expands {count : Nat} {depth : Int} {rejected : List (List Char)}
    {start current result : List Char} {scene after : Scene} {passes : List PassTrail}
    (hdecided : ∀ t, Occurs (resolver.Returns base) start t → Decided (resolver.Returns base) t)
    (h : ExpandRun resolver count depth rejected current scene passes (.ok result) after)
    (hcurrent : Fit (resolver.Returns base) start (segments current))
    (hrejected : AllRejected (fun t => resolver.Returns base t none) rejected)
    (hscene : scene.constants = base.constants)
    (hdone : after.desk.depthWarnings = scene.desk.depthWarnings) :
    Expands (resolver.Returns base) (segments current) (segments result) := by
  generalize hlast : (Except.ok result : Except Fault (List Char)) = last at h
  induction h with
  | exhausted depth rejected text scene =>
    obtain rfl := Except.ok.inj hlast
    have hnone := pending_eq_nil hdone
    refine Expands.self fun t ht => hrejected t (proper_of_mem_segments ht) ?_
    have hmem := mem_tokens_of_mem_segments ht
    have hpast : t ∉ pending rejected result := by simp [hnone]
    simpa [pending, hmem] using hpast
  | settled hrun hsettled =>
    obtain rfl := Except.ok.inj hlast
    obtain ⟨row', -, -, hstill, -⟩ := hrun.rewrites hdecided hcurrent hrejected hscene
    exact Expands.self fun t ht =>
      hstill t (proper_of_mem_segments ht) (hrun.rejected_of_settled hsettled ht)
  | continued hrun hreplaced hjoin _ ih =>
    obtain ⟨row', hrewrites, hjoin', hstill, htables⟩ :=
      hrun.rewrites hdecided hcurrent hrejected hscene
    have hfit := hcurrent.rewritten hdecided hrewrites
    -- the new text is written from the new row, and cutting it gives that row back
    obtain rfl := Except.ok.inj (hjoin.symm.trans hjoin')
    have hrow := segments_written hfit.sound
    have hquiet := hdone.trans hrun.tells.depthWarnings.symm
    have hrest := ih (hrow.symm ▸ hfit) hstill htables hquiet hlast
    rw [hrow] at hrest
    exact Expands.of_rewrites hrewrites hrest
  | failed _ => cases hlast
  | broken _ _ _ => cases hlast

end Passes

section Modes

variable {scene after scene' after' : Scene} {text result result' : String} {depth : Int}

theorem returns_atPace (expandAll : Bool) (maxDepth : Int) :
    (resolver.atPace expandAll maxDepth).Returns base = resolver.Returns base := by
  funext t found
  simp only [Returns, resolveToken_atPace]

/-- A call that does not stop at the greatest depth expands its text completely, in either mode. -/
theorem expands_of_resolve (hflat : Flat text.toList)
    (hdecided : ∀ t, Occurs (resolver.Returns base) text.toList t →
      Decided (resolver.Returns base) t)
    (hscene : scene.constants = base.constants)
    (h : resolver.resolve text depth scene = .ok result after)
    (hdone : after.desk.depthWarnings = scene.desk.depthWarnings) :
    Expands (resolver.Returns base) (segments text.toList) (segments result.toList) := by
  obtain ⟨last, stop, hrun, heq⟩ := callRun resolver text depth scene
  cases last with
  | error fault =>
    rw [h] at heq
    cases heq
  | ok chars =>
    obtain ⟨rfl, rfl⟩ := EStateM.Result.ok.inj (h.symm.trans heq)
    rw [String.toList_ofList]
    exact hrun.expands hdecided (Fit.start hflat) AllRejected.nil hscene hdone

/-- A flat text comes to the same in both pass modes and whatever the greatest depths are, where no
call stops at its greatest depth: if every placeholder that can come up names a table with one row or
is always refused, and names of tables that are written into the text are flat. -/
theorem resolve_modes_agree {expandAll expandAll' : Bool} {maxDepth maxDepth' : Int}
    (hflat : Flat text.toList)
    (htokens : ∀ t, Occurs (resolver.Returns scene) text.toList t →
      resolver.NamesOneRow scene t ∨ resolver.AlwaysRefused scene t)
    (hnames : resolver.options.markUnresolved = true →
      ∀ t, Occurs (resolver.Returns scene) text.toList t → resolver.AlwaysRefused scene t →
        ∀ table, resolver.NamesTable scene t table → Flat table.name.plain.toList)
    (htables : scene'.constants = scene.constants)
    (h : (resolver.atPace expandAll maxDepth).resolve text depth scene = .ok result after)
    (hdone : after.desk.depthWarnings = scene.desk.depthWarnings)
    (h' : (resolver.atPace expandAll' maxDepth').resolve text depth scene' = .ok result' after')
    (hdone' : after'.desk.depthWarnings = scene'.desk.depthWarnings) : result = result' := by
  have hdecided (t : Token) (ht : Occurs (resolver.Returns scene) text.toList t) :
      Decided (resolver.Returns scene) t := by
    rcases htokens t ht with hone | hrefused
    · exact decided_of_oneRow hone
    · exact decided_of_refused ht.proper hrefused fun hmark => hnames hmark t ht hrefused
  have hexpands {expandAll : Bool} {maxDepth : Int} {start stop : Scene} {out : String}
      (hstart : start.constants = scene.constants)
      (hrun : (resolver.atPace expandAll maxDepth).resolve text depth start = .ok out stop)
      (hquiet : stop.desk.depthWarnings = start.desk.depthWarnings) :
      Expands (resolver.Returns scene) (segments text.toList) (segments out.toList) := by
    rw [← returns_atPace expandAll maxDepth] at hdecided ⊢
    exact expands_of_resolve hflat hdecided hstart hrun hquiet
  -- both calls stop at rows that the text comes to, of which there is only one
  have hrow := (hexpands rfl h hdone).unique hdecided (Fit.start hflat).occurs
    (hexpands htables h' hdone')
  have hchars : result.toList = result'.toList := by
    rw [← flatten_segments result.toList, hrow, flatten_segments]
  exact String.toList_inj.1 hchars

def answer? (resolver : Resolver) (scene : Scene) (t : Token) : Option String :=
  match (resolver.resolveToken (trim t.body)).result? scene with
  | some (some (.text s)) => some s
  | _ => none

theorem returns_of_answer? {t : Token} {s : String} (h : resolver.answer? base t = some s) :
    resolver.Returns base t (some (.text s)) := by
  unfold answer? at h
  split at h
  · next hresult =>
    obtain rfl := Option.some.inj h
    obtain ⟨after, hrun⟩ := Act.ok_of_result? hresult
    exact ⟨base, after, rfl, hrun⟩
  · cases h

/-- Where decided placeholders give texts with none but such placeholders, no others come up. -/
theorem Occurs.mem_of_closed {cs : List Char} {known : List Token}
    (hdecided : ∀ t ∈ known, Decided (resolver.Returns base) t) (hstart : tokens cs ⊆ known)
    (hclosed : ∀ t ∈ known, (resolver.answer? base t).any (tokens ·.toList ⊆ known) = true)
    {t : Token} (h : Occurs (resolver.Returns base) cs t) : t ∈ known := by
  induction h with
  | written hmem => exact hstart (mem_tokens_of_mem_segments hmem)
  | @given t t' s _ hgiven hmem ih =>
    obtain ⟨s', hs', hsubset⟩ := (Option.any_eq_true _ _).1 (hclosed t ih)
    have hsame := (hdecided t ih).unique _ _ (returns_of_answer? hs') hgiven
    obtain rfl : s' = s := Value.text.inj (Option.some.inj hsame)
    exact of_decide_eq_true hsubset (mem_tokens_of_mem_segments hmem)

def unusable (name : String) : RandomTable :=
  { RandomTable.always name "" with formula := .text "none" }

def marking : Resolver := { options := { markUnresolved := true } }

def halls : Scene :=
  { Scene.blank with registry :=
    { builtIn := []
      custom :=
        [(.text "t", .always "t" "\x7bu\x7d of \x7b\x7bw\x7d\x7d"), (.text "u", .always "u" "end"),
          (.text "w", unusable "w")] } }

def hallTokens : List Token :=
  [⟨false, "t.pick 2".toList⟩, ⟨false, "t.uppercase".toList⟩, ⟨false, ['u']⟩, ⟨true, ['w']⟩,
    ⟨false, ['U']⟩, ⟨true, ['W']⟩]

theorem hallTokens_fit : ∀ t ∈ hallTokens,
    marking.NamesOneRow halls t ∨ marking.AlwaysRefused halls t := by
  have hfirst {t : Token} (h : marking.NamesTable halls t
      (.always "t" "\x7bu\x7d of \x7b\x7bw\x7d\x7d")) : marking.NamesOneRow halls t :=
    namesOneRow_always h (by decide +kernel)
  have hsecond {t : Token} (h : marking.NamesTable halls t (.always "u" "end")) :
      marking.NamesOneRow halls t := namesOneRow_always h (by decide +kernel)
  have hthird {t : Token} (h : marking.NamesTable halls t (unusable "w")) :
      marking.AlwaysRefused halls t := alwaysRefused_of_formula h rfl
  simp only [hallTokens, List.forall_mem_cons]
  refine ⟨Or.inl (hfirst ⟨?_, rfl⟩), Or.inl (hfirst ⟨?_, rfl⟩), Or.inl (hsecond ⟨?_, rfl⟩),
    Or.inr (hthird ⟨?_, rfl⟩), Or.inl (hsecond ⟨?_, rfl⟩), Or.inr (hthird ⟨?_, rfl⟩),
    List.forall_mem_nil _⟩
  all_goals decide +kernel

theorem flat_name_halls {t : Token} {table : RandomTable} (h : marking.NamesTable halls t table) :
    Flat table.name.plain.toList := by
  have hnames : ∀ table ∈ [halls.registry.builtIn, halls.registry.custom].flatMap Keyed.values,
      Flat table.name.plain.toList := by decide +kernel
  exact hnames table (Lookup.mem_of_findIn h.found)

/-- What comes up in `halls` was written there at first, or stands in the row of a table. -/
theorem mem_hallTokens {t : Token}
    (h : Occurs (marking.Returns halls) "\x7bt.pick 2\x7d, \x7bt.uppercase\x7d".toList t) :
    t ∈ hallTokens := by
  refine h.mem_of_closed (fun t ht => ?_) (by decide +kernel) (by decide +kernel)
  have hproper : ∀ t ∈ hallTokens, t.Proper := by decide
  rcases hallTokens_fit t ht with hone | hrefused
  · exact decided_of_oneRow hone
  · exact decided_of_refused (hproper t ht) hrefused fun _ table htable => flat_name_halls htable

/-- The calls visit the placeholders of `halls` in different orders, and write the same text. -/
theorem resolve_modes_agree_halls :
    Flat "\x7bt.pick 2\x7d, \x7bt.uppercase\x7d".toList ∧
      (∀ t, Occurs (marking.Returns halls) "\x7bt.pick 2\x7d, \x7bt.uppercase\x7d".toList t →
        marking.NamesOneRow halls t ∨ marking.AlwaysRefused halls t) ∧
      (marking.options.markUnresolved = true →
        ∀ t, Occurs (marking.Returns halls) "\x7bt.pick 2\x7d, \x7bt.uppercase\x7d".toList t →
          marking.AlwaysRefused halls t →
            ∀ table, marking.NamesTable halls t table → Flat table.name.plain.toList) ∧
      ∃ result result' after after',
        (marking.atPace true 3).resolve "\x7bt.pick 2\x7d, \x7bt.uppercase\x7d" 0 halls =
          .ok result after ∧
        after.desk.depthWarnings = halls.desk.depthWarnings ∧
        (marking.atPace false 9).resolve "\x7bt.pick 2\x7d, \x7bt.uppercase\x7d" 0 halls =
          .ok result' after' ∧
        after'.desk.depthWarnings = halls.desk.depthWarnings ∧ result = result' ∧
        result = "end of [Invalid table: w], end of [Invalid table: w], end OF [Invalid table: w]" := by
  have hflat : Flat "\x7bt.pick 2\x7d, \x7bt.uppercase\x7d".toList := by decide +kernel
  have htokens (t : Token) (ht : Occurs (marking.Returns halls)
      "\x7bt.pick 2\x7d, \x7bt.uppercase\x7d".toList t) :
      marking.NamesOneRow halls t ∨ marking.AlwaysRefused halls t :=
    hallTokens_fit t (mem_hallTokens ht)
  have hnames : marking.options.markUnresolved = true →
      ∀ t, Occurs (marking.Returns halls) "\x7bt.pick 2\x7d, \x7bt.uppercase\x7d".toList t →
        marking.AlwaysRefused halls t →
          ∀ table, marking.NamesTable halls t table → Flat table.name.plain.toList :=
    fun _ _ _ _ _ => flat_name_halls
  obtain ⟨after, hrun⟩ : ∃ after, (marking.atPace true 3).resolve
      "\x7bt.pick 2\x7d, \x7bt.uppercase\x7d" 0 halls =
        .ok "end of [Invalid table: w], end of [Invalid table: w], end OF [Invalid table: w]" after :=
    Act.ok_of_result? (by decide +kernel)
  have hreturns : (((marking.atPace false 9).resolve
      "\x7bt.pick 2\x7d, \x7bt.uppercase\x7d" 0).result? halls).isSome := by decide +kernel
  obtain ⟨result', hresult'⟩ := Option.isSome_iff_exists.1 hreturns
  obtain ⟨after', hrun'⟩ := Act.ok_of_result? hresult'
  have hdone : after.desk.depthWarnings = halls.desk.depthWarnings := by
    rw [← Act.after_of_ok hrun]
    decide +kernel
  have hdone' : after'.desk.depthWarnings = halls.desk.depthWarnings := by
    rw [← Act.after_of_ok hrun']
    decide +kernel
  exact ⟨hflat, htokens, hnames, _, result', after, after', hrun, hdone, hrun', hdone',
    resolve_modes_agree hflat htokens hnames rfl hrun hdone hrun' hdone', rfl⟩

def riddle : Scene :=
  { Scene.blank with registry :=
    { builtIn := []
      custom :=
        [(.text "t", unusable "\x7b\x7be\x7d\x7ba\x7d\x7d"), (.text "e", .always "e" ""),
          (.text "a", .always "a" "X")] } }

theorem riddle_fit {t : Token} (ht : t.body ∈ [['t'], ['e'], ['a'], ['X']]) :
    marking.NamesOneRow riddle t ∨ marking.AlwaysRefused riddle t := by
  have hread : ∀ body ∈ [['t'], ['e'], ['a'], ['X']],
      Expression.ofBody marking.items.isSome (trim body) = .table := by decide +kernel
  have htable := hread t.body ht
  obtain ⟨doubled, body⟩ := t
  simp only [List.mem_cons, List.not_mem_nil, or_false] at ht
  rcases ht with rfl | rfl | rfl | rfl
  · have hfind : riddle.registry.find (tableParts (trim ['t'])).1 =
        .ok (some (unusable "\x7b\x7be\x7d\x7ba\x7d\x7d")) := rfl
    exact Or.inr (alwaysRefused_of_formula ⟨htable, hfind⟩ rfl)
  · have hfind : riddle.registry.find (tableParts (trim ['e'])).1 = .ok (some (.always "e" "")) :=
      rfl
    exact Or.inl (namesOneRow_always ⟨htable, hfind⟩ (by decide +kernel))
  · have hfind : riddle.registry.find (tableParts (trim ['a'])).1 = .ok (some (.always "a" "X")) :=
      rfl
    exact Or.inl (namesOneRow_always ⟨htable, hfind⟩ (by decide +kernel))
  · have hfind : riddle.registry.find (tableParts (trim ['X'])).1 = .ok none := rfl
    exact Or.inr (alwaysRefused_of_unknown htable hfind)

/-- Where the name of a table is not flat, a diagnostic sets the modes apart. In one pass the name's
placeholders give `X` between the braces that are left; one at a time, those braces are the second
braces of the other placeholder. -/
theorem modes_differ_on_braced_name :
    Flat "\x7bt\x7d".toList ∧
      (∀ t : Token, t.body ∈ [['t'], ['e'], ['a'], ['X']] →
        marking.NamesOneRow riddle t ∨ marking.AlwaysRefused riddle t) ∧
      (∀ trial ∈ (marking.atPace true 10).callTrials "\x7bt\x7d" 0 riddle ++
          (marking.atPace false 10).callTrials "\x7bt\x7d" 0 riddle,
        trial.token.body ∈ [['t'], ['e'], ['a'], ['X']]) ∧
      ∃ after after',
        (marking.atPace true 10).resolve "\x7bt\x7d" 0 riddle =
          .ok "[Invalid table: [Unknown table: X]]" after ∧
        after.desk.depthWarnings = riddle.desk.depthWarnings ∧
        (marking.atPace false 10).resolve "\x7bt\x7d" 0 riddle = .ok "[Invalid table: X]" after' ∧
        after'.desk.depthWarnings = riddle.desk.depthWarnings := by
  obtain ⟨after, hrun⟩ : ∃ after, (marking.atPace true 10).resolve "\x7bt\x7d" 0 riddle =
      .ok "[Invalid table: [Unknown table: X]]" after := Act.ok_of_result? (by decide +kernel)
  obtain ⟨after', hrun'⟩ : ∃ after', (marking.atPace false 10).resolve "\x7bt\x7d" 0 riddle =
      .ok "[Invalid table: X]" after' := Act.ok_of_result? (by decide +kernel)
  refine ⟨by decide +kernel, fun _ => riddle_fit, by decide +kernel, after, after', hrun, ?_, hrun', ?_⟩
  · rw [← Act.after_of_ok hrun]
    decide +kernel
  · rw [← Act.after_of_ok hrun']
    decide +kernel

end Modes

end Resolver

end TaleLoom
