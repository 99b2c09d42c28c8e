import TaleLoom.Proofs.Placeholder.Answers
import TaleLoom.Proofs.Spark.Keywords
/-!
Flat tables give flat answers. Where every text that can come out of the tables is flat
(`Scene.FlatTexts`), every text that takes a placeholder's place is (`Resolver.yields_resolveToken`):
a description stays flat while the wheels turn (`Description.FlatAt`), numbers hold no brace, and modifiers
and commas leave flat texts flat.
-/

namespace TaleLoom

open Text

section Numbers

open Number

theorem isBrace_of_isDigit {c : Char} (h : c.isDigit = true) : isBrace c = false := by
  cases hbrace : isBrace c with
  | false => rfl
  | true =>
    have hchar : c = '\x7b' ∨ c = '\x7d' := by simpa [isBrace] using hbrace
    rcases hchar with rfl | rfl <;> cases h

/-- A number that is written down holds no brace. -/
theorem free_digits {n : Int} {s : String} (h : digits n = .ok s) : ∀ c ∈ s.toList, isBrace c = false := by
  have hrepr (k : Nat) : ∀ c ∈ (Nat.repr k).toList, isBrace c = false := by
    intro c hc
    rw [Nat.toList_repr] at hc
    exact isBrace_of_isDigit (Nat.isDigit_of_mem_toDigits (by decide) (by decide) hc)
  have hdecimal : ∀ c ∈ (decimal n).toList, isBrace c = false := by
    cases n with
    | ofNat k => exact hrepr k
    | negSucc k =>
      rw [decimal, String.toList_append]
      intro c hc
      rcases List.mem_append.1 hc with hminus | hc
      · obtain rfl : c = '-' := by simpa using hminus
        rfl
      · exact hrepr (k + 1) c hc
  unfold digits at h
  split at h
  · cases h
  · cases h
    exact hdecimal

theorem flat_digits {n : Int} {s : String} (h : digits n = .ok s) : Flat s.toList :=
  flat_of_free (free_digits h)

end Numbers

namespace Desk

def wheel (desk : Desk) (number : Nat) : List String := desk.wheels[number]?.getD []

def turned : Frame Desk where
  holds desk desk' := ∀ number, desk'.wheel number ⊆ desk.wheel number
  refl _ _ := List.Subset.refl _
  trans h h' number := List.Subset.trans (h' number) (h number)

theorem turned_of_wheels {desk desk' : Desk} (h : desk'.wheels = desk.wheels) :
    turned.holds desk desk' := by
  intro number
  rw [wheel, wheel, h]
  exact List.Subset.refl _

theorem turned_warn (text : String) : (warn text).Keeps turned :=
  Act.Keeps.modify fun _ => turned_of_wheels rfl

theorem turned_post (detail : EventDetail) (context : Value) :
    (post detail context).Keeps turned := by
  intro desk
  rw [Act.after_of_ok (run_post detail context desk)]
  exact turned_of_wheels rfl

theorem turned_record (r : Roll) : (record r).Keeps turned := by
  intro desk
  rw [Act.after_of_ok (run_record r desk)]
  exact turned_of_wheels rfl

theorem turned_below (n : Nat) : (below n).Keeps turned :=
  Act.Keeps.modifyGet fun _ => turned_of_wheels rfl

theorem turned_roll (formula : Value) (reason : String) : (roll formula reason).Keeps turned := by
  intro desk
  cases hformula : Formula.ofValue formula with
  | ok f =>
    rw [Act.after_of_ok (run_roll_ok hformula reason desk)]
    exact turned_of_wheels rfl
  | error fault =>
    rw [Act.after_of_error (run_roll_error hformula reason desk)]
    exact turned.refl desk

theorem turned_draw (low high : Int) (reason : String) : (draw low high reason).Keeps turned := by
  refine Act.Keeps.ite (Act.Keeps.bind (Act.Keeps.throw _) fun _ => ?_) ?_
  all_goals
    exact Act.Keeps.bind (turned_below _) fun _ => Act.Keeps.bind (Act.Keeps.ofExcept _) fun _ =>
      Act.Keeps.bind (Act.Keeps.ofExcept _) fun _ => Act.Keeps.bind (turned_record _) fun _ =>
        Act.Keeps.pure _

theorem turned_drawPlace (count : Nat) (reason : String) :
    (drawPlace count reason).Keeps turned := by
  intro desk
  rw [Act.after_of_ok (run_drawPlace count reason desk)]
  exact turned_of_wheels rfl

theorem turned_choose {α : Type} (items : List α) (reason : String) :
    (choose items reason).Keeps turned := by
  refine Act.Keeps.ite (Act.Keeps.bind (Act.Keeps.throw _) fun _ => ?_) ?_
  all_goals
    refine Act.Keeps.bind (turned_drawPlace _ _) fun place => ?_
    split
    · exact Act.Keeps.pure _
    · exact Act.Keeps.throw _

/-- What is chosen is one of the things. -/
theorem yields_choose {α : Type} (items : List α) (reason : String) (start : Desk) :
    (choose items reason).Yields (turned.holds start) fun item => item ∈ items := by
  have hchosen : (choose items reason).Gives fun item => item ∈ items := by
    intro desk item after hrun
    cases items with
    | nil => cases hrun
    | cons first rest =>
      rw [run_choose (List.cons_ne_nil first rest)] at hrun
      cases hrun
      exact chosen_mem _ _ _
  exact ⟨(Act.Yields.of_keeps (turned_choose items reason)).keeps,
    fun desk item after _ hrun => hchosen desk item after hrun⟩

theorem turned_replaceFiles (f : FileTree → Except Fault FileTree) :
    (do
      let files ← f (← get).files
      modify fun desk => { desk with files } : Act Desk Unit).Keeps turned :=
  Act.Keeps.bind Act.Keeps.get fun _ => Act.Keeps.bind (Act.Keeps.ofExcept _) fun _ =>
    Act.Keeps.modify fun _ => turned_of_wheels rfl

theorem turned_makeFolders (p : Path) : (makeFolders p).Keeps turned :=
  turned_replaceFiles fun files => files.makeFolders p

theorem turned_writeText (p : Path) (text : String) : (writeText p text).Keeps turned :=
  turned_replaceFiles fun files => files.write p (.text text)

/-- A turn puts the text of the wheel behind the others. -/
theorem turned_turnWheel (number : Nat) : (turnWheel number).Keeps turned := by
  intro desk
  simp only [turnWheel, Act.after, Act.run_modifyGet]
  split
  · next first rest hwheel =>
    intro other text htext
    rw [wheel, Array.getElem?_setIfInBounds] at htext
    rw [wheel]
    split at htext
    · next hother =>
      subst hother
      rw [hwheel]
      split at htext
      · simpa [or_comm] using htext
      · cases htext
    · exact htext
  · exact turned.refl desk

/-- What it gives is a text of the wheel, or nothing. -/
theorem gives_turnWheel {number : Nat} {desk after : Desk} {text : String}
    (h : turnWheel number desk = .ok text after) : text ∈ desk.wheel number ∨ text = "" := by
  simp only [turnWheel, Act.run_modifyGet] at h
  split at h
  · next first rest hwheel =>
    cases h
    left
    rw [wheel, hwheel]
    exact List.mem_cons_self
  · cases h
    exact Or.inr rfl

end Desk

namespace Description

def FlatAt (desk : Desk) (d : Description) : Prop :=
  ∀ later text after, Desk.turned.holds desk later → d.render later = .ok text after → Flat text.toList

variable {start : Desk}

theorem flatAt_literal {text : String} (h : Flat text.toList) : (literal text).FlatAt start := by
  rintro later _ after - ⟨⟩
  exact h

def isFlat : Description → Bool
  | literal text => decide (Flat text.toList)
  | generated _ _ _ => false

theorem flatAt_of_isFlat {d : Description} (h : d.isFlat = true) : d.FlatAt start := by
  cases d with
  | literal text => exact flatAt_literal (of_decide_eq_true h)
  | generated label name generator => cases h

theorem flatAt_wheel {label name : String} {number : Nat}
    (h : ∀ text ∈ start.wheel number, Flat text.toList) :
    (generated label name (.wheel number)).FlatAt start := by
  intro later text after hlater hrun
  rcases Desk.gives_turnWheel (show Desk.turnWheel number later = .ok text after from hrun) with
    hmem | rfl
  · exact h text (hlater number hmem)
  · exact flat_of_all (by decide)

theorem flatAt_coins (label name : String) : (generated label name .coins).FlatAt start := by
  intro later text after _ hrun
  rw [run_render_coins] at hrun
  cases hrun
  rw [String.toList_append]
  exact Flat.append (flat_digits (Number.digits_ok (short_coins later.source))) (flat_of_all (by decide))

theorem yields_render {d : Description} (h : d.FlatAt start) :
    d.render.Yields (Desk.turned.holds start) fun text => Flat text.toList := by
  have hkeeps : d.render.Keeps Desk.turned := by
    cases d with
    | literal text => exact Act.Keeps.pure _
    | generated label name generator =>
      exact generator.keeps_run Desk.turned_roll Desk.turned_draw Desk.turned_choose
        (fun context => Desk.turned_post .custom context) Desk.turned_turnWheel
  exact ⟨(Act.Yields.of_keeps hkeeps).keeps, fun desk text after hdesk hrun => h desk text after hdesk hrun⟩

end Description

namespace RandomTable

variable {table : RandomTable} {start : Desk} (difficulty : Option Int)

theorem yields_reroll (attempts : Nat) (dice : Roll) {row : Option Row}
    (h : ∀ r, row = some r → r ∈ table.rows) :
    (table.reroll difficulty attempts dice row).Yields (Desk.turned.holds start) fun out =>
      ∀ r, out.2 = some r → r ∈ table.rows := by
  induction attempts generalizing dice row with
  | zero => exact Act.Yields.pure h
  | succ attempts ih =>
    refine Act.Yields.ite (.pure h) ?_
    refine Act.Yields.bind (.of_keeps (Desk.turned_roll _ _)) fun dice _ => ?_
    refine Act.Yields.ofExcept_bind fun row hrow => ih dice ?_
    rintro r rfl
    exact mem_of_rowFor hrow

theorem yields_fallback (rerolls : Int) {row : Option Row}
    (h : ∀ r, row = some r → r ∈ table.rows) :
    (table.fallback rerolls row).Yields (Desk.turned.holds start) fun row =>
      ∀ r, row = some r → r ∈ table.rows := by
  refine Act.Yields.ite (Act.Yields.map ?_) (.pure h)
  have hchoose := Desk.yields_choose table.rows ("fallback row: " ++ table.name.plain) start
  refine ⟨hchoose.keeps, ?_⟩
  rintro desk chosen after hdesk hrun r ⟨⟩
  exact hchoose.gives desk _ after hdesk hrun

theorem yields_describe (total : Int) {row : Option Row}
    (h : ∀ r, row = some r → r.description.FlatAt start) :
    (table.describe total row).Yields (Desk.turned.holds start) fun text => Flat text.toList := by
  cases row with
  | some r => exact Description.yields_render (h r rfl)
  | none =>
    refine Act.Yields.ofExcept_bind fun number _ => ?_
    refine Act.Yields.bind (.of_keeps (Desk.turned_warn _)) fun _ _ => ?_
    exact Act.Yields.pure (flat_of_all (by decide))

/-- A roll on a table of flat rows comes to a flat description. -/
theorem yields_roll (rerolls : Int) (h : ∀ row ∈ table.rows, row.description.FlatAt start) :
    (table.roll difficulty rerolls).Yields (Desk.turned.holds start) fun result =>
      Flat result.description.toList := by
  refine Act.Yields.bind (.of_keeps (Desk.turned_roll _ _)) fun dice _ => ?_
  refine Act.Yields.ofExcept_bind fun row hfound => ?_
  have hrow : ∀ r, row = some r → r ∈ table.rows := by
    rintro r rfl
    exact mem_of_rowFor hfound
  refine Act.Yields.bind (yields_reroll difficulty _ dice hrow) fun (dice, row) hrow => ?_
  refine Act.Yields.bind (yields_fallback rerolls hrow) fun row hrow => ?_
  refine Act.Yields.bind (yields_describe _ fun r hr => h r (hrow r hr)) fun text htext => ?_
  exact Act.Yields.pure htext

end RandomTable

theorem Registry.yields_rollOn {table : RandomTable} {start : Desk} (difficulty : Option Int)
    (rerolls : Int) (h : ∀ row ∈ table.rows, row.description.FlatAt start) :
    (rollOn table difficulty rerolls).Yields (Desk.turned.holds start) fun result =>
      Flat result.description.toList := by
  refine Act.Yields.bind (RandomTable.yields_roll difficulty rerolls h) fun result hresult => ?_
  refine Act.Yields.bind (.of_keeps (Desk.turned_post _ _).discard) fun _ _ => ?_
  exact Act.Yields.pure hresult

def Registry.tables (registry : Registry) : List RandomTable :=
  Keyed.values registry.builtIn ++ Keyed.values registry.custom ++ [registry.difficultyTable]

namespace Scene

structure FlatTexts (scene : Scene) : Prop where
  rows : ∀ table ∈ scene.registry.tables, ∀ row ∈ table.rows, row.description.FlatAt scene.desk
  entries : ∀ table ∈ Keyed.values scene.sparks.tables, ∀ entry ∈ table.entries, Flat entry.toList

def resting : Frame Scene := (Frame.fixing constants).and (Desk.turned.on (·.desk))

variable {α : Type} {base : Scene}

theorem yields_atDesk {p : α → Prop} {act : Act Desk α}
    (h : act.Yields (Desk.turned.holds base.desk) p) : (atDesk act).Yields (resting.holds base) p := by
  constructor
  case keeps =>
    intro scene hscene
    have hdesk := h.keeps scene.desk hscene.2
    simp only [Act.after, run_atDesk] at hdesk ⊢
    cases hrun : act scene.desk with
    | ok a desk =>
      rw [hrun] at hdesk
      exact ⟨hscene.1, hdesk⟩
    | error fault desk =>
      rw [hrun] at hdesk
      exact ⟨hscene.1, hdesk⟩
  case gives =>
    intro scene a after hscene hrun
    rw [run_atDesk] at hrun
    split at hrun
    · next b desk hdesk =>
      cases hrun
      exact h.gives scene.desk a desk hscene.2 hdesk
    · cases hrun

/-- A step that leaves the tables and the wheels alone. -/
theorem rests_of_fixed {act : Act Scene α} (h : Steady act)
    (hwheels : act.Keeps (.fixing fun scene => scene.desk.wheels)) :
    act.Yields (resting.holds base) fun _ => True :=
  .of_keeps fun scene => ⟨h.keeps scene, Desk.turned_of_wheels (hwheels scene)⟩

theorem rests_atDesk {act : Act Desk α} (h : act.Keeps Desk.turned) :
    (atDesk act).Yields (resting.holds base) fun _ => True :=
  yields_atDesk (.of_keeps h)

end Scene

namespace SparkLibrary

open Scene

variable {base : Scene}

/-- The tables that keywords are drawn from are among those given and those of the library. -/
theorem mem_inUse {library : SparkLibrary} {purpose : SparkUse} {given : Option (List SparkTable)}
    {table : SparkTable} (h : table ∈ library.inUse purpose given) :
    table ∈ given.getD [] ∨ table ∈ Keyed.values library.tables := by
  have hdefault {found : SparkTable}
      (hfound : found ∈ (Keyed.get? (.text BuiltIn.defaultSparkName) library.tables).toList) :
      found ∈ Keyed.values library.tables :=
    Keyed.mem_values_of_get? (Option.mem_toList.1 hfound)
  cases given with
  | some tables =>
    simp only [inUse] at h
    split at h
    · exact Or.inr (hdefault h)
    · exact Or.inl (List.mem_filter.1 h).1
  | none =>
    simp only [inUse] at h
    split at h
    · exact Or.inr (hdefault h)
    · exact Or.inr (List.mem_filter.1 h).1

theorem yields_noteUse (name : Value) (keyword : String) :
    (noteUse name keyword).Yields (resting.holds base) fun _ => True := by
  refine rests_of_fixed (steady_noteUse name keyword) ?_
  exact Act.Keeps.bind Act.Keeps.get fun _ => Act.Keeps.bind (Act.Keeps.ofExcept _) fun _ =>
    Act.Keeps.modify fun _ => rfl

theorem yields_drawFrom (size wanted : Nat) {pool : List (String × Value)} (seen : List String)
    (h : ∀ entry ∈ pool, Flat entry.1.toList) :
    (drawFrom size wanted pool seen).Yields (resting.holds base) fun keywords =>
      ∀ keyword ∈ keywords, Flat keyword.toList := by
  have hnone : ∀ keyword ∈ ([] : List String), Flat keyword.toList := List.forall_mem_nil _
  induction size generalizing wanted pool seen with
  | zero => exact Act.Yields.pure hnone
  | succ size ih =>
    cases wanted with
    | zero => exact Act.Yields.pure hnone
    | succ wanted =>
      refine Act.Yields.bind (rests_atDesk (Desk.turned_drawPlace _ _)) fun place _ => ?_
      have hrest : ∀ entry ∈ pool.eraseIdx place, Flat entry.1.toList := fun entry hentry =>
        h entry ((List.eraseIdx_sublist pool place).subset hentry)
      cases hdrawn : pool[place]? with
      | none => exact Act.Yields.pure hnone
      | some drawn =>
        have hkeyword : Flat drawn.1.toList := h drawn (List.mem_of_getElem? hdrawn)
        refine Act.Yields.ite (ih _ _ hrest) ?_
        refine Act.Yields.bind (yields_noteUse _ _) fun _ _ => ?_
        refine Act.Yields.bind (ih _ _ hrest) fun keywords hkeywords => Act.Yields.pure ?_
        exact List.forall_mem_cons.2 ⟨hkeyword, hkeywords⟩

theorem yields_generate (hbase : base.FlatTexts) (count : Int) (purpose : SparkUse)
    {given : Option (List SparkTable)}
    (hgiven : ∀ table ∈ given.getD [], table ∈ Keyed.values base.sparks.tables) :
    (generate count purpose given).Yields (resting.holds base) fun keywords =>
      ∀ keyword ∈ keywords, Flat keyword.toList := by
  refine Act.Yields.bind Act.Yields.get fun scene hscene => ?_
  have htables : scene.sparks.tables = base.sparks.tables :=
    congrArg (fun c : Registry × Keyed Value SparkTable × SparkSettings => c.2.1) hscene.1
  refine Act.Yields.ite ?_ (yields_drawFrom _ _ _ fun entry hentry => ?_)
  · refine Act.Yields.bind (rests_atDesk (Desk.turned_warn _)) fun _ _ => ?_
    exact Act.Yields.pure (List.forall_mem_nil _)
  · obtain ⟨pool, hpool, hentry⟩ := List.mem_flatten.1 hentry
    obtain ⟨table, htable, rfl⟩ := List.mem_map.1 hpool
    have hmem : table ∈ Keyed.values base.sparks.tables := by
      rcases mem_inUse htable with hmem | hmem
      · exact hgiven table hmem
      · rwa [htables] at hmem
    have hkeyword := (SparkTable.mem_pool.1 hentry).1
    exact hbase.entries table hmem entry.1 (List.mem_filter.1 hkeyword).1

end SparkLibrary

namespace ConsumptionStore

open Scene

variable {base : Scene}

theorem yields_persist : persist.Yields (resting.holds base) fun _ => True := by
  refine Act.Yields.bind Act.Yields.get fun scene _ => ?_
  dsimp only
  split
  · exact Act.Yields.pure trivial
  · exact Act.Yields.bind (rests_atDesk (Desk.turned_makeFolders _)) fun _ _ =>
      rests_atDesk (Desk.turned_writeText _ _)

theorem yields_change (f : Keyed String ConsumedRecord → Keyed String ConsumedRecord) :
    (change f).Yields (resting.holds base) fun _ => True :=
  rests_of_fixed (steady_change f) (Act.Keeps.modify fun _ => rfl)

theorem yields_note (table : Value) (story action : String) (entry : Value) :
    (note table story action entry).Yields (resting.holds base) fun _ => True :=
  (rests_atDesk (Desk.turned_post _ _)).discard

/-- What is left of a table are rows of it. -/
theorem yields_available (table : RandomTable) (story : String) :
    (available table story).Yields (resting.holds base) fun pool => pool.rows ⊆ table.rows := by
  refine Act.Yields.ofExcept_bind fun name _ => ?_
  refine Act.Yields.bind Act.Yields.get fun scene _ => ?_
  refine Act.Yields.ite (.pure (List.Subset.refl _)) ?_
  split
  · exact Act.Yields.bind (yields_change _) fun _ _ => Act.Yields.bind yields_persist fun _ _ =>
      Act.Yields.bind (yields_note _ _ _ _) fun _ _ => Act.Yields.pure (List.Subset.refl _)
  · exact Act.Yields.pure (List.filter_subset_self _)

theorem yields_markConsumed (table : Value) (story entry : String) :
    (markConsumed table story entry).Yields (resting.holds base) fun _ => True := by
  refine Act.Yields.ofExcept_bind fun name _ => ?_
  refine Act.Yields.bind Act.Yields.get fun scene _ => ?_
  refine Act.Yields.ite (.pure trivial) ?_
  exact Act.Yields.bind (yields_change _) fun _ _ => Act.Yields.bind yields_persist fun _ _ =>
    yields_note _ _ _ _

end ConsumptionStore

def Value.IsFlat (v : Value) : Prop := ∃ s, v = .text s ∧ Flat s.toList

namespace Resolver

open Scene

variable {base : Scene}

def Attempt.IsFlat (attempt : Attempt) : Prop := ∀ v, attempt = .ok v → v.IsFlat

theorem isFlat_diagnostic (d : Diagnostic) : Attempt.IsFlat (.error d) := by
  rintro v ⟨⟩

theorem isFlat_text {s : String} (h : Flat s.toList) : Attempt.IsFlat (.ok (.text s)) := by
  rintro v ⟨⟩
  exact ⟨s, rfl, h⟩

theorem yields_resolveRange (body : String) (ends : Option (WrittenInteger × WrittenInteger)) :
    (resolveRange body ends).Yields (resting.holds base) Attempt.IsFlat := by
  cases ends with
  | none => exact Act.Yields.pure (isFlat_diagnostic _)
  | some ends =>
    refine Act.Yields.ofExcept_bind fun low _ => ?_
    refine Act.Yields.ofExcept_bind fun high _ => ?_
    refine Act.Yields.ite (.pure (isFlat_diagnostic _)) ?_
    refine Act.Yields.bind (rests_atDesk (Desk.turned_draw _ _ _)) fun n _ => ?_
    refine Act.Yields.ofExcept_bind fun s hs => ?_
    exact Act.Yields.pure (isFlat_text (flat_digits hs))

theorem yields_resolveRoll (body formula : String) :
    (resolveRoll body formula).Yields (resting.holds base) Attempt.IsFlat := by
  refine Act.Yields.bind (rests_atDesk (Desk.turned_roll _ _)).attempt fun r _ => ?_
  split
  · refine Act.Yields.ofExcept_bind fun s hs => ?_
    exact Act.Yields.pure (isFlat_text (flat_digits hs))
  · exact Act.Yields.pure (isFlat_diagnostic _)
  · exact Act.Yields.throw _

theorem yields_resolveOutcome (hbase : base.FlatTexts) (value : List Char) :
    (resolveOutcome value).Yields (resting.holds base) Attempt.IsFlat := by
  unfold resolveOutcome
  cases Number.readInteger? value with
  | none => exact Act.Yields.pure (isFlat_diagnostic _)
  | some n =>
    refine Act.Yields.bind (p := fun result => Flat result.description.toList) ?_ fun result hresult =>
      Act.Yields.pure (isFlat_text hresult)
    refine Act.Yields.bind Act.Yields.get fun scene hscene => ?_
    have hregistry : scene.registry = base.registry := congrArg Prod.fst hscene.1
    refine yields_atDesk (Registry.yields_rollOn _ _ (hbase.rows _ ?_))
    rw [hregistry]
    exact List.mem_append_right _ (List.mem_singleton_self _)

theorem yields_findSparkTables (names : List String) :
    (findSparkTables names).Yields (resting.holds base) fun tables =>
      ∀ table ∈ tables, table ∈ Keyed.values base.sparks.tables := by
  induction names with
  | nil => exact Act.Yields.pure (List.forall_mem_nil _)
  | cons name rest ih =>
    refine Act.Yields.bind Act.Yields.get fun scene hscene => ?_
    have hfind : scene.sparks.find name = base.sparks.find name :=
      SparkLibrary.find_of_constants hscene.1 name
    refine Act.Yields.ofExcept_bind fun found hfound => ?_
    rw [hfind] at hfound
    cases found with
    | none => exact Act.Yields.bind (rests_atDesk (Desk.turned_warn _)) fun _ _ => ih
    | some table =>
      have htable := Lookup.mem_of_findIn hfound
      rw [List.flatMap_singleton] at htable
      refine Act.Yields.bind ih fun tables htables => Act.Yields.pure ?_
      exact List.forall_mem_cons.2 ⟨htable, htables⟩

theorem yields_keywordsFrom (hbase : base.FlatTexts) (count : Int) (names : List String)
    {tables : Option (List SparkTable)}
    (htables : ∀ table ∈ tables.getD [], table ∈ Keyed.values base.sparks.tables) :
    (keywordsFrom count names tables).Yields (resting.holds base) Attempt.IsFlat := by
  refine Act.Yields.ite (.pure (isFlat_diagnostic _)) ?_
  refine Act.Yields.bind (SparkLibrary.yields_generate hbase count .sparks htables)
    fun keywords hkeywords => ?_
  exact Act.Yields.ite (.pure (isFlat_diagnostic _)) (.pure (isFlat_text (flat_join hkeywords)))

theorem yields_resolveSparks (hbase : base.FlatTexts) (word : String) (spec : List Char) :
    (resolveSparks word spec).Yields (resting.holds base) Attempt.IsFlat := by
  refine Act.Yields.ofExcept_bind fun (count, names) _ => ?_
  refine Act.Yields.ite (yields_keywordsFrom hbase _ _ (List.forall_mem_nil _)) ?_
  refine Act.Yields.bind (yields_findSparkTables names) fun tables htables => ?_
  exact yields_keywordsFrom hbase _ _ htables

def FlatNames (resolver : Resolver) : Prop := ∀ item ∈ resolver.items.getD [], item.name.IsFlat

variable {resolver : Resolver}

theorem yields_resolveItem (hnames : resolver.FlatNames) (category : ItemCategory) :
    (resolver.resolveItem category).Yields (resting.holds base) Attempt.IsFlat := by
  refine Act.Yields.ite (.pure (isFlat_diagnostic _)) ?_
  refine Act.Yields.bind (yields_atDesk (Desk.yields_choose _ _ _)) fun item hitem => ?_
  refine Act.Yields.pure ?_
  rintro v ⟨⟩
  exact hnames item (List.mem_filter.1 hitem).1

theorem yields_drawOne {table : RandomTable}
    (h : ∀ row ∈ table.rows, row.description.FlatAt base.desk) (consumable : Bool) :
    (resolver.drawOne table consumable).Yields (resting.holds base) fun result =>
      Flat result.description.toList := by
  refine Act.Yields.ite ?_ (yields_atDesk (Registry.yields_rollOn _ _ h))
  refine Act.Yields.bind (ConsumptionStore.yields_available table _) fun pool hpool => ?_
  have hroll := yields_atDesk (Registry.yields_rollOn none 50 fun row hrow => h row (hpool hrow))
  refine Act.Yields.bind hroll fun result hresult => ?_
  split
  · exact Act.Yields.bind (ConsumptionStore.yields_markConsumed _ _ _) fun _ _ =>
      Act.Yields.pure hresult
  · exact Act.Yields.pure hresult

theorem yields_drawTexts {table : RandomTable}
    (h : ∀ row ∈ table.rows, row.description.FlatAt base.desk) (request : DrawRequest)
    (count : Nat) :
    (resolver.drawTexts table request count).Yields (resting.holds base) fun result =>
      ∀ texts, result = .ok texts → ∀ text ∈ texts, Flat text.toList := by
  have hrefused (d : Diagnostic) : ∀ texts, (.error d : Except Diagnostic (List String)) = .ok texts →
      ∀ text ∈ texts, Flat text.toList := by
    rintro texts ⟨⟩
  induction count with
  | zero =>
    refine Act.Yields.pure ?_
    rintro texts ⟨⟩
    exact List.forall_mem_nil _
  | succ count ih =>
    refine Act.Yields.bind (yields_drawOne h request.consumable).attempt fun drawn hdrawn => ?_
    split
    · exact Act.Yields.pure (hrefused _)
    · exact Act.Yields.pure (hrefused _)
    · exact Act.Yields.throw _
    · next result =>
      refine Act.Yields.bind ih fun rest hrest => ?_
      split
      · exact Act.Yields.pure (hrefused _)
      · next others =>
        refine Act.Yields.pure ?_
        rintro texts ⟨⟩
        exact List.forall_mem_cons.2 ⟨flat_inflect (hdrawn result rfl) _, hrest others rfl⟩

theorem yields_resolveTable (hbase : base.FlatTexts) (body : List Char) :
    (resolver.resolveTable body).Yields (resting.holds base) Attempt.IsFlat := by
  refine Act.Yields.bind Act.Yields.get fun scene hscene => ?_
  have hregistry : scene.registry = base.registry := congrArg Prod.fst hscene.1
  refine Act.Yields.ofExcept_bind fun found hfound => ?_
  split
  · exact Act.Yields.pure (isFlat_diagnostic _)
  · next table =>
    rw [hregistry] at hfound
    have htable := Lookup.mem_of_findIn hfound
    rw [List.flatMap_cons, List.flatMap_singleton] at htable
    have hrows := hbase.rows table (List.mem_append_left _ htable)
    refine Act.Yields.ofExcept_bind fun request _ => ?_
    refine Act.Yields.bind (yields_drawTexts hrows request _) fun result hresult => ?_
    split
    · exact Act.Yields.pure (isFlat_diagnostic _)
    · next texts => exact Act.Yields.pure (isFlat_text (flat_join (hresult texts rfl)))

theorem yields_attempt (hbase : base.FlatTexts) (hnames : resolver.FlatNames) (body : List Char) :
    (resolver.attempt body).Yields (resting.holds base) Attempt.IsFlat := by
  unfold attempt
  cases Expression.ofBody resolver.items.isSome body with
  | range ends => exact yields_resolveRange _ _
  | roll formula => exact yields_resolveRoll _ _
  | outcome value => exact yields_resolveOutcome hbase _
  | sparks word spec => exact yields_resolveSparks hbase _ _
  | item category => exact yields_resolveItem hnames _
  | table => exact yields_resolveTable hbase body

/-- What takes a placeholder's place is a flat text. -/
theorem yields_resolveToken (hbase : base.FlatTexts) (hnames : resolver.FlatNames)
    (hmark : resolver.options.markUnresolved = false) (body : List Char) :
    (resolver.resolveToken body).Yields (resting.holds base) fun found =>
      ∀ v, found = some v → v.IsFlat := by
  refine Act.Yields.bind (yields_attempt hbase hnames body) fun attempt hattempt => ?_
  split
  · next v =>
    refine Act.Yields.pure fun w hw => ?_
    rw [← Value.eq_of_present? hw]
    exact hattempt v rfl
  · refine Act.Yields.bind (rests_atDesk (Desk.turned_warn _)) fun _ _ => ?_
    rw [hmark]
    refine Act.Yields.pure ?_
    rintro v ⟨⟩

end Resolver

end TaleLoom
