import TaleLoom.Proofs.Lasting
import TaleLoom.Proofs.Notices
import TaleLoom.Proofs.Placeholder.FlatAnswers
import TaleLoom.Proofs.Table.Coverage
/-!
What goes well without a warning. No step but a warning adds to the notices, subscribers that fail
apart (`Desk.unwarned`), and a roll on a table warns of nothing where a row is sure to be found
(`RandomTable.delivers_roll`). So does a draw that is remembered, as long as the store can be written
(`Resolver.delivers_drawOne`): the scene stays ready for the next one (`Scene.Ready`).
-/

namespace TaleLoom

open Number Text

namespace Desk

/-- The author was told of nothing but subscribers that fail. -/
def unwarned : Frame Desk where
  holds s t := t.log.subscribers = s.log.subscribers ∧
    ∃ told, t.notices.toList = s.notices.toList ++ told ∧
      ∀ notice ∈ told, ∃ subscriber ∈ s.log.subscribers,
        subscriber.fails = true ∧ notice = subscriberWarning subscriber.name
  refl s := ⟨rfl, [], by simp, by simp⟩
  trans := by
    rintro s t u ⟨hst, told, htold, htells⟩ ⟨htu, told', htold', htells'⟩
    refine ⟨htu.trans hst, told ++ told', by rw [htold', htold, List.append_assoc], ?_⟩
    intro notice hnotice
    rcases List.mem_append.1 hnotice with hnotice | hnotice
    · exact htells notice hnotice
    · rw [← hst]
      exact htells' notice hnotice

theorem unwarned_of_same {s t : Desk} (hlog : t.log = s.log) (hnotices : t.notices = s.notices) :
    unwarned.holds s t := by
  refine ⟨by rw [hlog], [], by rw [hnotices, List.append_nil], by simp⟩

/-- Where no subscriber fails the author was told of nothing. -/
theorem notices_of_unwarned {s t : Desk} (h : unwarned.holds s t)
    (hsubscribers : ∀ subscriber ∈ s.log.subscribers, subscriber.fails = false) : t.notices = s.notices := by
  obtain ⟨-, told, htold, htells⟩ := h
  have hnone : told = [] := by
    refine List.eq_nil_iff_forall_not_mem.2 fun notice hnotice => ?_
    obtain ⟨subscriber, hmem, hfails, -⟩ := htells notice hnotice
    cases (hsubscribers subscriber hmem).symm.trans hfails
  rw [hnone, List.append_nil] at htold
  exact Array.toList_inj.1 htold

theorem unwarned_posted (desk : Desk) (detail : EventDetail) (context : Value) :
    unwarned.holds desk (desk.posted detail context) := by
  constructor
  · simp only [posted, RunLog.post]
    split <;> rfl
  · refine ⟨_, Array.toList_append, ?_⟩
    intro notice hnotice
    obtain ⟨name, hname, rfl⟩ := List.mem_map.1 hnotice
    simp only [RunLog.post] at hname
    split at hname
    · cases hname
    · obtain ⟨subscriber, hmem, rfl⟩ := List.mem_map.1 hname
      obtain ⟨hsubscriber, hfails⟩ := List.mem_filter.1 hmem
      exact ⟨subscriber, hsubscriber, hfails, rfl⟩

theorem unwarned_post (detail : EventDetail) (context : Value) :
    (post detail context).Keeps unwarned := by
  intro desk
  rw [Act.after_of_ok (run_post detail context desk)]
  exact unwarned_posted desk detail context

theorem unwarned_record (r : Roll) : (record r).Keeps unwarned :=
  Act.Keeps.bind (Act.Keeps.modify fun _ => unwarned_of_same rfl rfl) fun _ =>
    Act.Keeps.discard (unwarned_post _ _)

theorem unwarned_below (n : Nat) : (below n).Keeps unwarned :=
  Act.Keeps.modifyGet fun _ => unwarned_of_same rfl rfl

theorem unwarned_turnWheel (number : Nat) : (turnWheel number).Keeps unwarned := by
  apply Act.Keeps.modifyGet
  intro desk
  split
  · exact unwarned_of_same rfl rfl
  · exact unwarned.refl desk

theorem unwarned_quiet : Quiet unwarned :=
  .of_steps unwarned_below unwarned_record (fun _ => unwarned_post _) unwarned_turnWheel fun _ =>
    Act.Keeps.modify fun _ => unwarned_of_same rfl rfl

def untouched : Frame Desk := unwarned.and (Frame.fixing fun desk => desk.files)

variable {start : Desk}

theorem untouched_of_routine {α : Type} {act : Act Desk α} (h : act.Keeps unwarned)
    (hroutine : act.Keeps routine) : act.Keeps untouched :=
  fun desk => ⟨h desk, (hroutine desk).1⟩

theorem delivers_roll {formula : Value} {f : Formula} (h : Formula.ofValue formula = .ok f)
    (reason : String) :
    (roll formula reason).Delivers (untouched.holds start) fun r =>
      ∃ source, r.total = f.totalOn source := by
  apply Act.Delivers.of_keeps (untouched_of_routine (unwarned_quiet.roll _ _) (keeps_roll _ _))
  intro desk
  exact ⟨_, _, run_roll_ok h reason desk, desk.source, rfl⟩

theorem delivers_choose {α : Type} {items : List α} (h : items ≠ []) (reason : String) :
    (choose items reason).Delivers (untouched.holds start) fun item => item ∈ items := by
  apply Act.Delivers.of_keeps (untouched_of_routine (unwarned_quiet.choose _ _) (keeps_choose _ _))
  intro desk
  exact ⟨_, _, run_choose h reason desk, chosen_mem items h desk.source⟩

theorem delivers_post {detail : EventDetail} (h : detail.kind ≠ .expansion) (context : Value) :
    (post detail context).Delivers (untouched.holds start) fun _ => True := by
  apply Act.Delivers.of_keeps (untouched_of_routine (unwarned_post _ _) (keeps_post h _))
  intro desk
  exact ⟨_, _, run_post detail context desk, trivial⟩

theorem delivers_draw {low high : Int} (h : low ≤ high) (hlow : isTooLong low = false)
    (hhigh : isTooLong high = false) (reason : String) :
    (draw low high reason).Delivers (untouched.holds start) fun n => isTooLong n = false := by
  have hkeeps := unwarned_quiet.draw low high reason
  apply Act.Delivers.of_keeps (untouched_of_routine hkeeps (keeps_draw _ _ _))
  intro desk
  obtain ⟨n, after, hrun, hshort⟩ := run_draw h hlow hhigh reason desk
  exact ⟨n, after, hrun, hshort⟩

end Desk

namespace Description

def Says (p : String → Prop) (d : Description) : Prop :=
  ∀ start, d.render.Delivers (Desk.untouched.holds start) p

variable {p : String → Prop}

theorem says_literal {text : String} (h : p text) : (literal text).Says p := fun _ => Act.Delivers.pure h

/-- A purse holds any number of coins. -/
theorem says_coins (h : ∀ n number, digits n = .ok number → p (number ++ " silver coins"))
    (label name : String) : (generated label name .coins).Says p := by
  intro start desk hdesk
  have hrun := run_render_coins label name desk
  refine ⟨_, _, hrun, Desk.untouched.trans hdesk ?_, h _ _ (digits_ok (short_coins desk.source))⟩
  have hkeeps : (generated label name .coins).render.Keeps Desk.untouched :=
    Desk.untouched_of_routine (Desk.unwarned_quiet.render _) (keeps_render _)
  exact hkeeps.of_ok hrun

end Description

namespace RandomTable

variable {table : RandomTable} {f : Formula} {rerolls : Int} {start : Desk}

def Finds (table : RandomTable) (rerolls : Int) : Prop :=
  (0 < rerolls ∧ table.rows ≠ []) ∨ table.gaps none = .ok []

structure Complete (table : RandomTable) : Prop where
  named : ∃ name, table.name = .text name
  rows : table.rows ≠ []
  gaps : table.gaps none = .ok []

def Finding (table : RandomTable) (rerolls : Int) (row : Option Row) : Prop :=
  (∀ r, row = some r → r ∈ table.rows) ∧ (row = none → 0 < rerolls ∧ table.rows ≠ [])

theorem finding_of_rowFor (h : table.Rollable f) (hfinds : table.Finds rerolls) (source : Source) :
    ∃ row, table.rowFor none (f.totalOn source) = .ok row ∧ table.Finding rerolls row := by
  obtain ⟨row, hrow, hmem⟩ := Row.lastCovering_ok h.bounds none (f.totalOn source)
  refine ⟨row, hrow, hmem, ?_⟩
  rintro rfl
  rcases hfinds with hrerolls | hgaps
  · exact hrerolls
  · -- a table without gaps has a row for the total
    obtain ⟨r, hr⟩ := rowFor_of_no_gaps hgaps h source
    cases hr.symm.trans hrow

theorem delivers_reroll (h : table.Rollable f) (hfinds : table.Finds rerolls) (attempts : Nat)
    (dice : Roll) {row : Option Row} (hrow : table.Finding rerolls row) :
    (table.reroll none attempts dice row).Delivers (Desk.untouched.holds start) fun out =>
      table.Finding rerolls out.2 := by
  induction attempts generalizing dice row with
  | zero => exact Act.Delivers.pure hrow
  | succ attempts ih =>
    rw [reroll]
    split
    · exact Act.Delivers.pure hrow
    · refine Act.Delivers.bind (Desk.delivers_roll h.formula _) fun dice hdice => ?_
      obtain ⟨source, hsource⟩ := hdice
      obtain ⟨row, hfound, hrow⟩ := finding_of_rowFor h hfinds source
      rw [← hsource] at hfound
      exact Act.Delivers.ofExcept_bind hfound (ih dice hrow)

theorem delivers_fallback {row : Option Row} (hrow : table.Finding rerolls row) :
    (table.fallback rerolls row).Delivers (Desk.untouched.holds start) fun row =>
      ∃ r, row = some r ∧ r ∈ table.rows := by
  cases row with
  | some r =>
    simp only [fallback, Option.isNone_some, Bool.false_and, Bool.false_eq_true, if_false]
    exact Act.Delivers.pure ⟨r, rfl, hrow.1 r rfl⟩
  | none =>
    obtain ⟨hrerolls, hrows⟩ := hrow.2 rfl
    have hfilled : table.rows.isEmpty = false := List.isEmpty_eq_false_iff.2 hrows
    simp only [fallback, Option.isNone_none, hrerolls, hfilled, decide_true, Bool.not_false, Bool.and_self,
      if_true]
    refine Act.Delivers.map ((Desk.delivers_choose hrows _).mono fun r hr => ?_)
    exact ⟨r, rfl, hr⟩

/-- A roll that is sure to find a row gives one, with one of its texts, and warns of nothing. -/
theorem delivers_roll {p : String → Prop} (h : table.Rollable f) (hfinds : table.Finds rerolls)
    (htexts : ∀ row ∈ table.rows, row.description.Says p) :
    (table.roll none rerolls).Delivers (Desk.untouched.holds start) fun result =>
      result.row.isSome = true ∧ p result.description := by
  refine Act.Delivers.bind (Desk.delivers_roll h.formula _) fun dice hdice => ?_
  obtain ⟨source, hsource⟩ := hdice
  obtain ⟨row, hfound, hrow⟩ := finding_of_rowFor h hfinds source
  rw [← hsource] at hfound
  refine Act.Delivers.ofExcept_bind hfound ?_
  refine Act.Delivers.bind (delivers_reroll h hfinds _ dice hrow) fun (dice, row) hrow => ?_
  refine Act.Delivers.bind (delivers_fallback hrow) fun row hrow => ?_
  obtain ⟨r, rfl, hmem⟩ := hrow
  refine Act.Delivers.bind (htexts r hmem start) fun text htext => ?_
  exact Act.Delivers.pure ⟨rfl, htext⟩

end RandomTable

theorem Registry.delivers_rollOn {table : RandomTable} {f : Formula} {rerolls : Int} {start : Desk}
    {p : String → Prop} (h : table.Rollable f) (hfinds : table.Finds rerolls)
    (htexts : ∀ row ∈ table.rows, row.description.Says p) :
    (rollOn table none rerolls).Delivers (Desk.untouched.holds start) fun result =>
      result.row.isSome = true ∧ p result.description := by
  refine Act.Delivers.bind (RandomTable.delivers_roll h hfinds htexts) fun result hresult => ?_
  refine Act.Delivers.bind (Act.Delivers.discard (Desk.delivers_post ?_ _)) fun _ _ => ?_
  · simp [EventDetail.kind]
  · exact Act.Delivers.pure hresult

namespace Scene

structure Ready (base scene : Scene) : Prop where
  constants : scene.constants = base.constants
  writable : scene.Writable
  unwarned : Desk.unwarned.holds base.desk scene.desk

variable {base : Scene} {α : Type}

theorem delivers_atDesk {act : Act Desk α} {p : α → Prop}
    (h : ∀ start, act.Delivers (Desk.untouched.holds start) p) :
    (atDesk act).Delivers base.Ready p := by
  intro scene hscene
  obtain ⟨a, desk, hrun, ⟨hunwarned, hfiles⟩, ha⟩ :=
    h scene.desk scene.desk (Desk.untouched.refl scene.desk)
  refine ⟨a, { scene with desk }, by rw [run_atDesk, hrun], ?_, ha⟩
  exact ⟨hscene.constants, ConsumptionStore.writable_of_files (s := scene) rfl hfiles hscene.writable,
    Desk.unwarned.trans hscene.unwarned hunwarned⟩

/-- A step that ends well where the store can be written, and leaves one that can. -/
theorem delivers_of_writable {act : Act Scene α} {p : α → Prop}
    (hrun : ∀ scene : Scene, scene.Writable →
      ∃ a after, act scene = .ok a after ∧ after.Writable ∧ p a)
    (hconstants : act.Keeps (.fixing constants)) (hunwarned : act.Keeps (deskwise Desk.unwarned)) :
    act.Delivers base.Ready p := by
  intro scene hscene
  obtain ⟨a, after, hact, hwritable, ha⟩ := hrun scene hscene.writable
  refine ⟨a, after, hact, ⟨?_, hwritable, ?_⟩, ha⟩
  · exact (hconstants.of_ok hact).trans hscene.constants
  · exact Desk.unwarned.trans hscene.unwarned (hunwarned.of_ok hact)

end Scene

namespace ConsumptionStore

variable {base : Scene}

theorem delivers_available {table : RandomTable} {name : String} (hname : table.name = .text name)
    (story : String) :
    (available table story).Delivers base.Ready fun left =>
      ∃ store : ConsumptionStore, left = store.pool table name story := by
  apply Scene.delivers_of_writable
  · intro scene hwritable
    obtain ⟨after, hrun, hafter, -⟩ := run_available hname story hwritable
    exact ⟨_, after, hrun, hafter, scene.store, rfl⟩
  · exact (steady_available table story).keeps
  · exact Desk.unwarned_quiet.available table story

theorem delivers_markConsumed (name story entry : String) :
    (markConsumed (.text name) story entry).Delivers base.Ready fun _ => True := by
  apply Scene.delivers_of_writable
  · intro scene hwritable
    obtain ⟨after, hrun, hafter⟩ := run_markConsumed name story entry hwritable
    exact ⟨(), after, hrun, hafter, trivial⟩
  · exact (steady_markConsumed _ story entry).keeps
  · exact Desk.unwarned_quiet.markConsumed _ story entry

end ConsumptionStore

namespace Resolver

variable (resolver : Resolver) {base : Scene} {table : RandomTable} {f : Formula} {p : String → Prop}

/-- A draw that is remembered finds a row among those that are left, or among all of them. -/
theorem delivers_drawConsumable {name : String} (hname : table.name = .text name)
    (h : table.Rollable f) (hrows : table.rows ≠ [])
    (htexts : ∀ row ∈ table.rows, row.description.Says p) :
    (resolver.drawConsumable table).Delivers base.Ready fun result => p result.description := by
  refine Act.Delivers.bind (ConsumptionStore.delivers_available hname _) fun left hleft => ?_
  obtain ⟨store, rfl⟩ := hleft
  generalize resolver.options.story = story
  have hfinds : (store.pool table name story).Finds 50 :=
    Or.inl ⟨by decide, ConsumptionStore.pool_rows_ne_nil hrows⟩
  have hsays : ∀ row ∈ (store.pool table name story).rows, row.description.Says p :=
    fun row hrow => htexts row (ConsumptionStore.pool_subset hrow)
  refine Act.Delivers.bind (Scene.delivers_atDesk fun start =>
    Registry.delivers_rollOn (ConsumptionStore.pool_rollable h) hfinds hsays) fun result hresult => ?_
  split
  · rw [hname]
    exact Act.Delivers.bind (ConsumptionStore.delivers_markConsumed _ _ _) fun _ _ =>
      Act.Delivers.pure hresult.2
  · exact Act.Delivers.pure hresult.2

/-- A draw from a complete table, remembered or not. -/
theorem delivers_drawOne (h : table.Complete) (htexts : ∀ row ∈ table.rows, row.description.Says p)
    (consumable : Bool) :
    (resolver.drawOne table consumable).Delivers base.Ready fun result => p result.description := by
  obtain ⟨f, hrollable⟩ := RandomTable.rollable_of_gaps h.gaps
  obtain ⟨name, hname⟩ := h.named
  cases consumable with
  | true => exact resolver.delivers_drawConsumable hname hrollable h.rows htexts
  | false =>
    have hroll : (Scene.atDesk (Registry.rollOn table none 0)).Delivers base.Ready fun result =>
        result.row.isSome = true ∧ p result.description :=
      Scene.delivers_atDesk fun _ => Registry.delivers_rollOn hrollable (Or.inr h.gaps) htexts
    exact hroll.mono fun result hresult => hresult.2

end Resolver

end TaleLoom
