import Mathlib.Data.List.Basic
import TaleLoom.Proofs.Dice.Totals
import TaleLoom.Proofs.Table.Roll
import TaleLoom.Table.Coverage
/-!
The totals of a table that no row covers. The sweep over the rows' ranges leaves exactly the totals
that dice can come to and that no row covers, as ranges that are filled, apart from one another and in
ascending order.
-/

namespace TaleLoom

namespace Span

def Has (span : Span) (total : Int) : Prop := span.first ≤ total ∧ total ≤ span.last

/-- The spans come in ascending order, and between each two of them there is a total. -/
def Apart (spans : List Span) : Prop := spans.Pairwise fun a b => a.last + 1 < b.first

/-- The span holds a total, and all of its totals are in another one. -/
structure Within (bounds span : Span) : Prop where
  first : bounds.first ≤ span.first
  filled : span.first ≤ span.last
  last : span.last ≤ bounds.last

theorem within_of_clip? {bounds span : Span} {low high : Option Int}
    (h : bounds.clip? low high = some span) : bounds.Within span := by
  simp only [clip?] at h
  split at h
  · next hle =>
    obtain rfl := Option.some.inj h
    have hfirst : bounds.first ≤ (low.map (max · bounds.first)).getD bounds.first := by
      cases low with
      | none => exact Int.le_refl _
      | some n => exact Int.le_max_right n bounds.first
    have hlast : (high.map (min · bounds.last)).getD bounds.last ≤ bounds.last := by
      cases high with
      | none => exact Int.le_refl _
      | some n => exact Int.min_le_right n bounds.last
    exact ⟨hfirst, hle, hlast⟩
  · cases h

/-- What is left of two bounds has the totals between them. -/
theorem has_clip?_iff {bounds : Span} {total : Int} (h : bounds.Has total) (low high : Option Int) :
    (∃ span, bounds.clip? low high = some span ∧ span.Has total) ↔
      Row.isBetween low high total = true := by
  obtain ⟨hfirst, hlast⟩ := h
  have hlow : (low.map (max · bounds.first)).getD bounds.first ≤ total ↔
      low.all (fun n => decide (n ≤ total)) = true := by
    cases low with
    | none => simpa using hfirst
    | some n => simp only [Option.map_some, Option.getD_some, Option.all_some, decide_eq_true_eq]; omega
  have hhigh : total ≤ (high.map (min · bounds.last)).getD bounds.last ↔
      high.all (fun n => decide (total ≤ n)) = true := by
    cases high with
    | none => simpa using hlast
    | some n => simp only [Option.map_some, Option.getD_some, Option.all_some, decide_eq_true_eq]; omega
  rw [Row.isBetween, Bool.and_eq_true, ← hlow, ← hhigh, clip?]
  constructor
  · rintro ⟨span, hspan, hhas⟩
    split at hspan
    · obtain rfl := Option.some.inj hspan
      exact hhas
    · cases hspan
  · intro hhas
    rw [if_pos (Int.le_trans hhas.1 hhas.2)]
    exact ⟨_, rfl, hhas⟩

section Sweep

variable {last next : Int} {spans : List Span}

/-- The sweep leaves the totals that are in no span. -/
theorem has_missing_iff (hsorted : spans.Pairwise fun a b => a.first ≤ b.first)
    (hlast : ∀ span ∈ spans, span.first ≤ last) (total : Int) :
    (∃ gap ∈ missing last next spans, gap.Has total) ↔
      next ≤ total ∧ total ≤ last ∧ ∀ span ∈ spans, ¬ span.Has total := by
  -- below `next` everything is settled: each span moves it past its own last total
  induction spans generalizing next with
  | nil =>
    by_cases hnext : next ≤ last
    · simp [missing, hnext, Has]
    · simp only [missing, hnext, if_false, List.not_mem_nil, false_and, exists_false, false_iff,
        not_and]
      omega
  | cons span rest ih =>
    obtain ⟨hfirst, hrest⟩ := List.pairwise_cons.1 hsorted
    obtain ⟨hspan, hlast'⟩ := List.forall_mem_cons.1 hlast
    have hafter := @ih (max next (span.last + 1)) hrest hlast'
    rw [List.forall_mem_cons]
    -- the totals before the span are missing, those after it are left to the rest of the sweep
    have hbefore (hlt : total < span.first) : ∀ other ∈ rest, ¬ other.Has total := by
      intro other hother hhas
      have hle := hfirst other hother
      have hge := hhas.1
      omega
    by_cases hgap : next < span.first
    · simp only [missing, hgap, if_true, List.mem_cons, exists_eq_or_imp, hafter]
      constructor
      · rintro (hhas | ⟨hnext, hle, hother⟩)
        · simp only [Has] at hhas ⊢
          exact ⟨hhas.1, by omega, by omega, hbefore (by omega)⟩
        · exact ⟨by omega, hle, fun hhas => by simp only [Has] at hhas; omega, hother⟩
      · rintro ⟨hnext, hle, hnot, hother⟩
        simp only [Has] at hnot ⊢
        by_cases hlt : total < span.first
        · exact Or.inl (by omega)
        · exact Or.inr ⟨by omega, hle, hother⟩
    · simp only [missing, hgap, if_false, hafter]
      constructor
      · rintro ⟨hnext, hle, hother⟩
        exact ⟨by omega, hle, fun hhas => by simp only [Has] at hhas; omega, hother⟩
      · rintro ⟨hnext, hle, hnot, hother⟩
        simp only [Has] at hnot
        exact ⟨by omega, hle, hother⟩

theorem within_of_mem_missing (hlast : ∀ span ∈ spans, span.first ≤ last) {gap : Span}
    (h : gap ∈ missing last next spans) : Within ⟨next, last⟩ gap := by
  induction spans generalizing next with
  | nil =>
    simp only [missing] at h
    split at h
    · next hle =>
      obtain rfl := List.mem_singleton.1 h
      exact ⟨Int.le_refl _, hle, Int.le_refl _⟩
    · cases h
  | cons span rest ih =>
    obtain ⟨hspan, hlast'⟩ := List.forall_mem_cons.1 hlast
    have hafter (hmem : gap ∈ missing last (max next (span.last + 1)) rest) :
        Within ⟨next, last⟩ gap := by
      obtain ⟨hfirst, hfilled, hle⟩ := ih hlast' hmem
      simp only at hfirst hle
      exact ⟨by simp only; omega, hfilled, hle⟩
    simp only [missing] at h
    split at h
    · next hgap =>
      rcases List.mem_cons.1 h with rfl | hmem
      · exact ⟨Int.le_refl _, by simp only; omega, by simp only; omega⟩
      · exact hafter hmem
    · exact hafter h

theorem apart_missing (hfilled : ∀ span ∈ spans, span.first ≤ span.last)
    (hlast : ∀ span ∈ spans, span.first ≤ last) : Apart (missing last next spans) := by
  induction spans generalizing next with
  | nil =>
    simp only [missing]
    split
    · exact List.pairwise_singleton _ _
    · exact List.Pairwise.nil
  | cons span rest ih =>
    obtain ⟨hspan, hfilled'⟩ := List.forall_mem_cons.1 hfilled
    obtain ⟨-, hlast'⟩ := List.forall_mem_cons.1 hlast
    have hafter := @ih (max next (span.last + 1)) hfilled' hlast'
    simp only [missing]
    split
    · refine List.pairwise_cons.2 ⟨fun gap hgap => ?_, hafter⟩
      have hfirst := (within_of_mem_missing hlast' hgap).first
      simp only at hfirst ⊢
      omega
    · exact hafter

end Sweep

theorem before_trans (a b c : Span) (hab : a.before b = true) (hbc : b.before c = true) :
    a.before c = true := by
  simp only [before, Bool.or_eq_true, Bool.and_eq_true, decide_eq_true_eq, beq_iff_eq] at *
  omega

theorem before_total (a b : Span) : (a.before b || b.before a) = true := by
  simp only [before, Bool.or_eq_true, Bool.and_eq_true, decide_eq_true_eq, beq_iff_eq]
  omega

theorem pairwise_first_mergeSort (spans : List Span) :
    (spans.mergeSort before).Pairwise fun a b => a.first ≤ b.first := by
  refine (List.pairwise_mergeSort before_trans before_total spans).imp ?_
  intro a b hab
  simp only [before, Bool.or_eq_true, Bool.and_eq_true, decide_eq_true_eq, beq_iff_eq] at hab
  omega

end Span

namespace Row

variable {rows : List Row} {bounds : Span} {difficulty : Option Int} {total : Int}

/-- A row with bounds covers a total or not, as its range within the totals of the dice says. -/
theorem run_span? {row : Row} (h : row.HasBounds) (bounds : Span) (difficulty : Option Int) :
    ∃ span?, row.span? bounds difficulty = .ok span? ∧ (∀ span, span? = some span → bounds.Within span) ∧
      ∀ total, bounds.Has total →
        ((∃ span, span? = some span ∧ span.Has total) ↔ row.covers difficulty total = .ok true) := by
  obtain ⟨low, hlow⟩ := (Bound.resolveValue_ok_iff difficulty row.low).2 h.1
  obtain ⟨high, hhigh⟩ := (Bound.resolveValue_ok_iff difficulty row.high).2 h.2
  refine ⟨bounds.clip? low high, by simp [span?, hlow, hhigh], fun _ => Span.within_of_clip?, ?_⟩
  intro total htotal
  rw [Span.has_clip?_iff htotal, covers, hlow, hhigh]
  simp

theorem span?_error {row : Row} (h : ¬ row.HasBounds) (bounds : Span) (difficulty : Option Int) :
    ∃ fault, row.span? bounds difficulty = .error fault := by
  cases hspan : row.span? bounds difficulty with
  | error fault => exact ⟨fault, rfl⟩
  | ok span? =>
    refine absurd ?_ h
    rw [HasBounds, ← Bound.resolveValue_ok_iff difficulty row.low,
      ← Bound.resolveValue_ok_iff difficulty row.high]
    unfold Row.span? at hspan
    cases hlow : Bound.resolveValue difficulty row.low with
    | error fault => simp [hlow] at hspan
    | ok low =>
      cases hhigh : Bound.resolveValue difficulty row.high with
      | error fault => simp [hlow, hhigh] at hspan
      | ok high => exact ⟨⟨low, rfl⟩, high, rfl⟩

/-- The ranges of rows with bounds have the totals that one of the rows covers. -/
theorem mapM_span? (h : ∀ row ∈ rows, row.HasBounds) (bounds : Span) (difficulty : Option Int) :
    ∃ spans, rows.mapM (Row.span? bounds difficulty) = .ok spans ∧
      (∀ span ∈ spans.filterMap id, bounds.Within span) ∧
      ∀ total, bounds.Has total → ((∃ span ∈ spans.filterMap id, span.Has total) ↔
        ∃ row ∈ rows, row.covers difficulty total = .ok true) := by
  induction rows with
  | nil => exact ⟨[], rfl, by simp, by simp⟩
  | cons row rest ih =>
    obtain ⟨hrow, hrest⟩ := List.forall_mem_cons.1 h
    obtain ⟨span?, hspan, hwithin, hhas⟩ := run_span? hrow bounds difficulty
    obtain ⟨spans, hspans, hwithin', hhas'⟩ := ih hrest
    refine ⟨span? :: spans, by simp [List.mapM_cons, hspan, hspans], ?_, ?_⟩
    · intro span hmem
      rcases List.mem_cons.1 (by simpa using hmem) with heq | hmem
      · exact hwithin span heq.symm
      · exact hwithin' span (by simpa using hmem)
    · intro total htotal
      rw [List.exists_mem_cons_iff, ← hhas total htotal, ← hhas' total htotal]
      cases span? with
      | none => simp
      | some span => simp

theorem hasBounds_of_mapM {spans : List (Option Span)}
    (h : rows.mapM (Row.span? bounds difficulty) = .ok spans) : ∀ row ∈ rows, row.HasBounds := by
  induction rows generalizing spans with
  | nil => simp
  | cons row rest ih =>
    by_cases hrow : row.HasBounds
    · obtain ⟨span?, hspan, -⟩ := run_span? hrow bounds difficulty
      cases hrest : rest.mapM (Row.span? bounds difficulty) with
      | error fault => simp [List.mapM_cons, hspan, hrest] at h
      | ok spans' => exact List.forall_mem_cons.2 ⟨hrow, ih hrest⟩
    · obtain ⟨fault, hfault⟩ := span?_error hrow bounds difficulty
      simp [List.mapM_cons, hfault] at h

/-- No row is found for a total exactly when none of the rows covers it. -/
theorem lastCovering_none_iff (h : ∀ row ∈ rows, row.HasBounds) :
    lastCovering difficulty total rows = .ok none ↔
      ¬ ∃ row ∈ rows, row.covers difficulty total = .ok true := by
  -- over any row found so far: a later row may replace it, and none takes it away
  have hsearch (found : Option Row) (hrows : ∀ row ∈ rows, row.HasBounds) :
      rows.foldlM (search difficulty total) found = .ok none ↔
        found = none ∧ ¬ ∃ row ∈ rows, row.covers difficulty total = .ok true := by
    clear h
    induction rows generalizing found with
    | nil => simp
    | cons row rest ih =>
      obtain ⟨hrow, hrest⟩ := List.forall_mem_cons.1 hrows
      obtain ⟨b, hb⟩ := (covers_ok_iff row difficulty total).2 hrow
      have hnext : search difficulty total found row = .ok (if b then some row else found) := by
        simp [search, hb]
      rw [List.foldlM_cons, hnext, ok_bind, ih _ hrest, List.exists_mem_cons_iff, hb]
      cases b with
      | true => simp
      | false => simp
  rw [lastCovering_eq, hsearch none h]
  simp

end Row

namespace RandomTable

variable {table : RandomTable} {f : Formula} {difficulty : Option Int} {total : Int}

def Missed (table : RandomTable) (f : Formula) (difficulty : Option Int) (total : Int) : Prop :=
  (∃ faces, f.Shows faces ∧ f.total faces = total) ∧ table.rowFor difficulty total = .ok none

/-- Some roll without rerolls comes back with the total and no row. -/
def Unmatched (table : RandomTable) (difficulty : Option Int) (total : Int) : Prop :=
  ∃ desk result after, table.roll difficulty 0 desk = .ok result after ∧ result.total = total ∧
    result.row = none

/-- Some roll without rerolls comes to the total and no row, and fails, since the number is too long to
tell. -/
def Unspoken (table : RandomTable) (difficulty : Option Int) (total : Int) : Prop :=
  ∃ desk dice after, table.settle difficulty 0 desk = .ok (dice, none) after ∧ dice.total = total ∧
    table.roll difficulty 0 desk = .error .numeral after

section Rolls

variable {desk : Desk}

theorem rowFor_cases (h : table.Rollable f) (difficulty : Option Int) (total : Int) :
    table.rowFor difficulty total = .ok none ∨
      ∃ row, table.rowFor difficulty total = .ok (some row) := by
  obtain ⟨found, hfound, -⟩ := Row.lastCovering_ok h.bounds difficulty total
  cases found with
  | none => exact Or.inl hfound
  | some row => exact Or.inr ⟨row, hfound⟩

/-- A roll without rerolls leads to the row of its total, if there is one. -/
theorem settle_once (h : table.Rollable f) {row : Option Row}
    (hrow : table.rowFor difficulty (f.totalOn desk.source) = .ok row) :
    table.settle difficulty 0 desk = .ok (table.diceAt f desk 0, row) (table.deskAt f desk 1) :=
  settle_of_done h.formula (Or.inl (Int.le_refl 0)) hrow

theorem run_roll_of_none (h : table.Rollable f)
    (hrow : table.rowFor difficulty (f.totalOn desk.source) = .ok none)
    (hshort : Number.isTooLong (f.totalOn desk.source) = false) :
    ∃ result after, table.roll difficulty 0 desk = .ok result after ∧
      result.total = f.totalOn desk.source ∧ result.row = none := by
  have htotal : (table.diceAt f desk 0).total = f.totalOn desk.source := rfl
  rw [run_roll_of_settle (settle_once h hrow), Act.run_map, htotal, run_describe_none hshort]
  exact ⟨_, _, rfl, rfl, rfl⟩

/-- A roll whose total has no row and is too long fails to tell it. -/
theorem run_roll_untold (h : table.Rollable f)
    (hrow : table.rowFor difficulty (f.totalOn desk.source) = .ok none)
    (hlong : Number.isTooLong (f.totalOn desk.source) = true) :
    table.roll difficulty 0 desk = .error .numeral (table.deskAt f desk 1) := by
  have htotal : (table.diceAt f desk 0).total = f.totalOn desk.source := rfl
  rw [run_roll_of_settle (settle_once h hrow), Act.run_map, htotal, run_describe_error hlong]

/-- A roll whose total a row covers leads to that row, however often it might be repeated. -/
theorem settle_of_some (h : table.Rollable f) {row : Row}
    (hrow : table.rowFor difficulty (f.totalOn desk.source) = .ok (some row)) (rerolls : Int) :
    table.settle difficulty rerolls desk =
      .ok (table.diceAt f desk 0, some row) (table.deskAt f desk 1) := by
  have hroll : Desk.roll table.formula ("table roll: " ++ table.name.plain) desk =
      .ok (table.diceAt f desk 0) (table.deskAt f desk 1) := run_rollAt h.formula desk 0
  have hrow' : table.rowFor difficulty (table.diceAt f desk 0).total = .ok (some row) := hrow
  have hreroll (dice : Roll) : table.reroll difficulty rerolls.toNat dice (some row) =
      pure (dice, some row) := reroll_eq_of_done (Or.inr (Or.inl rfl))
  simp only [settle, Act.run_bind, hroll, Act.run_liftExcept, hrow', Act.run_ofExcept_ok, hreroll,
    Act.run_pure, run_fallback_of_row]

/-- It gives the row if the row's text can be made. -/
theorem run_roll_of_some (h : table.Rollable f) {row : Row} (hrenders : row.description.Renders)
    (hrow : table.rowFor difficulty (f.totalOn desk.source) = .ok (some row)) (rerolls : Int) :
    ∃ result after, table.roll difficulty rerolls desk = .ok result after ∧
      result.total = f.totalOn desk.source ∧ result.row = some row := by
  obtain ⟨text, after, htext⟩ := hrenders (table.deskAt f desk 1)
  have hdescribe (total : Int) :
      table.describe total (some row) (table.deskAt f desk 1) = .ok text after := htext
  rw [run_roll_of_settle (settle_of_some h hrow rerolls), Act.run_map, hdescribe]
  exact ⟨_, _, rfl, rfl, rfl⟩

/-- A roll without rerolls comes back without a row exactly where no row covers its total and the total
can be told. -/
theorem roll_unmatched_iff (h : table.Rollable f) :
    (∃ result after, table.roll difficulty 0 desk = .ok result after ∧ result.total = total ∧
        result.row = none) ↔
      f.totalOn desk.source = total ∧ table.rowFor difficulty total = .ok none ∧
        Number.isTooLong total = false := by
  constructor
  · rintro ⟨result, after, hroll, rfl, hnone⟩
    rcases rowFor_cases h difficulty (f.totalOn desk.source) with hrow | ⟨row, hrow⟩
    · cases hlong : Number.isTooLong (f.totalOn desk.source) with
      | true => cases hroll.symm.trans (run_roll_untold h hrow hlong)
      | false =>
        obtain ⟨result', after', hroll', htotal, -⟩ := run_roll_of_none h hrow hlong
        rw [hroll] at hroll'
        obtain ⟨rfl, -⟩ := EStateM.Result.ok.inj hroll'
        exact ⟨htotal.symm, htotal ▸ hrow, htotal ▸ hlong⟩
    · rw [run_roll_of_settle (settle_once h hrow)] at hroll
      obtain ⟨text, -, rfl⟩ := Act.parts_of_map hroll
      cases hnone
  · rintro ⟨rfl, hrow, hshort⟩
    exact run_roll_of_none h hrow hshort

end Rolls

theorem missed_iff (h : table.Rollable f) :
    table.Missed f difficulty total ↔
      (∃ desk : Desk, f.totalOn desk.source = total) ∧ table.rowFor difficulty total = .ok none := by
  have hsides := (Formula.pos_of_ofValue h.formula).2
  have hdesk : (∃ desk : Desk, f.totalOn desk.source = total) ↔ ∃ source, f.totalOn source = total := by
    constructor
    · rintro ⟨desk, htotal⟩
      exact ⟨desk.source, htotal⟩
    · rintro ⟨source, htotal⟩
      exact ⟨{ Scene.blank.desk with source }, htotal⟩
  rw [Missed, hdesk, Formula.exists_shows_iff hsides, Formula.exists_totalOn_iff hsides]

/-- Some roll comes back unmatched with a total exactly where it is missed and can be told. -/
theorem unmatched_iff (h : table.Rollable f) :
    table.Unmatched difficulty total ↔
      table.Missed f difficulty total ∧ Number.isTooLong total = false := by
  rw [missed_iff h, Unmatched]
  constructor
  · rintro ⟨desk, hroll⟩
    obtain ⟨htotal, hrow, hshort⟩ := (roll_unmatched_iff h).1 hroll
    exact ⟨⟨⟨desk, htotal⟩, hrow⟩, hshort⟩
  · rintro ⟨⟨⟨desk, htotal⟩, hrow⟩, hshort⟩
    exact ⟨desk, (roll_unmatched_iff h).2 ⟨htotal, hrow, hshort⟩⟩

/-- Some roll fails at a total exactly where it is missed and too long to be told. -/
theorem unspoken_iff (h : table.Rollable f) :
    table.Unspoken difficulty total ↔
      table.Missed f difficulty total ∧ Number.isTooLong total = true := by
  rw [missed_iff h, Unspoken]
  constructor
  · rintro ⟨desk, dice, after, hsettle, rfl, hroll⟩
    rcases rowFor_cases h difficulty (f.totalOn desk.source) with hrow | ⟨row, hrow⟩
    · cases (settle_once h hrow).symm.trans hsettle
      cases hlong : Number.isTooLong (f.totalOn desk.source) with
      | true => exact ⟨⟨⟨desk, rfl⟩, hrow⟩, hlong⟩
      | false =>
        obtain ⟨result, told, hrun, -⟩ := run_roll_of_none h hrow hlong
        cases hroll.symm.trans hrun
    · cases (settle_once h hrow).symm.trans hsettle
  · rintro ⟨⟨⟨desk, rfl⟩, hrow⟩, hlong⟩
    exact ⟨desk, _, _, settle_once h hrow, rfl, run_roll_untold h hrow hlong⟩

/-- The gaps of a table are ranges apart from one another, within the totals of the dice, and have
exactly the missed totals. -/
theorem run_gaps (h : table.Rollable f) (difficulty : Option Int) :
    ∃ gaps, table.gaps difficulty = .ok gaps ∧ Span.Apart gaps ∧
      (∀ gap ∈ gaps, Span.Within ⟨f.least, f.greatest⟩ gap) ∧
      ∀ total, (∃ gap ∈ gaps, gap.Has total) ↔ table.Missed f difficulty total := by
  let bounds : Span := ⟨f.least, f.greatest⟩
  obtain ⟨spans, hspans, hwithin, hhas⟩ := Row.mapM_span? h.bounds bounds difficulty
  let sorted := (spans.filterMap id).mergeSort Span.before
  have hbounds : Formula.bounds table.formula = .ok (f.least, f.greatest) := by
    rw [Formula.bounds, h.formula]
    rfl
  -- the order of the spans is for the sweep, and changes nothing about the totals in them
  have hmem (span : Span) : span ∈ sorted ↔ span ∈ spans.filterMap id := List.mem_mergeSort
  have hfilled : ∀ span ∈ sorted, span.first ≤ span.last :=
    fun span hspan => (hwithin span ((hmem span).1 hspan)).filled
  have hlast : ∀ span ∈ sorted, span.first ≤ f.greatest := by
    intro span hspan
    have hw := hwithin span ((hmem span).1 hspan)
    exact Int.le_trans hw.filled hw.last
  have hsorted := Span.pairwise_first_mergeSort (spans.filterMap id)
  refine ⟨Span.missing f.greatest f.least sorted, ?_, Span.apart_missing hfilled hlast,
    fun gap hgap => Span.within_of_mem_missing hlast hgap, fun total => ?_⟩
  · simp only [gaps, hbounds, ok_bind, hspans, pure_eq_ok, bounds, sorted]
  · have hsides := (Formula.pos_of_ofValue h.formula).2
    rw [Span.has_missing_iff hsorted hlast, Missed, Formula.exists_shows_iff hsides, and_assoc]
    refine and_congr_right fun hlow => and_congr_right fun hhigh => ?_
    have hcovered := hhas total ⟨hlow, hhigh⟩
    rw [rowFor, Row.lastCovering_none_iff h.bounds, ← hcovered]
    constructor
    · rintro hnone ⟨span, hspan, hspanHas⟩
      exact hnone span ((hmem span).2 hspan) hspanHas
    · intro hnone span hspan hspanHas
      exact hnone ⟨span, (hmem span).1 hspan, hspanHas⟩

/-- A table whose gaps can be found can be rolled on. -/
theorem rollable_of_gaps {gaps : List Span} (h : table.gaps difficulty = .ok gaps) :
    ∃ f, table.Rollable f := by
  unfold RandomTable.gaps Formula.bounds at h
  cases hf : Formula.ofValue table.formula with
  | error fault => simp [hf, Except.map] at h
  | ok f =>
    refine ⟨f, hf, ?_⟩
    simp only [hf, Except.map, ok_bind] at h
    cases hspans : table.rows.mapM (Row.span? ⟨f.least, f.greatest⟩ difficulty) with
    | error fault => simp [hspans] at h
    | ok spans => exact Row.hasBounds_of_mapM hspans

/-- On a table without gaps there is a row for every total of its dice. -/
theorem rowFor_of_no_gaps (h : table.gaps difficulty = .ok []) (hf : table.Rollable f)
    (source : Source) : ∃ row, table.rowFor difficulty (f.totalOn source) = .ok (some row) := by
  obtain ⟨gaps, hgaps, -, -, hexact⟩ := run_gaps hf difficulty
  obtain rfl : [] = gaps := Except.ok.inj (h.symm.trans hgaps)
  let desk : Desk := { Scene.blank.desk with source }
  rcases rowFor_cases hf difficulty (f.totalOn source) with hrow | hrow
  · have hmissed := (hexact _).2 ((missed_iff hf).2 ⟨⟨desk, rfl⟩, hrow⟩)
    simp at hmissed
  · exact hrow

/-- Where there is a row for every total of the dice there are no gaps. -/
theorem gaps_of_rowFor (hf : Formula.ofValue table.formula = .ok f)
    (hrows : ∀ total, f.least ≤ total → total ≤ f.greatest →
      ∃ row, table.rowFor difficulty total = .ok (some row)) :
    table.gaps difficulty = .ok [] := by
  have hleast : f.least ≤ f.greatest := Formula.least_le_greatest (Formula.pos_of_ofValue hf).2
  obtain ⟨first, hfirst⟩ := hrows f.least (Int.le_refl _) hleast
  obtain ⟨gaps, hgaps, -, hwithin, hexact⟩ := run_gaps ⟨hf, hasBounds_of_rowFor hfirst⟩ difficulty
  rw [hgaps]
  apply congrArg
  apply List.eq_nil_iff_forall_not_mem.2
  intro gap hgap
  have hbounds := hwithin gap hgap
  obtain ⟨-, hmissed⟩ := (hexact gap.first).1 ⟨gap, hgap, Int.le_refl _, hbounds.filled⟩
  obtain ⟨row, hrow⟩ := hrows gap.first hbounds.first (Int.le_trans hbounds.filled hbounds.last)
  cases hmissed.symm.trans hrow

/-- On a table without gaps every roll gives a row, however often it might be repeated, if the texts of all
rows can be made. -/
theorem run_roll_of_no_gaps (h : table.gaps difficulty = .ok []) (hrenders : table.Renders)
    (rerolls : Int) (desk : Desk) :
    ∃ result after row, table.roll difficulty rerolls desk = .ok result after ∧
      result.row = some row := by
  obtain ⟨f, hf⟩ := rollable_of_gaps h
  obtain ⟨row, hrow⟩ := rowFor_of_no_gaps h hf desk.source
  obtain ⟨result, after, hroll, -, hsome⟩ :=
    run_roll_of_some hf (hrenders row (mem_of_rowFor hrow)) hrow rerolls
  exact ⟨result, after, row, hroll, hsome⟩

end RandomTable

end TaleLoom
