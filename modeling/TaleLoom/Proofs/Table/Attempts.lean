import TaleLoom.Proofs.Registry.Coverage
/-!
A roll on a table from its dice to its row. A source gives a total for each roll of the table's dice
(`Formula.totalAt`), and a total has the last of the rows that cover it (`RandomTable.rowFor_exact`).
Rolling again goes on to the first total that has a row, or gives up after the last roll
(`RandomTable.run_reroll_found`, `RandomTable.run_reroll_missed`), so that every roll is known by the
totals alone (`RandomTable.roll_exact`).
-/

namespace TaleLoom

namespace Row

/-- The row covers the total, and no row after it does. -/
def IsLastOf (rows : List Row) (difficulty : Option Int) (total : Int) (row : Row) : Prop :=
  ∃ before after, rows = before ++ row :: after ∧ row.covers difficulty total = .ok true ∧
    ∀ other ∈ after, other.covers difficulty total = .ok false

theorem IsLastOf.mem {rows : List Row} {difficulty : Option Int} {total : Int} {row : Row}
    (h : IsLastOf rows difficulty total row) : row ∈ rows := by
  obtain ⟨before, after, rfl, -, -⟩ := h
  exact List.mem_append_right before List.mem_cons_self

/-- The row found in the end covers the total and is the last one that does; else none of the rows
covers it, and what was found before stands. -/
theorem foldlM_search_cases {rows : List Row} (h : ∀ row ∈ rows, row.HasBounds)
    (difficulty : Option Int) (total : Int) (found : Option Row) :
    (∃ row, rows.foldlM (search difficulty total) found = .ok (some row) ∧
        IsLastOf rows difficulty total row) ∨
      rows.foldlM (search difficulty total) found = .ok found ∧
        ∀ row ∈ rows, row.covers difficulty total = .ok false := by
  induction rows generalizing found with
  | nil => exact Or.inr ⟨rfl, List.forall_mem_nil _⟩
  | cons row rest ih =>
    obtain ⟨hrow, hrest⟩ := List.forall_mem_cons.1 h
    obtain ⟨b, hb⟩ := (covers_ok_iff row difficulty total).2 hrow
    have hnext : search difficulty total found row = .ok (if b then some row else found) := by
      simp [search, hb]
    rw [List.foldlM_cons, hnext, ok_bind]
    rcases ih hrest (if b then some row else found) with ⟨last, hlast, before, after, rfl, hcovers⟩ |
      ⟨hkept, hnone⟩
    · exact Or.inl ⟨last, hlast, row :: before, after, rfl, hcovers⟩
    · -- no later row covers the total, so this one decides
      cases b with
      | true => exact Or.inl ⟨row, hkept, [], rest, rfl, hb, hnone⟩
      | false => exact Or.inr ⟨hkept, List.forall_mem_cons.2 ⟨hb, hnone⟩⟩

end Row

namespace RandomTable

variable {table : RandomTable} {f : Formula} {difficulty : Option Int} {desk : Desk}

def Uncovered (table : RandomTable) (difficulty : Option Int) (total : Int) : Prop :=
  ∀ row ∈ table.rows, row.covers difficulty total = .ok false

/-- A total has the last of the rows that cover it, or none covers it and it has no row. -/
theorem rowFor_exact (h : table.Rollable f) (difficulty : Option Int) (total : Int) :
    (∃ row, table.rowFor difficulty total = .ok (some row) ∧
        Row.IsLastOf table.rows difficulty total row) ∨
      table.rowFor difficulty total = .ok none ∧ table.Uncovered difficulty total :=
  Row.foldlM_search_cases h.bounds difficulty total none

section Rerolls

/-- Rolling again once: the next dice, and the row of their total. -/
theorem run_reroll_succ (h : table.Rollable f) (hrows : table.rows ≠ []) (attempts k : Nat)
    {row : Option Row} (hrow : table.rowFor difficulty (f.totalAt desk.source (k + 1)) = .ok row) :
    table.reroll difficulty (attempts + 1) (table.diceAt f desk k) none (table.deskAt f desk (k + 1)) =
      table.reroll difficulty attempts (table.diceAt f desk (k + 1)) row
        (table.deskAt f desk (k + 2)) := by
  have hgo : ((none : Option Row).isSome || table.rows.isEmpty) = false := by simp [hrows]
  have hroll : Desk.roll table.formula ("table reroll: " ++ table.name.plain)
      (table.deskAt f desk (k + 1)) =
        .ok (table.diceAt f desk (k + 1)) (table.deskAt f desk (k + 2)) :=
    run_rollAt h.formula desk (k + 1)
  simp only [reroll, hgo, Bool.false_eq_true, if_false, Act.run_bind, hroll, Act.run_liftExcept,
    total_diceAt, hrow, Act.run_ofExcept_ok]

/-- The first total that has a row ends the rolling. -/
theorem run_reroll_found (h : table.Rollable f) (hrows : table.rows ≠ []) {row : Row} (wait k : Nat)
    {attempts : Nat} (hattempts : wait < attempts)
    (hnone : ∀ i < wait, table.rowFor difficulty (f.totalAt desk.source (k + 1 + i)) = .ok none)
    (hrow : table.rowFor difficulty (f.totalAt desk.source (k + 1 + wait)) = .ok (some row)) :
    table.reroll difficulty attempts (table.diceAt f desk k) none (table.deskAt f desk (k + 1)) =
      .ok (table.diceAt f desk (k + 1 + wait), some row) (table.deskAt f desk (k + 2 + wait)) := by
  induction wait generalizing k attempts with
  | zero =>
    obtain ⟨attempts, rfl⟩ := Nat.exists_eq_add_of_lt hattempts
    rw [Nat.zero_add, run_reroll_succ h hrows attempts k hrow,
      reroll_eq_of_done (Or.inr (Or.inl rfl))]
    rfl
  | succ wait ih =>
    obtain ⟨attempts, rfl⟩ : ∃ fewer, attempts = fewer + 1 := ⟨attempts - 1, by omega⟩
    have hfirst := hnone 0 (by omega)
    have hfewer : wait < attempts := by omega
    rw [run_reroll_succ h hrows attempts k hfirst]
    have hshift (i : Nat) : k + 1 + 1 + i = k + 1 + (i + 1) := by omega
    have hrest := ih (k + 1) hfewer
      (fun i hi => by rw [hshift]; exact hnone (i + 1) (by omega)) (by rw [hshift]; exact hrow)
    rw [hrest, hshift, show k + 1 + 2 + wait = k + 2 + (wait + 1) by omega]

/-- Where no roll gives a total with a row, all of them are made. -/
theorem run_reroll_missed (h : table.Rollable f) (hrows : table.rows ≠ []) (attempts k : Nat)
    (hnone : ∀ i < attempts, table.rowFor difficulty (f.totalAt desk.source (k + 1 + i)) = .ok none) :
    table.reroll difficulty attempts (table.diceAt f desk k) none (table.deskAt f desk (k + 1)) =
      .ok (table.diceAt f desk (k + attempts), none) (table.deskAt f desk (k + 1 + attempts)) := by
  induction attempts generalizing k with
  | zero => rfl
  | succ attempts ih =>
    rw [run_reroll_succ h hrows attempts k (hnone 0 (by omega))]
    have hrest := ih (k + 1) fun i hi => by
      rw [show k + 1 + 1 + i = k + 1 + (i + 1) by omega]
      exact hnone (i + 1) (by omega)
    rw [hrest, show k + 1 + attempts = k + (attempts + 1) by omega,
      show k + 1 + 1 + attempts = k + 1 + (attempts + 1) by omega]

end Rerolls

/-- The roll comes to a row by some dice, and from there to whatever the making of its text comes to on the
desk that the rolls leave. -/
def GivesRow (table : RandomTable) (difficulty : Option Int) (rerolls : Nat) (desk : Desk) (dice : Roll)
    (rolled : Desk) (row : Row) : Prop :=
  table.roll difficulty rerolls desk =
    (table.resultOf difficulty dice (some row) <$> row.description.render) rolled

section Rolls

theorem givesRow_of_settle {rerolls : Nat} {dice : Roll} {row : Row} {rolled : Desk}
    (h : table.settle difficulty rerolls desk = .ok (dice, some row) rolled) :
    table.GivesRow difficulty rerolls desk dice rolled row :=
  run_roll_of_settle h

/-- A roll of the table's dice and the row of its total come before everything else. -/
theorem settle_of_rowFor (h : table.Rollable f) {row : Option Row}
    (hrow : table.rowFor difficulty (f.totalAt desk.source 0) = .ok row) (rerolls : Int) :
    table.settle difficulty rerolls desk =
      (do
        let (dice, row) ← table.reroll difficulty rerolls.toNat (table.diceAt f desk 0) row
        return (dice, ← table.fallback rerolls row) : Act Desk (Roll × Option Row))
          (table.deskAt f desk 1) := by
  have hroll : Desk.roll table.formula ("table roll: " ++ table.name.plain) desk =
      .ok (table.diceAt f desk 0) (table.deskAt f desk 1) := run_rollAt h.formula desk 0
  simp only [settle, Act.run_bind, hroll, Act.run_liftExcept, total_diceAt, hrow, Act.run_ofExcept_ok]

/-- A total that has a row with a fixed text gives this text, and nothing is drawn but the dice. -/
theorem run_roll_literal (h : table.Rollable f) {row : Row}
    (hrow : table.rowFor difficulty (f.totalOn desk.source) = .ok (some row)) {text : String}
    (htext : row.description = .literal text) (rerolls : Int) :
    table.roll difficulty rerolls desk =
      .ok (table.resultOf difficulty (table.diceAt f desk 0) (some row) text) (table.deskAt f desk 1) := by
  have hdescribe (total : Int) (later : Desk) : table.describe total (some row) later = .ok text later := by
    rw [describe, htext]
    rfl
  rw [run_roll_of_settle (settle_of_some h hrow rerolls), Act.run_map, hdescribe]

/-- Dice with a row end the roll, and the text of the row is all that is left to do. -/
theorem givesRow_of_reroll (h : table.Rollable f) {first : Option Row} {rerolls : Nat} {row : Row} {j : Nat}
    (hfirst : table.rowFor difficulty (f.totalAt desk.source 0) = .ok first)
    (hreroll : table.reroll difficulty rerolls (table.diceAt f desk 0) first (table.deskAt f desk 1) =
      .ok (table.diceAt f desk j, some row) (table.deskAt f desk (j + 1))) :
    table.GivesRow difficulty rerolls desk (table.diceAt f desk j) (table.deskAt f desk (j + 1)) row := by
  apply givesRow_of_settle
  rw [settle_of_rowFor h hfirst rerolls]
  simp only [Int.toNat_natCast, Act.run_bind, hreroll, run_fallback_of_row, Act.run_pure]

def fallbackReason (table : RandomTable) : String := "fallback row: " ++ table.name.plain

/-- Where no roll gave a total with a row, one more draw chooses a row by its place. -/
theorem givesRow_of_missed (h : table.Rollable f) (hrows : table.rows ≠ []) {rerolls : Nat}
    (hrerolls : 0 < rerolls)
    (hnone : ∀ i ≤ rerolls, table.rowFor difficulty (f.totalAt desk.source i) = .ok none) :
    table.GivesRow difficulty rerolls desk (table.diceAt f desk rerolls)
      ((table.deskAt f desk (rerolls + 1)).placed table.rows.length table.fallbackReason)
      (Desk.chosen table.rows hrows (f.sourceAt desk.source (rerolls + 1))) := by
  let row := Desk.chosen table.rows hrows (f.sourceAt desk.source (rerolls + 1))
  let rolled := (table.deskAt f desk (rerolls + 1)).placed table.rows.length table.fallbackReason
  have hreroll := run_reroll_missed h hrows rerolls 0 fun i hi => hnone (0 + 1 + i) (by omega)
  rw [Nat.zero_add, Nat.zero_add, Nat.add_comm 1 rerolls] at hreroll
  have hreason : table.fallbackReason.isEmpty = false := by
    rw [fallbackReason, String.isEmpty_eq_false_iff]
    intro hempty
    exact absurd (congrArg String.toList hempty) (by simp [String.toList_append])
  have hchoose : Desk.choose table.rows table.fallbackReason (table.deskAt f desk (rerolls + 1)) =
      .ok row rolled := by
    rw [Desk.run_choose hrows, hreason, if_neg Bool.false_ne_true]
    simp only [source_deskAt, row, rolled]
  have hfallback : table.fallback rerolls none (table.deskAt f desk (rerolls + 1)) =
      .ok (some row) rolled := by
    have hcond : ((none : Option Row).isNone && decide ((0 : Int) < rerolls) &&
        !table.rows.isEmpty) = true := by
      simp [hrerolls, hrows]
    have hchoose' : Desk.choose table.rows ("fallback row: " ++ table.name.plain)
        (table.deskAt f desk (rerolls + 1)) = .ok row rolled := hchoose
    simp only [fallback, hcond, if_true, Act.run_map, hchoose']
  apply givesRow_of_settle
  rw [settle_of_rowFor h (hnone 0 (by omega)) rerolls]
  simp only [Int.toNat_natCast, Act.run_bind, hreroll, hfallback, Act.run_pure, row, rolled]

def unmatchedNotice (table : RandomTable) (total : Int) : Notice :=
  ⟨.warning, "Table '" ++ table.name.plain ++ "' has no row covering roll " ++ Number.decimal total⟩

/-- A roll that counts at once and has no row comes back without one, or fails to tell its total. -/
theorem roll_of_unmatched (h : table.Rollable f) {rerolls : Nat}
    (hdone : rerolls = 0 ∨ table.rows = [])
    (hnone : table.rowFor difficulty (f.totalAt desk.source 0) = .ok none) :
    table.roll difficulty rerolls desk =
      if Number.isTooLong (f.totalAt desk.source 0) then .error .numeral (table.deskAt f desk 1)
      else .ok (table.resultOf difficulty (table.diceAt f desk 0) none "")
        { table.deskAt f desk 1 with
          notices := (table.deskAt f desk 1).notices.push
            (table.unmatchedNotice (f.totalAt desk.source 0)) } := by
  have hstop : (rerolls : Int) ≤ 0 ∨ table.rows = [] := hdone.imp_left fun hzero => by omega
  have htotal : (table.diceAt f desk 0).total = f.totalAt desk.source 0 := rfl
  rw [run_roll_of_settle (settle_of_done h.formula hstop hnone), Act.run_map, htotal]
  cases hlong : Number.isTooLong (f.totalAt desk.source 0) with
  | true => simp only [run_describe_error hlong, if_true]
  | false =>
    simp only [run_describe_none hlong, Bool.false_eq_true, if_false]
    rfl

/-- Among so many rolls there is a first whose total has a row, or no total has one. -/
theorem first_row_or_none (h : table.Rollable f) (difficulty : Option Int) (source : Source) (rerolls : Nat) :
    (∃ j ≤ rerolls, ∃ row, (∀ i < j, table.rowFor difficulty (f.totalAt source i) = .ok none) ∧
        table.rowFor difficulty (f.totalAt source j) = .ok (some row)) ∨
      ∀ i ≤ rerolls, table.rowFor difficulty (f.totalAt source i) = .ok none := by
  induction rerolls with
  | zero =>
    rcases rowFor_cases h difficulty (f.totalAt source 0) with hnone | ⟨row, hrow⟩
    · refine Or.inr fun i hi => ?_
      obtain rfl : i = 0 := by omega
      exact hnone
    · exact Or.inl ⟨0, Nat.le_refl 0, row, fun i hi => by omega, hrow⟩
  | succ rerolls ih =>
    rcases ih with ⟨j, hj, row, hfirst⟩ | hnone
    · exact Or.inl ⟨j, by omega, row, hfirst⟩
    · rcases rowFor_cases h difficulty (f.totalAt source (rerolls + 1)) with hlast | ⟨row, hrow⟩
      · refine Or.inr fun i hi => ?_
        by_cases heq : i = rerolls + 1
        · exact heq ▸ hlast
        · exact hnone i (by omega)
      · exact Or.inl ⟨rerolls + 1, Nat.le_refl _, row, fun i hi => hnone i (by omega), hrow⟩

theorem uncovered_of_none (h : table.Rollable f) {total : Int}
    (hnone : table.rowFor difficulty total = .ok none) : table.Uncovered difficulty total := by
  rcases rowFor_exact h difficulty total with ⟨row, hrow, -⟩ | ⟨-, huncovered⟩
  · cases hnone.symm.trans hrow
  · exact huncovered

theorem isLastOf_of_some (h : table.Rollable f) {total : Int} {row : Row}
    (hrow : table.rowFor difficulty total = .ok (some row)) :
    Row.IsLastOf table.rows difficulty total row := by
  rcases rowFor_exact h difficulty total with ⟨row', hrow', hlast⟩ | ⟨hnone, -⟩
  · obtain rfl : row = row' := Option.some.inj (Except.ok.inj (hrow.symm.trans hrow'))
    exact hlast
  · cases hrow.symm.trans hnone

/-- A roll on a table goes by the totals that the source gives. Where there are rows and the dice may be
rolled again, they are, up to the first total that a row covers, and the last row that covers it is the
one; where no total has a row, one further draw chooses a row by its place. Else the first dice count: the
last row that covers their total, or no row and a warning, unless the total is too long to be told. In
every case the total is that of the last dice. -/
theorem roll_exact (h : table.Rollable f) (difficulty : Option Int) (rerolls : Nat) (desk : Desk) :
    (table.rows ≠ [] → 0 < rerolls →
      (∃ j ≤ rerolls, ∃ row,
        (∀ i < j, table.Uncovered difficulty (f.totalAt desk.source i)) ∧
        Row.IsLastOf table.rows difficulty (f.totalAt desk.source j) row ∧
        table.GivesRow difficulty rerolls desk (table.diceAt f desk j) (table.deskAt f desk (j + 1)) row) ∨
      ((∀ i ≤ rerolls, table.Uncovered difficulty (f.totalAt desk.source i)) ∧
        ∃ row,
          table.rows[((f.sourceAt desk.source (rerolls + 1)).below table.rows.length).1]? = some row ∧
          table.GivesRow difficulty rerolls desk (table.diceAt f desk rerolls)
            ((table.deskAt f desk (rerolls + 1)).placed table.rows.length table.fallbackReason) row)) ∧
    (rerolls = 0 ∨ table.rows = [] →
      (∃ row, Row.IsLastOf table.rows difficulty (f.totalAt desk.source 0) row ∧
        table.GivesRow difficulty rerolls desk (table.diceAt f desk 0) (table.deskAt f desk 1) row) ∨
      (table.Uncovered difficulty (f.totalAt desk.source 0) ∧
        table.roll difficulty rerolls desk =
          if Number.isTooLong (f.totalAt desk.source 0) then .error .numeral (table.deskAt f desk 1)
          else .ok (table.resultOf difficulty (table.diceAt f desk 0) none "")
            { table.deskAt f desk 1 with
              notices := (table.deskAt f desk 1).notices.push
                (table.unmatchedNotice (f.totalAt desk.source 0)) })) := by
  refine ⟨fun hrows hrerolls => ?_, fun hdone => ?_⟩
  · rcases first_row_or_none h difficulty desk.source rerolls with ⟨j, hj, row, hbefore, hrow⟩ | hnone
    · refine Or.inl ⟨j, hj, row, fun i hi => uncovered_of_none h (hbefore i hi),
        isLastOf_of_some h hrow, ?_⟩
      -- the first dice have a row, or it takes some waiting
      cases j with
      | zero =>
        apply givesRow_of_reroll h hrow
        rw [reroll_eq_of_done (Or.inr (Or.inl rfl)), Act.run_pure]
      | succ wait =>
        have hone (i : Nat) : 0 + 1 + i = i + 1 := by omega
        apply givesRow_of_reroll h (hbefore 0 (by omega))
        have hmissed (i : Nat) (hi : i < wait) :
            table.rowFor difficulty (f.totalAt desk.source (0 + 1 + i)) = .ok none := by
          rw [hone]
          exact hbefore (i + 1) (by omega)
        have hhit : table.rowFor difficulty (f.totalAt desk.source (0 + 1 + wait)) = .ok (some row) := by
          rw [hone]
          exact hrow
        have hfound := run_reroll_found h hrows wait 0 (by omega : wait < rerolls) hmissed hhit
        rw [hone, show 0 + 2 + wait = wait + 1 + 1 by omega] at hfound
        exact hfound
    · refine Or.inr ⟨fun i hi => uncovered_of_none h (hnone i hi), _, ?_,
        givesRow_of_missed h hrows hrerolls hnone⟩
      exact List.getElem?_eq_getElem _
  · rcases rowFor_cases h difficulty (f.totalAt desk.source 0) with hnone | ⟨row, hrow⟩
    · exact Or.inr ⟨uncovered_of_none h hnone, roll_of_unmatched h hdone hnone⟩
    · refine Or.inl ⟨row, isLastOf_of_some h hrow, givesRow_of_reroll h hrow ?_⟩
      rw [reroll_eq_of_done (Or.inr (Or.inl rfl)), Act.run_pure]

def thirdTimeDesk : Desk := { Scene.blank.desk with source := .listed [0, 3, 1] }

/-- The third roll is the first in the middle, although a fourth was allowed. -/
theorem roll_exact_middle :
    Registry.middleTable.Rollable ⟨1, 4, 0⟩ ∧ Registry.middleTable.rows ≠ [] ∧ 0 < 3 ∧
      ∃ row result after, Registry.middleTable.roll none 3 thirdTimeDesk = .ok result after ∧
        result.row = some row ∧ row ∈ Registry.middleTable.rows ∧ result.total = 2 ∧
        result.dice = Registry.middleTable.diceAt ⟨1, 4, 0⟩ thirdTimeDesk 2 := by
  have hrollable := Registry.middle_rollable
  have hrows : Registry.middleTable.rows ≠ [] := List.cons_ne_nil _ _
  let between : Row := ⟨.int 2, .int 3, .literal "in between"⟩
  have hfirst : between.covers none (Formula.totalAt ⟨1, 4, 0⟩ thirdTimeDesk.source 0) = .ok false := rfl
  have hsecond : between.covers none (Formula.totalAt ⟨1, 4, 0⟩ thirdTimeDesk.source 1) = .ok false := rfl
  have hthird : between.covers none (Formula.totalAt ⟨1, 4, 0⟩ thirdTimeDesk.source 2) = .ok true := rfl
  have hmiddle : ¬ Registry.middleTable.Uncovered none
      (Formula.totalAt ⟨1, 4, 0⟩ thirdTimeDesk.source 2) := by
    intro huncovered
    cases hthird.symm.trans (huncovered between List.mem_cons_self)
  have hapart (j : Nat) (hj : j = 0 ∨ j = 1) (row : Row) : ¬ Row.IsLastOf Registry.middleTable.rows none
      (Formula.totalAt ⟨1, 4, 0⟩ thirdTimeDesk.source j) row := by
    intro hlast
    obtain rfl : row = between := List.mem_singleton.1 hlast.mem
    obtain ⟨-, -, -, hcovers, -⟩ := hlast
    rcases hj with rfl | rfl
    · cases hfirst.symm.trans hcovers
    · cases hsecond.symm.trans hcovers
  refine ⟨hrollable, hrows, by decide, ?_⟩
  rcases (roll_exact hrollable none 3 thirdTimeDesk).1 hrows (by decide) with
    ⟨j, hj, row, hbefore, hlast, hgives⟩ | ⟨hnone, -⟩
  · have hlow : ¬ (j = 0 ∨ j = 1) := fun hj => hapart j hj row hlast
    have hhigh : ¬ 2 < j := fun hj => hmiddle (hbefore 2 hj)
    obtain rfl : j = 2 := by omega
    obtain rfl : row = between := List.mem_singleton.1 hlast.mem
    exact ⟨between, _, _, hgives, rfl, hlast.mem, rfl, rfl⟩
  · exact absurd (hnone 2 (by decide)) hmiddle

/-- The die shows two, no row covers the total, and telling so fails, since the total is too long. -/
theorem roll_untold :
    ∃ after, (Registry.shiftedTable Registry.longDigits).roll none 0
      { Scene.blank.desk with source := .listed [1] } = .error .numeral after := by
  obtain ⟨-, hlong⟩ := Registry.longDigits_limits
  have hrollable := Registry.longDigits_rollable
  -- from here the digits are any with these limits, and are not written out
  generalize Registry.longDigits = digits at hlong hrollable ⊢
  exact ⟨_, run_roll_untold hrollable rfl hlong⟩

end Rolls

end RandomTable

end TaleLoom
