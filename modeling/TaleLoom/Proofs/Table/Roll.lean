import TaleLoom.Proofs.Desk
import TaleLoom.Proofs.Dice.Formula
import TaleLoom.Proofs.Dice.Totals
import TaleLoom.Table
/-!
What a roll on a table gives. A table can be drawn from where its formula is one, its bounds stand for
totals and it has rows; then rolls that may be repeated lead to one of the rows (`RandomTable.run_settle`),
and give it if its text can be made. `failsWith_roll` says exactly when a roll fails.
-/

namespace TaleLoom

def Fault.refusesTable : Fault → Bool
  | .dice .. => true
  | .table _ => true
  | _ => false

namespace Row

def HasBounds (row : Row) : Prop :=
  (∃ low, Bound.resolveValue none row.low = .ok low) ∧
    ∃ high, Bound.resolveValue none row.high = .ok high

end Row

namespace Bound

/-- Whether a bound stands for a total does not depend on the difficulty. -/
theorem resolveValue_ok_iff (difficulty : Option Int) (v : Value) :
    (∃ n, resolveValue difficulty v = .ok n) ↔ ∃ n, resolveValue none v = .ok n := by
  unfold resolveValue
  cases ofValue v with
  | error fault => simp
  | ok bound =>
    cases bound with
    | unbounded => simp [resolve]
    | fixed n => simp [resolve]
    | offset s =>
      simp only [ok_bind, resolve]
      cases Number.readInteger? (Text.trim s.toList) <;> simp

theorem ofValue_error {v : Value} {fault : Fault} (h : ofValue v = .error fault) :
    fault = .table (.bound v) := by
  unfold ofValue at h
  split at h
  any_goals cases h
  · split at h
    · split at h
      · cases h
      · exact (Except.error.inj h).symm
    · exact (Except.error.inj h).symm
  · rfl

theorem resolve_error {difficulty : Option Int} {bound : Bound} {fault : Fault}
    (h : bound.resolve difficulty = .error fault) : ∃ why, fault = .table why := by
  cases bound with
  | unbounded => cases h
  | fixed n => cases h
  | offset s =>
    rw [resolve] at h
    split at h
    · cases h
    · obtain rfl := Except.error.inj h
      exact ⟨_, rfl⟩

theorem resolveValue_error {difficulty : Option Int} {v : Value} {fault : Fault}
    (h : resolveValue difficulty v = .error fault) : ∃ why, fault = .table why := by
  rcases parts_of_bind_eq_error h with h | ⟨bound, -, h⟩
  · exact ⟨_, ofValue_error h⟩
  · exact resolve_error h

end Bound

namespace Row

theorem covers_ok_iff (row : Row) (difficulty : Option Int) (total : Int) :
    (∃ b, row.covers difficulty total = .ok b) ↔ row.HasBounds := by
  rw [HasBounds, ← Bound.resolveValue_ok_iff difficulty row.low,
    ← Bound.resolveValue_ok_iff difficulty row.high, covers]
  cases Bound.resolveValue difficulty row.low with
  | error fault => simp
  | ok low =>
    cases Bound.resolveValue difficulty row.high with
    | error fault => simp
    | ok high => simp

theorem covers_error {row : Row} {difficulty : Option Int} {total : Int} {fault : Fault}
    (h : row.covers difficulty total = .error fault) : ∃ why, fault = .table why := by
  unfold covers at h
  cases hlow : Bound.resolveValue difficulty row.low with
  | error fault' =>
    rw [hlow] at h
    obtain rfl : fault' = fault := by simpa using h
    exact Bound.resolveValue_error hlow
  | ok low =>
    cases hhigh : Bound.resolveValue difficulty row.high with
    | error fault' =>
      rw [hlow, hhigh] at h
      obtain rfl : fault' = fault := by simpa using h
      exact Bound.resolveValue_error hhigh
    | ok high =>
      rw [hlow, hhigh] at h
      simp at h

/-- One row's turn in the search for the last one that covers a total. -/
def search (difficulty : Option Int) (total : Int) (found : Option Row) (row : Row) :
    Except Fault (Option Row) := do
  return if ← row.covers difficulty total then some row else found

theorem search_ok {row : Row} (h : row.HasBounds) (difficulty : Option Int) (total : Int)
    (found : Option Row) :
    ∃ found', search difficulty total found row = .ok found' ∧
      (found' = some row ∨ found' = found) := by
  obtain ⟨b, hb⟩ := (covers_ok_iff row difficulty total).2 h
  cases b
  · exact ⟨found, by simp [search, hb], Or.inr rfl⟩
  · exact ⟨some row, by simp [search, hb], Or.inl rfl⟩

theorem search_error {row : Row} (h : ¬ row.HasBounds) (difficulty : Option Int) (total : Int)
    (found : Option Row) : ∃ why, search difficulty total found row = .error (.table why) := by
  cases hc : row.covers difficulty total with
  | ok b => exact absurd ((covers_ok_iff row difficulty total).1 ⟨b, hc⟩) h
  | error fault =>
    obtain ⟨why, rfl⟩ := covers_error hc
    exact ⟨why, by simp [search, hc]⟩

theorem lastCovering_eq (difficulty : Option Int) (total : Int) (rows : List Row) :
    lastCovering difficulty total rows = rows.foldlM (search difficulty total) none := rfl

theorem foldlM_search_ok {rows : List Row} (h : ∀ row ∈ rows, row.HasBounds)
    (difficulty : Option Int) (total : Int) (found : Option Row) :
    ∃ found', rows.foldlM (search difficulty total) found = .ok found' ∧
      ∀ row, found' = some row → row ∈ rows ∨ found = some row := by
  induction rows generalizing found with
  | nil => exact ⟨found, rfl, fun row hrow => Or.inr hrow⟩
  | cons first rest ih =>
    obtain ⟨mid, hmid, hcase⟩ := search_ok (h first List.mem_cons_self) difficulty total found
    obtain ⟨last, hlast, hmem⟩ := ih (fun row hrow => h row (List.mem_cons_of_mem _ hrow)) mid
    refine ⟨last, by simp [List.foldlM_cons, hmid, hlast], ?_⟩
    intro row hrow
    rcases hmem row hrow with hrest | rfl
    · exact Or.inl (List.mem_cons_of_mem _ hrest)
    · rcases hcase with heq | heq
      · exact Or.inl (Option.some.inj heq ▸ List.mem_cons_self)
      · exact Or.inr heq.symm

/-- Where all rows have bounds, one of them or none covers a total. -/
theorem lastCovering_ok {rows : List Row} (h : ∀ row ∈ rows, row.HasBounds)
    (difficulty : Option Int) (total : Int) :
    ∃ found, lastCovering difficulty total rows = .ok found ∧
      ∀ row, found = some row → row ∈ rows := by
  obtain ⟨found, hfound, hmem⟩ := foldlM_search_ok h difficulty total none
  refine ⟨found, hfound, fun row hrow => ?_⟩
  exact (hmem row hrow).resolve_right (by simp)

/-- A row without bounds is a fault of the table, whatever the total. -/
theorem lastCovering_error {rows : List Row} (h : ¬ ∀ row ∈ rows, row.HasBounds)
    (difficulty : Option Int) (total : Int) :
    ∃ why, lastCovering difficulty total rows = .error (.table why) := by
  rw [lastCovering_eq]
  generalize (none : Option Row) = found
  induction rows generalizing found with
  | nil => exact absurd (by simp) h
  | cons first rest ih =>
    by_cases hfirst : first.HasBounds
    · obtain ⟨mid, hmid, -⟩ := search_ok hfirst difficulty total found
      have hrest : ¬ ∀ row ∈ rest, row.HasBounds := by
        intro hrest
        apply h
        intro row hrow
        rcases List.mem_cons.1 hrow with rfl | hrow
        · exact hfirst
        · exact hrest row hrow
      obtain ⟨why, hwhy⟩ := ih hrest mid
      exact ⟨why, by simp [List.foldlM_cons, hmid, hwhy]⟩
    · obtain ⟨why, hwhy⟩ := search_error hfirst difficulty total found
      exact ⟨why, by simp [List.foldlM_cons, hwhy]⟩

end Row

theorem ofValue_coins : Formula.ofValue (.text "2d6") = .ok { count := 2, sides := 6 } := rfl

/-- The total of a purse can be written. -/
theorem short_coins (source : Source) :
    Number.isTooLong (Formula.totalOn { count := 2, sides := 6 } source) = false :=
  Formula.short_totalOn (by decide) (Number.isTooLong_of_lt_hundred (by decide))
    (Number.isTooLong_of_lt_hundred (by decide)) source

namespace Description

def Renders (d : Description) : Prop := ∀ desk, ∃ text desk', d.render desk = .ok text desk'

theorem renders_literal (text : String) : (literal text).Renders := fun desk => ⟨text, desk, rfl⟩

theorem renders_wheel (label name : String) (number : Nat) :
    (generated label name (.wheel number)).Renders := fun _ => ⟨_, _, rfl⟩

theorem run_render_coins (label name : String) (desk : Desk) :
    (generated label name .coins).render desk =
      .ok (Number.decimal (Formula.totalOn { count := 2, sides := 6 } desk.source) ++ " silver coins")
        (desk.rolled (.text "2d6") "coin purse" { count := 2, sides := 6 }) := by
  have htotal : (Desk.rollOf (.text "2d6") "coin purse" { count := 2, sides := 6 } desk.source).total =
      Formula.totalOn { count := 2, sides := 6 } desk.source := rfl
  simp only [render, Generator.coins, Generator.run, Act.run_bind, Act.run_attempt,
    Desk.run_roll_ok ofValue_coins, ok_bind, htotal, Number.digits_ok (short_coins desk.source),
    pure_eq_ok, Generator.sayOr, Act.run_pure]

theorem renders_coins (label name : String) : (generated label name .coins).Renders :=
  fun desk => ⟨_, _, run_render_coins label name desk⟩

def Firm (d : Description) : Prop := ∀ desk, ¬ d.render.FailsWith (fun fault => fault.refusesTable = true) desk

theorem Renders.firm {d : Description} (h : d.Renders) : d.Firm := by
  intro desk
  obtain ⟨text, after, hrun⟩ := h desk
  exact Act.failsWith_of_ok hrun

end Description

namespace Formula

/-- The source after so many rolls of the formula. -/
def sourceAt (f : Formula) (source : Source) : Nat → Source
  | 0 => source
  | k + 1 => f.sourceAfter (f.sourceAt source k)

def totalAt (f : Formula) (source : Source) (k : Nat) : Int := f.totalOn (f.sourceAt source k)

end Formula

namespace RandomTable

/-- The formula is one and every row has bounds. -/
structure Rollable (table : RandomTable) (f : Formula) : Prop where
  formula : Formula.ofValue table.formula = .ok f
  bounds : ∀ row ∈ table.rows, row.HasBounds

variable {table : RandomTable} {f : Formula}

def Renders (table : RandomTable) : Prop := ∀ row ∈ table.rows, row.description.Renders

/-- The table can be rolled on, and no text of its rows fails in a way that would be taken for a fault of the
table. -/
structure Sound (table : RandomTable) : Prop where
  rollable : ∃ f, table.Rollable f
  firm : ∀ row ∈ table.rows, row.description.Firm

theorem Rollable.withRows (h : table.Rollable f) {rows : List Row} (hrows : rows ⊆ table.rows) :
    (table.withRows rows).Rollable f :=
  ⟨h.formula, fun row hrow => h.bounds row (hrows hrow)⟩

/-- Rolling again never fails; what comes out is a row of the table or none. -/
theorem run_reroll (h : table.Rollable f) (difficulty : Option Int) (attempts : Nat) (dice : Roll)
    (row : Option Row) (hrow : ∀ r, row = some r → r ∈ table.rows) (desk : Desk) :
    ∃ dice' row' desk', table.reroll difficulty attempts dice row desk = .ok (dice', row') desk' ∧
      ∀ r, row' = some r → r ∈ table.rows := by
  induction attempts generalizing dice row desk with
  | zero => exact ⟨dice, row, desk, rfl, hrow⟩
  | succ attempts ih =>
    cases hstop : row.isSome || table.rows.isEmpty with
    | true => exact ⟨dice, row, desk, by simp [reroll, hstop], hrow⟩
    | false =>
      let reason := "table reroll: " ++ table.name.plain
      let dice' := Desk.rollOf table.formula reason f desk.source
      obtain ⟨found, hfound, hmem⟩ := Row.lastCovering_ok h.bounds difficulty dice'.total
      obtain ⟨last, row', desk', hlast, hrow'⟩ :=
        ih dice' found hmem (desk.rolled table.formula reason f)
      refine ⟨last, row', desk', ?_, hrow'⟩
      have hrowFor : table.rowFor difficulty dice'.total = .ok found := hfound
      simp only [reroll, hstop, Bool.false_eq_true, if_false, Act.run_bind,
        Desk.run_roll_ok h.formula, Act.run_liftExcept]
      rw [hrowFor]
      exact hlast

theorem reroll_eq_of_done {difficulty : Option Int} {attempts : Nat} {dice : Roll}
    {row : Option Row} (h : attempts = 0 ∨ row.isSome = true ∨ table.rows = []) :
    table.reroll difficulty attempts dice row = pure (dice, row) := by
  cases attempts with
  | zero => rfl
  | succ attempts =>
    have hstop : (row.isSome || table.rows.isEmpty) = true := by
      rcases h with h | h | h
      · omega
      · simp [h]
      · simp [h]
    simp only [reroll, hstop, if_true]

theorem run_fallback_of_row (table : RandomTable) (rerolls : Int) (row : Row) (desk : Desk) :
    table.fallback rerolls (some row) desk = .ok (some row) desk := by
  simp [fallback]

theorem run_fallback_of_no_reroll {rerolls : Int} (h : rerolls ≤ 0 ∨ table.rows = [])
    (row : Option Row) (desk : Desk) : table.fallback rerolls row desk = .ok row desk := by
  have hcond : (row.isNone && (decide (0 < rerolls)) && !table.rows.isEmpty) = false := by
    rcases h with h | h
    · simp [Int.not_lt.2 h]
    · simp [h]
  simp only [fallback, hcond, Bool.false_eq_true, if_false, Act.run_pure]

theorem run_fallback {rerolls : Int} (hrerolls : 0 < rerolls) (hrows : table.rows ≠ [])
    (row : Option Row) (hrow : ∀ r, row = some r → r ∈ table.rows) (desk : Desk) :
    ∃ r desk', table.fallback rerolls row desk = .ok (some r) desk' ∧ r ∈ table.rows := by
  cases row with
  | some r => exact ⟨r, desk, run_fallback_of_row table rerolls r desk, hrow r rfl⟩
  | none =>
    have hcond : ((none : Option Row).isNone && (decide (0 < rerolls)) && !table.rows.isEmpty) =
        true := by
      simp [hrerolls, hrows]
    obtain ⟨desk', hchoose⟩ : ∃ desk', Desk.choose table.rows
        ("fallback row: " ++ table.name.plain) desk =
          .ok (Desk.chosen table.rows hrows desk.source) desk' :=
      ⟨_, Desk.run_choose hrows _ desk⟩
    refine ⟨_, desk', ?_, Desk.chosen_mem table.rows hrows desk.source⟩
    simp only [fallback, hcond, if_true, Act.run_map, hchoose]

theorem run_describe_none {total : Int} (h : Number.isTooLong total = false) (desk : Desk) :
    table.describe total none desk =
      .ok "" { desk with notices := desk.notices.push ⟨.warning, "Table '" ++ table.name.plain ++
        "' has no row covering roll " ++ Number.decimal total⟩ } := by
  simp only [describe, Number.digits_ok h, Act.run_bind, Act.run_liftExcept, Act.run_ofExcept_ok,
    Desk.run_warn, Act.run_pure]

theorem run_describe_error {total : Int} (h : Number.isTooLong total = true) (desk : Desk) :
    table.describe total none desk = .error .numeral desk := by
  simp only [describe, Number.digits_error h, Act.run_bind, Act.run_liftExcept,
    Act.run_ofExcept_error]

def rollReason (table : RandomTable) : Nat → String
  | 0 => "table roll: " ++ table.name.plain
  | _ + 1 => "table reroll: " ++ table.name.plain

/-- The desk after so many rolls of the table's dice. -/
def deskAt (table : RandomTable) (f : Formula) (desk : Desk) : Nat → Desk
  | 0 => desk
  | k + 1 => (table.deskAt f desk k).rolled table.formula (table.rollReason k) f

def diceAt (table : RandomTable) (f : Formula) (desk : Desk) (k : Nat) : Roll :=
  Desk.rollOf table.formula (table.rollReason k) f (f.sourceAt desk.source k)

theorem source_deskAt (table : RandomTable) (f : Formula) (desk : Desk) (k : Nat) :
    (table.deskAt f desk k).source = f.sourceAt desk.source k := by
  induction k with
  | zero => rfl
  | succ k ih => rw [deskAt, Desk.rolled_source, ih, Formula.sourceAt]

@[simp] theorem total_diceAt (table : RandomTable) (f : Formula) (desk : Desk) (k : Nat) :
    (table.diceAt f desk k).total = f.totalAt desk.source k := rfl

/-- The next roll of the dice is the next one that is recorded. -/
theorem run_rollAt (h : Formula.ofValue table.formula = .ok f) (desk : Desk) (k : Nat) :
    Desk.roll table.formula (table.rollReason k) (table.deskAt f desk k) =
      .ok (table.diceAt f desk k) (table.deskAt f desk (k + 1)) := by
  rw [Desk.run_roll_ok h, source_deskAt]
  rfl

def settle (table : RandomTable) (difficulty : Option Int) (rerolls : Int) :
    Act Desk (Roll × Option Row) := do
  let dice ← Desk.roll table.formula ("table roll: " ++ table.name.plain)
  let row ← table.rowFor difficulty dice.total
  let (dice, row) ← table.reroll difficulty rerolls.toNat dice row
  return (dice, ← table.fallback rerolls row)

/-- The result of a roll: the dice that count, the row of the table if there is one, and its text. -/
def resultOf (table : RandomTable) (difficulty : Option Int) (dice : Roll) (row : Option Row)
    (description : String) : TableResult :=
  { tableName := table.name, total := dice.total, description, row, dice, difficulty }

theorem roll_eq_settle (table : RandomTable) (difficulty : Option Int) (rerolls : Int) :
    table.roll difficulty rerolls = (do
      let (dice, row) ← table.settle difficulty rerolls
      table.resultOf difficulty dice row <$> table.describe dice.total row) := by
  simp only [roll, settle, resultOf, bind_assoc, pure_bind, map_eq_pure_bind]

theorem run_roll_of_settle {difficulty : Option Int} {rerolls : Int} {dice : Roll} {row : Option Row}
    {desk rolled : Desk} (h : table.settle difficulty rerolls desk = .ok (dice, row) rolled) :
    table.roll difficulty rerolls desk =
      (table.resultOf difficulty dice row <$> table.describe dice.total row) rolled := by
  rw [roll_eq_settle, Act.run_bind, h]

/-- On a table that can be rolled on the dice always settle; what they lead to is a row of the table, or
none where rolling again is not allowed or there are no rows. -/
theorem run_settle_of_rollable (h : table.Rollable f) (difficulty : Option Int) (rerolls : Int)
    (desk : Desk) :
    ∃ dice found desk', table.settle difficulty rerolls desk = .ok (dice, found) desk' ∧
      (∀ row, found = some row → row ∈ table.rows) ∧ (0 < rerolls → table.rows ≠ [] → found ≠ none) := by
  let reason := "table roll: " ++ table.name.plain
  let first := Desk.rollOf table.formula reason f desk.source
  obtain ⟨row, hrow, hmem⟩ := Row.lastCovering_ok h.bounds difficulty first.total
  obtain ⟨dice, again, desk₁, hreroll, hagain⟩ := run_reroll h difficulty rerolls.toNat first row hmem
    (desk.rolled table.formula reason f)
  have hrowFor : table.rowFor difficulty first.total = .ok row := hrow
  have hsettle {found : Option Row} {desk₂ : Desk}
      (hfallback : table.fallback rerolls again desk₁ = .ok found desk₂) :
      table.settle difficulty rerolls desk = .ok (dice, found) desk₂ := by
    simp only [settle, Act.run_bind, Desk.run_roll_ok h.formula, Act.run_liftExcept]
    rw [hrowFor]
    simp only [Act.run_ofExcept_ok]
    rw [hreroll]
    simp only [hfallback, Act.run_pure]
  by_cases hdone : rerolls ≤ 0 ∨ table.rows = []
  · refine ⟨dice, again, desk₁, hsettle (run_fallback_of_no_reroll hdone again desk₁), hagain, ?_⟩
    intro hrerolls hrows
    exact absurd hdone (not_or.2 ⟨Int.not_le.2 hrerolls, hrows⟩)
  · rw [not_or, Int.not_le] at hdone
    obtain ⟨last, desk₂, hfallback, hlast⟩ := run_fallback hdone.1 hdone.2 again hagain desk₁
    refine ⟨dice, some last, desk₂, hsettle hfallback, ?_, fun _ _ => Option.some_ne_none last⟩
    rintro row ⟨⟩
    exact hlast

/-- Rolls that may be repeated, on a table that can be rolled on and has rows, lead to one of them. -/
theorem run_settle (h : table.Rollable f) (hrows : table.rows ≠ []) (difficulty : Option Int)
    {rerolls : Int} (hrerolls : 0 < rerolls) (desk : Desk) :
    ∃ dice row desk', table.settle difficulty rerolls desk = .ok (dice, some row) desk' ∧
      row ∈ table.rows := by
  obtain ⟨dice, found, desk', hsettle, hmem, hfound⟩ := run_settle_of_rollable h difficulty rerolls desk
  obtain ⟨row, rfl⟩ := Option.ne_none_iff_exists'.1 (hfound hrerolls hrows)
  exact ⟨dice, row, desk', hsettle, hmem row rfl⟩

theorem mem_of_settle (h : table.Rollable f) {difficulty : Option Int} {rerolls : Int} {dice : Roll}
    {row : Row} {desk rolled : Desk}
    (hsettle : table.settle difficulty rerolls desk = .ok (dice, some row) rolled) : row ∈ table.rows := by
  obtain ⟨dice', found, desk', hsettle', hmem, -⟩ := run_settle_of_rollable h difficulty rerolls desk
  cases hsettle.symm.trans hsettle'
  exact hmem row rfl

/-- A roll that may be repeated, on a table that can be rolled on and has rows, gives one of them if the
texts of all of them can be made. -/
theorem run_roll (h : table.Rollable f) (hrenders : table.Renders) (hrows : table.rows ≠ [])
    (difficulty : Option Int) {rerolls : Int} (hrerolls : 0 < rerolls) (desk : Desk) :
    ∃ result desk' row, table.roll difficulty rerolls desk = .ok result desk' ∧
      result.row = some row ∧ row ∈ table.rows := by
  obtain ⟨dice, row, rolled, hsettle, hmem⟩ := run_settle h hrows difficulty hrerolls desk
  obtain ⟨text, after, htext⟩ := hrenders row hmem rolled
  have hdescribe : table.describe dice.total (some row) rolled = .ok text after := htext
  refine ⟨table.resultOf difficulty dice (some row) text, after, row, ?_, rfl, hmem⟩
  rw [run_roll_of_settle hsettle, Act.run_map, hdescribe]

def Untold (table : RandomTable) (difficulty : Option Int) (rerolls total : Int) : Prop :=
  table.rowFor difficulty total = .ok none ∧ (rerolls ≤ 0 ∨ table.rows = []) ∧
    Number.isTooLong total = true

def Undescribed (table : RandomTable) (kind : Fault → Prop) (difficulty : Option Int) (rerolls : Int)
    (desk : Desk) : Prop :=
  ∃ dice row rolled, table.settle difficulty rerolls desk = .ok (dice, some row) rolled ∧
    row.description.render.FailsWith kind rolled

/-- A roll that counts leads to the row of its total. -/
theorem settle_of_done (hf : Formula.ofValue table.formula = .ok f) {difficulty : Option Int}
    {rerolls : Int} (hdone : rerolls ≤ 0 ∨ table.rows = []) {desk : Desk} {row : Option Row}
    (hrow : table.rowFor difficulty (f.totalOn desk.source) = .ok row) :
    table.settle difficulty rerolls desk = .ok (table.diceAt f desk 0, row) (table.deskAt f desk 1) := by
  have hroll : Desk.roll table.formula ("table roll: " ++ table.name.plain) desk =
      .ok (table.diceAt f desk 0) (table.deskAt f desk 1) := run_rollAt hf desk 0
  have hrow' : table.rowFor difficulty (table.diceAt f desk 0).total = .ok row := hrow
  have hreroll : rerolls.toNat = 0 ∨ row.isSome = true ∨ table.rows = [] :=
    hdone.imp Int.toNat_of_nonpos Or.inr
  simp only [settle, Act.run_bind, hroll, Act.run_liftExcept, hrow',
    Act.run_ofExcept_ok, reroll_eq_of_done hreroll, Act.run_pure, run_fallback_of_no_reroll hdone]

theorem hasBounds_of_rowFor {difficulty : Option Int} {total : Int} {found : Option Row}
    (h : table.rowFor difficulty total = .ok found) : ∀ row ∈ table.rows, row.HasBounds := by
  by_cases hbounds : ∀ row ∈ table.rows, row.HasBounds
  · exact hbounds
  · obtain ⟨why, hwhy⟩ := Row.lastCovering_error hbounds difficulty total
    rw [rowFor, hwhy] at h
    cases h

theorem mem_of_rowFor {difficulty : Option Int} {total : Int} {row : Row}
    (h : table.rowFor difficulty total = .ok (some row)) : row ∈ table.rows := by
  obtain ⟨found, hfound, hmem⟩ := Row.lastCovering_ok (hasBounds_of_rowFor h) difficulty total
  rw [rowFor, hfound] at h
  exact hmem row (Except.ok.inj h)

/-- After a settled roll with a row only the text of the row can go wrong. -/
theorem failsWith_roll_of_some {difficulty : Option Int} {rerolls : Int} {kind : Fault → Prop}
    {dice : Roll} {row : Row} {desk rolled : Desk}
    (h : table.settle difficulty rerolls desk = .ok (dice, some row) rolled) :
    (table.roll difficulty rerolls).FailsWith kind desk ↔
      table.Undescribed kind difficulty rerolls desk := by
  have hdescribe : table.describe dice.total (some row) = row.description.render := rfl
  rw [Act.failsWith_congr (run_roll_of_settle h), Act.failsWith_map, hdescribe]
  constructor
  · exact fun hfails => ⟨dice, row, rolled, h, hfails⟩
  · rintro ⟨dice', row', rolled', h', hfails⟩
    cases h.symm.trans h'
    exact hfails

/-- A roll fails for a formula that is none, for a row without bounds, for a total that has no row and
cannot be told, or for a row whose text is not made. -/
theorem failsWith_roll (table : RandomTable) (difficulty : Option Int) (rerolls : Int)
    (kind : Fault → Prop) (desk : Desk) :
    (table.roll difficulty rerolls).FailsWith kind desk ↔
      (∃ fault, kind fault ∧ Formula.ofValue table.formula = .error fault) ∨
      (∃ f, Formula.ofValue table.formula = .ok f ∧
        ((∃ fault, kind fault ∧ table.rowFor difficulty (f.totalOn desk.source) = .error fault) ∨
          (kind .numeral ∧ table.Untold difficulty rerolls (f.totalOn desk.source)))) ∨
      table.Undescribed kind difficulty rerolls desk := by
  have hnever {fault : Fault} {rolled : Desk}
      (h : table.settle difficulty rerolls desk = .error fault rolled) :
      ¬ table.Undescribed kind difficulty rerolls desk := by
    rintro ⟨dice, row, rolled', h', -⟩
    cases h.symm.trans h'
  cases hf : Formula.ofValue table.formula with
  | error fault =>
    have hsettle : table.settle difficulty rerolls desk = .error fault desk := by
      simp only [settle, Act.run_bind, Desk.run_roll_error hf]
    have hrun : table.roll difficulty rerolls desk = .error fault desk := by
      rw [roll_eq_settle, Act.run_bind, hsettle]
    rw [Act.failsWith_of_error hrun]
    simp [hnever hsettle]
  | ok f =>
    simp only [reduceCtorEq, and_false, exists_false, false_or, Except.ok.injEq, exists_eq_left']
    cases hrow : table.rowFor difficulty (f.totalOn desk.source) with
    | error fault =>
      have hsettle : table.settle difficulty rerolls desk = .error fault
          (desk.rolled table.formula ("table roll: " ++ table.name.plain) f) := by
        have hrow' : table.rowFor difficulty (Desk.rollOf table.formula
            ("table roll: " ++ table.name.plain) f desk.source).total = .error fault := hrow
        simp only [settle, Act.run_bind, Desk.run_roll_ok hf, Act.run_liftExcept, hrow',
          Act.run_ofExcept_error]
      have hrun : table.roll difficulty rerolls desk = .error fault
          (desk.rolled table.formula ("table roll: " ++ table.name.plain) f) := by
        rw [roll_eq_settle, Act.run_bind, hsettle]
      rw [Act.failsWith_of_error hrun]
      simp [Untold, hrow, hnever hsettle]
    | ok row =>
      simp only [reduceCtorEq, and_false, exists_false, false_or, Untold, hrow, Except.ok.injEq]
      by_cases hdone : rerolls ≤ 0 ∨ table.rows = []
      · -- the first roll counts, and its row is described
        have hsettle := settle_of_done hf hdone hrow
        cases row with
        | some row => simp [failsWith_roll_of_some hsettle]
        | none =>
          have htotal : (table.diceAt f desk 0).total = f.totalOn desk.source := rfl
          have hnone : ¬ table.Undescribed kind difficulty rerolls desk := by
            rintro ⟨dice, row, rolled, h, -⟩
            cases hsettle.symm.trans h
          rw [Act.failsWith_congr (run_roll_of_settle hsettle), Act.failsWith_map, htotal]
          cases hlong : Number.isTooLong (f.totalOn desk.source) with
          | true => simp [Act.failsWith_of_error (run_describe_error hlong _), hdone, hnone]
          | false => simp [Act.failsWith_of_ok (run_describe_none hlong _), hnone]
      · -- rolling again finds a row
        rw [not_or, Int.not_le] at hdone
        obtain ⟨dice, found, rolled, hsettle, -⟩ := run_settle ⟨hf, hasBounds_of_rowFor hrow⟩ hdone.2
          difficulty hdone.1 desk
        simp only [failsWith_roll_of_some hsettle, Int.not_le.2 hdone.1, hdone.2, or_self, false_and,
          and_false, false_or]

def RollFails (table : RandomTable) (difficulty : Option Int) (rerolls : Int) (desk : Desk) : Prop :=
  (∀ f, Formula.ofValue table.formula ≠ .ok f) ∨ (¬ ∀ row ∈ table.rows, row.HasBounds) ∨
    (∃ f, Formula.ofValue table.formula = .ok f ∧
      table.Untold difficulty rerolls (f.totalOn desk.source)) ∨
    table.Undescribed (fun _ => True) difficulty rerolls desk

theorem fails_roll (table : RandomTable) (difficulty : Option Int) (rerolls : Int) (desk : Desk) :
    (table.roll difficulty rerolls).Fails desk ↔ table.RollFails difficulty rerolls desk := by
  rw [Act.Fails, failsWith_roll, RollFails]
  cases hf : Formula.ofValue table.formula with
  | error fault => simp
  | ok f =>
    simp only [reduceCtorEq, and_false, exists_false, false_or, Except.ok.injEq, exists_eq_left',
      true_and, ne_eq, forall_eq', or_assoc]
    refine or_congr ?_ Iff.rfl
    constructor
    · rintro ⟨fault, hfault⟩ hbounds
      obtain ⟨found, hfound, -⟩ := Row.lastCovering_ok hbounds difficulty (f.totalOn desk.source)
      rw [rowFor, hfound] at hfault
      cases hfault
    · intro hbounds
      obtain ⟨why, hwhy⟩ := Row.lastCovering_error hbounds difficulty (f.totalOn desk.source)
      exact ⟨.table why, hwhy⟩

def RollBreaks (table : RandomTable) (rerolls : Int) (desk : Desk) : Prop :=
  Formula.Unreadable table.formula ∨
    (∃ f, Formula.ofValue table.formula = .ok f ∧
      table.Untold none rerolls (f.totalOn desk.source)) ∨
    table.Undescribed (fun fault => fault.refusesTable = false) none rerolls desk

theorem rowFor_error {difficulty : Option Int} {total : Int} {fault : Fault}
    (h : table.rowFor difficulty total = .error fault) : fault.refusesTable = true := by
  by_cases hbounds : ∀ row ∈ table.rows, row.HasBounds
  · obtain ⟨found, hfound, -⟩ := Row.lastCovering_ok hbounds difficulty total
    rw [rowFor, hfound] at h
    cases h
  · obtain ⟨why, hwhy⟩ := Row.lastCovering_error hbounds difficulty total
    rw [rowFor, hwhy] at h
    cases h
    rfl

theorem unreadable_iff {v : Value} :
    Formula.Unreadable v ↔
      ∃ fault : Fault, fault.refusesTable = false ∧ Formula.ofValue v = .error fault := by
  rcases Formula.ofValue_cases v with ⟨⟨f, hf⟩ | ⟨why, hwhy⟩, hread⟩ | ⟨hfault, hread⟩
  · simp [hf, hread]
  · simp [hwhy, hread, Fault.refusesTable]
  · rcases hfault with hfault | hfault
    all_goals simp [hfault, hread, Fault.refusesTable]

theorem failsWith_roll_iff_breaks (table : RandomTable) (rerolls : Int) (desk : Desk) :
    (table.roll none rerolls).FailsWith (fun fault => fault.refusesTable = false) desk ↔
      table.RollBreaks rerolls desk := by
  rw [failsWith_roll, ← unreadable_iff, RollBreaks]
  refine or_congr Iff.rfl (or_congr (exists_congr fun f => and_congr Iff.rfl ?_) Iff.rfl)
  constructor
  · rintro (⟨fault, hkind, hfault⟩ | ⟨-, huntold⟩)
    · rw [rowFor_error hfault] at hkind
      cases hkind
    · exact huntold
  · exact fun huntold => Or.inr ⟨rfl, huntold⟩

theorem rollable_of_roll {difficulty : Option Int} {rerolls : Int} {desk desk' : Desk}
    {result : TableResult} (h : table.roll difficulty rerolls desk = .ok result desk') :
    ∃ f, table.Rollable f := by
  have hok : ¬ (table.roll difficulty rerolls).Fails desk := Act.failsWith_of_ok h
  rw [fails_roll, RollFails, not_or, not_or] at hok
  obtain ⟨hformula, hbounds, -⟩ := hok
  simp only [ne_eq, Classical.not_forall, Classical.not_not] at hformula
  obtain ⟨f, hf⟩ := hformula
  exact ⟨f, hf, Classical.not_not.1 hbounds⟩

theorem rows_of_roll {difficulty : Option Int} {rerolls : Int} {desk desk' : Desk}
    {result : TableResult} {row : Row} (h : table.roll difficulty rerolls desk = .ok result desk')
    (hrow : result.row = some row) : table.rows ≠ [] := by
  intro hrows
  obtain ⟨f, hf⟩ := rollable_of_roll h
  have hnone : table.rowFor difficulty (f.totalOn desk.source) = .ok none := by
    rw [rowFor, hrows]
    rfl
  rw [run_roll_of_settle (settle_of_done hf.formula (Or.inr hrows) hnone)] at h
  obtain ⟨text, -, rfl⟩ := Act.parts_of_map h
  cases hrow

/-- A roll that may be repeated, on a table with rows, comes back with one of them if it comes back. -/
theorem row_of_roll {difficulty : Option Int} {rerolls : Int} {desk desk' : Desk} {result : TableResult}
    (h : table.roll difficulty rerolls desk = .ok result desk') (hrerolls : 0 < rerolls)
    (hrows : table.rows ≠ []) : ∃ row, result.row = some row ∧ row ∈ table.rows := by
  obtain ⟨f, hf⟩ := rollable_of_roll h
  obtain ⟨dice, row, rolled, hsettle, hmem⟩ := run_settle hf hrows difficulty hrerolls desk
  rw [run_roll_of_settle hsettle] at h
  obtain ⟨text, -, rfl⟩ := Act.parts_of_map h
  exact ⟨row, rfl, hmem⟩

def always (name text : String) : RandomTable where
  name := .text name
  formula := .text "1d1"
  rows := [⟨.null, .null, .literal text⟩]

theorem rollable_always (name text : String) : (always name text).Rollable ⟨1, 1, 0⟩ where
  formula := rfl
  bounds := by
    intro row hrow
    obtain rfl := List.mem_singleton.1 hrow
    exact ⟨⟨none, rfl⟩, ⟨none, rfl⟩⟩

theorem sound_always (name text : String) : (always name text).Sound where
  rollable := ⟨_, rollable_always name text⟩
  firm := by
    intro row hrow
    obtain rfl := List.mem_singleton.1 hrow
    exact (Description.renders_literal text).firm

/-- A sound table is refused by no roll. -/
theorem Sound.not_refused (h : table.Sound) (rerolls : Int) (desk : Desk) :
    ¬ (table.roll none rerolls).FailsWith (fun fault => fault.refusesTable = true) desk := by
  obtain ⟨f, hf⟩ := h.rollable
  rw [failsWith_roll, hf.formula]
  rintro (⟨fault, -, hfault⟩ | ⟨f', -, ⟨fault, -, hfault⟩ | ⟨hnumeral, -⟩⟩ | ⟨dice, row, rolled, hsettle, htext⟩)
  · cases hfault
  · obtain ⟨found, hfound, -⟩ := Row.lastCovering_ok hf.bounds none (f'.totalOn desk.source)
    rw [rowFor, hfound] at hfault
    cases hfault
  · cases hnumeral
  · exact h.firm row (mem_of_settle hf hsettle) rolled htext

end RandomTable

end TaleLoom
