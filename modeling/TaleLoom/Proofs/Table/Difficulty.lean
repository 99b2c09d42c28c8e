import TaleLoom.Proofs.Integer
import TaleLoom.Proofs.Table.Attempts
import TaleLoom.Table.BuiltIn
/-!
A difficulty shifts the scale of a table. Where every bound is open or an offset, a row covers a total by
the margin between the total and the difficulty alone (`Row.covers_offset`), so that the same row is found
for a total against a difficulty and for the margin without one (`RandomTable.sameRow_margin`). The built-in
table of outcomes cuts the margins into four ranges, each of them above the one before
(`BuiltIn.covers_difficulty`).
-/

namespace TaleLoom

open Number

/-- The bound that a value stands for is open, or a text that is read as a number. -/
def Value.IsOffset (v : Value) : Prop := v = .null ∨ ∃ s n, v = .text s ∧ readInteger? s.toList = some n

/-- An offset counts from the difficulty, and from zero where there is none. -/
theorem Bound.resolveValue_offset {v : Value} (h : v.IsOffset) :
    ∃ offset : Option Int, ∀ difficulty : Option Int,
      resolveValue difficulty v = .ok (offset.map (difficulty.getD 0 + ·)) := by
  rcases h with rfl | ⟨s, n, rfl, hn⟩
  · exact ⟨none, fun _ => rfl⟩
  · refine ⟨some n, fun difficulty => ?_⟩
    have hread := readInteger?_trim hn
    simp only [resolveValue, ofValue, ok_bind, resolve, hread, Option.map_some]

namespace Row

def IsOffset (row : Row) : Prop := row.low.IsOffset ∧ row.high.IsOffset

theorem isBetween_offset (low high : Option Int) (base total : Int) :
    isBetween (low.map (base + ·)) (high.map (base + ·)) total = isBetween low high (total - base) := by
  have hlow (n : Int) : base + n ≤ total ↔ n ≤ total - base := by omega
  have hhigh (n : Int) : total ≤ base + n ↔ total - base ≤ n := by omega
  cases low <;> cases high <;> simp [isBetween, hlow, hhigh]

/-- Whether a row covers a total is a matter of the margin alone. -/
theorem covers_offset {row : Row} (h : row.IsOffset) : ∃ low high, ∀ (difficulty : Option Int) (total : Int),
    row.covers difficulty total = .ok (isBetween low high (total - difficulty.getD 0)) := by
  obtain ⟨low, hlow⟩ := Bound.resolveValue_offset h.1
  obtain ⟨high, hhigh⟩ := Bound.resolveValue_offset h.2
  refine ⟨low, high, fun difficulty total => ?_⟩
  rw [covers, hlow, hhigh, ok_bind, ok_bind, isBetween_offset, pure_eq_ok]

theorem IsOffset.hasBounds {row : Row} (h : row.IsOffset) : row.HasBounds := by
  obtain ⟨low, hlow⟩ := Bound.resolveValue_offset h.1
  obtain ⟨high, hhigh⟩ := Bound.resolveValue_offset h.2
  exact ⟨⟨_, hlow none⟩, _, hhigh none⟩

theorem covers_margin {row : Row} (h : row.IsOffset) (difficulty total : Int) :
    row.covers (some difficulty) total = row.covers none (total - difficulty) := by
  obtain ⟨low, high, hcovers⟩ := covers_offset h
  rw [hcovers, hcovers, Option.getD_some, Option.getD_none, Int.sub_zero]

end Row

namespace RandomTable

variable {table : RandomTable} {difficulty difficulty' : Option Int} {total total' : Int}

/-- The row at a place covers the total, and no row behind it does. -/
structure LandsAt (table : RandomTable) (difficulty : Option Int) (total : Int) (place : Nat) (row : Row) :
    Prop where
  stands : table.rows[place]? = some row
  covers : row.covers difficulty total = .ok true
  behind : ∀ other ∈ table.rows.drop (place + 1), other.covers difficulty total = .ok false

/-- The same row, by its place, is found for two totals, or there is none for either. -/
def SameRow (table : RandomTable) (difficulty : Option Int) (total : Int) (difficulty' : Option Int)
    (total' : Int) : Prop :=
  (∃ place row, table.LandsAt difficulty total place row ∧ table.LandsAt difficulty' total' place row ∧
    table.rowFor difficulty total = .ok (some row) ∧ table.rowFor difficulty' total' = .ok (some row)) ∨
  table.rowFor difficulty total = .ok none ∧ table.rowFor difficulty' total' = .ok none

/-- A row that is found is found at its place. -/
theorem rowFor_place (h : ∀ row ∈ table.rows, row.HasBounds) (difficulty : Option Int) (total : Int) :
    (∃ place row, table.LandsAt difficulty total place row ∧
        table.rowFor difficulty total = .ok (some row)) ∨
      table.rowFor difficulty total = .ok none := by
  rcases Row.foldlM_search_cases h difficulty total none with ⟨row, hrow, before, after, hrows, hcovers, hbehind⟩ |
    ⟨hnone, -⟩
  · refine Or.inl ⟨before.length, row, ⟨?_, hcovers, ?_⟩, hrow⟩
    · rw [hrows, List.getElem?_append_right (Nat.le_refl _), Nat.sub_self]
      rfl
    · rw [hrows, ← List.drop_drop, List.drop_left]
      exact hbehind
  · exact Or.inr hnone

theorem rowFor_congr
    (h : ∀ row ∈ table.rows, row.covers difficulty total = row.covers difficulty' total') :
    table.rowFor difficulty total = table.rowFor difficulty' total' := by
  unfold rowFor
  rw [Row.lastCovering_eq, Row.lastCovering_eq]
  generalize (none : Option Row) = found
  generalize table.rows = rows at h
  induction rows generalizing found with
  | nil => rw [List.foldlM_nil, List.foldlM_nil]
  | cons row rest ih =>
    obtain ⟨hrow, hrest⟩ := List.forall_mem_cons.1 h
    have hsearch : Row.search difficulty total found row = Row.search difficulty' total' found row := by
      rw [Row.search, Row.search, hrow]
    simp only [List.foldlM_cons, hsearch]
    exact bind_congr fun next => ih next hrest

theorem LandsAt.congr {place : Nat} {row : Row} (hlands : table.LandsAt difficulty total place row)
    (h : ∀ row ∈ table.rows, row.covers difficulty total = row.covers difficulty' total') :
    table.LandsAt difficulty' total' place row where
  stands := hlands.stands
  covers := (h row (List.mem_of_getElem? hlands.stands)).symm.trans hlands.covers
  behind other hother := (h other (List.mem_of_mem_drop hother)).symm.trans (hlands.behind other hother)

theorem sameRow_of_covers (hbounds : ∀ row ∈ table.rows, row.HasBounds)
    (h : ∀ row ∈ table.rows, row.covers difficulty total = row.covers difficulty' total') :
    table.SameRow difficulty total difficulty' total' := by
  have hsame := rowFor_congr h
  rcases rowFor_place hbounds difficulty total with ⟨place, row, hlands, hrow⟩ | hnone
  · exact Or.inl ⟨place, row, hlands, hlands.congr h, hrow, hsame ▸ hrow⟩
  · exact Or.inr ⟨hnone, hsame ▸ hnone⟩

/-- A total against a difficulty has the row of its margin. -/
theorem sameRow_margin (h : ∀ row ∈ table.rows, row.IsOffset) (difficulty total : Int) :
    table.SameRow (some difficulty) total none (total - difficulty) :=
  sameRow_of_covers (fun row hrow => (h row hrow).hasBounds) fun row hrow =>
    Row.covers_margin (h row hrow) difficulty total

end RandomTable

namespace BuiltIn

def outcomePlace (margin : Int) : Nat :=
  if margin ≤ -6 then 0 else if margin ≤ -1 then 1 else if margin ≤ 4 then 2 else 3

theorem outcomePlace_cases (margin : Int) :
    (margin ≤ -6 ∧ outcomePlace margin = 0) ∨ (-5 ≤ margin ∧ margin ≤ -1 ∧ outcomePlace margin = 1) ∨
      (0 ≤ margin ∧ margin ≤ 4 ∧ outcomePlace margin = 2) ∨ 5 ≤ margin ∧ outcomePlace margin = 3 := by
  unfold outcomePlace
  split_ifs <;> omega

theorem outcomePlace_mono {margin margin' : Int} (h : margin ≤ margin') :
    outcomePlace margin ≤ outcomePlace margin' := by
  have hcases := outcomePlace_cases margin
  have hcases' := outcomePlace_cases margin'
  omega

/-- Of the outcomes exactly one covers a total: the one at the place for the margin. -/
theorem covers_difficulty (n total : Int) {place : Nat} {row : Row}
    (h : difficulty.rows[place]? = some row) :
    row.covers (some n) total = .ok (decide (place = outcomePlace (total - n))) := by
  have hoffset (s : String) (offset : Int) (hread : readInteger? (Text.trim s.toList) = some offset) :
      Bound.resolveValue (some n) (.text s) = .ok (some (n + offset)) := by
    simp only [Bound.resolveValue, Bound.ofValue, ok_bind, Bound.resolve, hread, Option.getD_some]
  have hminusSix := hoffset "-6" (-6) (by decide)
  have hminusFive := hoffset "-5" (-5) (by decide)
  have hminusOne := hoffset "-1" (-1) (by decide)
  have hzero := hoffset "+0" 0 (by decide)
  have hfour := hoffset "+4" 4 (by decide)
  have hfive := hoffset "+5" 5 (by decide)
  have hopen : Bound.resolveValue (some n) .null = .ok none := rfl
  have hcovers {low high : Value} {least greatest : Option Int} (text : String)
      (hlow : Bound.resolveValue (some n) low = .ok least)
      (hhigh : Bound.resolveValue (some n) high = .ok greatest)
      (hiff : Row.isBetween least greatest total = true ↔ place = outcomePlace (total - n)) :
      (BuiltIn.row low high text).covers (some n) total =
        .ok (decide (place = outcomePlace (total - n))) := by
    simp only [Row.covers, BuiltIn.row, hlow, hhigh, ok_bind, pure_eq_ok]
    exact congrArg Except.ok (Bool.eq_iff_iff.2 (hiff.trans decide_eq_true_iff.symm))
  simp only [Row.isBetween, Bool.and_eq_true] at hcovers
  have hcases := outcomePlace_cases (total - n)
  rcases place with _ | _ | _ | _ | place
  · obtain rfl := Option.some.inj h
    refine hcovers _ hopen hminusSix ?_
    simp only [Option.all_none, Option.all_some, decide_eq_true_eq, true_and]
    omega
  · obtain rfl := Option.some.inj h
    refine hcovers _ hminusFive hminusOne ?_
    simp only [Option.all_some, decide_eq_true_eq]
    omega
  · obtain rfl := Option.some.inj h
    refine hcovers _ hzero hfour ?_
    simp only [Option.all_some, decide_eq_true_eq]
    omega
  · obtain rfl := Option.some.inj h
    refine hcovers _ hfive hopen ?_
    simp only [Option.all_none, Option.all_some, decide_eq_true_eq, and_true]
    omega
  · cases h

theorem hasBounds_difficulty : ∀ row ∈ difficulty.rows, row.HasBounds := by
  intro row hrow
  obtain ⟨place, hplace⟩ := List.getElem?_of_mem hrow
  exact (Row.covers_ok_iff row (some 0) 0).1 ⟨_, covers_difficulty 0 0 hplace⟩

variable {n total total' : Int} {place place' : Nat} {row row' : Row}

/-- Only the row at the place for the margin covers a total. -/
theorem place_of_covers (h : difficulty.rows[place]? = some row)
    (hcovers : row.covers (some n) total = .ok true) : place = outcomePlace (total - n) := by
  rw [covers_difficulty n total h] at hcovers
  exact of_decide_eq_true (Except.ok.inj hcovers)

theorem landsAt_difficulty (n total : Int) :
    ∃ row, difficulty.LandsAt (some n) total (outcomePlace (total - n)) row ∧
      difficulty.rowFor (some n) total = .ok (some row) := by
  rcases RandomTable.rowFor_place hasBounds_difficulty (some n) total with ⟨place, row, hlands, hrow⟩ | hnone
  · obtain rfl := place_of_covers hlands.stands hlands.covers
    exact ⟨row, hlands, hrow⟩
  · -- there is a row at the place for the margin, and it covers the total
    have hlength : outcomePlace (total - n) < difficulty.rows.length := by
      have hcases := outcomePlace_cases (total - n)
      have hfour : difficulty.rows.length = 4 := rfl
      omega
    have hstands := List.getElem?_eq_getElem hlength
    have hcovers := covers_difficulty n total hstands
    rw [decide_eq_true rfl] at hcovers
    have huncovered := (Row.lastCovering_none_iff hasBounds_difficulty).1 hnone
    exact absurd ⟨_, List.getElem_mem hlength, hcovers⟩ huncovered

/-- Against every difficulty each total has exactly one row. -/
theorem covered_once (n total : Int) :
    ∃ place row, difficulty.LandsAt (some n) total place row ∧
      difficulty.rowFor (some n) total = .ok (some row) ∧
      ∀ other row', difficulty.rows[other]? = some row' → row'.covers (some n) total = .ok true →
        other = place := by
  obtain ⟨row, hlands, hrow⟩ := landsAt_difficulty n total
  exact ⟨_, row, hlands, hrow, fun _ _ => place_of_covers⟩

/-- A larger total never has an earlier row. -/
theorem landsAt_mono (h : difficulty.LandsAt (some n) total place row)
    (h' : difficulty.LandsAt (some n) total' place' row') (hle : total ≤ total') : place ≤ place' := by
  obtain rfl := place_of_covers h.stands h.covers
  obtain rfl := place_of_covers h'.stands h'.covers
  exact outcomePlace_mono (by omega)

theorem rollable_difficulty : difficulty.Rollable ⟨1, 20, 0⟩ :=
  ⟨by cbv, hasBounds_difficulty⟩

theorem gaps_difficulty (n : Int) : difficulty.gaps (some n) = .ok [] := by
  apply RandomTable.gaps_of_rowFor rollable_difficulty.formula
  intro total _ _
  obtain ⟨row, -, hrow⟩ := landsAt_difficulty n total
  exact ⟨row, hrow⟩

end BuiltIn

end TaleLoom
