import TaleLoom.Proofs.Table.Roll
import TaleLoom.Proofs.Value.Same
/-!
Which values are read as tables. `RandomTable.Described` says what a definition has to have, down to the
bounds of its rows; everything else is refused with a fault of the table (`RandomTable.ofValue_error`).
What was read once holds for good: the bounds of the rows stand for totals under every difficulty
(`RandomTable.hasBounds_of_ofValue`), and the table is read again from what is written of it
(`RandomTable.ofValue_toValue`).
-/

namespace TaleLoom

open Number

namespace Value

/-- A field of an object has no number that is too long, where the object has none. -/
theorem hasLongNumber_fieldOr {fields : List (String × Value)} (h : (object fields).hasLongNumber = false)
    (name : String) {default : Value} (hdefault : default.hasLongNumber = false) :
    (fieldOr fields name default).hasLongNumber = false := by
  rw [hasLongNumber] at h
  induction fields with
  | nil => exact hdefault
  | cons field rest ih =>
    obtain ⟨key, v⟩ := field
    rw [hasLongField, Bool.or_eq_false_iff] at h
    rw [fieldOr, Keyed.get?]
    split
    · exact h.1
    · exact ih h.2

theorem hasLongNumber_of_mem {items : List Value} (h : (list items).hasLongNumber = false) {v : Value}
    (hv : v ∈ items) : v.hasLongNumber = false := by
  rw [hasLongNumber] at h
  induction items with
  | nil => cases hv
  | cons first rest ih =>
    rw [hasLongItem, Bool.or_eq_false_iff] at h
    rcases List.mem_cons.1 hv with rfl | hv
    · exact h.1
    · exact ih h.2 hv

@[simp] theorem truthy_bool (b : Bool) : (bool b).truthy = b := rfl

theorem truthy_text_iff (s : String) : (text s).truthy = true ↔ s ≠ "" := by simp [truthy]

theorem writable_of_short {v : Value} (h : v.hasLongNumber = false) : v.writable = .ok v.plain := by
  rw [writable, h]
  rfl

theorem refusal_of_short {v : Value} (h : v.hasLongNumber = false) (fault : Fault) :
    v.refusal fault = fault := by
  rw [refusal, h]
  rfl

end Value

namespace Number.Binary64

end Number.Binary64

namespace Bound

def Stands : Value → Prop
  | .null => True
  | .int _ => True
  | .real x => ∃ n : Int, x.amount? = some (.finite n)
  | .text s => ∃ n, readInteger? (Text.trim s.toList) = some n
  | _ => False

@[simp] theorem ofValue_toValue (bound : Bound) : ofValue bound.toValue = .ok bound := by
  cases bound <;> rfl

theorem resolveValue_toValue (difficulty : Option Int) (bound : Bound) :
    resolveValue difficulty bound.toValue = bound.resolve difficulty := by
  rw [resolveValue, ofValue_toValue, ok_bind]

end Bound

namespace Row

variable {v : Value} {row : Row} {fault : Fault}

/-- A value that describes a row: an object whose bounds, where it has any, may be written as bounds. -/
def Described (v : Value) : Prop :=
  ∃ fields, v = .object fields ∧ Bound.Stands (Value.fieldOr fields "min" .null) ∧
    Bound.Stands (Value.fieldOr fields "max" .null)

theorem readBound_ok_iff {bound : Bound} : readBound v = .ok bound ↔ Bound.ofValue v = .ok bound := by
  rw [readBound]
  cases Bound.ofValue v with
  | error fault => simp [Except.mapError]
  | ok b => simp [Except.mapError]

theorem readBound_error (hshort : v.hasLongNumber = false) (h : readBound v = .error fault) :
    ∃ why, fault = .table why := by
  rw [readBound] at h
  cases hv : Bound.ofValue v with
  | ok bound =>
    rw [hv] at h
    cases h
  | error own =>
    rw [hv] at h
    obtain rfl := Except.error.inj h
    exact ⟨_, (Value.refusal_of_short hshort own).trans (Bound.ofValue_error hv)⟩

theorem readText_of_short (hshort : v.hasLongNumber = false) : ∃ text, readText v = .ok text := by
  rw [readText]
  split
  · exact ⟨v.plain, Value.writable_of_short hshort⟩
  · exact ⟨"", rfl⟩

/-- A text is read as itself. -/
@[simp] theorem readText_text (s : String) : readText (.text s) = .ok s := by
  by_cases h : s = ""
  · simp [readText, Value.truthy, h]
  · simp [readText, Value.truthy, h, Value.writable, Value.hasLongNumber, Value.plain]

/-- How a row was read from an object: the bounds of the object stand for totals, and its description is
taken as a text. -/
structure ReadFrom (row : Row) (fields : List (String × Value)) (low high : Bound) (text : String) :
    Prop where
  low_eq : Bound.ofValue (Value.fieldOr fields "min" .null) = .ok low
  high_eq : Bound.ofValue (Value.fieldOr fields "max" .null) = .ok high
  low_total : ∃ n, low.resolve none = .ok n
  high_total : ∃ n, high.resolve none = .ok n
  text_eq : readText (Value.fieldOr fields "description" .null) = .ok text
  row_eq : row = { low := low.toValue, high := high.toValue, description := .literal text }

/-- Everything that the reading of a row checks and keeps. -/
theorem ofValue_ok_iff : ofValue v = .ok row ↔
    ∃ fields low high text, v = .object fields ∧ row.ReadFrom fields low high text := by
  constructor
  · intro h
    cases v with
    | object fields =>
      obtain ⟨low, hlow, h⟩ := parts_of_bind_eq_ok h
      obtain ⟨high, hhigh, h⟩ := parts_of_bind_eq_ok h
      obtain ⟨least, hleast, h⟩ := parts_of_bind_eq_ok h
      obtain ⟨greatest, hgreatest, h⟩ := parts_of_bind_eq_ok h
      obtain ⟨text, htext, h⟩ := parts_of_bind_eq_ok h
      exact ⟨fields, low, high, text, rfl, readBound_ok_iff.1 hlow, readBound_ok_iff.1 hhigh,
        ⟨least, hleast⟩, ⟨greatest, hgreatest⟩, htext, (Except.ok.inj h).symm⟩
    | _ => cases h
  · rintro ⟨fields, low, high, text, rfl, h⟩
    obtain ⟨least, hleast⟩ := h.low_total
    obtain ⟨greatest, hgreatest⟩ := h.high_total
    rw [ofValue, readBound_ok_iff.2 h.low_eq, ok_bind, readBound_ok_iff.2 h.high_eq, ok_bind, hleast,
      ok_bind, hgreatest, ok_bind, h.text_eq, ok_bind, h.row_eq]
    rfl

/-- What is no row is refused with a fault of the table. -/
theorem ofValue_error (hshort : v.hasLongNumber = false) (h : ofValue v = .error fault) :
    ∃ why, fault = .table why := by
  cases v with
  | object fields =>
    have hfield (name : String) : (Value.fieldOr fields name .null).hasLongNumber = false :=
      Value.hasLongNumber_fieldOr hshort name rfl
    rcases parts_of_bind_eq_error h with h | ⟨low, -, h⟩
    · exact readBound_error (hfield "min") h
    rcases parts_of_bind_eq_error h with h | ⟨high, -, h⟩
    · exact readBound_error (hfield "max") h
    rcases parts_of_bind_eq_error h with h | ⟨-, -, h⟩
    · exact Bound.resolve_error h
    rcases parts_of_bind_eq_error h with h | ⟨-, -, h⟩
    · exact Bound.resolve_error h
    rcases parts_of_bind_eq_error h with h | ⟨text, -, h⟩
    · obtain ⟨text, htext⟩ := readText_of_short (hfield "description")
      cases htext.symm.trans h
    · cases h
  | _ =>
    obtain rfl := Except.error.inj h
    exact ⟨_, Value.refusal_of_short hshort _⟩

/-- The bounds of a row that was read stand for totals. -/
theorem hasBounds_of_ofValue (h : ofValue v = .ok row) : row.HasBounds := by
  obtain ⟨fields, low, high, text, rfl, hread⟩ := ofValue_ok_iff.1 h
  obtain rfl := hread.row_eq
  constructor
  · rw [Bound.resolveValue_toValue]
    exact hread.low_total
  · rw [Bound.resolveValue_toValue]
    exact hread.high_total

/-- A row that was read has a fixed text. -/
theorem renders_of_ofValue (h : ofValue v = .ok row) : row.description.Renders := by
  obtain ⟨fields, low, high, text, rfl, hread⟩ := ofValue_ok_iff.1 h
  obtain rfl := hread.row_eq
  exact Description.renders_literal text

/-- A row that was read is read again from what is written of it. -/
theorem ofValue_toValue (h : ofValue v = .ok row) : ofValue row.toValue = .ok row := by
  obtain ⟨fields, low, high, text, rfl, hread⟩ := ofValue_ok_iff.1 h
  obtain rfl := hread.row_eq
  apply ofValue_ok_iff.2
  exact ⟨_, low, high, text, rfl, Bound.ofValue_toValue low, Bound.ofValue_toValue high,
    hread.low_total, hread.high_total, readText_text text, rfl⟩

end Row

namespace RandomTable

variable {outer : Option String} {v : Value} {table : RandomTable} {fault : Fault}

/-- A value that describes a table: an object with a name, or a name from outside, a dice formula and a
list of rows. -/
def Described (outer : Option String) (v : Value) : Prop :=
  ∃ fields, v = .object fields ∧
    ((Value.fieldOr fields "name" .null).truthy = true ∨ ∃ name, outer = some name ∧ name ≠ "") ∧
    (fieldNamed fields "diceFormula" "dice_formula").truthy = true ∧
    ∃ rows, fieldNamed fields "table" "rows" = .list rows ∧ ∀ row ∈ rows, Row.Described row

theorem hasLongNumber_nameFrom {fields : List (String × Value)}
    (h : (Value.object fields).hasLongNumber = false) : (nameFrom outer fields).hasLongNumber = false := by
  rw [nameFrom]
  split
  · exact Value.hasLongNumber_fieldOr h "name" rfl
  · cases outer <;> rfl

/-- How a table was read from an object. -/
structure ReadFrom (table : RandomTable) (outer : Option String) (fields : List (String × Value))
    (entries : List Value) (rows : List Row) : Prop where
  named : (nameFrom outer fields).truthy = true
  formula : (fieldNamed fields "diceFormula" "dice_formula").truthy = true
  entries_eq : fieldNamed fields "table" "rows" = .list entries
  rows_eq : entries.mapM Row.ofValue = .ok rows
  table_eq : table = {
    name := nameFrom outer fields
    formula := fieldNamed fields "diceFormula" "dice_formula"
    rows
    description := Value.fieldOr fields "description" (.text "")
    consumable := (Value.fieldOr fields "consumable" (.bool false)).truthy }

theorem ofValue_ok_iff : ofValue outer v = .ok table ↔
    ∃ fields entries rows, v = .object fields ∧ table.ReadFrom outer fields entries rows := by
  constructor
  · intro h
    cases v with
    | object fields =>
      rw [ofValue] at h
      split at h
      · cases h
      next hnamed =>
      split at h
      · cases h
      next hformula =>
      split at h
      · next entries hentries =>
        obtain ⟨rows, hrows, h⟩ := parts_of_bind_eq_ok h
        exact ⟨fields, entries, rows, rfl, by simpa using hnamed, by simpa using hformula, hentries,
          hrows, (Except.ok.inj h).symm⟩
      · cases h
    | _ => cases h
  · rintro ⟨fields, entries, rows, rfl, h⟩
    rw [ofValue, h.named, h.formula, h.entries_eq, h.table_eq]
    simp only [Bool.not_true, Bool.false_eq_true, if_false, h.rows_eq, ok_bind, pure_eq_ok]

/-- The rows of a definition have no number that is too long, where the definition has none. -/
theorem hasLongNumber_entry {fields : List (String × Value)} {entries : List Value}
    (hshort : (Value.object fields).hasLongNumber = false)
    (hentries : fieldNamed fields "table" "rows" = .list entries) {entry : Value}
    (hentry : entry ∈ entries) : entry.hasLongNumber = false := by
  have hrows : (Value.fieldOr fields "rows" .null).hasLongNumber = false :=
    Value.hasLongNumber_fieldOr hshort "rows" rfl
  have hlist := Value.hasLongNumber_fieldOr hshort "table" hrows
  rw [fieldNamed] at hentries
  rw [hentries] at hlist
  exact Value.hasLongNumber_of_mem hlist hentry

/-- What is no table is refused with a fault of the table. -/
theorem ofValue_error (hshort : v.hasLongNumber = false) (h : ofValue outer v = .error fault) :
    ∃ why, fault = .table why := by
  cases v with
  | object fields =>
    have hname : (nameFrom outer fields).hasLongNumber = false := hasLongNumber_nameFrom hshort
    rw [ofValue] at h
    split at h
    · exact ⟨_, (Except.error.inj h).symm⟩
    split at h
    · rw [Value.refusal_of_short hname] at h
      exact ⟨_, (Except.error.inj h).symm⟩
    split at h
    · next entries hentries =>
      rcases parts_of_bind_eq_error h with h | ⟨rows, -, h⟩
      · obtain ⟨entry, hentry, hfault⟩ := exists_of_mapM_error h
        exact Row.ofValue_error (hasLongNumber_entry hshort hentries hentry) hfault
      · cases h
    · rw [Value.refusal_of_short hname] at h
      exact ⟨_, (Except.error.inj h).symm⟩
  | _ =>
    obtain rfl := Except.error.inj h
    exact ⟨_, Value.refusal_of_short hshort _⟩

/-- The bounds of all rows of a table that was read stand for totals. -/
theorem hasBounds_of_ofValue (h : ofValue outer v = .ok table) : ∀ row ∈ table.rows, row.HasBounds := by
  obtain ⟨fields, entries, rows, rfl, hread⟩ := ofValue_ok_iff.1 h
  obtain rfl := hread.table_eq
  intro row hrow
  obtain ⟨entry, -, hentry⟩ := exists_of_mem_mapM hread.rows_eq hrow
  exact Row.hasBounds_of_ofValue hentry

theorem renders_of_ofValue (h : ofValue outer v = .ok table) : table.Renders := by
  obtain ⟨fields, entries, rows, rfl, hread⟩ := ofValue_ok_iff.1 h
  obtain rfl := hread.table_eq
  intro row hrow
  obtain ⟨entry, -, hentry⟩ := exists_of_mem_mapM hread.rows_eq hrow
  exact Row.renders_of_ofValue hentry

/-- A table that has a name and a formula is read from what is written of it, where its rows are. -/
theorem ofValue_toValue_of (hname : table.name.truthy = true) (hformula : table.formula.truthy = true)
    (hrows : ∀ row ∈ table.rows, Row.ofValue row.toValue = .ok row) :
    ofValue outer table.toValue = .ok table := by
  obtain ⟨name, formula, rows, description, consumable⟩ := table
  have hread := mapM_map_eq_ok hrows
  simp only at hname hformula hread
  cases consumable <;>
    simp [toValue, ofValue, nameFrom, fieldNamed, Value.fieldOr, Keyed.get?, hname, hformula, hread]

/-- A table that was read is read again from what is written of it, whatever name comes from outside. -/
theorem ofValue_toValue (h : ofValue outer v = .ok table) (other : Option String) :
    ofValue other table.toValue = .ok table := by
  obtain ⟨fields, entries, rows, rfl, hread⟩ := ofValue_ok_iff.1 h
  obtain rfl := hread.table_eq
  apply ofValue_toValue_of hread.named hread.formula
  intro row hrow
  obtain ⟨entry, -, hentry⟩ := exists_of_mem_mapM hread.rows_eq hrow
  exact Row.ofValue_toValue hentry

def tides : Value :=
  .object [("dice_formula", .text "1d6"), ("rows", .list [
    .object [("max", .real (.finite false (2 ^ 52) (-52))), ("description", .text "Ebb")],
    .object [("min", .text " +2 "), ("max", .null), ("description", .null)]])]

end RandomTable

end TaleLoom
