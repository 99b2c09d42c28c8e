import Mathlib.Data.List.TakeWhile
import TaleLoom.Proofs.Table.Coverage
import TaleLoom.Proofs.Value.Whole
/-!
A table of entries has a row for every face of its die. The number of entries is written into the
formula and read back from it (`Formula.ofValue_die`), and the rows count the entries from one
(`RandomTable.covers_entryRows`), so no total is missed (`RandomTable.gaps_ofEntries`).
-/

namespace TaleLoom

open Number Text

namespace Formula

variable {digits : List Char}

/-- A die and a row of digits are cut where the digits start. -/
theorem parts_die (hne : digits ≠ []) (hdigits : ∀ c ∈ digits, Value.isAsciiDigit c = true) :
    parts? ('1' :: 'd' :: digits) = some ⟨['1'], digits, none⟩ := by
  have hdecimal : ∀ c ∈ digits, isDecimal c = true := by
    intro c hc
    rw [isDecimal, Timestamp.digitValue?_of_isAsciiDigit (hdigits c hc)]
    rfl
  have htrim : trimStart digits = digits := by
    obtain ⟨c, cs, rfl⟩ := List.exists_cons_of_ne_nil hne
    have hc := hdigits c List.mem_cons_self
    simp only [Value.isAsciiDigit, Bool.and_eq_true, decide_eq_true_eq, Char.le_def,
      UInt32.le_iff_toNat_le] at hc
    have hlow : 48 ≤ c.toNat := hc.1
    have hhigh : c.toNat ≤ 57 := hc.2
    have hblank : isBlank c = false := by
      simp [isBlank]
      omega
    rw [trimStart, List.dropWhile_cons_of_neg (by simp [hblank])]
  have htake : digits.takeWhile isDecimal = digits := List.takeWhile_eq_self_iff.2 hdecimal
  have hdrop : digits.dropWhile isDecimal = [] := List.dropWhile_eq_nil_iff.2 hdecimal
  have hsides : sidesPart? ['1'] ('d' :: digits) = some ⟨['1'], digits, none⟩ := by
    simp only [sidesPart?, htrim, htake, hdrop, List.isEmpty_eq_false_iff.2 hne]
    rfl
  exact hsides

/-- One die with so many sides is read from the number that is written for them. -/
theorem ofValue_die {sides : Nat} (hsome : 1 ≤ sides) (hmost : sides ≤ maxSides) :
    ofValue (.text ("1d" ++ Nat.repr sides)) = .ok { count := 1, sides } := by
  have htext : ("1d" ++ Nat.repr sides).toList = '1' :: 'd' :: Nat.toDigits 10 sides := by
    rw [String.toList_append, Nat.toList_repr]
    rfl
  have hdigits : ∀ c ∈ Nat.toDigits 10 sides, Value.isAsciiDigit c = true :=
    fun c hc => Value.isAsciiDigit_of_mem_toDigits hc
  have hparts := parts_die Nat.toDigits_ne_nil hdigits
  have hlength : (Nat.toDigits 10 sides).length ≤ 7 := by
    apply Value.length_toDigits_le (by decide)
    calc sides ≤ maxSides := hmost
      _ < tenTo 7 := by decide
  have hnumber : number (Nat.toDigits 10 sides) = .ok sides := by
    have hshort : (Nat.toDigits 10 sides).length ≤ digitLimit := Nat.le_trans hlength (by decide)
    rw [number, readDigits?_of_le hshort, Value.digitsValue_toDigits]
  have hchecked : checked (.text ("1d" ++ Nat.repr sides)) { count := 1, sides } =
      .ok { count := 1, sides } := by
    have hlow : ¬ sides < 1 := by omega
    have hhigh : ¬ maxSides < sides := by omega
    have hone : ¬ maxCount < 1 := by decide
    simp [checked, hlow, hhigh, hone]
  have hcount : countOf ⟨['1'], Nat.toDigits 10 sides, none⟩ = .ok 1 := rfl
  simp only [ofValue, ofText, htext, hparts, ofParts, hcount, ok_bind, hnumber, modifierOf, pure_eq_ok]
  exact hchecked

end Formula

namespace RandomTable

variable {entries : List String}

theorem hasBounds_entryRows (first : Nat) : ∀ row ∈ entryRows first entries, row.HasBounds := by
  induction entries generalizing first with
  | nil => exact List.forall_mem_nil _
  | cons entry rest ih => exact List.forall_mem_cons.2 ⟨⟨⟨_, rfl⟩, ⟨_, rfl⟩⟩, ih (first + 1)⟩

/-- Each total from the first on has the row of its entry. -/
theorem covers_entryRows (difficulty : Option Int) {first : Nat} {total : Int} (hfirst : first ≤ total)
    (hlast : total < first + entries.length) :
    ∃ row ∈ entryRows first entries, row.covers difficulty total = .ok true := by
  induction entries generalizing first with
  | nil =>
    rw [List.length_nil] at hlast
    omega
  | cons entry rest ih =>
    by_cases hhere : total = first
    · subst hhere
      refine ⟨_, List.mem_cons_self, ?_⟩
      have hbetween : Row.isBetween (some (first : Int)) (some (first : Int)) first = true := by
        simp [Row.isBetween]
      exact congrArg Except.ok hbetween
    · rw [List.length_cons] at hlast
      obtain ⟨row, hrow, hcovers⟩ := @ih (first + 1) (by omega) (by omega)
      exact ⟨row, List.mem_cons_of_mem _ hrow, hcovers⟩

theorem rollable_ofEntries (name : Value) (hsome : entries ≠ []) (hmost : entries.length ≤ Formula.maxSides)
    (description : Value) (consumable : Bool) :
    (ofEntries name entries description consumable).Rollable { count := 1, sides := entries.length } where
  formula := by
    have hlength : 1 ≤ entries.length := List.length_pos_iff.2 hsome
    have hsides : max entries.length 1 = entries.length := by omega
    rw [ofEntries, hsides]
    exact Formula.ofValue_die hlength hmost
  bounds := hasBounds_entryRows 1

/-- A table of entries has no gaps, up to the most sides that a die has. -/
theorem gaps_ofEntries (name : Value) (hsome : entries ≠ []) (hmost : entries.length ≤ Formula.maxSides)
    (description : Value) (consumable : Bool) (difficulty : Option Int) :
    (ofEntries name entries description consumable).gaps difficulty = .ok [] := by
  have h := rollable_ofEntries name hsome hmost description consumable
  apply gaps_of_rowFor h.formula
  intro total hlow hhigh
  have hfirst : 1 ≤ total := by simpa [Formula.least] using hlow
  have hlast : total ≤ entries.length := by simpa [Formula.greatest] using hhigh
  rcases rowFor_cases h difficulty total with hnone | hsome
  · exact absurd (covers_entryRows difficulty (by omega) (by omega))
      ((Row.lastCovering_none_iff h.bounds).1 hnone)
  · exact hsome

end RandomTable

end TaleLoom
