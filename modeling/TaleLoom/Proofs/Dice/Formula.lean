import TaleLoom.Dice.Formula
import TaleLoom.Proofs.Fault
import TaleLoom.Proofs.Number
/-!
How reading a formula can fail. A text that has not the form of a formula, or whose numbers are out of
bounds, is refused as a formula; only a row of too many digits, or a value that is no text, is a fault
of another kind.
-/

namespace TaleLoom.Formula

open Number

def Parts.HasLongNumber (parts : Parts) : Prop :=
  digitLimit < parts.count.length ∨ digitLimit < parts.sides.length ∨
    ∃ negative digits, parts.modifier = some (negative, digits) ∧ digitLimit < digits.length

theorem number_error {digits : List Char} (h : digitLimit < digits.length) :
    number digits = .error .numeral := by
  rw [number, readDigits?_eq_none_iff.2 h]

theorem number_ok {digits : List Char} (h : ¬ digitLimit < digits.length) :
    number digits = .ok (Text.digitsValue digits) := by
  rw [number, readDigits?_of_le (Nat.le_of_not_lt h)]

theorem countOf_error {parts : Parts} (h : digitLimit < parts.count.length) :
    countOf parts = .error .numeral := by
  have hne : parts.count.isEmpty = false := by
    cases hcount : parts.count with
    | nil => simp [hcount] at h
    | cons c rest => rfl
  simp only [countOf, hne, Bool.false_eq_true, if_false, number_error h]

theorem countOf_ok {parts : Parts} (h : ¬ digitLimit < parts.count.length) :
    ∃ n, countOf parts = .ok n := by
  unfold countOf
  split
  · exact ⟨1, rfl⟩
  · exact ⟨_, number_ok h⟩

/-- The parts stand for numbers unless one of them is too long. -/
theorem ofParts_cases (parts : Parts) :
    (parts.HasLongNumber ∧ ofParts parts = .error .numeral) ∨
      (¬ parts.HasLongNumber ∧ ∃ f, ofParts parts = .ok f) := by
  unfold ofParts
  by_cases hcount : digitLimit < parts.count.length
  · exact Or.inl ⟨Or.inl hcount, by rw [countOf_error hcount]; rfl⟩
  · obtain ⟨count, hcountOk⟩ := countOf_ok hcount
    rw [hcountOk]
    by_cases hsides : digitLimit < parts.sides.length
    · exact Or.inl ⟨Or.inr (Or.inl hsides), by rw [number_error hsides]; rfl⟩
    · rw [number_ok hsides]
      cases hmodifier : parts.modifier with
      | none =>
        refine Or.inr ⟨by simp [Parts.HasLongNumber, hcount, hsides, hmodifier], ?_⟩
        exact ⟨{ count, sides := _, modifier := 0 }, by rw [modifierOf, hmodifier]; rfl⟩
      | some signed =>
        obtain ⟨negative, digits⟩ := signed
        by_cases hdigits : digitLimit < digits.length
        · refine Or.inl ⟨Or.inr (Or.inr ⟨negative, digits, hmodifier, hdigits⟩), ?_⟩
          rw [modifierOf, hmodifier]
          simp only [number_error hdigits]
          rfl
        · refine Or.inr ⟨?_, ?_⟩
          · rintro (h | h | ⟨n, ds, heq, h⟩)
            · exact hcount h
            · exact hsides h
            · rw [hmodifier] at heq
              obtain ⟨-, rfl⟩ := Prod.mk.inj (Option.some.inj heq)
              exact hdigits h
          · rw [modifierOf, hmodifier]
            simp only [number_ok hdigits]
            exact ⟨_, rfl⟩

/-- A value that cannot be read as a formula at all: a row of too many digits in a text, or something
that is neither a text nor counts as false. -/
def Unreadable : Value → Prop
  | .text s => ∃ parts, parts? s.toList = some parts ∧ parts.HasLongNumber
  | v => v.truthy = true

theorem checked_cases (written : Value) (f : Formula) :
    checked written f = .ok f ∨ ∃ why, checked written f = .error (.dice written why) := by
  unfold checked
  split
  · exact Or.inr ⟨_, rfl⟩
  · split
    · exact Or.inr ⟨_, rfl⟩
    · exact Or.inl rfl

theorem ofText_cases (written : Value) (s : String) :
    ((∃ f, ofText written s = .ok f) ∨ ∃ why, ofText written s = .error (.dice written why)) ∧
        ¬ Unreadable (.text s) ∨
      ofText written s = .error .numeral ∧ Unreadable (.text s) := by
  simp only [ofText, Unreadable]
  cases hparts : parts? s.toList with
  | none => exact Or.inl ⟨Or.inr ⟨_, rfl⟩, by simp⟩
  | some parts =>
    simp only [Option.some.injEq, exists_eq_left']
    rcases ofParts_cases parts with ⟨hlong, herror⟩ | ⟨hshort, f, hf⟩
    · exact Or.inr ⟨by rw [herror]; rfl, hlong⟩
    · refine Or.inl ⟨?_, hshort⟩
      rw [hf]
      rcases checked_cases written f with hok | ⟨why, hwhy⟩
      · exact Or.inl ⟨f, hok⟩
      · exact Or.inr ⟨why, hwhy⟩

/-- A value is a formula, or is refused as one, or cannot be read as one at all. -/
theorem ofValue_cases (v : Value) :
    ((∃ f, ofValue v = .ok f) ∨ ∃ why, ofValue v = .error (.dice v why)) ∧ ¬ Unreadable v ∨
      (ofValue v = .error .numeral ∨ ofValue v = .error .wrongKind) ∧ Unreadable v := by
  by_cases htext : ∃ s, v = .text s
  · obtain ⟨s, rfl⟩ := htext
    rcases ofText_cases (.text s) s with h | ⟨h, hlong⟩
    · exact Or.inl h
    · exact Or.inr ⟨Or.inl h, hlong⟩
  · have hread : Unreadable v ↔ v.truthy = true := by
      cases v <;> first | exact Iff.rfl | exact absurd ⟨_, rfl⟩ htext
    have hvalue : ofValue v = if v.truthy then .error .wrongKind else ofText v "" := by
      cases v <;> first | rfl | exact absurd ⟨_, rfl⟩ htext
    rw [hread, hvalue]
    cases htruthy : v.truthy with
    | true => exact Or.inr ⟨Or.inr rfl, rfl⟩
    | false => exact Or.inl ⟨Or.inr ⟨.malformed, rfl⟩, by simp⟩

end TaleLoom.Formula
