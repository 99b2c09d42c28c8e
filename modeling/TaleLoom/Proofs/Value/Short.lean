import TaleLoom.Proofs.Keyed
import TaleLoom.Proofs.Number
import TaleLoom.Value.Reader
/-!
A document that was read has no number of too many digits: where one stands, the reading ends
(`Value.short_of_read`). So no value of a file is too long to be told in a message.
-/

namespace TaleLoom.Value

open Number

section Parts

theorem hasLongItem_eq_false_iff {vs : List Value} :
    hasLongItem vs = false ↔ ∀ v ∈ vs, v.hasLongNumber = false := by
  induction vs with
  | nil => simp [hasLongItem]
  | cons v rest ih => simp [hasLongItem, ih]

theorem hasLongField_eq_false_iff {fields : List (String × Value)} :
    hasLongField fields = false ↔ ∀ field ∈ fields, field.2.hasLongNumber = false := by
  induction fields with
  | nil => simp [hasLongField]
  | cons field rest ih =>
    obtain ⟨key, v⟩ := field
    simp [hasLongField, ih]

theorem hasLongField_set {key : String} {v : Value} {fields : List (String × Value)}
    (hv : v.hasLongNumber = false) (hfields : hasLongField fields = false) :
    hasLongField (Keyed.set key v fields) = false := by
  rw [hasLongField_eq_false_iff] at hfields ⊢
  intro field hfield
  rcases Keyed.mem_set hfield with rfl | hmem
  · exact hv
  · exact hfields field hmem

end Parts

section Reading

/-- A whole number is read only where its digits are few enough. -/
theorem short_of_readNumber {negative : Bool} {cs rest : List Char} {v : Value}
    (h : readNumber negative cs = .ok (v, rest)) : v.hasLongNumber = false := by
  have hwhole {whole : List Char} {n : Nat} (hread : readDigits? whole = some n) :
      (int (if negative then -(n : Int) else n)).hasLongNumber = false := by
    have hlength : whole.length ≤ digitLimit := by
      apply Nat.le_of_not_lt
      intro hlong
      rw [readDigits?_eq_none_iff.2 hlong] at hread
      cases hread
    have hlt := digitsValue_lt whole
    rw [readDigits?_of_le hlength] at hread
    obtain rfl := Option.some.inj hread
    apply isTooLong_eq_false (k := whole.length) _ hlength
    split <;> omega
  unfold readNumber at h
  dsimp only at h
  split at h
  all_goals
    split at h
    · cases h
    · split at h
      · split at h
        · cases h
        · next hread =>
          cases h
          exact hwhole hread
      · cases h
        rfl

/-- With an allowance, no reader gives a long number, unless it was handed one. -/
structure ReadsShort (allowance : Nat) : Prop where
  value {room : Nat} {cs rest : List Char} {v : Value} :
    readValue allowance room cs = .ok (v, rest) → v.hasLongNumber = false
  items {room : Nat} {seen : List Value} {cs rest : List Char} {v : Value} : hasLongItem seen = false →
    readItems allowance room seen cs = .ok (v, rest) → v.hasLongNumber = false
  fields {room : Nat} {seen : List (String × Value)} {cs rest : List Char} {v : Value} :
    hasLongField seen = false →
      readFields allowance room seen cs = .ok (v, rest) → v.hasLongNumber = false

section Step

variable {allowance room : Nat} {cs rest : List Char} {v : Value}

theorem short_of_readSimple (h : readSimple cs = .ok (v, rest)) : v.hasLongNumber = false := by
  rw [readSimple.eq_def] at h
  split at h
  · next rest' =>
    cases hread : readText [] rest' with
    | error fault => rw [hread] at h; cases h
    | ok found => rw [hread] at h; cases h; rfl
  · cases h; rfl
  · cases h; rfl
  · cases h; rfl
  · cases h; rfl
  · cases h; rfl
  · cases h; rfl
  · exact short_of_readNumber h
  · exact short_of_readNumber h

theorem short_of_readValue (ih : ReadsShort allowance)
    (h : readValue (allowance + 1) room cs = .ok (v, rest)) : v.hasLongNumber = false := by
  rw [readValue.eq_def] at h
  dsimp only at h
  split at h
  · split at h
    · cases h
    · split at h
      · cases h
        rfl
      · exact ih.fields rfl h
  · split at h
    · cases h
    · split at h
      · cases h
        rfl
      · exact ih.items rfl h
  · exact short_of_readSimple h

theorem short_of_readItems (ih : ReadsShort allowance) {seen : List Value}
    (hseen : hasLongItem seen = false) (h : readItems (allowance + 1) room seen cs = .ok (v, rest)) :
    v.hasLongNumber = false := by
  rw [readItems.eq_def] at h
  dsimp only at h
  split at h
  · cases h
  · next item _ hitem =>
    have hnext : hasLongItem (item :: seen) = false := by
      rw [hasLongItem, ih.value hitem, hseen]
      rfl
    split at h
    · exact ih.items hnext h
    · cases h
      rw [hasLongNumber, hasLongItem_eq_false_iff]
      intro w hw
      exact hasLongItem_eq_false_iff.1 hnext w (List.mem_reverse.1 hw)
    · cases h

theorem short_of_readFields (ih : ReadsShort allowance) {seen : List (String × Value)}
    (hseen : hasLongField seen = false) (h : readFields (allowance + 1) room seen cs = .ok (v, rest)) :
    v.hasLongNumber = false := by
  rw [readFields.eq_def] at h
  dsimp only at h
  split at h
  · split at h
    · cases h
    · next key _ _ =>
      split at h
      · split at h
        · cases h
        · next item _ hitem =>
          have hnext : hasLongField (Keyed.set key item seen) = false :=
            hasLongField_set (ih.value hitem) hseen
          split at h
          · exact ih.fields hnext h
          · cases h
            exact hnext
          · cases h
      · cases h
  · cases h

end Step

/-- Each reader calls the others with a smaller allowance. -/
theorem readsShort (allowance : Nat) : ReadsShort allowance := by
  induction allowance with
  | zero =>
    constructor
    · intro room cs rest v h
      cases h
    · intro room seen cs rest v _ h
      cases h
    · intro room seen cs rest v _ h
      cases h
  | succ allowance ih =>
    exact ⟨short_of_readValue ih, short_of_readItems ih, short_of_readFields ih⟩

/-- No number of a document has too many digits. -/
theorem short_of_read {room : Nat} {s : String} {v : Value} (h : read room s = .ok v) : v.hasLongNumber = false := by
  simp only [read] at h
  split at h
  · cases h
  · next v' rest hread =>
    split at h
    · obtain rfl : v' = v := Except.ok.inj h
      exact (readsShort _).value hread
    · cases h

end Reading

end TaleLoom.Value
