import TaleLoom.Value.Access
/-!
Numbers that can be read and written: those of at most as many digits as the limit allows.
-/

namespace TaleLoom.Number

open Text

theorem digitValue_lt {c : Char} {n : Nat} (h : digitValue? c = some n) : n < 10 := by
  obtain ⟨start, -, hstart⟩ := List.exists_of_findSome?_eq_some h
  split at hstart
  · next hrange =>
    have heq := Option.some.inj hstart
    simp only [Bool.and_eq_true, decide_eq_true_eq] at hrange
    omega
  · cases hstart

theorem tenTo_succ (k : Nat) : tenTo (k + 1) = tenTo k * 10 := rfl

theorem tenTo_le {j k : Nat} (h : j ≤ k) : tenTo j ≤ tenTo k := Nat.pow_le_pow_right (by omega) h

theorem foldl_digits_lt (cs : List Char) (n k : Nat) (h : n < tenTo k) :
    cs.foldl (fun n c => 10 * n + (digitValue? c).getD 0) n < tenTo (k + cs.length) := by
  induction cs generalizing n k with
  | nil => exact h
  | cons c rest ih =>
    have hdigit : (digitValue? c).getD 0 < 10 := by
      cases hc : digitValue? c with
      | none => simp
      | some d => exact digitValue_lt hc
    have hnext : 10 * n + (digitValue? c).getD 0 < tenTo (k + 1) := by
      rw [tenTo_succ]
      omega
    rw [List.foldl_cons, List.length_cons, show k + (rest.length + 1) = k + 1 + rest.length by omega]
    exact ih _ _ hnext

theorem digitsValue_lt (cs : List Char) : digitsValue cs < tenTo cs.length := by
  have h := foldl_digits_lt cs 0 0 (by decide)
  rwa [Nat.zero_add] at h

theorem readDigits?_eq_none_iff {cs : List Char} : readDigits? cs = none ↔ digitLimit < cs.length := by
  unfold readDigits?
  split
  · next h => simp [h]
  · next h => simp [Nat.lt_of_not_le h]

theorem readDigits?_of_le {cs : List Char} (h : cs.length ≤ digitLimit) :
    readDigits? cs = some (digitsValue cs) := by
  simp [readDigits?, h]

/-- A number of few enough digits can be written. -/
theorem isTooLong_eq_false {n : Int} {k : Nat} (hn : n.natAbs < tenTo k) (hk : k ≤ digitLimit) :
    isTooLong n = false := by
  have hle := tenTo_le hk
  rw [isTooLong, decide_eq_false_iff_not]
  omega

theorem isTooLong_of_lt_hundred {n : Int} (h : n.natAbs < 100) : isTooLong n = false := by
  have hhundred : tenTo 2 = 100 := rfl
  rw [← hhundred] at h
  exact isTooLong_eq_false h (by decide)

theorem isTooLong_of_between {low n high : Int} (hlow : isTooLong low = false)
    (hhigh : isTooLong high = false) (h : low ≤ n) (h' : n ≤ high) : isTooLong n = false := by
  simp only [isTooLong, decide_eq_false_iff_not] at hlow hhigh ⊢
  generalize tenTo digitLimit = limit at hlow hhigh ⊢
  omega

theorem digits_ok {n : Int} (h : isTooLong n = false) : digits n = .ok (decimal n) := by
  rw [digits, h]
  rfl

theorem digits_error {n : Int} (h : isTooLong n = true) : digits n = .error .numeral := by
  rw [digits, h]
  rfl

end TaleLoom.Number
