import TaleLoom.Proofs.Timestamp
import TaleLoom.Proofs.Value.RoundTrip
/-!
Whole numbers are read back from what is written of them. Nothing in a document tells where a number ends
but what follows it: no digit, no decimal point and no exponent follow a value.
-/

namespace TaleLoom.Value

open Number Text

section Digits

variable {c : Char} {cs rest : List Char} {m : Nat}

theorem isAsciiDigit_of_mem_toDigits (h : c ∈ Nat.toDigits 10 m) : isAsciiDigit c = true :=
  Timestamp.isAsciiDigit_of_isDigit (Nat.isDigit_of_mem_toDigits (by decide) (by decide) h)

theorem digitsValue_toDigits (m : Nat) : digitsValue (Nat.toDigits 10 m) = m := by
  calc digitsValue (Nat.toDigits 10 m)
      = Nat.ofDigitChars 10 (Nat.toDigits 10 m) 0 :=
        Timestamp.foldl_digits_eq (fun c hc => isAsciiDigit_of_mem_toDigits hc) 0
    _ = m := Nat.ofDigitChars_toDigits (by decide) (by decide)

theorem length_toDigits_le {k : Nat} (hk : 0 < k) (h : m < tenTo k) :
    (Nat.toDigits 10 m).length ≤ k :=
  (Nat.length_toDigits_le_iff (by decide) hk).2 h

/-- Only zero is written with a zero in front. -/
theorem head_toDigits (m : Nat) : Nat.toDigits 10 m = ['0'] ∨
    ∃ c cs, Nat.toDigits 10 m = c :: cs ∧ c ≠ '0' := by
  induction m using Nat.strongRecOn with
  | ind m ih =>
    by_cases hm : m < 10
    · rw [Nat.toDigits_of_lt_base hm]
      by_cases hzero : Nat.digitChar m = '0'
      · exact Or.inl (by rw [hzero])
      · exact Or.inr ⟨_, [], rfl, hzero⟩
    · rw [Nat.toDigits_of_base_le (by decide) (Nat.le_of_not_lt hm)]
      rcases ih (m / 10) (by omega) with hzero | ⟨c, cs, heq, hc⟩
      · -- a number of more than one digit is no zero with a digit behind it
        have hvalue := digitsValue_toDigits (m / 10)
        rw [hzero] at hvalue
        have : m / 10 = 0 := hvalue.symm
        omega
      · exact Or.inr ⟨c, cs ++ [Nat.digitChar (m % 10)], by rw [heq, List.cons_append], hc⟩

theorem Delimited.not_digit (h : Delimited (c :: rest)) : isAsciiDigit c = false := by
  rcases h c rfl with hspace | rfl | rfl | rfl
  · simp only [isSpace, Bool.or_eq_true, beq_iff_eq] at hspace
    rcases hspace with ((rfl | rfl) | rfl) | rfl <;> rfl
  · rfl
  · rfl
  · rfl

theorem spanDigits_append (hcs : ∀ c ∈ cs, isAsciiDigit c = true) (hrest : Delimited rest) :
    spanDigits (cs ++ rest) = (cs, rest) := by
  have hstop : rest.takeWhile isAsciiDigit = [] ∧ rest.dropWhile isAsciiDigit = rest := by
    cases rest with
    | nil => exact ⟨rfl, rfl⟩
    | cons c rest =>
      have hc : ¬ isAsciiDigit c = true := by simp [hrest.not_digit]
      exact ⟨List.takeWhile_cons_of_neg hc, List.dropWhile_cons_of_neg hc⟩
  rw [spanDigits, List.takeWhile_append_of_pos hcs, List.dropWhile_append_of_pos hcs, hstop.1, hstop.2,
    List.append_nil]

theorem readPlaces_delimited (h : Delimited rest) : readPlaces rest = ([], rest) := by
  cases rest with
  | nil => rfl
  | cons c rest =>
    have hc : c ≠ '.' := by
      rintro rfl
      exact absurd (h '.' rfl) (by decide)
    rw [readPlaces.eq_def]
    split
    · next heq => exact absurd (List.cons.inj heq).1 hc
    · rfl

theorem readExponent_delimited (h : Delimited rest) : readExponent rest = (none, rest) := by
  cases rest with
  | nil => rfl
  | cons c rest =>
    have hlower : c ≠ 'e' := by
      rintro rfl
      exact absurd (h 'e' rfl) (by decide)
    have hupper : c ≠ 'E' := by
      rintro rfl
      exact absurd (h 'E' rfl) (by decide)
    simp [readExponent, hlower, hupper]

/-- The digits of a number are read up to what ends the value. -/
theorem readNumber_toDigits (negative : Bool) (hm : m < tenTo digitLimit) (hrest : Delimited rest) :
    readNumber negative (Nat.toDigits 10 m ++ rest) =
      .ok (int (if negative then -(m : Int) else m), rest) := by
  have hread : readDigits? (Nat.toDigits 10 m) = some m := by
    rw [readDigits?_of_le (length_toDigits_le (by decide) hm), digitsValue_toDigits]
  have hspan : spanDigits (Nat.toDigits 10 m ++ rest) = (Nat.toDigits 10 m, rest) :=
    spanDigits_append (fun c hc => isAsciiDigit_of_mem_toDigits hc) hrest
  rcases head_toDigits m with hzero | ⟨c, cs, heq, hc⟩
  · rw [hzero] at hread ⊢
    simp [readNumber, readPlaces_delimited hrest, readExponent_delimited hrest, hread]
  · rw [heq] at hread hspan ⊢
    rw [List.cons_append] at hspan ⊢
    simp [readNumber, hc, hspan, readPlaces_delimited hrest, readExponent_delimited hrest, hread]

/-- A value that starts with a digit is a number. -/
theorem readValue_digit (hc : isAsciiDigit c = true) (allowance room : Nat) :
    readValue (allowance + 1) room (c :: cs) = readNumber false (c :: cs) := by
  have hne {d : Char} (hd : isAsciiDigit d = false) : c ≠ d := by
    rintro rfl
    rw [hc] at hd
    cases hd
  rw [readValue_simple (hne rfl) (hne rfl), readSimple.eq_def]
  split
  all_goals first
    | rfl
    | next heq => exact absurd (List.cons.inj heq).1 (hne rfl)

theorem readValue_minus (hc : isAsciiDigit c = true) (allowance room : Nat) :
    readValue (allowance + 1) room ('-' :: c :: cs) = readNumber true (c :: cs) := by
  have hne : c ≠ 'I' := by
    rintro rfl
    cases hc
  rw [readValue_simple (by decide) (by decide), readSimple.eq_def]
  split <;> simp_all

end Digits

/-- A whole number is written with its sign and its digits, of which there is at least one. -/
theorem decimal_cases (n : Int) : ∃ c cs, Nat.toDigits 10 n.natAbs = c :: cs ∧
    isAsciiDigit c = true ∧
    ((decimal n).toList = c :: cs ∧ (n.natAbs : Int) = n ∨
      (decimal n).toList = '-' :: c :: cs ∧ -(n.natAbs : Int) = n) := by
  obtain ⟨c, cs, heq⟩ := List.exists_cons_of_ne_nil (Nat.toDigits_ne_nil (n := n.natAbs) (b := 10))
  refine ⟨c, cs, heq, isAsciiDigit_of_mem_toDigits (heq ▸ List.mem_cons_self), ?_⟩
  cases n with
  | ofNat m => exact Or.inl ⟨by rw [decimal, Nat.toList_repr]; exact heq, rfl⟩
  | negSucc m =>
    refine Or.inr ⟨?_, rfl⟩
    rw [decimal, String.toList_append, Nat.toList_repr]
    exact congrArg ('-' :: ·) heq

theorem readsBack_int {n : Int} (h : isTooLong n = false) : (int n).ReadsBack where
  starts indent depth := by
    obtain ⟨c, cs, -, hc, hwrite⟩ := decimal_cases n
    have hdigit : isSpace c = false ∧ c ≠ ']' := by
      constructor
      · cases hspace : isSpace c with
        | false => rfl
        | true => simpa [hc] using (delimited_cons (Or.inl hspace) []).not_digit
      · rintro rfl
        cases hc
    rw [writeAt]
    rcases hwrite with ⟨hwrite, -⟩ | ⟨hwrite, -⟩
    · exact ⟨c, cs, hwrite, hdigit.1, hdigit.2⟩
    · exact ⟨'-', c :: cs, hwrite, rfl, by decide⟩
  reads indent depth allowance room rest hlength _ hrest := by
    obtain ⟨c, cs, hdigits, hc, hwrite⟩ := decimal_cases n
    have hlimit : n.natAbs < tenTo digitLimit := by
      simpa [isTooLong] using h
    have hread (negative : Bool) := readNumber_toDigits negative hlimit hrest
    simp only [hdigits, List.cons_append] at hread
    rw [writeAt] at hlength ⊢
    rcases hwrite with ⟨hwrite, hvalue⟩ | ⟨hwrite, hvalue⟩
    all_goals
      rw [hwrite] at hlength ⊢
      cases allowance with
      | zero => simp at hlength
      | succ allowance => ?_
    · rw [List.cons_append, readValue_digit hc, hread]
      simp only [Bool.false_eq_true, if_false, hvalue]
    · rw [List.cons_append, List.cons_append, readValue_minus hc, hread]
      simp only [if_true, hvalue]

end TaleLoom.Value
