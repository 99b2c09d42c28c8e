import TaleLoom.Proofs.Text
import TaleLoom.Proofs.Value.Whole
/-!
Integers that authors write. White space around a number is passed over, and within it there is none
(`ends_of_signed?`), so that a text which is read as a number is read as the same one without the white
space around it (`readInteger?_trim`). A number that can be written is read back (`readInteger?_decimal`).
-/

namespace TaleLoom.Number

open Text

def signed? : List Char → Option Int
  | '-' :: rest => (readNatural? rest).map fun n => -(n : Int)
  | '+' :: rest => (readNatural? rest).map Int.ofNat
  | rest => (readNatural? rest).map Int.ofNat

def unspaced (cs : List Char) : List Char := ((cs.dropWhile isSpacing).reverse.dropWhile isSpacing).reverse

theorem readInteger?_eq (cs : List Char) : readInteger? cs = signed? (unspaced cs) := rfl

theorem isSpacing_of_not_blank {c : Char} (h : isBlank c = false) : isSpacing c = false := by
  rw [isSpacing, h, Bool.false_and]

theorem isBlank_of_isSpacing {c : Char} (h : isSpacing c = true) : isBlank c = true :=
  (Bool.and_eq_true_iff.1 h).1

/-- White space that may stand around a number is white space around a text. -/
theorem trim_unspaced (cs : List Char) : trim (unspaced cs) = trim cs := by
  have hblanks (xs : List Char) : Blanks (xs.takeWhile isSpacing) := fun c hc =>
    isBlank_of_isSpacing (List.mem_takeWhile_imp hc)
  have hback : Blanks ((cs.dropWhile isSpacing).reverse.takeWhile isSpacing).reverse := fun c hc =>
    hblanks _ c (List.mem_reverse.1 hc)
  have hsplit : unspaced cs ++ ((cs.dropWhile isSpacing).reverse.takeWhile isSpacing).reverse =
      cs.dropWhile isSpacing := by
    rw [unspaced, ← List.reverse_append, List.takeWhile_append_dropWhile, List.reverse_reverse]
  calc trim (unspaced cs)
      = trim (cs.dropWhile isSpacing) := by rw [← hsplit, trim_append_back hback]
    _ = trim (cs.takeWhile isSpacing ++ cs.dropWhile isSpacing) := (trim_append_front (hblanks cs) _).symm
    _ = trim cs := by rw [List.takeWhile_append_dropWhile]

theorem unspaced_of_ends {cs : List Char} (hfirst : ∀ c ∈ cs.head?, isBlank c = false)
    (hlast : ∀ c ∈ cs.getLast?, isBlank c = false) : unspaced cs = cs := by
  have hstart : cs.dropWhile isSpacing = cs :=
    dropWhile_of_head fun c hc => isSpacing_of_not_blank (hfirst c hc)
  have hreverse : cs.reverse.dropWhile isSpacing = cs.reverse := by
    apply dropWhile_of_head
    rw [List.head?_reverse]
    exact fun c hc => isSpacing_of_not_blank (hlast c hc)
  rw [unspaced, hstart, hreverse, List.reverse_reverse]

section Reading

variable {cs digits : List Char} {n : Int}

/-- A row of digits with underscores in it ends with a digit. -/
theorem last_of_moreDigits? (h : moreDigits? cs = some digits) : ∀ c ∈ cs.getLast?, isDecimal c = true := by
  have hlast {c : Char} {rest : List Char} (hc : isDecimal c = true)
      (hrest : ∀ d ∈ rest.getLast?, isDecimal d = true) : ∀ d ∈ (c :: rest).getLast?, isDecimal d = true := by
    cases rest with
    | nil => simpa using hc
    | cons d others => simpa using hrest
  fun_induction moreDigits? cs generalizing digits with
  | case1 => simp
  | case2 c rest hc ih =>
    obtain ⟨others, hothers, -⟩ := Option.map_eq_some_iff.1 h
    simpa using hlast hc (ih hothers)
  | case3 => cases h
  | case4 c rest _ hc ih =>
    obtain ⟨others, hothers, -⟩ := Option.map_eq_some_iff.1 h
    exact hlast hc (ih hothers)
  | case5 => cases h

/-- A number starts and ends with a digit. -/
theorem ends_of_readNatural? {m : Nat} (h : readNatural? cs = some m) :
    ∃ c rest, cs = c :: rest ∧ isDecimal c = true ∧ ∀ d ∈ cs.getLast?, isDecimal d = true := by
  obtain ⟨row, hrow, -⟩ := Option.bind_eq_some_iff.1 h
  cases cs with
  | nil => cases hrow
  | cons c rest =>
    rw [digitRow?] at hrow
    split at hrow
    · next hc =>
      obtain ⟨others, hothers, -⟩ := Option.map_eq_some_iff.1 hrow
      refine ⟨c, rest, rfl, hc, ?_⟩
      have hlast := last_of_moreDigits? hothers
      cases rest with
      | nil => simpa using hc
      | cons d more => simpa using hlast
    · cases hrow

/-- What is read as a number has no white space at its ends. -/
theorem ends_of_signed? (h : signed? cs = some n) :
    (∀ c ∈ cs.head?, isBlank c = false) ∧ ∀ c ∈ cs.getLast?, isBlank c = false := by
  have hsign {sign : Char} {rest : List Char} {m : Nat} (hblank : isBlank sign = false)
      (hrest : readNatural? rest = some m) :
      (∀ c ∈ (sign :: rest).head?, isBlank c = false) ∧
        ∀ c ∈ (sign :: rest).getLast?, isBlank c = false := by
    obtain ⟨c, others, rfl, -, hlast⟩ := ends_of_readNatural? hrest
    refine ⟨by simpa using hblank, ?_⟩
    rw [List.getLast?_cons_cons]
    exact fun d hd => isBlank_of_isDecimal (hlast d hd)
  unfold signed? at h
  split at h
  · next rest =>
    cases hm : readNatural? rest with
    | none =>
      rw [hm] at h
      cases h
    | some m => exact hsign rfl hm
  · obtain ⟨m, hm, -⟩ := Option.map_eq_some_iff.1 h
    exact hsign rfl hm
  · obtain ⟨m, hm, -⟩ := Option.map_eq_some_iff.1 h
    obtain ⟨c, rest, rfl, hc, hlast⟩ := ends_of_readNatural? hm
    refine ⟨by simpa using isBlank_of_isDecimal hc, fun d hd => isBlank_of_isDecimal (hlast d hd)⟩

theorem readInteger?_of_signed? (h : signed? cs = some n) : readInteger? cs = some n := by
  obtain ⟨hfirst, hlast⟩ := ends_of_signed? h
  rw [readInteger?_eq, unspaced_of_ends hfirst hlast, h]

/-- A text that is read as a number is read as the same one without the white space around it. -/
theorem readInteger?_trim (h : readInteger? cs = some n) : readInteger? (trim cs) = some n := by
  rw [readInteger?_eq] at h
  obtain ⟨hfirst, hlast⟩ := ends_of_signed? h
  rw [← trim_unspaced, trim_of_ends hfirst hlast]
  exact readInteger?_of_signed? h

theorem moreDigits?_digits (h : Digits digits) : moreDigits? digits = some digits := by
  induction digits with
  | nil => rfl
  | cons c rest ih =>
    obtain ⟨hc, hrest⟩ := List.forall_mem_cons.1 h
    have hunderscore : c ≠ '_' := by
      rintro rfl
      exact absurd hc (by decide)
    rw [moreDigits?, if_pos hc, ih hrest, Option.map_some]
    rintro d others rfl
    exact absurd rfl hunderscore

/-- A row of digits that is not too long is its number. -/
theorem readNatural?_digits (hne : digits ≠ []) (h : Digits digits) (hshort : digits.length ≤ digitLimit) :
    readNatural? digits = some (digitsValue digits) := by
  obtain ⟨c, rest, rfl⟩ := List.exists_cons_of_ne_nil hne
  obtain ⟨hc, hrest⟩ := List.forall_mem_cons.1 h
  rw [readNatural?, digitRow?, if_pos hc, moreDigits?_digits hrest]
  exact readDigits?_of_le hshort

/-- No digit is a sign. -/
theorem signed?_of_head {c : Char} (hc : isDecimal c = true) (rest : List Char) :
    signed? (c :: rest) = (readNatural? (c :: rest)).map Int.ofNat := by
  unfold signed?
  split
  · next heq =>
    obtain ⟨rfl, -⟩ := List.cons.inj heq
    exact absurd hc (by decide)
  · next heq =>
    obtain ⟨rfl, -⟩ := List.cons.inj heq
    exact absurd hc (by decide)
  · rfl

theorem readInteger?_digits (hne : digits ≠ []) (h : Digits digits) (hshort : digits.length ≤ digitLimit) :
    readInteger? digits = some (digitsValue digits : Int) := by
  have hread := readNatural?_digits hne h hshort
  obtain ⟨c, rest, rfl⟩ := List.exists_cons_of_ne_nil hne
  apply readInteger?_of_signed?
  rw [signed?_of_head (h c List.mem_cons_self), hread]
  rfl

end Reading

section Writing

variable {n : Int}

theorem digits_toDigits (m : Nat) : Digits (Nat.toDigits 10 m) := by
  intro c hc
  rw [isDecimal, Timestamp.digitValue?_of_isAsciiDigit (Value.isAsciiDigit_of_mem_toDigits hc)]
  rfl

/-- Of a number that can be written the digits can be read. -/
theorem length_digits_le (h : isTooLong n = false) : (Nat.toDigits 10 n.natAbs).length ≤ digitLimit := by
  apply Value.length_toDigits_le (by decide)
  simpa [isTooLong] using h

/-- A number that can be written is read back. -/
theorem readInteger?_decimal (h : isTooLong n = false) : readInteger? (decimal n).toList = some n := by
  have hdigits := digits_toDigits n.natAbs
  have hread := readNatural?_digits Nat.toDigits_ne_nil hdigits (length_digits_le h)
  rw [Value.digitsValue_toDigits] at hread
  obtain ⟨c, cs, heq, -, hwrite⟩ := Value.decimal_cases n
  rw [heq] at hdigits hread
  apply readInteger?_of_signed?
  rcases hwrite with ⟨hwrite, hvalue⟩ | ⟨hwrite, hvalue⟩
  · rw [hwrite, signed?_of_head (hdigits c List.mem_cons_self), hread]
    exact congrArg some hvalue
  · rw [hwrite, signed?, hread]
    exact congrArg some hvalue

/-- A number is written with digits alone, a minus sign in front or not. -/
theorem exists_sign (n : Int) : ∃ sign, (sign = [] ∨ sign = ['-']) ∧
    (decimal n).toList = sign ++ Nat.toDigits 10 n.natAbs := by
  obtain ⟨c, cs, heq, -, hwrite⟩ := Value.decimal_cases n
  rw [heq]
  exact hwrite.elim (fun h => ⟨[], Or.inl rfl, h.1⟩) fun h => ⟨['-'], Or.inr rfl, h.1⟩

theorem mem_decimal {c : Char} (h : c ∈ (decimal n).toList) : c = '-' ∨ isDecimal c = true := by
  obtain ⟨sign, hsign, heq⟩ := exists_sign n
  rw [heq] at h
  rcases List.mem_append.1 h with h | h
  · rcases hsign with rfl | rfl
    · cases h
    · exact Or.inl (List.mem_singleton.1 h)
  · exact Or.inr (digits_toDigits _ c h)

theorem isBlank_of_mem_decimal {c : Char} (h : c ∈ (decimal n).toList) : isBlank c = false := by
  rcases mem_decimal h with rfl | hdigit
  · rfl
  · exact isBlank_of_isDecimal hdigit

theorem decimal_ne_nil (n : Int) : (decimal n).toList ≠ [] := by
  obtain ⟨sign, -, heq⟩ := exists_sign n
  rw [heq]
  exact List.append_ne_nil_of_right_ne_nil _ Nat.toDigits_ne_nil

/-- A text that ends with a number has no white space at its end. -/
theorem trim_append_decimal {front : List Char} (hne : front ≠ [])
    (hfirst : ∀ c ∈ front.head?, isBlank c = false) (n : Int) :
    trim (front ++ (decimal n).toList) = front ++ (decimal n).toList := by
  apply trim_of_ends
  · rwa [List.head?_append_of_ne_nil _ hne]
  · rw [List.getLast?_append_of_ne_nil _ (decimal_ne_nil n)]
    exact fun c hc => isBlank_of_mem_decimal (List.mem_of_getLast? hc)

end Writing

end TaleLoom.Number
