import Mathlib.Data.List.TakeWhile
import TaleLoom.Text.Blank
import TaleLoom.Text.Digits
/-!
White space and digits in a text. A row of digits or of white space is cut off where the next character
is of another kind (`span_append`). Of a text `trim` cuts off the white space at its ends and nothing else
(`exists_trimmed`), so that a text which has none there is left alone (`trim_of_ends`).
-/

namespace TaleLoom.Text

def Blanks (cs : List Char) : Prop := ∀ c ∈ cs, isBlank c = true

def Digits (cs : List Char) : Prop := ∀ c ∈ cs, isDecimal c = true

/-- Between the digits of the scripts there is all white space. -/
theorem zeroDigits_apart : ∀ start ∈ zeroDigits,
    (33 ≤ start ∧ start + 10 ≤ 133) ∨ (161 ≤ start ∧ start + 10 ≤ 5760) ∨
      (5761 ≤ start ∧ start + 10 ≤ 8192) ∨ 12289 ≤ start := by
  decide

theorem isBlank_of_isDecimal {c : Char} (h : isDecimal c = true) : isBlank c = false := by
  obtain ⟨value, hvalue⟩ := Option.isSome_iff_exists.1 h
  obtain ⟨start, hstart, hdigit⟩ := List.exists_of_findSome?_eq_some hvalue
  have hapart := zeroDigits_apart start hstart
  split at hdigit
  · next hrange =>
    simp only [Bool.and_eq_true, decide_eq_true_eq] at hrange
    simp [isBlank]
    omega
  · cases hdigit

theorem isDecimal_of_isBlank {c : Char} (h : isBlank c = true) : isDecimal c = false := by
  cases hdecimal : isDecimal c with
  | false => rfl
  | true =>
    rw [isBlank_of_isDecimal hdecimal] at h
    cases h

/-- A row of characters of a kind is cut off where the next character is of another kind. -/
theorem span_append {p : Char → Bool} {front rest : List Char} (hfront : ∀ c ∈ front, p c = true)
    (hrest : ∀ c ∈ rest.head?, p c = false) :
    (front ++ rest).takeWhile p = front ∧ (front ++ rest).dropWhile p = rest := by
  rw [List.takeWhile_append_of_pos hfront, List.dropWhile_append_of_pos hfront]
  cases rest with
  | nil => exact ⟨List.append_nil front, rfl⟩
  | cons c rest =>
    have hc : p c = false := hrest c rfl
    rw [List.takeWhile_cons_of_neg (by simp [hc]), List.dropWhile_cons_of_neg (by simp [hc])]
    exact ⟨List.append_nil front, rfl⟩

theorem trimStart_append {blanks rest : List Char} (hblanks : Blanks blanks)
    (hrest : ∀ c ∈ rest.head?, isBlank c = false) : trimStart (blanks ++ rest) = rest :=
  (span_append hblanks hrest).2

theorem trimStart_blanks {blanks : List Char} (h : Blanks blanks) : trimStart blanks = [] :=
  List.dropWhile_eq_nil_iff.2 h

/-- What is cut off at the front of a text is white space. -/
theorem exists_blanks (cs : List Char) : ∃ blanks, Blanks blanks ∧ cs = blanks ++ trimStart cs :=
  ⟨cs.takeWhile isBlank, fun _ hc => List.mem_takeWhile_imp hc,
    (List.takeWhile_append_dropWhile (p := isBlank)).symm⟩

theorem blanks_of_trimStart {cs : List Char} (h : trimStart cs = []) : Blanks cs :=
  List.dropWhile_eq_nil_iff.1 h

theorem digits_takeWhile (cs : List Char) : Digits (cs.takeWhile isDecimal) :=
  fun _ hc => List.mem_takeWhile_imp hc

section Trimming

variable {blanks : List Char}

theorem trim_append_front (h : Blanks blanks) (cs : List Char) : trim (blanks ++ cs) = trim cs := by
  rw [trim, trimStart, List.dropWhile_append_of_pos h, trim, trimStart]

theorem trimEnd_append_back (h : Blanks blanks) (cs : List Char) : trimEnd (cs ++ blanks) = trimEnd cs := by
  have hreverse : ∀ c ∈ blanks.reverse, isBlank c = true := by
    intro c hc
    exact h c (List.mem_reverse.1 hc)
  rw [trimEnd, List.reverse_append, List.dropWhile_append_of_pos hreverse, trimEnd]

theorem trim_append_back (h : Blanks blanks) (cs : List Char) : trim (cs ++ blanks) = trim cs := by
  by_cases hcs : trimStart cs = []
  · -- then there is nothing but white space
    have hall : Blanks (cs ++ blanks) := by
      intro c hc
      exact (List.mem_append.1 hc).elim (blanks_of_trimStart hcs c) (h c)
    rw [trim, trimStart_blanks hall, trim, hcs]
  · have hstart : trimStart (cs ++ blanks) = trimStart cs ++ blanks := by
      have hsome : ¬ (cs.dropWhile isBlank).isEmpty = true := mt List.isEmpty_iff.1 hcs
      rw [trimStart, List.dropWhile_append, if_neg hsome, trimStart]
    rw [trim, hstart, trimEnd_append_back h, trim]

/-- What is cut off at the end of a text is white space. -/
theorem exists_trimEnd (cs : List Char) : ∃ blanks, Blanks blanks ∧ cs = trimEnd cs ++ blanks := by
  obtain ⟨blanks, hblanks, hreverse⟩ := exists_blanks cs.reverse
  refine ⟨blanks.reverse, fun c hc => hblanks c (List.mem_reverse.1 hc), ?_⟩
  rw [← List.reverse_inj, List.reverse_append, List.reverse_reverse, trimEnd, List.reverse_reverse]
  exact hreverse

/-- Of a text only white space at its two ends is cut off. -/
theorem exists_trimmed (cs : List Char) :
    ∃ front back, Blanks front ∧ Blanks back ∧ cs = front ++ (trim cs ++ back) := by
  obtain ⟨front, hfront, hcs⟩ := exists_blanks cs
  obtain ⟨back, hback, hend⟩ := exists_trimEnd (trimStart cs)
  rw [hend] at hcs
  exact ⟨front, back, hfront, hback, hcs⟩

theorem trim_subset (cs : List Char) : trim cs ⊆ cs := by
  obtain ⟨front, back, -, -, hcs⟩ := exists_trimmed cs
  intro c hc
  rw [hcs]
  exact List.mem_append_right _ (List.mem_append_left _ hc)

theorem trim_trim (cs : List Char) : trim (trim cs) = trim cs := by
  obtain ⟨front, back, hfront, hback, hcs⟩ := exists_trimmed cs
  calc trim (trim cs) = trim (trim cs ++ back) := (trim_append_back hback _).symm
    _ = trim (front ++ (trim cs ++ back)) := (trim_append_front hfront _).symm
    _ = trim cs := by rw [← hcs]

theorem strip_strip (s : String) : strip (strip s) = strip s := by
  rw [strip, strip, String.toList_ofList, trim_trim]

/-- Nothing is cut off in front of a character of another kind. -/
theorem dropWhile_of_head {p : Char → Bool} {cs : List Char} (h : ∀ c ∈ cs.head?, p c = false) :
    cs.dropWhile p = cs := by
  cases cs with
  | nil => rfl
  | cons c rest => exact List.dropWhile_cons_of_neg (by simp [h c rfl])

/-- A text that neither starts nor ends with white space is left alone. -/
theorem trim_of_ends {cs : List Char} (hfirst : ∀ c ∈ cs.head?, isBlank c = false)
    (hlast : ∀ c ∈ cs.getLast?, isBlank c = false) : trim cs = cs := by
  have hreverse : cs.reverse.dropWhile isBlank = cs.reverse := by
    apply dropWhile_of_head
    rw [List.head?_reverse]
    exact hlast
  rw [trim, trimStart, dropWhile_of_head hfirst, trimEnd, hreverse, List.reverse_reverse]

/-- What is left of a text starts with no white space. -/
theorem head_trim (cs : List Char) : ∀ c ∈ (trim cs).head?, isBlank c = false := by
  have hstart : ∀ c ∈ (trimStart cs).head?, isBlank c = false := by
    intro c hc
    have hhead := List.head?_dropWhile_not isBlank cs
    rw [trimStart, Option.mem_def] at hc
    simpa [hc] using hhead
  obtain ⟨back, -, hcs⟩ := exists_trimEnd (trimStart cs)
  intro c hc
  apply hstart
  rw [hcs, ← trim, List.head?_append, Option.mem_def.1 hc]
  rfl

end Trimming

/-- What is left of a text ends with no white space. -/
theorem getLast_trim (cs : List Char) : ∀ c ∈ (trim cs).getLast?, isBlank c = false := by
  intro c hc
  rw [trim, trimEnd, List.getLast?_reverse, Option.mem_def] at hc
  have hhead := List.head?_dropWhile_not isBlank (trimStart cs).reverse
  simpa [hc] using hhead

theorem blanks_of_trim {cs : List Char} (h : trim cs = []) : Blanks cs := by
  obtain ⟨front, back, hfront, hback, hcs⟩ := exists_trimmed cs
  rw [h, List.nil_append] at hcs
  intro c hc
  rw [hcs] at hc
  exact (List.mem_append.1 hc).elim (hfront c) (hback c)

theorem trim_blanks {blanks : List Char} (h : Blanks blanks) : trim blanks = [] := by
  rw [trim, trimStart_blanks h]
  rfl

/-- A text with a character that is no white space is not cut off altogether. -/
theorem trim_ne_nil {cs : List Char} {c : Char} (hc : c ∈ cs) (hblank : isBlank c = false) :
    trim cs ≠ [] := by
  intro hnone
  have hall := blanks_of_trim hnone c hc
  rw [hblank] at hall
  cases hall

end TaleLoom.Text
