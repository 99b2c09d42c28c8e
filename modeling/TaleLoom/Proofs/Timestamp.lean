import TaleLoom.Proofs.Number
import TaleLoom.Timestamp
/-!
Points in time of the calendar are read from what is written of them (`Timestamp.read?_text_of_isValid`).
A number filled up to its width has as many digits as the reader takes for it, and they stand for the
number again; each part of the reader is taken on what is written for it and the rest of the text.
-/

namespace TaleLoom.Timestamp

open Text Number

section Digits

theorem isAsciiDigit_of_isDigit {c : Char} (h : c.isDigit = true) : Value.isAsciiDigit c = true := by
  simpa [Char.isDigit, Value.isAsciiDigit, Char.le_def, UInt32.le_iff_toNat_le] using h

/-- The first script is the one of the ASCII digits. -/
theorem digitValue?_of_isAsciiDigit {c : Char} (h : Value.isAsciiDigit c = true) :
    digitValue? c = some (c.toNat - '0'.toNat) := by
  rw [Value.isAsciiDigit, Bool.and_eq_true, decide_eq_true_eq, decide_eq_true_eq, Char.le_def,
    Char.le_def, UInt32.le_iff_toNat_le, UInt32.le_iff_toNat_le] at h
  have hlow : 48 ≤ c.toNat := h.1
  have hhigh : c.toNat < 48 + 10 := Nat.lt_succ_of_le h.2
  rw [digitValue?, zeroDigits, List.findSome?_cons, decide_eq_true hlow, decide_eq_true hhigh]
  rfl

theorem foldl_digits_eq {cs : List Char} (h : ∀ c ∈ cs, Value.isAsciiDigit c = true) (n : Nat) :
    cs.foldl (fun n c => 10 * n + (digitValue? c).getD 0) n = Nat.ofDigitChars 10 cs n := by
  induction cs generalizing n with
  | nil => rfl
  | cons c rest ih =>
    rw [List.foldl_cons, Nat.ofDigitChars_cons, digitValue?_of_isAsciiDigit (h c List.mem_cons_self)]
    exact ih (fun d hd => h d (List.mem_cons_of_mem c hd)) _

theorem toList_padded (width n : Nat) : (padded width n).toList =
    List.replicate (width - (Nat.toDigits 10 n).length) '0' ++ Nat.toDigits 10 n := by
  simp [padded, Nat.repr]

theorem length_padded {width n : Nat} (hwidth : 0 < width) (h : n < tenTo width) :
    (padded width n).toList.length = width := by
  have hlength := (Nat.length_toDigits_le_iff (by decide) hwidth).2 h
  rw [toList_padded, List.length_append, List.length_replicate]
  omega

theorem isAsciiDigit_of_mem_padded {width n : Nat} {c : Char} (h : c ∈ (padded width n).toList) :
    Value.isAsciiDigit c = true := by
  rw [toList_padded, List.mem_append] at h
  rcases h with h | h
  · rw [List.eq_of_mem_replicate h]
    rfl
  · exact isAsciiDigit_of_isDigit (Nat.isDigit_of_mem_toDigits (by decide) (by decide) h)

/-- A number filled up with zeros is read back. -/
theorem number?_padded (width n : Nat) : number? (padded width n).toList = some n := by
  have hall : (padded width n).toList.all Value.isAsciiDigit = true :=
    List.all_eq_true.2 fun c hc => isAsciiDigit_of_mem_padded hc
  have hvalue : digitsValue (padded width n).toList = n := by
    calc digitsValue (padded width n).toList
        = Nat.ofDigitChars 10 (padded width n).toList 0 :=
          foldl_digits_eq (fun c hc => isAsciiDigit_of_mem_padded hc) 0
      _ = Nat.ofDigitChars 10 (Nat.toDigits 10 n) 0 := by
          rw [toList_padded, Nat.ofDigitChars_append, Nat.ofDigitChars_replicate_zero, Nat.mul_zero]
      _ = n := Nat.ofDigitChars_toDigits (by decide) (by decide)
  rw [number?, if_pos hall, hvalue]

/-- So many digits at the front of a text are a number that is less than the power of ten. -/
theorem digits?_padded {width n : Nat} (hwidth : 0 < width) (h : n < tenTo width) (rest : List Char) :
    digits? width ((padded width n).toList ++ rest) = some (n, rest) := by
  have hlength := length_padded hwidth h
  have hle : width ≤ ((padded width n).toList ++ rest).length := by
    rw [List.length_append, hlength]
    exact Nat.le_add_right _ _
  rw [digits?, if_pos hle, List.take_left' hlength, List.drop_left' hlength, number?_padded]
  rfl

structure TwoDigits (n : Nat) (a b : Char) : Prop where
  first : Value.isAsciiDigit a = true
  second : Value.isAsciiDigit b = true
  reads : ∀ rest, digits? 2 (a :: b :: rest) = some (n, rest)

theorem padded_two {n : Nat} (h : n < 100) : ∃ a b, (padded 2 n).toList = [a, b] ∧ TwoDigits n a b := by
  have hdigit : ∀ c ∈ (padded 2 n).toList, Value.isAsciiDigit c = true := fun c hc =>
    isAsciiDigit_of_mem_padded hc
  have hreads := digits?_padded (by decide) (show n < tenTo 2 from h)
  match (padded 2 n).toList, length_padded (by decide) h, hdigit, hreads with
  | [a, b], _, hdigit, hreads =>
    exact ⟨a, b, rfl, hdigit a List.mem_cons_self, hdigit b (by simp), hreads⟩

theorem padded_four {n : Nat} (h : n < 10000) : ∃ a b c d, (padded 4 n).toList = [a, b, c, d] ∧
    ∀ rest, digits? 4 (a :: b :: c :: d :: rest) = some (n, rest) := by
  have hreads := digits?_padded (by decide) (show n < tenTo 4 from h)
  match (padded 4 n).toList, length_padded (by decide) h, hreads with
  | [a, b, c, d], _, hreads => exact ⟨a, b, c, d, rfl, hreads⟩

theorem TwoDigits.ne {n : Nat} {a b c : Char} (h : TwoDigits n a b)
    (hc : Value.isAsciiDigit c = false) : a ≠ c := by
  rintro rfl
  rw [h.first] at hc
  cases hc

end Digits

variable {t : Timestamp} {s : String} {cs : List Char}

section Clock

variable {hour minute second micro : Nat}

/-- The end of a time of day: nothing, or a point and the part of a second in six digits. -/
theorem fraction?_text (h : micro < 1000000) (parts : List Nat) :
    fraction? parts (padded 6 micro).toList = some { parts, micro, ends := true } := by
  have hreads := digits?_padded (by decide) (show micro < tenTo 6 from h) []
  rw [List.append_nil] at hreads
  have hcount : min 6 (padded 6 micro).toList.length = 6 := by
    rw [length_padded (by decide) h]
    rfl
  have hunit : micro * tenTo (6 - 6) = micro := Nat.mul_one _
  simp only [fraction?, hcount, hreads, hunit, ends, Option.bind_eq_bind, Option.bind_some]
  rfl

theorem clock?_minutes (hhour : hour < 100) (hminute : minute < 100) :
    clock? ((padded 2 hour).toList ++ ':' :: (padded 2 minute).toList) =
      some { parts := [hour, minute], ends := true } := by
  obtain ⟨a, b, hh, hhour⟩ := padded_two hhour
  obtain ⟨c, d, hm, hminute⟩ := padded_two hminute
  simp [hh, hm, clock?, clockFrom?, follow?, hhour.reads, hminute.reads]

theorem clock?_seconds (hhour : hour < 100) (hminute : minute < 100) (hsecond : second < 100)
    (hmicro : micro < 1000000) :
    clock? ((padded 2 hour).toList ++ ':' :: ((padded 2 minute).toList ++ ':' ::
        ((padded 2 second).toList ++ (fractionText micro).toList))) =
      some { parts := [hour, minute, second], micro, ends := true } := by
  obtain ⟨a, b, hh, hhour⟩ := padded_two hhour
  obtain ⟨c, d, hm, hminute⟩ := padded_two hminute
  obtain ⟨e, f, hs, hsecond⟩ := padded_two hsecond
  by_cases hzero : micro = 0
  · subst hzero
    simp [hh, hm, hs, clock?, clockFrom?, follow?, fractionText, hhour.reads, hminute.reads,
      hsecond.reads]
  · have hfraction := fraction?_text hmicro [hour, minute, second]
    obtain ⟨g, rest, hsix⟩ : ∃ g rest, (padded 6 micro).toList = g :: rest :=
      List.exists_cons_of_length_pos (by rw [length_padded (by decide) hmicro]; decide)
    rw [hsix] at hfraction
    simp [hh, hm, hs, clock?, clockFrom?, follow?, fractionText, hzero, hsix, hhour.reads,
      hminute.reads, hsecond.reads, hfraction]

theorem not_isZoneMark_of_isAsciiDigit {c : Char} (h : Value.isAsciiDigit c = true) :
    isZoneMark c = false := by
  have hne {d : Char} (hd : Value.isAsciiDigit d = false) : c ≠ d := by
    rintro rfl
    rw [h] at hd
    cases hd
  simp [isZoneMark, hne (d := '+') rfl, hne (d := '-') rfl, hne (d := 'Z') rfl]

theorem not_isZoneMark_of_mem_padded {width n : Nat} {c : Char} (h : c ∈ (padded width n).toList) :
    isZoneMark c = false := not_isZoneMark_of_isAsciiDigit (isAsciiDigit_of_mem_padded h)

theorem not_isZoneMark_fractionText {micro : Nat} {c : Char} (h : c ∈ (fractionText micro).toList) :
    isZoneMark c = false := by
  unfold fractionText at h
  split at h
  · cases h
  · rw [String.toList_append, List.mem_append] at h
    rcases h with h | h
    · obtain rfl := List.mem_singleton.1 h
      rfl
    · exact not_isZoneMark_of_mem_padded h

end Clock

section Zone

variable {seconds micro : Nat} {offset : Int}

theorem isOffset_iff : isOffset offset = true ↔
    offset.natAbs < 86400000000 ∧ (offset = 0 ∨ 1000000 ≤ offset.natAbs) := by
  rw [isOffset, Bool.and_eq_true, Bool.or_eq_true, decide_eq_true_eq, decide_eq_true_eq, beq_iff_eq]
  rfl

theorem Clocked.size_eq {zone : Clocked}
    (h : zone.part 0 * 3600 + zone.part 1 * 60 + zone.part 2 = seconds)
    (hwhole : 0 < seconds ∨ zone.micro = 0) : zone.size = seconds * microsPerSecond + zone.micro := by
  rcases hwhole with hpositive | hmicro
  · rw [size, h, if_neg (Nat.ne_of_gt hpositive)]
  · rw [size, h, hmicro]
    split
    · next hzero => rw [hzero, Nat.zero_mul]
    · rfl

/-- What is written of a size is read as this size, which has whole seconds or is none. -/
theorem clock?_sizeText (hday : seconds < 86400) (hmicro : micro < 1000000)
    (hwhole : 0 < seconds ∨ micro = 0) :
    ∃ zone, clock? (sizeText seconds micro).toList = some zone ∧ zone.ends = true ∧
      zone.size = seconds * microsPerSecond + micro := by
  have hhour : seconds / 3600 < 100 := by omega
  have hminute : seconds / 60 % 60 < 100 := by omega
  have hsecond : seconds % 60 < 100 := by omega
  have hsize : seconds / 3600 * 3600 + seconds / 60 % 60 * 60 + seconds % 60 = seconds := by omega
  by_cases hshort : seconds % 60 = 0 ∧ micro = 0
  · refine ⟨{ parts := [seconds / 3600, seconds / 60 % 60], ends := true }, ?_, rfl, ?_⟩
    · simpa [sizeText, hshort] using clock?_minutes hhour hminute
    · rw [hshort.1] at hsize
      rw [hshort.2] at hwhole ⊢
      exact Clocked.size_eq hsize hwhole
  · refine ⟨{ parts := [seconds / 3600, seconds / 60 % 60, seconds % 60], micro, ends := true }, ?_,
      rfl, ?_⟩
    · simpa [sizeText, hshort] using clock?_seconds hhour hminute hsecond hmicro
    · exact Clocked.size_eq hsize hwhole

theorem not_isZoneMark_clock {hour minute second micro : Nat} {c : Char}
    (h : c ∈ (padded 2 hour).toList ++ ':' :: ((padded 2 minute).toList ++ ':' ::
      ((padded 2 second).toList ++ (fractionText micro).toList))) : isZoneMark c = false := by
  simp only [List.mem_append, List.mem_cons] at h
  rcases h with h | rfl | h | rfl | h | h
  · exact not_isZoneMark_of_mem_padded h
  · rfl
  · exact not_isZoneMark_of_mem_padded h
  · rfl
  · exact not_isZoneMark_of_mem_padded h
  · exact not_isZoneMark_fractionText h

/-- The offset begins at the first sign or letter for it. -/
theorem span_zone {rest : List Char} (hcs : ∀ c ∈ cs, isZoneMark c = false)
    (hrest : ∀ c ∈ rest.head?, isZoneMark c = true) :
    (cs ++ rest).takeWhile (fun c => !isZoneMark c) = cs ∧
      (cs ++ rest).dropWhile (fun c => !isZoneMark c) = rest := by
  have hfree : ∀ c ∈ cs, (!isZoneMark c) = true := by
    intro c hc
    rw [hcs c hc]
    rfl
  rw [List.takeWhile_append_of_pos hfree, List.dropWhile_append_of_pos hfree]
  cases rest with
  | nil => exact ⟨List.append_nil cs, rfl⟩
  | cons c rest =>
    have hc : isZoneMark c = true := hrest c rfl
    simp [hc]

theorem time?_none {clock : Clocked} (hcs : ∀ c ∈ cs, isZoneMark c = false)
    (hclock : clock? cs = some clock) (hends : clock.ends = true) :
    time? cs = some (clock, none) := by
  obtain ⟨htake, hdrop⟩ := span_zone hcs (show ∀ c ∈ ([] : List Char).head?, isZoneMark c = true from nofun)
  rw [List.append_nil] at htake hdrop
  simp [time?, htake, hdrop, hclock, hends]

theorem isZoneMark_head_offsetText (offset : Int) :
    ∀ c ∈ (offsetText offset).toList.head?, isZoneMark c = true := by
  by_cases hnegative : offset < 0
  · simp [offsetText, hnegative, isZoneMark]
  · simp [offsetText, hnegative, isZoneMark]

/-- A time of day that was written is read up to the offset, and that behind it. -/
theorem time?_offset {clock : Clocked} (hcs : ∀ c ∈ cs, isZoneMark c = false)
    (hclock : clock? cs = some clock) (hoffset : isOffset offset = true) :
    time? (cs ++ (offsetText offset).toList) = some (clock, some offset) := by
  obtain ⟨hday, hwhole⟩ := isOffset_iff.1 hoffset
  have hseconds : offset.natAbs / microsPerSecond < 86400 := Nat.div_lt_of_lt_mul hday
  have hmicro : offset.natAbs % microsPerSecond < 1000000 := Nat.mod_lt _ (by decide)
  have hsize : 0 < offset.natAbs / microsPerSecond ∨ offset.natAbs % microsPerSecond = 0 := by
    rcases hwhole with rfl | hwhole
    · exact Or.inr rfl
    · exact Or.inl (Nat.div_pos hwhole (by decide))
  obtain ⟨zone, hzone, hends, hsize⟩ := clock?_sizeText hseconds hmicro hsize
  rw [Nat.div_add_mod'] at hsize
  obtain ⟨htake, hdrop⟩ := span_zone hcs (isZoneMark_head_offsetText offset)
  by_cases hnegative : offset < 0
  · have htext : (offsetText offset).toList = '-' ::
        (sizeText (offset.natAbs / microsPerSecond) (offset.natAbs % microsPerSecond)).toList := by
      simp [offsetText, hnegative]
    have hvalue : -(zone.size : Int) = offset := by omega
    rw [htext] at htake hdrop ⊢
    simp [time?, htake, hdrop, hclock, hzone, hends, hvalue]
  · have htext : (offsetText offset).toList = '+' ::
        (sizeText (offset.natAbs / microsPerSecond) (offset.natAbs % microsPerSecond)).toList := by
      simp [offsetText, hnegative]
    have hvalue : (zone.size : Int) = offset := by omega
    rw [htext] at htake hdrop ⊢
    simp [time?, htake, hdrop, hclock, hzone, hends, hvalue]

end Zone

theorem daysIn_le (year month : Nat) : daysIn year month ≤ 31 := by
  unfold daysIn
  split
  · split
    · decide
    · decide
  · split
    · decide
    · decide

/-- The parts of a date and a time of day have two digits at most. -/
theorem lt_of_isValid (h : t.isValid = true) : t.year < 10000 ∧ t.month < 100 ∧ t.day < 100 ∧
    t.hour < 100 ∧ t.minute < 100 ∧ t.second < 100 ∧ t.micro < 1000000 := by
  have hdays := daysIn_le t.year t.month
  have hmicros : microsPerSecond = 1000000 := rfl
  simp only [isValid, Bool.and_eq_true, decide_eq_true_eq] at h
  omega

theorem offset_of_isValid (h : t.isValid = true) : t.offset.all isOffset = true :=
  ((Bool.and_eq_true _ _).mp h).2

/-- What is read is a point in time of the calendar. -/
theorem isValid_of_read? (h : read? s = some t) : t.isValid = true := by
  obtain ⟨count, -, h⟩ := Option.bind_eq_some_iff.1 h
  obtain ⟨date, -, h⟩ := Option.bind_eq_some_iff.1 h
  obtain ⟨whole, -, h⟩ := Option.bind_eq_some_iff.1 h
  split at h
  · next hvalid =>
    obtain rfl := Option.some.inj h
    exact hvalid
  · cases h

/-- A date with dashes is read up to the character behind it. -/
theorem date_of_text {year month day : Nat} (hyear : year < 10000) (hmonth : month < 100)
    (hday : day < 100) (c : Char) (rest : List Char) :
    let date := (padded 4 year).toList ++ '-' :: ((padded 2 month).toList ++ '-' :: (padded 2 day).toList)
    dateLength? (date ++ c :: rest) = some 10 ∧ date.length = 10 ∧
      date? date = some { year, month, day } := by
  obtain ⟨y₁, y₂, y₃, y₄, hy, hyear⟩ := padded_four hyear
  obtain ⟨m₁, m₂, hm, hmonth⟩ := padded_two hmonth
  obtain ⟨d₁, d₂, hd, hday⟩ := padded_two hday
  have hweek : m₁ ≠ 'W' := hmonth.ne rfl
  simp [hy, hm, hd, dateLength?, date?, part?, hyear, hmonth.reads, hday.reads, hweek]

/-- A point in time of the calendar is read back from what is written of it. -/
theorem read?_text_of_isValid (h : t.isValid = true) : read? t.text = some t := by
  obtain ⟨year, month, day, hour, minute, second, micro, offset⟩ := t
  obtain ⟨hyear, hmonth, hday, hhour, hminute, hsecond, hmicro⟩ := lt_of_isValid h
  have hoffset : offset.all isOffset = true := offset_of_isValid h
  let date := (padded 4 year).toList ++ '-' :: ((padded 2 month).toList ++ '-' :: (padded 2 day).toList)
  let clock := (padded 2 hour).toList ++ ':' :: ((padded 2 minute).toList ++ ':' ::
    ((padded 2 second).toList ++ (fractionText micro).toList))
  have hclock : clock? clock = some { parts := [hour, minute, second], micro, ends := true } :=
    clock?_seconds hhour hminute hsecond hmicro
  have hfree : ∀ c ∈ clock, isZoneMark c = false := fun c hc => not_isZoneMark_clock hc
  obtain ⟨zone, htext, htime⟩ : ∃ zone : List Char,
      (text { year, month, day, hour, minute, second, micro, offset }).toList =
        date ++ 'T' :: (clock ++ zone) ∧
      time? (clock ++ zone) =
        some ({ parts := [hour, minute, second], micro, ends := true }, offset) := by
    cases offset with
    | none =>
      refine ⟨[], by simp [text, date, clock], ?_⟩
      rw [List.append_nil]
      exact time?_none hfree hclock rfl
    | some offset =>
      exact ⟨(offsetText offset).toList, by simp [text, date, clock],
        time?_offset hfree hclock hoffset⟩
  obtain ⟨hlength, hten, hdate⟩ : dateLength? (date ++ 'T' :: (clock ++ zone)) = some 10 ∧
      date.length = 10 ∧ date? date = some { year, month, day } :=
    date_of_text hyear hmonth hday 'T' (clock ++ zone)
  have hon : timeOn? { year, month, day } ('T' :: (clock ++ zone)) =
      some { year, month, day, hour, minute, second, micro, offset } := by
    rw [timeOn?, htime]
    rfl
  rw [read?, htext]
  clear_value date clock
  rw [hlength, Option.bind_eq_bind, Option.bind_some, List.take_left' hten, List.drop_left' hten,
    hdate, Option.bind_eq_bind, Option.bind_some, hon]
  exact if_pos h

/-- A point in time that was read is read again from what is written of it. -/
theorem read?_text (h : read? s = some t) : read? t.text = some t :=
  read?_text_of_isValid (isValid_of_read? h)

end TaleLoom.Timestamp
