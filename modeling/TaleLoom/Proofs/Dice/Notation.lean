import TaleLoom.Proofs.Dice.Totals
import TaleLoom.Proofs.Text
/-!
How dice are written. `Formula.Spells` says which texts have the form of a formula and what their parts
are, and cutting a text into parts follows it exactly (`Formula.parts?_eq_some_iff`). So a text is read
exactly where it writes a formula within the limits, and what it writes is rolled with exactly its dice
(`Formula.notation_exact`).
-/

namespace TaleLoom

open Text Number

namespace Formula

/-- A text says what is added to the dice: nothing, or a sign and digits with white space between. -/
inductive SpellsModifier : List Char → Option (Bool × List Char) → Prop
  | none : SpellsModifier [] none
  | signed {sign : Char} {blanks digits : List Char} :
      sign = '+' ∨ sign = '-' → Blanks blanks → digits ≠ [] → Digits digits →
      SpellsModifier (sign :: (blanks ++ digits)) (some (sign = '-', digits))

/-- A text has the form of a formula with these parts: digits or none for the number of dice, the
letter, digits for the sides and what is added, with white space around each of them. -/
inductive Spells : List Char → Parts → Prop
  | intro {before count afterCount afterLetter sides afterSides tail behind : List Char} {letter : Char}
      {modifier : Option (Bool × List Char)} :
      Blanks before → Digits count → Blanks afterCount → letter = 'd' ∨ letter = 'D' →
      Blanks afterLetter → sides ≠ [] → Digits sides → Blanks afterSides →
      SpellsModifier tail modifier → Blanks behind →
      Spells (before ++ (count ++ (afterCount ++ letter :: (afterLetter ++ (sides ++ (afterSides ++
        (tail ++ behind))))))) ⟨count, sides, modifier⟩

section Cutting

theorem blank_or_digit_of_sign {sign : Char} (h : sign = '+' ∨ sign = '-') :
    isBlank sign = false ∧ isDecimal sign = false := by
  rcases h with rfl | rfl <;> decide

theorem blank_or_digit_of_letter {letter : Char} (h : letter = 'd' ∨ letter = 'D') :
    isBlank letter = false ∧ isDecimal letter = false := by
  rcases h with rfl | rfl <;> decide

/-- After a row of white space stands no digit, and after a row of digits no white space is cut off. -/
theorem head_of_blanks {blanks rest : List Char} {p : Char → Bool} (hblanks : Blanks blanks)
    (hp : ∀ c, isBlank c = true → p c = false) (hrest : ∀ c ∈ rest.head?, p c = false) :
    ∀ c ∈ (blanks ++ rest).head?, p c = false := by
  cases blanks with
  | nil => exact hrest
  | cons blank blanks =>
    intro c hc
    obtain rfl : blank = c := Option.some.inj hc
    exact hp blank (hblanks blank List.mem_cons_self)

theorem head_of_digits {digits rest : List Char} (hne : digits ≠ []) (hdigits : Digits digits) :
    ∀ c ∈ (digits ++ rest).head?, isBlank c = false := by
  obtain ⟨digit, digits, rfl⟩ := List.exists_cons_of_ne_nil hne
  intro c hc
  obtain rfl : digit = c := Option.some.inj hc
  exact isBlank_of_isDecimal (hdigits digit List.mem_cons_self)

/-- What is added is read from its text, whatever white space follows. -/
theorem modifierPart?_of_spells {tail behind blanks : List Char} {modifier : Option (Bool × List Char)}
    (h : SpellsModifier tail modifier) (hblanks : Blanks blanks) (hbehind : Blanks behind) :
    modifierPart? (trimStart (blanks ++ (tail ++ behind))) = some modifier := by
  cases h with
  | none =>
    have hall : Blanks (blanks ++ ([] ++ behind)) := by
      intro c hc
      rw [List.nil_append, List.mem_append] at hc
      exact hc.elim (hblanks c) (hbehind c)
    rw [trimStart_blanks hall]
    rfl
  | @signed sign between digits hsign hbetween hne hdigits =>
    have hstart : trimStart (blanks ++ (sign :: (between ++ digits) ++ behind)) =
        sign :: (between ++ (digits ++ behind)) := by
      rw [List.cons_append, List.append_assoc]
      apply trimStart_append hblanks
      intro c hc
      obtain rfl : sign = c := Option.some.inj hc
      exact (blank_or_digit_of_sign hsign).1
    have hbody : trimStart (between ++ (digits ++ behind)) = digits ++ behind :=
      trimStart_append hbetween (head_of_digits hne hdigits)
    have hnone : ∀ c ∈ ([] : List Char).head?, isDecimal c = false := by simp
    have hbehind' : ∀ c ∈ behind.head?, isDecimal c = false := by
      have hhead := head_of_blanks (p := isDecimal) hbehind (fun c => isDecimal_of_isBlank) hnone
      rwa [List.append_nil] at hhead
    obtain ⟨htake, hdrop⟩ := span_append hdigits hbehind'
    have hfilled : (!digits.isEmpty && (trimStart behind).isEmpty) = true := by
      rw [trimStart_blanks hbehind, List.isEmpty_eq_false_iff.2 hne]
      rfl
    have hsigned : (decide (sign = '+') || decide (sign = '-')) = true := by simpa using hsign
    simp only [hstart, modifierPart?, hsigned, if_true, hbody, htake, hdrop, hfilled]

/-- What is read as added to the dice is spelled so, and nothing but white space follows. -/
theorem spells_of_modifierPart? {cs : List Char} {modifier : Option (Bool × List Char)}
    (h : modifierPart? cs = some modifier) :
    ∃ tail behind, cs = tail ++ behind ∧ SpellsModifier tail modifier ∧ Blanks behind := by
  cases cs with
  | nil =>
    obtain rfl := Option.some.inj h
    exact ⟨[], [], rfl, .none, List.forall_mem_nil _⟩
  | cons sign rest =>
    simp only [modifierPart?] at h
    split at h
    · next hsign =>
      split at h
      · next hfilled =>
        obtain rfl := Option.some.inj h
        simp only [Bool.and_eq_true, Bool.not_eq_true', List.isEmpty_eq_false_iff,
          List.isEmpty_iff] at hfilled
        obtain ⟨between, hbetween, hrest⟩ := exists_blanks rest
        refine ⟨sign :: (between ++ (trimStart rest).takeWhile isDecimal),
          (trimStart rest).dropWhile isDecimal, ?_, ?_, blanks_of_trimStart hfilled.2⟩
        · rw [List.cons_append, List.append_assoc, List.takeWhile_append_dropWhile, ← hrest]
        · exact .signed (by simpa using hsign) hbetween hfilled.1 (digits_takeWhile _)
      · cases h
    · cases h

/-- In front of the letter the number of dice is cut off, and the white space on both its sides. -/
theorem count_cut {before count afterCount : List Char} {letter : Char} (hbefore : Blanks before)
    (hcount : Digits count) (hafterCount : Blanks afterCount) (hletter : letter = 'd' ∨ letter = 'D')
    (rest : List Char) :
    (trimStart (before ++ (count ++ (afterCount ++ letter :: rest)))).takeWhile isDecimal = count ∧
      trimStart ((trimStart (before ++ (count ++ (afterCount ++ letter :: rest)))).dropWhile
        isDecimal) = letter :: rest := by
  obtain ⟨hnotBlank, hnotDigit⟩ := blank_or_digit_of_letter hletter
  have hblank : ∀ c ∈ (letter :: rest).head?, isBlank c = false := by simpa using hnotBlank
  have hdigit : ∀ c ∈ (letter :: rest).head?, isDecimal c = false := by simpa using hnotDigit
  by_cases hne : count = []
  · -- no number stands between the two rows of white space, which are cut off together
    subst hne
    have hblanks : Blanks (before ++ afterCount) := by
      intro c hc
      exact (List.mem_append.1 hc).elim (hbefore c) (hafterCount c)
    have hstart : trimStart (before ++ ([] ++ (afterCount ++ letter :: rest))) = letter :: rest := by
      rw [List.nil_append, ← List.append_assoc]
      exact trimStart_append hblanks hblank
    obtain ⟨htake, hdrop⟩ := span_append (List.forall_mem_nil _) hdigit
    rw [List.nil_append] at htake hdrop
    rw [hstart, htake, hdrop]
    exact ⟨rfl, trimStart_append (List.forall_mem_nil _) hblank⟩
  · have hstart : trimStart (before ++ (count ++ (afterCount ++ letter :: rest))) =
        count ++ (afterCount ++ letter :: rest) :=
      trimStart_append hbefore (head_of_digits hne hcount)
    obtain ⟨htake, hdrop⟩ := span_append hcount
      (head_of_blanks hafterCount (fun _ => isDecimal_of_isBlank) hdigit)
    rw [hstart, htake, hdrop]
    exact ⟨rfl, trimStart_append hafterCount hblank⟩

/-- After the letter the sides are cut off, and what is left is read as what is added. -/
theorem sides_cut {afterLetter sides afterSides tail behind : List Char}
    {modifier : Option (Bool × List Char)} (hafterLetter : Blanks afterLetter) (hne : sides ≠ [])
    (hsides : Digits sides) (hafterSides : Blanks afterSides) (hspells : SpellsModifier tail modifier)
    (hbehind : Blanks behind) :
    let body := trimStart (afterLetter ++ (sides ++ (afterSides ++ (tail ++ behind))))
    body.takeWhile isDecimal = sides ∧
      modifierPart? (trimStart (body.dropWhile isDecimal)) = some modifier := by
  have hstart : trimStart (afterLetter ++ (sides ++ (afterSides ++ (tail ++ behind)))) =
      sides ++ (afterSides ++ (tail ++ behind)) :=
    trimStart_append hafterLetter (head_of_digits hne hsides)
  have hnone : ∀ c ∈ ([] : List Char).head?, isDecimal c = false := by simp
  have htail : ∀ c ∈ (tail ++ behind).head?, isDecimal c = false := by
    cases hspells with
    | none =>
      have hhead := head_of_blanks hbehind (fun _ => isDecimal_of_isBlank) hnone
      rwa [List.append_nil] at hhead
    | signed hsign _ _ _ =>
      intro c hc
      obtain rfl := Option.some.inj hc
      exact (blank_or_digit_of_sign hsign).2
  obtain ⟨htake, hdrop⟩ := span_append hsides
    (head_of_blanks hafterSides (fun _ => isDecimal_of_isBlank) htail)
  simp only [hstart, htake, hdrop, true_and]
  exact modifierPart?_of_spells hspells hafterSides hbehind

/-- A text is cut into parts exactly where it has the form of a formula with these parts. -/
theorem parts?_eq_some_iff {cs : List Char} {parts : Parts} :
    parts? cs = some parts ↔ Spells cs parts := by
  constructor
  · intro h
    obtain ⟨before, hbefore, hcs⟩ := exists_blanks cs
    obtain ⟨afterCount, hafterCount, hrest⟩ := exists_blanks ((trimStart cs).dropWhile isDecimal)
    simp only [parts?] at h
    generalize hletter : trimStart ((trimStart cs).dropWhile isDecimal) = body at h hrest
    unfold sidesPart? at h
    split at h
    · cases h
    · next letter rest =>
      split at h
      · next hd =>
        simp only at h
        split at h
        · cases h
        · next hsides =>
          obtain ⟨modifier, hmodifier, rfl⟩ := Option.map_eq_some_iff.1 h
          obtain ⟨afterLetter, hafterLetter, hsidesText⟩ := exists_blanks rest
          obtain ⟨afterSides, hafterSides, htailText⟩ :=
            exists_blanks ((trimStart rest).dropWhile isDecimal)
          obtain ⟨tail, behind, htail, hspells, hbehind⟩ := spells_of_modifierPart? hmodifier
          have htext : cs = before ++ ((trimStart cs).takeWhile isDecimal ++ (afterCount ++ letter ::
              (afterLetter ++ ((trimStart rest).takeWhile isDecimal ++ (afterSides ++
                (tail ++ behind)))))) := by
            calc cs = before ++ trimStart cs := hcs
              _ = before ++ ((trimStart cs).takeWhile isDecimal ++ (afterCount ++ letter :: rest)) := by
                rw [← hrest, List.takeWhile_append_dropWhile]
              _ = _ := by
                rw [← htail, ← htailText, List.takeWhile_append_dropWhile, ← hsidesText]
          have hspelled := Spells.intro hbefore (digits_takeWhile (trimStart cs)) hafterCount
            (by simpa using hd) hafterLetter (by simpa using hsides)
            (digits_takeWhile (trimStart rest)) hafterSides hspells hbehind
          rwa [← htext] at hspelled
      · cases h
  · intro h
    cases h with
    | @intro before count afterCount afterLetter sides afterSides tail behind letter modifier hbefore
        hcount hafterCount hletter hafterLetter hne hsides hafterSides hspells hbehind =>
      obtain ⟨hcountCut, hletterCut⟩ := count_cut hbefore hcount hafterCount hletter
        (afterLetter ++ (sides ++ (afterSides ++ (tail ++ behind))))
      obtain ⟨hsidesCut, htailCut⟩ := sides_cut hafterLetter hne hsides hafterSides hspells hbehind
      have hd : (decide (letter = 'd') || decide (letter = 'D')) = true := by simpa using hletter
      simp only [parts?, hcountCut, hletterCut, sidesPart?, hd, if_true, hsidesCut,
        List.isEmpty_eq_false_iff.2 hne, Bool.false_eq_true, if_false, htailCut, Option.map_some]

end Cutting

section Reading

def Parts.formula (parts : Parts) : Formula where
  count := if parts.count.isEmpty then 1 else digitsValue parts.count
  sides := digitsValue parts.sides
  modifier := match parts.modifier with
    | none => 0
    | some (negative, digits) => if negative then -(digitsValue digits : Int) else digitsValue digits

/-- A text writes a formula that is within the limits. -/
structure Writes (cs : List Char) (f : Formula) : Prop where
  spelled : ∃ parts, Spells cs parts ∧ parts.formula = f
  count : 1 ≤ f.count ∧ f.count ≤ 1000
  sides : 1 ≤ f.sides ∧ f.sides ≤ 1000000

def ShortRuns (cs : List Char) : Prop :=
  ∀ run, run <:+: cs → Digits run → run.length ≤ digitLimit

theorem ofParts_eq {parts : Parts} (h : ¬ parts.HasLongNumber) : ofParts parts = .ok parts.formula := by
  obtain ⟨hcount, hsides, hmodifier⟩ : ¬ digitLimit < parts.count.length ∧
      ¬ digitLimit < parts.sides.length ∧ ∀ negative digits,
        parts.modifier = some (negative, digits) → ¬ digitLimit < digits.length := by
    simpa [Parts.HasLongNumber] using h
  have hcountOf : countOf parts = .ok parts.formula.count := by
    unfold countOf Parts.formula
    split
    · rfl
    · exact number_ok hcount
  have hmodifierOf : modifierOf parts = .ok parts.formula.modifier := by
    unfold modifierOf Parts.formula
    cases hsigned : parts.modifier with
    | none => rfl
    | some signed =>
      simp only [number_ok (hmodifier signed.1 signed.2 hsigned)]
      rfl
  simp only [ofParts, hcountOf, number_ok hsides, hmodifierOf]
  rfl

/-- The numbers of a formula are rows of digits in its text. -/
theorem not_hasLongNumber_of_spells {cs : List Char} {parts : Parts} (h : Spells cs parts)
    (hruns : ShortRuns cs) : ¬ parts.HasLongNumber := by
  cases h with
  | @intro before count afterCount afterLetter sides afterSides tail behind letter modifier _ hcount _ _ _
      _ hsides _ hspells _ =>
    rintro (hlong | hlong | ⟨negative, digits, hmodifier, hlong⟩)
    · exact Nat.not_le_of_lt hlong (hruns count ⟨before, _, List.append_assoc ..⟩ hcount)
    · refine Nat.not_le_of_lt hlong (hruns sides ⟨before ++ (count ++ (afterCount ++ letter ::
        afterLetter)), afterSides ++ (tail ++ behind), ?_⟩ hsides)
      simp only [List.append_assoc, List.cons_append]
    · cases hspells with
      | none => cases hmodifier
      | @signed sign blanks digits _ _ _ hdigits =>
        cases hmodifier
        refine Nat.not_le_of_lt hlong (hruns digits ⟨before ++ (count ++ (afterCount ++ letter ::
          (afterLetter ++ (sides ++ (afterSides ++ sign :: blanks))))), behind, ?_⟩ hdigits)
        simp only [List.append_assoc, List.cons_append]

theorem checked_iff (written : Value) (f g : Formula) :
    checked written f = .ok g ↔
      f = g ∧ (1 ≤ f.count ∧ f.count ≤ 1000) ∧ 1 ≤ f.sides ∧ f.sides ≤ 1000000 := by
  unfold checked maxCount maxSides
  simp only [Bool.or_eq_true, decide_eq_true_eq]
  split
  · simp; omega
  · split
    · simp; omega
    · simp; omega

/-- A text is read as a formula exactly where it writes one. -/
theorem ofText_iff {s : String} (hruns : ShortRuns s.toList) (written : Value) (f : Formula) :
    ofText written s = .ok f ↔ Writes s.toList f := by
  constructor
  · intro h
    unfold ofText at h
    split at h
    · cases h
    · next parts hparts =>
      have hspells := parts?_eq_some_iff.1 hparts
      rw [ofParts_eq (not_hasLongNumber_of_spells hspells hruns)] at h
      obtain ⟨hf, hcount, hsides⟩ := (checked_iff written _ f).1 h
      rw [hf] at hcount hsides
      exact ⟨⟨parts, hspells, hf⟩, hcount, hsides⟩
  · rintro ⟨⟨parts, hspells, rfl⟩, hcount, hsides⟩
    unfold ofText
    rw [parts?_eq_some_iff.2 hspells]
    simp only [ofParts_eq (not_hasLongNumber_of_spells hspells hruns)]
    exact (checked_iff written _ _).2 ⟨rfl, hcount, hsides⟩

/-- A text that is not read is refused as a formula. -/
theorem ofText_refused {s : String} (hruns : ShortRuns s.toList) {written : Value}
    (h : ∀ f, ofText written s ≠ .ok f) : ∃ why, ofText written s = .error (.dice written why) := by
  rcases ofText_cases written s with ⟨⟨f, hf⟩ | hwhy, -⟩ | ⟨-, parts, hparts, hlong⟩
  · exact absurd hf (h f)
  · exact hwhy
  · exact absurd hlong (not_hasLongNumber_of_spells (parts?_eq_some_iff.1 hparts) hruns)

end Reading

/-- A text whose rows of digits are short is read exactly where it writes a formula, as that formula,
and is refused as a formula elsewhere. What it writes is rolled with so many dice, each showing one of
its sides, and with their sum and the modifier as the total; the totals of all rolls are the numbers
between the bounds. -/
theorem notation_exact {s : String} (hruns : ShortRuns s.toList) :
    (∀ f, ofValue (.text s) = .ok f ↔ Writes s.toList f) ∧
      ((∀ f, ¬ Writes s.toList f) → ∃ why, ofValue (.text s) = .error (.dice (.text s) why)) ∧
      ∀ f, Writes s.toList f →
        (∀ reason desk, ∃ roll after, Desk.roll (.text s) reason desk = .ok roll after ∧
          roll.faces.length = f.count ∧ (∀ face ∈ roll.faces, 1 ≤ face ∧ face ≤ f.sides) ∧
          roll.modifier = f.modifier ∧
          roll.total = roll.faces.foldr (· + ·) 0 + f.modifier) ∧
        ∃ low high, bounds (.text s) = .ok (low, high) ∧ low = f.count + f.modifier ∧
          high = f.count * f.sides + f.modifier ∧
          ∀ reason (desk : Desk) total, (∃ source roll after,
            Desk.roll (.text s) reason { desk with source } = .ok roll after ∧ roll.total = total) ↔
              low ≤ total ∧ total ≤ high := by
  have hread (f : Formula) : ofValue (.text s) = .ok f ↔ Writes s.toList f :=
    ofText_iff hruns (.text s) f
  refine ⟨hread, ?refused, ?rolled⟩
  case refused =>
    intro hnone
    exact ofText_refused hruns fun f hf => hnone f ((hread f).1 hf)
  case rolled =>
    intro f hwrites
    have hvalue : ofValue (.text s) = .ok f := (hread f).2 hwrites
    constructor
    · intro reason desk
      have hshows := shows_faces hwrites.sides.1 desk.source
      exact ⟨_, _, Desk.run_roll_ok hvalue reason desk, hshows.count, hshows.sides, rfl, rfl⟩
    · refine ⟨f.least, f.greatest, by rw [bounds, hvalue]; rfl, rfl, rfl, ?_⟩
      intro reason desk total
      rw [← exists_totalOn_iff hwrites.sides.1]
      constructor
      · rintro ⟨source, roll, after, hroll, rfl⟩
        rw [Desk.run_roll_ok hvalue] at hroll
        cases hroll
        exact ⟨source, rfl⟩
      · rintro ⟨source, rfl⟩
        exact ⟨source, _, _, Desk.run_roll_ok hvalue reason _, rfl⟩

/-- Leading zeros and white space are read, and two dice less one come to one at the least. -/
theorem notation_exact_spaced :
    ShortRuns " 02 D 6 - 1 ".toList ∧ Writes " 02 D 6 - 1 ".toList ⟨2, 6, -1⟩ ∧
      ∀ reason (desk : Desk), ∃ source roll after,
        Desk.roll (.text " 02 D 6 - 1 ") reason { desk with source } = .ok roll after ∧
          roll.total = 1 := by
  have hruns : ShortRuns " 02 D 6 - 1 ".toList := by
    intro run hrun _
    exact Nat.le_trans hrun.length_le (by decide)
  obtain ⟨hread, -, hrolled⟩ := notation_exact hruns
  have hvalue : ofValue (.text " 02 D 6 - 1 ") = .ok ⟨2, 6, -1⟩ := rfl
  have hwrites := (hread _).1 hvalue
  obtain ⟨-, low, high, hbounds, rfl, rfl, htotals⟩ := hrolled _ hwrites
  exact ⟨hruns, hwrites, fun reason desk => (htotals reason desk 1).2 (by decide)⟩

end Formula

end TaleLoom
