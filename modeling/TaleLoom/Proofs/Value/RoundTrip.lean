import TaleLoom.Proofs.Keyed
import TaleLoom.Value.Reader
import TaleLoom.Value.Writer
/-!
What is written is read back: texts, truth values, whole numbers that are not too long, and lists and
objects of what is read back, whatever they are indented by. The length of the text is allowance enough.
-/

namespace TaleLoom.Value

open Number

section Texts

theorem hexValue?_digitChar {k : Nat} (h : k < 16) : hexValue? (Nat.digitChar k) = some k := by
  have hall : ∀ k : Fin 16, hexValue? (Nat.digitChar k) = some k.val := by decide
  exact hall ⟨k, h⟩

/-- A code unit has four digits in base sixteen. -/
theorem unitEscape_eq {n : Nat} (h : n < 0x10000) :
    unitEscape n = ['\\', 'u', Nat.digitChar (n / 4096), Nat.digitChar (n / 256 % 16),
      Nat.digitChar (n / 16 % 16), Nat.digitChar (n % 16)] := by
  have hzero : Nat.digitChar 0 = '0' := rfl
  have hone {k : Nat} (hk : k < 16) : Nat.toDigits 16 k = [Nat.digitChar k] :=
    Nat.toDigits_of_lt_base hk
  have hmore {k : Nat} (hk : 16 ≤ k) :
      Nat.toDigits 16 k = Nat.toDigits 16 (k / 16) ++ [Nat.digitChar (k % 16)] :=
    Nat.toDigits_of_base_le (by decide) hk
  have hpair : n / 16 / 16 = n / 256 := by omega
  have htriple : n / 256 / 16 = n / 4096 := by omega
  unfold unitEscape
  by_cases h1 : n < 16
  · have e1 : n / 4096 = 0 := by omega
    have e2 : n / 256 = 0 := by omega
    have e3 : n / 16 = 0 := by omega
    simp [hone h1, e1, e2, e3, hzero, Nat.mod_eq_of_lt h1]
  · rw [hmore (by omega)]
    by_cases h2 : n / 16 < 16
    · have e1 : n / 4096 = 0 := by omega
      have e2 : n / 256 = 0 := by omega
      simp [hone h2, e1, e2, hzero, Nat.mod_eq_of_lt h2]
    · rw [hmore (by omega), hpair]
      by_cases h3 : n / 256 < 16
      · have e1 : n / 4096 = 0 := by omega
        simp [hone h3, e1, hzero, Nat.mod_eq_of_lt h3]
      · have h4 : n / 4096 < 16 := by omega
        rw [hmore (by omega), htriple]
        simp [hone h4]

theorem codeUnit?_digits {n : Nat} (h : n < 0x10000) :
    codeUnit? (Nat.digitChar (n / 4096)) (Nat.digitChar (n / 256 % 16))
      (Nat.digitChar (n / 16 % 16)) (Nat.digitChar (n % 16)) = some n := by
  have h1 : n / 4096 < 16 := by omega
  have h2 : n / 256 % 16 < 16 := by omega
  have h3 : n / 16 % 16 < 16 := by omega
  have h4 : n % 16 < 16 := by omega
  simp only [codeUnit?, hexValue?_digitChar h1, hexValue?_digitChar h2, hexValue?_digitChar h3,
    hexValue?_digitChar h4, Option.bind_eq_bind, Option.bind_some, Option.pure_def]
  congr 1
  omega

/-- A code unit that opens no surrogate pair is read as its character, whatever follows. -/
theorem readText_unit {a b c d : Char} {n : Nat} (hcode : codeUnit? a b c d = some n)
    (h : ¬ (0xD800 ≤ n ∧ n < 0xDC00)) (seen rest : List Char) :
    readText seen ('\\' :: 'u' :: a :: b :: c :: d :: rest) = readText (unitChar n :: seen) rest := by
  -- the reader looks ahead for the second half of a pair
  by_cases hnext : ∃ e f g h rest', rest = '\\' :: 'u' :: e :: f :: g :: h :: rest'
  · obtain ⟨e, f, g, k, rest', rfl⟩ := hnext
    rw [readText]
    simp [hcode, h]
  · rw [readText]
    · simp [hcode]
    · intro e f g k rest' hrest
      exact hnext ⟨e, f, g, k, rest', hrest⟩

/-- Two halves of a surrogate pair are read as one character. -/
theorem readText_pair {a b c d e f g k : Char} {n m : Nat} (hn : codeUnit? a b c d = some n)
    (hm : codeUnit? e f g k = some m) (h : 0xD800 ≤ n ∧ n < 0xDC00) (h' : 0xDC00 ≤ m ∧ m < 0xE000)
    (seen rest : List Char) :
    readText seen ('\\' :: 'u' :: a :: b :: c :: d :: '\\' :: 'u' :: e :: f :: g :: k :: rest) =
      readText (Char.ofNat (0x10000 + (n - 0xD800) * 0x400 + (m - 0xDC00)) :: seen) rest := by
  rw [readText]
  simp [hn, hm, h, h']

theorem readText_plain {c : Char} (hquote : c ≠ '"') (hslash : c ≠ '\\') (hprint : 32 ≤ c.toNat)
    (seen rest : List Char) : readText seen (c :: rest) = readText (c :: seen) rest := by
  rw [readText.eq_def]
  split
  · next heq => cases heq
  · next heq => exact absurd (List.cons.inj heq).1 hquote
  · next heq => exact absurd (List.cons.inj heq).1 hslash
  · next heq => exact absurd (List.cons.inj heq).1 hslash
  · next heq => exact absurd (List.cons.inj heq).1 hslash
  · next heq =>
    obtain ⟨rfl, rfl⟩ := List.cons.inj heq
    rw [if_neg (by omega)]

/-- No character is half of a surrogate pair. -/
theorem toNat_cases (c : Char) : c.toNat < 0xD800 ∨ 0xE000 ≤ c.toNat ∧ c.toNat < 0x110000 := by
  have hvalid : c.toNat.isValidChar := c.valid
  simp only [Nat.isValidChar] at hvalid
  omega

theorem unitChar_toNat (c : Char) : unitChar c.toNat = c := by
  have hc := toNat_cases c
  have hnot : ¬ (0xD800 ≤ c.toNat && c.toNat < 0xE000) = true := by
    simp only [Bool.and_eq_true, decide_eq_true_eq]
    omega
  rw [unitChar, if_neg hnot, Char.ofNat_toNat]

/-- A character is read back from how it is written. -/
theorem readText_escapeChar (c : Char) (seen rest : List Char) :
    readText seen (escapeChar c ++ rest) = readText (c :: seen) rest := by
  have hc := toNat_cases c
  unfold escapeChar
  dsimp only
  split
  · next h => subst h; rfl
  split
  · next h => subst h; rfl
  split
  · next h => subst h; rfl
  split
  · next h => subst h; rfl
  split
  · next h => subst h; rfl
  split
  · next h =>
    obtain rfl : c = Char.ofNat 8 := by rw [← h, Char.ofNat_toNat]
    rfl
  split
  · next h =>
    obtain rfl : c = Char.ofNat 12 := by rw [← h, Char.ofNat_toNat]
    rfl
  split
  · next hquote hslash _ _ _ _ _ h =>
    simp only [Bool.and_eq_true, decide_eq_true_eq] at h
    exact readText_plain hquote hslash h.1 seen rest
  split
  · next h =>
    rw [unitEscape_eq h]
    simp only [List.cons_append, List.nil_append]
    rw [readText_unit (codeUnit?_digits h) (by omega), unitChar_toNat]
  · next h =>
    have hhigh : 0xD800 + (c.toNat - 0x10000) / 0x400 < 0x10000 := by omega
    have hlow : 0xDC00 + (c.toNat - 0x10000) % 0x400 < 0x10000 := by omega
    rw [unitEscape_eq hhigh, unitEscape_eq hlow]
    simp only [List.cons_append, List.nil_append]
    rw [readText_pair (codeUnit?_digits hhigh) (codeUnit?_digits hlow) (by omega) (by omega)]
    have hsum : 0x10000 + (0xD800 + (c.toNat - 0x10000) / 0x400 - 0xD800) * 0x400 +
        (0xDC00 + (c.toNat - 0x10000) % 0x400 - 0xDC00) = c.toNat := by omega
    rw [hsum, Char.ofNat_toNat]

theorem readText_flatMap (cs seen rest : List Char) :
    readText seen (cs.flatMap escapeChar ++ '"' :: rest) =
      .ok (String.ofList (seen.reverse ++ cs), rest) := by
  induction cs generalizing seen with
  | nil => simp [readText]
  | cons c cs ih =>
    rw [List.flatMap_cons, List.append_assoc, readText_escapeChar, ih]
    simp

/-- A text is read back from how it is written. -/
theorem readText_writeText (s : String) (rest : List Char) :
    ∃ body, (writeText s).toList = '"' :: body ∧ readText [] (body ++ rest) = .ok (s, rest) := by
  refine ⟨s.toList.flatMap escapeChar ++ ['"'], by simp [writeText], ?_⟩
  rw [List.append_assoc, List.singleton_append, readText_flatMap]
  simp

end Texts

section Layout

def Blank (cs : List Char) : Prop := ∀ c ∈ cs, isSpace c = true

theorem skipSpace_blank {blank : List Char} (h : Blank blank) (cs : List Char) :
    skipSpace (blank ++ cs) = skipSpace cs := by
  induction blank with
  | nil => rfl
  | cons c blank ih =>
    obtain ⟨hc, hrest⟩ := List.forall_mem_cons.1 h
    rw [List.cons_append, skipSpace, List.dropWhile_cons_of_pos hc]
    exact ih hrest

theorem blank_lineBreak (indent : Option Nat) (depth : Nat) :
    Blank (lineBreak indent depth).toList := by
  cases indent with
  | none => simp [Blank, lineBreak]
  | some width =>
    intro c hc
    simp only [lineBreak, String.toList_append, String.toList_ofList, List.mem_append,
      List.mem_replicate] at hc
    rcases hc with hc | ⟨-, rfl⟩
    · have hnewline : c = '\n' := by simpa using hc
      subst hnewline
      rfl
    · rfl

/-- Two items are parted by a comma and white space. -/
theorem separator_eq (indent : Option Nat) (depth : Nat) :
    ∃ blank, (separator indent depth).toList = ',' :: blank ∧ Blank blank := by
  cases indent with
  | none => exact ⟨[' '], by simp [separator], by simp [Blank, isSpace]⟩
  | some width => exact ⟨_, by simp [separator], blank_lineBreak (some width) depth⟩

def Delimited (cs : List Char) : Prop :=
  ∀ c ∈ cs.head?, isSpace c = true ∨ c = ',' ∨ c = ']' ∨ c = '\x7d'

@[simp] theorem delimited_nil : Delimited [] := by simp [Delimited]

theorem delimited_cons {c : Char} (h : isSpace c = true ∨ c = ',' ∨ c = ']' ∨ c = '\x7d')
    (cs : List Char) : Delimited (c :: cs) := by
  simpa [Delimited] using h

theorem Blank.delimited_append {blank cs : List Char} (h : Blank blank) (hcs : Delimited cs) :
    Delimited (blank ++ cs) := by
  cases blank with
  | nil => exact hcs
  | cons c blank => exact delimited_cons (Or.inl (h c List.mem_cons_self)) _

theorem intercalate_cons {α : Type} (sep x : List α) (xs : List (List α)) :
    sep.intercalate (x :: xs) = x ++ xs.flatMap (sep ++ ·) := by
  induction xs generalizing x with
  | nil => simp [List.intercalate]
  | cons y ys ih =>
    have h := ih y
    simp only [List.intercalate] at h ⊢
    simp [List.intersperse, h]

end Layout

section Nesting

mutual

def nesting : Value → Nat
  | list vs => nestingItems vs + 1
  | object fields => nestingFields fields + 1
  | _ => 0

def nestingItems : List Value → Nat
  | [] => 0
  | v :: vs => max v.nesting (nestingItems vs)

def nestingFields : List (String × Value) → Nat
  | [] => 0
  | (_, v) :: fields => max v.nesting (nestingFields fields)

end

theorem nestingItems_le_iff {room : Nat} {vs : List Value} :
    nestingItems vs ≤ room ↔ ∀ v ∈ vs, v.nesting ≤ room := by
  induction vs with
  | nil => simp [nestingItems]
  | cons v vs ih => simp only [nestingItems, Nat.max_le, ih, List.forall_mem_cons]

theorem nestingFields_le_iff {room : Nat} {fields : List (String × Value)} :
    nestingFields fields ≤ room ↔ ∀ field ∈ fields, field.2.nesting ≤ room := by
  induction fields with
  | nil => simp [nestingFields]
  | cons field fields ih => simp only [nestingFields, Nat.max_le, ih, List.forall_mem_cons]

theorem nesting_list_le_iff {room : Nat} {vs : List Value} :
    (list vs).nesting ≤ room ↔ ∃ inner, room = inner + 1 ∧ ∀ v ∈ vs, v.nesting ≤ inner := by
  cases room with
  | zero => simp [nesting]
  | succ inner => simp [nesting, nestingItems_le_iff]

theorem nesting_object_le_iff {room : Nat} {fields : List (String × Value)} :
    (object fields).nesting ≤ room ↔
      ∃ inner, room = inner + 1 ∧ ∀ field ∈ fields, field.2.nesting ≤ inner := by
  cases room with
  | zero => simp [nesting]
  | succ inner => simp [nesting, nestingFields_le_iff]

end Nesting

section Documents

variable {indent : Option Nat} {depth : Nat}

/-- A value is read back from how it is written, wherever it stands in a document that has room for
it. -/
structure ReadsBack (v : Value) : Prop where
  starts : ∀ indent depth, ∃ c cs, (writeAt indent depth v).toList = c :: cs ∧ isSpace c = false ∧
    c ≠ ']'
  reads : ∀ indent depth allowance room rest, (writeAt indent depth v).toList.length ≤ allowance →
    v.nesting ≤ room → Delimited rest →
      readValue allowance room ((writeAt indent depth v).toList ++ rest) = .ok (v, rest)

theorem ReadsBack.skipSpace {v : Value} (h : v.ReadsBack) (indent : Option Nat) (depth : Nat)
    (rest : List Char) : Value.skipSpace ((writeAt indent depth v).toList ++ rest) =
      (writeAt indent depth v).toList ++ rest := by
  obtain ⟨c, cs, heq, hspace, -⟩ := h.starts indent depth
  rw [heq, List.cons_append, Value.skipSpace, List.dropWhile_cons_of_neg (by simp [hspace])]

/-- What starts with no brace and no bracket is neither an object nor a list. -/
theorem readValue_simple {c : Char} (hbrace : c ≠ '\x7b') (hbracket : c ≠ '[') (allowance room : Nat)
    (cs : List Char) : readValue (allowance + 1) room (c :: cs) = readSimple (c :: cs) := by
  rw [readValue.eq_def]
  dsimp only
  split
  · next heq => exact absurd (List.cons.inj heq).1 hbrace
  · next heq => exact absurd (List.cons.inj heq).1 hbracket
  · rfl

theorem readsBack_null : null.ReadsBack where
  starts indent depth := ⟨'n', ['u', 'l', 'l'], by rw [writeAt]; rfl, rfl, by decide⟩
  reads indent depth allowance room rest h _ _ := by
    have hnull : (writeAt indent depth null).toList = ['n', 'u', 'l', 'l'] := by
      rw [writeAt]
      rfl
    rw [hnull] at h ⊢
    cases allowance with
    | zero => simp at h
    | succ allowance => exact readValue_simple (by decide) (by decide) _ _ _

theorem readsBack_bool (b : Bool) : (bool b).ReadsBack where
  starts indent depth := by
    cases b with
    | false => exact ⟨'f', ['a', 'l', 's', 'e'], by rw [writeAt]; rfl, rfl, by decide⟩
    | true => exact ⟨'t', ['r', 'u', 'e'], by rw [writeAt]; rfl, rfl, by decide⟩
  reads indent depth allowance room rest h _ _ := by
    have hbool : (writeAt indent depth (bool b)).toList =
        if b then ['t', 'r', 'u', 'e'] else ['f', 'a', 'l', 's', 'e'] := by
      rw [writeAt]
      cases b <;> rfl
    rw [hbool] at h ⊢
    cases b
    all_goals
      cases allowance with
      | zero => simp at h
      | succ allowance =>
        exact readValue_simple (by decide) (by decide) _ _ _

theorem readsBack_text (s : String) : (text s).ReadsBack where
  starts indent depth := by
    obtain ⟨body, hbody, -⟩ := readText_writeText s []
    exact ⟨'"', body, by rw [writeAt, hbody], rfl, by decide⟩
  reads indent depth allowance room rest h _ _ := by
    obtain ⟨body, hbody, hread⟩ := readText_writeText s rest
    rw [writeAt, hbody] at h ⊢
    cases allowance with
    | zero => simp at h
    | succ allowance =>
      rw [List.cons_append, readValue_simple (by decide) (by decide), readSimple]
      simp only [hread]
      rfl

theorem writeItems_eq (vs : List Value) :
    writeItems indent depth vs = vs.map (writeAt indent depth) := by
  induction vs with
  | nil => rfl
  | cons v vs ih => rw [writeItems, ih, List.map_cons]

def writeField (indent : Option Nat) (depth : Nat) (field : String × Value) : String :=
  writeText field.1 ++ ": " ++ writeAt indent depth field.2

theorem writeFields_eq (fields : List (String × Value)) :
    writeFields indent depth fields = fields.map (writeField indent depth) := by
  induction fields with
  | nil => rfl
  | cons field fields ih =>
    obtain ⟨key, v⟩ := field
    rw [writeFields, ih, List.map_cons, writeField]

def following {α : Type} (sep : List Char) (write : α → String) (xs : List α) : List Char :=
  xs.flatMap fun x => sep ++ (write x).toList

theorem toList_intercalate_cons {α : Type} (sep : String) (write : α → String) (x : α) (xs : List α) :
    (sep.intercalate (write x :: xs.map write)).toList =
      (write x).toList ++ following sep.toList write xs := by
  rw [String.toList_intercalate, List.map_cons, intercalate_cons, List.map_map, List.flatMap_map]
  rfl

theorem readItems_following (indent : Option Nat) (depth : Nat) {room : Nat} {v : Value}
    {vs : List Value} (h : ∀ w ∈ v :: vs, w.ReadsBack) (hroom : ∀ w ∈ v :: vs, w.nesting ≤ room)
    {sep blank blank' : List Char} (hsep : sep = ',' :: blank) (hblank : Blank blank)
    (hblank' : Blank blank') (allowance : Nat) (seen : List Value) (rest : List Char)
    (hlength : ((writeAt indent depth v).toList ++
      following sep (writeAt indent depth) vs).length < allowance) :
    readItems allowance room seen ((writeAt indent depth v).toList ++
        (following sep (writeAt indent depth) vs ++ (blank' ++ ']' :: rest))) =
      .ok (list (seen.reverse ++ v :: vs), rest) := by
  induction vs generalizing v allowance seen with
  | nil =>
    obtain ⟨hv, -⟩ := List.forall_mem_cons.1 h
    have hdeep := hroom v List.mem_cons_self
    cases allowance with
    | zero => omega
    | succ allowance =>
      simp only [following, List.flatMap_nil, List.append_nil] at hlength
      have hend : Delimited (blank' ++ ']' :: rest) :=
        hblank'.delimited_append (delimited_cons (by simp) rest)
      simp only [following, List.flatMap_nil, List.nil_append]
      rw [readItems, hv.reads indent depth allowance room _ (by omega) hdeep hend]
      simp only [skipSpace_blank hblank']
      rw [show skipSpace (']' :: rest) = ']' :: rest from rfl]
      simp
  | cons w ws ih =>
    obtain ⟨hv, hrest⟩ := List.forall_mem_cons.1 h
    obtain ⟨hdeep, hrestDeep⟩ := List.forall_mem_cons.1 hroom
    have hw := hrest w List.mem_cons_self
    cases allowance with
    | zero => omega
    | succ allowance =>
      have hfollow : following sep (writeAt indent depth) (w :: ws) = ',' :: (blank ++
          ((writeAt indent depth w).toList ++ following sep (writeAt indent depth) ws)) := by
        simp [following, hsep]
      rw [hfollow] at hlength ⊢
      simp only [List.length_append, List.length_cons] at hlength
      simp only [List.cons_append, List.append_assoc]
      rw [readItems,
        hv.reads indent depth allowance room _ (by omega) hdeep (delimited_cons (by simp) _)]
      have hcomma (cs : List Char) : skipSpace (',' :: cs) = ',' :: cs := rfl
      simp only [hcomma, skipSpace_blank hblank, hw.skipSpace]
      rw [ih hrest hrestDeep allowance (v :: seen) (by simp only [List.length_append]; omega)]
      simp

theorem readsBack_list {vs : List Value} (h : ∀ v ∈ vs, v.ReadsBack) : (list vs).ReadsBack where
  starts indent depth := by
    cases vs with
    | nil => exact ⟨'[', [']'], by simp [writeAt], rfl, by decide⟩
    | cons v vs =>
      obtain ⟨cs, hcs⟩ : ∃ cs, (writeAt indent depth (list (v :: vs))).toList = '[' :: cs := by
        simp [writeAt]
      exact ⟨'[', cs, hcs, rfl, by decide⟩
  reads indent depth allowance room rest hlength hroom _ := by
    obtain ⟨inner, rfl, hdeep⟩ := nesting_list_le_iff.1 hroom
    cases allowance with
    | zero =>
      cases vs <;> simp [writeAt] at hlength
    | succ allowance =>
      cases vs with
      | nil => simp [writeAt, readValue, skipSpace, isSpace]
      | cons v vs =>
        obtain ⟨blank, hsep, hblank⟩ := separator_eq indent (depth + 1)
        obtain ⟨c, cs, hstarts, -, hc⟩ := (h v List.mem_cons_self).starts indent (depth + 1)
        have hwrite : (writeAt indent depth (list (v :: vs))).toList =
            '[' :: ((lineBreak indent (depth + 1)).toList ++
              ((writeAt indent (depth + 1) v).toList ++
                (following (',' :: blank) (writeAt indent (depth + 1)) vs ++
                  ((lineBreak indent depth).toList ++ [']'])))) := by
          rw [writeAt, writeItems_eq]
          simp only [String.toList_append, toList_intercalate_cons, hsep]
          simp
        rw [hwrite] at hlength ⊢
        simp only [List.length_append, List.length_cons] at hlength
        have hitems := readItems_following indent (depth + 1) h hdeep rfl hblank
          (blank_lineBreak indent depth) allowance [] rest
          (by simp only [List.length_append]; omega)
        have hskip (tail : List Char) : skipSpace ((lineBreak indent (depth + 1)).toList ++
            ((writeAt indent (depth + 1) v).toList ++ tail)) =
              (writeAt indent (depth + 1) v).toList ++ tail := by
          rw [skipSpace_blank (blank_lineBreak _ _), (h v List.mem_cons_self).skipSpace]
        simp only [List.cons_append, List.append_assoc, List.nil_append, readValue, hskip]
        -- the reader first looks for an end right after the bracket, and finds the first item
        split
        · next heq =>
          rw [hstarts] at heq
          exact absurd (List.cons.inj heq).1 hc
        · simpa using hitems

theorem readsBack_texts (ss : List String) : (list (ss.map text)).ReadsBack := by
  apply readsBack_list
  simp [readsBack_text]

theorem writeField_toList (indent : Option Nat) (depth : Nat) (key : String) (v : Value) :
    ∃ body, (writeField indent depth (key, v)).toList = '"' :: body ∧
      ∀ tail, readText [] (body ++ tail) =
        .ok (key, ':' :: ' ' :: ((writeAt indent depth v).toList ++ tail)) := by
  obtain ⟨text, htext, -⟩ := readText_writeText key []
  refine ⟨text ++ ':' :: ' ' :: (writeAt indent depth v).toList, ?_, fun tail => ?_⟩
  · simp [writeField, htext]
  · obtain ⟨text', htext', hread⟩ :=
      readText_writeText key (':' :: ' ' :: ((writeAt indent depth v).toList ++ tail))
    obtain rfl : text = text' := (List.cons.inj (htext.symm.trans htext')).2
    simpa using hread

/-- One field is read, and what follows it decides how the reading goes on. -/
theorem readFields_field {key : String} {v : Value} (hv : v.ReadsBack) {allowance room : Nat}
    (hroom : v.nesting ≤ room) (hlength : (writeField indent depth (key, v)).toList.length ≤ allowance)
    {seen : List (String × Value)} (hkey : key ∉ Keyed.keys seen) {tail : List Char}
    (htail : Delimited tail) :
    readFields (allowance + 1) room seen ((writeField indent depth (key, v)).toList ++ tail) =
      match skipSpace tail with
      | ',' :: rest => readFields allowance room (seen ++ [(key, v)]) (skipSpace rest)
      | '\x7d' :: rest => .ok (object (seen ++ [(key, v)]), rest)
      | _ => .error .malformed := by
  obtain ⟨body, hbody, htext⟩ := writeField_toList indent depth key v
  have hvalue : (writeAt indent depth v).toList.length ≤ allowance := by
    simp only [writeField, String.toList_append, List.length_append] at hlength
    omega
  have hcolon (cs : List Char) : skipSpace (':' :: cs) = ':' :: cs := rfl
  have hspace (cs : List Char) : skipSpace (' ' :: cs) = skipSpace cs := rfl
  rw [hbody, List.cons_append, readFields]
  simp only [htext, hcolon, hspace, hv.skipSpace,
    hv.reads indent depth allowance room tail hvalue hroom htail]
  exact Keyed.set_of_not_mem v hkey ▸ rfl

theorem readFields_following (indent : Option Nat) (depth : Nat) {room : Nat} {key : String}
    {v : Value} {fields : List (String × Value)} (h : ∀ field ∈ (key, v) :: fields, field.2.ReadsBack)
    (hroom : ∀ field ∈ (key, v) :: fields, field.2.nesting ≤ room)
    {sep blank blank' : List Char} (hsep : sep = ',' :: blank) (hblank : Blank blank)
    (hblank' : Blank blank') (allowance : Nat) (seen : List (String × Value)) (rest : List Char)
    (hkeys : (Keyed.keys (seen ++ (key, v) :: fields)).Nodup)
    (hlength : ((writeField indent depth (key, v)).toList ++
      following sep (writeField indent depth) fields).length < allowance) :
    readFields allowance room seen ((writeField indent depth (key, v)).toList ++
        (following sep (writeField indent depth) fields ++ (blank' ++ '\x7d' :: rest))) =
      .ok (object (seen ++ (key, v) :: fields), rest) := by
  induction fields generalizing key v allowance seen with
  | nil =>
    have hv : v.ReadsBack := h (key, v) List.mem_cons_self
    have hdeep : v.nesting ≤ room := hroom (key, v) List.mem_cons_self
    cases allowance with
    | zero => omega
    | succ allowance =>
      simp only [following, List.flatMap_nil, List.append_nil] at hlength
      have hend : Delimited (blank' ++ '\x7d' :: rest) :=
        hblank'.delimited_append (delimited_cons (by simp) rest)
      simp only [following, List.flatMap_nil, List.nil_append]
      rw [readFields_field hv hdeep (by omega) (Keyed.not_mem_keys_of_nodup hkeys) hend]
      simp only [skipSpace_blank hblank']
      rfl
  | cons field fields ih =>
    have hv : v.ReadsBack := h (key, v) List.mem_cons_self
    have hrest := (List.forall_mem_cons.1 h).2
    have hdeep : v.nesting ≤ room := hroom (key, v) List.mem_cons_self
    have hrestDeep := (List.forall_mem_cons.1 hroom).2
    obtain ⟨key', w⟩ := field
    cases allowance with
    | zero => omega
    | succ allowance =>
      have hfollow : following sep (writeField indent depth) ((key', w) :: fields) = ',' :: (blank ++
          ((writeField indent depth (key', w)).toList ++
            following sep (writeField indent depth) fields)) := by
        simp [following, hsep]
      rw [hfollow] at hlength ⊢
      simp only [List.length_append, List.length_cons] at hlength
      simp only [List.cons_append, List.append_assoc]
      rw [readFields_field hv hdeep (by omega) (Keyed.not_mem_keys_of_nodup hkeys)
        (delimited_cons (by simp) _)]
      obtain ⟨body, hbody, -⟩ := writeField_toList indent depth key' w
      have hquote (cs : List Char) : skipSpace ((writeField indent depth (key', w)).toList ++ cs) =
          (writeField indent depth (key', w)).toList ++ cs := by
        rw [hbody]
        rfl
      have hcomma (cs : List Char) : skipSpace (',' :: cs) = ',' :: cs := rfl
      simp only [hcomma, skipSpace_blank hblank, hquote]
      rw [ih hrest hrestDeep allowance (seen ++ [(key, v)]) (by simpa using hkeys)
        (by simp only [List.length_append]; omega)]
      simp

theorem readsBack_object {fields : List (String × Value)} (hkeys : (Keyed.keys fields).Nodup)
    (h : ∀ field ∈ fields, field.2.ReadsBack) : (object fields).ReadsBack where
  starts indent depth := by
    cases fields with
    | nil => exact ⟨'\x7b', ['\x7d'], by simp [writeAt], rfl, by decide⟩
    | cons field fields =>
      obtain ⟨cs, hcs⟩ : ∃ cs, (writeAt indent depth (object (field :: fields))).toList =
          '\x7b' :: cs := by
        simp [writeAt]
      exact ⟨'\x7b', cs, hcs, rfl, by decide⟩
  reads indent depth allowance room rest hlength hroom _ := by
    obtain ⟨inner, rfl, hdeep⟩ := nesting_object_le_iff.1 hroom
    cases allowance with
    | zero =>
      cases fields <;> simp [writeAt] at hlength
    | succ allowance =>
      cases fields with
      | nil => simp [writeAt, readValue, skipSpace, isSpace]
      | cons field fields =>
        obtain ⟨key, v⟩ := field
        obtain ⟨blank, hsep, hblank⟩ := separator_eq indent (depth + 1)
        obtain ⟨body, hbody, -⟩ := writeField_toList indent (depth + 1) key v
        have hwrite : (writeAt indent depth (object ((key, v) :: fields))).toList =
            '\x7b' :: ((lineBreak indent (depth + 1)).toList ++
              ((writeField indent (depth + 1) (key, v)).toList ++
                (following (',' :: blank) (writeField indent (depth + 1)) fields ++
                  ((lineBreak indent depth).toList ++ ['\x7d'])))) := by
          rw [writeAt, writeFields_eq, show writeText key ++ ": " ++ writeAt indent (depth + 1) v =
            writeField indent (depth + 1) (key, v) from rfl]
          simp only [String.toList_append, toList_intercalate_cons, hsep]
          simp
        rw [hwrite] at hlength ⊢
        simp only [List.length_append, List.length_cons] at hlength
        have hfields := readFields_following indent (depth + 1) h hdeep rfl hblank
          (blank_lineBreak indent depth) allowance [] rest hkeys
          (by simp only [List.length_append]; omega)
        have hskip (tail : List Char) : skipSpace ((lineBreak indent (depth + 1)).toList ++
            ((writeField indent (depth + 1) (key, v)).toList ++ tail)) =
              '"' :: (body ++ tail) := by
          rw [skipSpace_blank (blank_lineBreak _ _), hbody]
          rfl
        rw [hbody] at hfields
        simp only [List.cons_append, List.nil_append] at hfields
        simp only [List.cons_append, List.append_assoc, List.nil_append, readValue, hskip]
        exact hfields

/-- A document is read back from what was written, where there is room for it. -/
theorem read_write {v : Value} {room : Nat} (h : v.ReadsBack) (hroom : v.nesting ≤ room) :
    read room v.write = .ok v := by
  have hstart := h.skipSpace (some 2) 0 []
  have hread := h.reads (some 2) 0 (2 * (writeAt (some 2) 0 v).toList.length + 1) room [] (by omega)
    hroom delimited_nil
  rw [List.append_nil] at hstart hread
  simp only [read, write, writeLines, hstart, hread]
  rfl

end Documents

section Objects

theorem readItems_list {allowance room : Nat} {seen : List Value} {cs rest : List Char} {v : Value}
    (h : readItems allowance room seen cs = .ok (v, rest)) : ∃ items, v = list items := by
  induction allowance generalizing seen cs with
  | zero => cases h
  | succ allowance ih =>
    rw [readItems] at h
    split at h
    · cases h
    · split at h
      · exact ih h
      · cases h
        exact ⟨_, rfl⟩
      · cases h

theorem readNumber_ne_object {negative : Bool} {cs rest : List Char} {fields : List (String × Value)} :
    readNumber negative cs ≠ .ok (object fields, rest) := by
  intro h
  unfold readNumber at h
  dsimp only at h
  split at h
  all_goals
    split at h
    · cases h
    · split at h
      · split at h
        · cases h
        · cases h
      · cases h

/-- The fields of an object that is read have different names. -/
theorem nodup_readFields {allowance room : Nat} {seen : List (String × Value)} {cs rest : List Char}
    {v : Value} (h : readFields allowance room seen cs = .ok (v, rest)) (hseen : (Keyed.keys seen).Nodup) :
    ∃ fields, v = object fields ∧ (Keyed.keys fields).Nodup := by
  induction allowance generalizing seen cs with
  | zero => cases h
  | succ allowance ih =>
    rw [readFields.eq_def] at h
    dsimp only at h
    split at h
    · split at h
      · cases h
      · split at h
        · split at h
          · cases h
          · split at h
            · exact ih h (Keyed.nodup_keys_set _ hseen)
            · cases h
              exact ⟨_, rfl, Keyed.nodup_keys_set _ hseen⟩
            · cases h
        · cases h
    · cases h

theorem readSimple_ne_object {cs rest : List Char} {fields : List (String × Value)} :
    readSimple cs ≠ .ok (object fields, rest) := by
  intro h
  rw [readSimple.eq_def] at h
  split at h
  · next rest' =>
    cases hread : readText [] rest' with
    | error fault => rw [hread] at h; cases h
    | ok found => rw [hread] at h; cases h
  · cases h
  · cases h
  · cases h
  · cases h
  · cases h
  · cases h
  · exact readNumber_ne_object h
  · exact readNumber_ne_object h

theorem nodup_readValue {allowance room : Nat} {cs rest : List Char}
    {fields : List (String × Value)} (h : readValue allowance room cs = .ok (object fields, rest)) : (Keyed.keys fields).Nodup := by
  cases allowance with
  | zero => cases h
  | succ allowance =>
    rw [readValue.eq_def] at h
    dsimp only at h
    split at h
    · split at h
      · cases h
      · split at h
        · cases h
          exact List.nodup_nil
        · obtain ⟨fields', heq, hnodup⟩ := nodup_readFields h List.nodup_nil
          cases heq
          exact hnodup
    · split at h
      · cases h
      · split at h
        · cases h
        · obtain ⟨items, heq⟩ := readItems_list h
          cases heq
    · exact absurd h readSimple_ne_object

theorem nodup_read {room : Nat} {s : String} {fields : List (String × Value)}
    (h : read room s = .ok (object fields)) : (Keyed.keys fields).Nodup := by
  simp only [read] at h
  split at h
  · cases h
  · next v rest hread =>
    split at h
    · obtain rfl : v = object fields := Except.ok.inj h
      exact nodup_readValue hread
    · cases h

end Objects

end TaleLoom.Value
