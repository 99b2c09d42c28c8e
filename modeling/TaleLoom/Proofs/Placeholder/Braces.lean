import TaleLoom.Placeholder.Token
import TaleLoom.Proofs.Inflection
import TaleLoom.Proofs.Integer
/-!
The braces of a text under modifiers. A modifier either changes the case of letters, and no letter turns
into a brace or into nothing (`Recased`), or it changes what stands around a part of the text, and no brace
stands there (`Reframed`). So modifiers leave the braces of every text as they are, in order
(`braces_inflect`).
-/

namespace TaleLoom

open Text

def Bare (cs : List Char) : Prop := ∀ c ∈ cs, isBrace c = false

instance : DecidablePred Bare := fun cs => List.decidableBAll (fun c => isBrace c = false) cs

theorem Bare.append {cs ds : List Char} (h : Bare cs) (h' : Bare ds) : Bare (cs ++ ds) := by
  intro c hc
  exact (List.mem_append.1 hc).elim (h c) (h' c)

theorem isBrace_eq_false_iff {c : Char} : isBrace c = false ↔ c ≠ '\x7b' ∧ c ≠ '\x7d' := by
  simp [isBrace]

theorem isBrace_of_isBlank {c : Char} (h : isBlank c = true) : isBrace c = false := by
  refine isBrace_eq_false_iff.2 ⟨?_, ?_⟩
  all_goals
    rintro rfl
    cases h

theorem isBrace_of_isDecimal {c : Char} (h : isDecimal c = true) : isBrace c = false := by
  refine isBrace_eq_false_iff.2 ⟨?_, ?_⟩
  all_goals
    rintro rfl
    exact absurd h (by decide)

theorem Bare.of_blanks {cs : List Char} (h : Blanks cs) : Bare cs := fun c hc => isBrace_of_isBlank (h c hc)

theorem bare_decimal (n : Int) : Bare (Number.decimal n).toList := by
  intro c hc
  rcases Number.mem_decimal hc with rfl | hdigit
  · rfl
  · exact isBrace_of_isDecimal hdigit

def braces (cs : List Char) : List Char := cs.filter isBrace

theorem braces_append (cs ds : List Char) : braces (cs ++ ds) = braces cs ++ braces ds :=
  List.filter_append cs ds

theorem braces_eq_nil_iff {cs : List Char} : braces cs = [] ↔ Bare cs := by
  simp [braces, Bare, List.filter_eq_nil_iff]

/-- A text and what letter case makes of it: braces stay, and every other character becomes one or
several that are no braces. -/
inductive Recased : List Char → List Char → Prop
  | nil : Recased [] []
  | brace {c : Char} {cs ds : List Char} : isBrace c = true → Recased cs ds →
      Recased (c :: cs) (c :: ds)
  | letter {c : Char} {letters cs ds : List Char} : isBrace c = false → letters ≠ [] →
      (∀ x ∈ letters, isBrace x = false) → Recased cs ds → Recased (c :: cs) (letters ++ ds)

namespace Recased

variable {cs cs' ds : List Char}

theorem append {ds' : List Char} (h : Recased cs ds) (h' : Recased cs' ds') :
    Recased (cs ++ cs') (ds ++ ds') := by
  induction h with
  | nil => exact h'
  | brace hc _ ih => exact .brace hc ih
  | letter hc hne hfree _ ih =>
    rw [List.cons_append, List.append_assoc]
    exact .letter hc hne hfree ih

theorem split (h : Recased (cs ++ cs') ds) :
    ∃ es es', ds = es ++ es' ∧ Recased cs es ∧ Recased cs' es' := by
  induction cs generalizing ds with
  | nil => exact ⟨[], ds, rfl, .nil, h⟩
  | cons c rest ih =>
    cases h with
    | brace hc hrest =>
      obtain ⟨es, es', rfl, hes, hes'⟩ := ih hrest
      exact ⟨c :: es, es', rfl, .brace hc hes, hes'⟩
    | @letter _ letters _ _ hc hne hfree hrest =>
      obtain ⟨es, es', rfl, hes, hes'⟩ := ih hrest
      exact ⟨letters ++ es, es', (List.append_assoc _ _ _).symm, .letter hc hne hfree hes, hes'⟩

theorem of_braces (hcs : ∀ c ∈ cs, isBrace c = true) (h : Recased cs ds) : ds = cs := by
  induction h with
  | nil => rfl
  | brace _ _ ih => rw [ih fun c hc => hcs c (List.mem_cons_of_mem _ hc)]
  | letter hc _ _ _ _ =>
    have hbrace := hcs _ List.mem_cons_self
    rw [hc] at hbrace
    cases hbrace

theorem free (hcs : ∀ c ∈ cs, isBrace c = false) (h : Recased cs ds) :
    (∀ c ∈ ds, isBrace c = false) ∧ (cs ≠ [] → ds ≠ []) := by
  induction h with
  | nil => exact ⟨hcs, id⟩
  | brace hc _ _ =>
    have hfree := hcs _ List.mem_cons_self
    rw [hc] at hfree
    cases hfree
  | letter _ hne hfree _ ih =>
    refine ⟨fun c hc => ?_, fun _ => List.append_ne_nil_of_left_ne_nil hne _⟩
    rcases List.mem_append.1 hc with hc | hc
    · exact hfree c hc
    · exact (ih fun c hc => hcs c (List.mem_cons_of_mem _ hc)).1 c hc

/-- Letter case leaves the braces as they are. -/
theorem braces_eq (h : Recased cs ds) : braces ds = braces cs := by
  induction h with
  | nil => rfl
  | brace hc _ ih =>
    rw [braces, braces, List.filter_cons_of_pos hc, List.filter_cons_of_pos hc, ← braces, ih, braces]
  | @letter c letters cs ds hc _ hfree _ ih =>
    have hletters : braces letters = [] := braces_eq_nil_iff.2 hfree
    have hnone : ¬ isBrace c = true := by simp [hc]
    rw [braces_append, hletters, List.nil_append, ih, braces, braces, List.filter_cons_of_neg hnone]

end Recased

inductive Reframed : List Char → List Char → Prop
  | intro (part : List Char) {front back front' back' : List Char} : Bare front → Bare back →
      Bare front' → Bare back' → Reframed (front ++ (part ++ back)) (front' ++ (part ++ back'))

theorem Reframed.braces_eq {cs ds : List Char} (h : Reframed cs ds) : braces ds = braces cs := by
  cases h with
  | intro part hfront hback hfront' hback' =>
    simp only [braces_append, braces_eq_nil_iff.2 hfront, braces_eq_nil_iff.2 hback,
      braces_eq_nil_iff.2 hfront', braces_eq_nil_iff.2 hback']

section Letters

theorem isBrace_of_large {c : Char} (h : 128 ≤ c.toNat) : isBrace c = false := by
  refine isBrace_eq_false_iff.2 ⟨?_, ?_⟩
  all_goals
    rintro rfl
    exact absurd h (by decide)

theorem isBrace_ofNat {n : Nat} (h : n < 123 ∨ 125 < n) : isBrace (Char.ofNat n) = false := by
  have hkept : (Char.ofNat n).toNat = n ∨ (Char.ofNat n).toNat = 0 := by
    by_cases hvalid : n.isValidChar
    · have hchar : Char.ofNat n = Char.ofNatAux n hvalid := dif_pos hvalid
      exact Or.inl (hchar ▸ rfl)
    · have hchar : Char.ofNat n = ⟨0, by decide⟩ := dif_neg hvalid
      exact Or.inr (hchar ▸ rfl)
  refine isBrace_eq_false_iff.2 ⟨fun hchar => ?_, fun hchar => ?_⟩
  all_goals
    simp only [hchar, Char.reduceToNat] at hkept
    omega

structure Braceless (runs : List CaseRun) (expansions : List (Nat × List Nat)) : Prop where
  runs : ∀ run ∈ runs, (run.last : Int) + run.shift < 123 ∨ 125 < (run.first : Int) + run.shift
  expansions : ∀ entry ∈ expansions, entry.2 ≠ [] ∧ ∀ n ∈ entry.2, n < 123 ∨ 125 < n

theorem braceless_lower : Braceless lowerRuns lowerExpansions :=
  ⟨by decide +kernel, by decide +kernel⟩

theorem braceless_upper : Braceless upperRuns upperExpansions :=
  ⟨by decide +kernel, by decide +kernel⟩

theorem free_mapLetter {runs : List CaseRun} {expansions : List (Nat × List Nat)}
    (h : Braceless runs expansions) {c : Char} (hc : 128 ≤ c.toNat) :
    mapLetter runs expansions c ≠ [] ∧ ∀ x ∈ mapLetter runs expansions c, isBrace x = false := by
  unfold mapLetter
  split
  · next ns hlookup =>
    obtain ⟨before, behind, heq, -⟩ := List.lookup_eq_some_iff.1 hlookup
    obtain ⟨hne, hfree⟩ := h.expansions (c.toNat, ns) (heq ▸ List.mem_append_right _ List.mem_cons_self)
    refine ⟨by simpa using hne, fun x hx => ?_⟩
    obtain ⟨n, hn, rfl⟩ := List.mem_map.1 hx
    exact isBrace_ofNat (hfree n hn)
  · split
    · next n himage =>
      obtain ⟨run, hrun, hn⟩ := List.exists_of_findSome?_eq_some himage
      unfold CaseRun.image? at hn
      split at hn
      · next hin =>
        obtain rfl := Option.some.inj hn
        simp only [Bool.and_eq_true, decide_eq_true_eq] at hin
        have hshift := h.runs run hrun
        refine ⟨List.cons_ne_nil _ _, List.forall_mem_singleton.2 (isBrace_ofNat ?_)⟩
        omega
      · cases hn
    · exact ⟨List.cons_ne_nil _ _, List.forall_mem_singleton.2 (isBrace_of_large hc)⟩

theorem isBrace_ascii {f : Char → Char} (h : ∀ n < 128, isBrace (f (Char.ofNat n)) = isBrace (Char.ofNat n))
    {c : Char} (hc : c.toNat < 128) : isBrace (f c) = isBrace c := by
  have hn := h c.toNat hc
  rwa [Char.ofNat_toNat] at hn

theorem free_upperLetter {c : Char} (h : isBrace c = false) :
    upperLetter c ≠ [] ∧ ∀ x ∈ upperLetter c, isBrace x = false := by
  unfold upperLetter
  split
  · next hc =>
    have hsame := isBrace_ascii (f := Char.toUpper) (by decide +kernel) hc
    exact ⟨List.cons_ne_nil _ _, List.forall_mem_singleton.2 (hsame.trans h)⟩
  · next hc => exact free_mapLetter braceless_upper (Nat.le_of_not_lt hc)

theorem free_lowerLetter {c : Char} (h : isBrace c = false) :
    lowerLetter c ≠ [] ∧ ∀ x ∈ lowerLetter c, isBrace x = false := by
  unfold lowerLetter
  split
  · next hc =>
    have hsame := isBrace_ascii (f := Char.toLower) (by decide +kernel) hc
    exact ⟨List.cons_ne_nil _ _, List.forall_mem_singleton.2 (hsame.trans h)⟩
  · next hc => exact free_mapLetter braceless_lower (Nat.le_of_not_lt hc)

theorem letter_of_isBrace {c : Char} (h : isBrace c = true) :
    upperLetter c = [c] ∧ lowerLetter c = [c] ∧ c ≠ 'Σ' := by
  have hchar : c = '\x7b' ∨ c = '\x7d' := by simpa [isBrace] using h
  rcases hchar with rfl | rfl <;> decide +kernel

theorem recased_upper (cs : List Char) : Recased cs (cs.flatMap upperLetter) := by
  induction cs with
  | nil => exact .nil
  | cons c rest ih =>
    rw [List.flatMap_cons]
    cases hc : isBrace c with
    | true =>
      rw [(letter_of_isBrace hc).1]
      exact .brace hc ih
    | false =>
      obtain ⟨hne, hfree⟩ := free_upperLetter hc
      exact .letter hc hne hfree ih

theorem recased_lower (inWord : Bool) (cs : List Char) : Recased cs (lowerAfter inWord cs) := by
  induction cs generalizing inWord with
  | nil => exact .nil
  | cons c rest ih =>
    rw [lowerAfter]
    cases hc : isBrace c with
    | true =>
      obtain ⟨-, hlower, hsigma⟩ := letter_of_isBrace hc
      simp only [hsigma, if_false, hlower]
      exact .brace hc (ih _)
    | false =>
      split
      · refine @Recased.letter c [_] _ _ hc (List.cons_ne_nil _ _)
          (List.forall_mem_singleton.2 ?_) (ih _)
        split <;> decide +kernel
      · obtain ⟨hne, hfree⟩ := free_lowerLetter hc
        exact .letter hc hne hfree (ih _)

end Letters

namespace Modifier

/-- A word gets another ending. -/
theorem reframed_of_trim {cs part ending letters : List Char} (h : trim cs = part ++ ending)
    (hending : Bare ending) (hletters : Bare letters) : Reframed cs (part ++ letters) := by
  obtain ⟨front, back, hfront, hback, hcs⟩ := exists_trimmed cs
  have hparts : cs = front ++ (part ++ (ending ++ back)) := by
    rw [h, List.append_assoc] at hcs
    exact hcs
  rw [hparts]
  have hnone : Bare [] := by decide
  exact .intro part (.of_blanks hfront) (hending.append (.of_blanks hback)) hnone hletters

theorem reframed_pluralized (cs : List Char) : Reframed cs (pluralized cs) := by
  have hplural := pluralOf_pluralized cs
  generalize hword : trim cs = word, pluralized cs = plural at hplural ⊢
  have hkept : trim cs = word ++ [] := by rw [hword, List.append_nil]
  cases hplural with
  | sibilant hmem hsuffix => exact reframed_of_trim hkept (by decide) (by decide)
  | consonantY hstem => exact reframed_of_trim hword (by decide) (by decide)
  | f stem => exact reframed_of_trim hword (by decide) (by decide)
  | fe stem => exact reframed_of_trim hword (by decide) (by decide)
  | plain hsibilants hfe => exact reframed_of_trim hkept (by decide) (by decide)

theorem reframed_singularized (cs : List Char) : Reframed cs (singularized cs) := by
  unfold singularized
  generalize hword : trim cs = word
  dsimp only
  have htake {part ending : List Char} (hlength : ending.length = 3) :
      (part ++ ending).take ((part ++ ending).length - 3) = part := by
    rw [List.length_append, hlength, Nat.add_sub_cancel, List.take_left]
  split
  · next hies =>
    obtain ⟨part, rfl⟩ := endsIn_singleton_iff.1 hies
    rw [htake rfl]
    exact reframed_of_trim hword (by decide) (by decide)
  split
  · next hves =>
    obtain ⟨part, rfl⟩ := endsIn_singleton_iff.1 hves
    rw [htake rfl]
    exact reframed_of_trim hword (by decide) (by decide)
  split
  · next hsibilant =>
    have hplurals : ∀ plural ∈ sibilantPlurals, ['e', 's'] <:+ plural := by decide
    obtain ⟨plural, hmem, hsuffix⟩ := endsIn_iff.1 hsibilant
    obtain ⟨part, rfl⟩ := (hplurals plural hmem).trans hsuffix
    have hdrop : (part ++ ['e', 's']).dropLast.dropLast = part ++ [] := by simp
    rw [hdrop]
    exact reframed_of_trim hword (by decide) (by decide)
  split
  · next hs =>
    obtain ⟨part, rfl⟩ := endsIn_singleton_iff.1 (Bool.and_eq_true_iff.1 hs).1
    have hdrop : (part ++ ['s']).dropLast = part ++ [] := by simp
    rw [hdrop]
    exact reframed_of_trim hword (by decide) (by decide)
  · have hkept : trim cs = word ++ [] := by rw [hword, List.append_nil]
    exact List.append_nil word ▸ reframed_of_trim hkept (by decide) (by decide)

/-- Every modifier changes the case of letters, or what stands around a part of the text. -/
theorem recased_or_reframed (modifier : Modifier) (cs : List Char) :
    Recased cs (modifier.apply cs) ∨ Reframed cs (modifier.apply cs) := by
  have hfront (letters : List Char) (hletters : Bare letters) : Reframed cs (letters ++ cs) := by
    have hnone : Bare [] := by decide
    have hframed := Reframed.intro cs hnone hnone hletters hnone
    rwa [List.nil_append, List.append_nil] at hframed
  cases modifier with
  | capitalize =>
    have hparts := (recased_upper (cs.take 1)).append (recased_lower false (cs.drop 1))
    rw [List.take_append_drop] at hparts
    exact Or.inl hparts
  | uppercase => exact Or.inl (recased_upper cs)
  | lowercase => exact Or.inl (recased_lower false cs)
  | plural => exact Or.inr (reframed_pluralized cs)
  | singular => exact Or.inr (reframed_singularized cs)
  | indefinite =>
    refine Or.inr (hfront _ ?_)
    split <;> decide
  | definite => exact Or.inr (hfront ['t', 'h', 'e', ' '] (by decide))

theorem braces_applyNamed (cs : List Char) (name : String) : braces (applyNamed cs name) = braces cs := by
  unfold applyNamed
  split
  · next modifier _ => exact (modifier.recased_or_reframed cs).elim Recased.braces_eq Reframed.braces_eq
  · rfl

end Modifier

/-- Modifiers leave the braces of a text as they are. -/
theorem braces_inflect (text : String) (names : List String) :
    braces (inflect text names).toList = braces text.toList := by
  rw [inflect, String.toList_ofList]
  generalize text.toList = cs
  induction names generalizing cs with
  | nil => rfl
  | cons name rest ih => rw [List.foldl_cons, ih, Modifier.braces_applyNamed]

/-- Modifiers put no brace into a text. -/
theorem bare_inflect {text : String} (h : Bare text.toList) (names : List String) :
    Bare (inflect text names).toList := by
  rw [← braces_eq_nil_iff, braces_inflect, braces_eq_nil_iff]
  exact h

end TaleLoom
