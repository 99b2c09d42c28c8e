import Mathlib.Data.List.Infix
import TaleLoom.Inflection
import TaleLoom.Proofs.Text
/-!
Plurals and singulars by their endings. `PluralOf` says how the plural of a word is spelled, one case for
each rule, and the singular of each spelling follows from its last letters. The singular of a plural is
the word again, unless the word has an ending whose plural is spelled as that of another word
(`singularized_pluralized_iff`).
-/

namespace TaleLoom.Modifier

open Text

section Endings

variable {word : List Char}

theorem endsIn_iff {endings : List (List Char)} :
    endsIn endings word = true ↔ ∃ ending ∈ endings, ending <:+ word := by
  simp [endsIn, List.isSuffixOf_iff_suffix]

theorem endsIn_eq_false_iff {endings : List (List Char)} :
    endsIn endings word = false ↔ ∀ ending ∈ endings, ¬ ending <:+ word := by
  rw [← Bool.not_eq_true, endsIn_iff]
  simp only [not_exists, not_and]

theorem endsIn_singleton_iff {ending : List Char} : endsIn [ending] word = true ↔ ending <:+ word := by
  simp [endsIn_iff]

/-- A word of two letters or more that ends in `y` has something before it. -/
theorem exists_stem_of_endsInConsonantY (h : endsInConsonantY word = true) :
    ∃ stem, stem ≠ [] ∧ word = stem ++ ['y'] := by
  unfold endsInConsonantY at h
  split at h
  · next before rest heq =>
    refine ⟨(before :: rest).reverse, by simp, ?_⟩
    rw [← List.reverse_reverse word, heq, List.reverse_cons]
  · cases h

/-- Of two endings of one word the shorter one is an ending of the other. -/
theorem endings_apart {ending other : List Char} (h : ending <:+ word) (h' : other <:+ word)
    (hapart : ¬ ending <:+ other ∧ ¬ other <:+ ending) : False :=
  (List.suffix_or_suffix_of_suffix h h').elim hapart.1 hapart.2

end Endings

/-- How the plural of a word is spelled. -/
inductive PluralOf : List Char → List Char → Prop
  | sibilant {word ending : List Char} : ending ∈ sibilants → ending <:+ word →
      PluralOf word (word ++ ['e', 's'])
  | consonantY {stem : List Char} : stem ≠ [] → PluralOf (stem ++ ['y']) (stem ++ ['i', 'e', 's'])
  | f (stem : List Char) : PluralOf (stem ++ ['f']) (stem ++ ['v', 'e', 's'])
  | fe (stem : List Char) : PluralOf (stem ++ ['f', 'e']) (stem ++ ['v', 'e', 's'])
  | plain {word : List Char} : (∀ ending ∈ sibilants, ¬ ending <:+ word) → ¬ ['f', 'e'] <:+ word →
      PluralOf word (word ++ ['s'])

/-- The plural of a text is that of the word in it. -/
theorem pluralOf_pluralized (cs : List Char) : PluralOf (trim cs) (pluralized cs) := by
  unfold pluralized
  generalize trim cs = word
  dsimp only
  split
  · next hsibilant =>
    obtain ⟨ending, hmem, hsuffix⟩ := endsIn_iff.1 hsibilant
    exact .sibilant hmem hsuffix
  next hsibilant =>
  split
  · next hy =>
    obtain ⟨stem, hstem, rfl⟩ := exists_stem_of_endsInConsonantY hy
    rw [List.dropLast_concat]
    exact .consonantY hstem
  split
  · next hf =>
    obtain ⟨stem, rfl⟩ := endsIn_singleton_iff.1 hf
    rw [List.dropLast_concat]
    exact .f stem
  split
  · next hfe =>
    obtain ⟨stem, rfl⟩ := endsIn_singleton_iff.1 hfe
    have hstem : (stem ++ ['f', 'e']).dropLast.dropLast = stem := by simp
    rw [hstem]
    exact .fe stem
  · next hfe =>
    refine .plain (fun ending hmem hsuffix => ?_) (mt endsIn_singleton_iff.2 hfe)
    exact hsibilant (endsIn_iff.2 ⟨ending, hmem, hsuffix⟩)

/-- A plural has no white space at its ends. -/
theorem PluralOf.trim_eq {word plural : List Char} (h : PluralOf word plural)
    (hword : ∀ c ∈ word.head?, isBlank c = false) : trim plural = plural := by
  have hfront (front rest letters : List Char) (hhead : ∀ c ∈ (front ++ rest).head?, isBlank c = false)
      (hsome : letters ≠ []) (hall : letters.all (!isBlank ·) = true) :
      trim (front ++ letters) = front ++ letters := by
    have hletters : ∀ c ∈ letters, isBlank c = false := by simpa using hall
    apply trim_of_ends
    · cases front with
      | nil => exact fun c hc => hletters c (List.mem_of_mem_head? hc)
      | cons first front => exact hhead
    · rw [List.getLast?_append_of_ne_nil _ hsome]
      exact fun c hc => hletters c (List.mem_of_getLast? hc)
  cases h with
  | sibilant hmem hsuffix =>
    exact hfront word [] _ (by rwa [List.append_nil]) (List.cons_ne_nil _ _) (by decide)
  | consonantY hstem => exact hfront _ _ _ hword (List.cons_ne_nil _ _) (by decide)
  | f stem => exact hfront _ _ _ hword (List.cons_ne_nil _ _) (by decide)
  | fe stem => exact hfront _ _ _ hword (List.cons_ne_nil _ _) (by decide)
  | plain hsibilants hfe =>
    exact hfront word [] _ (by rwa [List.append_nil]) (List.cons_ne_nil _ _) (by decide)

section Singulars

variable {stem word : List Char}

theorem singularized_ies (h : trim (stem ++ ['i', 'e', 's']) = stem ++ ['i', 'e', 's']) :
    singularized (stem ++ ['i', 'e', 's']) = stem ++ ['y'] := by
  have hies := endsIn_singleton_iff.2 (List.suffix_append stem ['i', 'e', 's'])
  simp only [singularized, h, hies, if_true]
  simp

theorem singularized_ves (h : trim (stem ++ ['v', 'e', 's']) = stem ++ ['v', 'e', 's']) :
    singularized (stem ++ ['v', 'e', 's']) = stem ++ ['f'] := by
  have hves := List.suffix_append stem ['v', 'e', 's']
  have hies : endsIn [['i', 'e', 's']] (stem ++ ['v', 'e', 's']) = false := by
    refine endsIn_eq_false_iff.2 (List.forall_mem_singleton.2 fun hies => ?_)
    exact endings_apart hies hves (by decide)
  simp only [singularized, h, hies, endsIn_singleton_iff.2 hves, Bool.false_eq_true, if_false, if_true]
  simp

/-- What ends in a sibilant before the plural's letters loses these two. -/
theorem singularized_sibilant {ending : List Char} (hmem : ending ∈ sibilants) (hsuffix : ending <:+ word)
    (h : trim (word ++ ['e', 's']) = word ++ ['e', 's']) :
    singularized (word ++ ['e', 's']) = word := by
  have hplural : ending ++ ['e', 's'] <:+ word ++ ['e', 's'] := List.suffix_append_self_iff.2 hsuffix
  have hsibilant : endsIn sibilantPlurals (word ++ ['e', 's']) = true := by
    have hplurals : sibilantPlurals = sibilants.map (· ++ ['e', 's']) := rfl
    rw [endsIn_iff, hplurals]
    exact ⟨_, List.mem_map_of_mem hmem, hplural⟩
  have hother (other : List Char) (hapart : ∀ ending ∈ sibilants,
      ¬ other <:+ ending ++ ['e', 's'] ∧ ¬ ending ++ ['e', 's'] <:+ other) :
      endsIn [other] (word ++ ['e', 's']) = false := by
    refine endsIn_eq_false_iff.2 (List.forall_mem_singleton.2 fun hends => ?_)
    exact endings_apart hends hplural (hapart ending hmem)
  have hies := hother ['i', 'e', 's'] (by decide)
  have hves := hother ['v', 'e', 's'] (by decide)
  simp only [singularized, h, hies, hves, hsibilant, Bool.false_eq_true, if_false, if_true]
  simp

end Singulars

/-- Endings of words whose plurals are spelled as those of other words are. -/
def sharedEndings : List (List Char) :=
  [['f', 'e'], ['i', 'e'], ['v', 'e'], ['s', 'e'], ['x', 'e'], ['z', 'e'], ['c', 'h', 'e'],
    ['s', 'h', 'e']]

section Shared

variable {word : List Char}

/-- A plural in `s` that no other word has loses the `s` again. -/
theorem singularized_s (hshared : ∀ ending ∈ sharedEndings, ¬ ending <:+ word) (hs : ¬ ['s'] <:+ word)
    (h : trim (word ++ ['s']) = word ++ ['s']) : singularized (word ++ ['s']) = word := by
  have hother (endings : List (List Char))
      (hendings : ∀ ending ∈ endings, ∃ shared ∈ sharedEndings, ending = shared ++ ['s']) :
      endsIn endings (word ++ ['s']) = false := by
    refine endsIn_eq_false_iff.2 fun ending hending hsuffix => ?_
    obtain ⟨shared, hmem, rfl⟩ := hendings ending hending
    exact hshared shared hmem (List.suffix_append_self_iff.1 hsuffix)
  have hies := hother [['i', 'e', 's']] (by decide)
  have hves := hother [['v', 'e', 's']] (by decide)
  have hsibilant := hother sibilantPlurals (by decide)
  have hsingle := endsIn_singleton_iff.2 (List.suffix_append word ['s'])
  have hdouble : endsIn [['s', 's']] (word ++ ['s']) = false := by
    refine endsIn_eq_false_iff.2 (List.forall_mem_singleton.2 fun hsuffix => hs ?_)
    exact List.suffix_append_self_iff.1 (show ['s'] ++ ['s'] <:+ word ++ ['s'] from hsuffix)
  simp only [singularized, h, hies, hves, hsibilant, hsingle, hdouble, Bool.false_eq_true, if_false,
    Bool.not_false, Bool.and_self, if_true, List.dropLast_concat]

/-- A plural in `s` that another word has becomes the other word. -/
theorem singularized_shared {ending : List Char} (hmem : ending ∈ sharedEndings) (hfe : ending ≠ ['f', 'e'])
    (hsuffix : ending <:+ word) (h : trim (word ++ ['s']) = word ++ ['s']) :
    singularized (word ++ ['s']) ≠ word := by
  obtain ⟨front, rfl⟩ := hsuffix
  rw [List.append_assoc] at h ⊢
  have hcases : ∀ ending ∈ sharedEndings, ending = ['f', 'e'] ∨ ending = ['i', 'e'] ∨
      ending = ['v', 'e'] ∨ ∃ sibilant ∈ sibilants, ending = sibilant ++ ['e'] := by decide
  rcases hcases ending hmem with rfl | rfl | rfl | ⟨sibilant, hsibilant, rfl⟩
  · exact absurd rfl hfe
  · rw [List.cons_append, List.singleton_append, singularized_ies h, ne_eq, List.append_cancel_left_eq]
    decide
  · rw [List.cons_append, List.singleton_append, singularized_ves h, ne_eq, List.append_cancel_left_eq]
    decide
  · have hword : front ++ (sibilant ++ ['e'] ++ ['s']) = front ++ sibilant ++ ['e', 's'] := by simp
    rw [hword] at h ⊢
    rw [singularized_sibilant hsibilant (List.suffix_append front sibilant) h]
    simp

end Shared

/-- The singular undoes the plural exactly where the word has none of the shared endings. -/
theorem singularized_pluralized_iff (cs : List Char) :
    singularized (pluralized cs) = trim cs ↔ ∀ ending ∈ sharedEndings, ¬ ending <:+ trim cs := by
  have hplural := pluralOf_pluralized cs
  have htrim := hplural.trim_eq (head_trim cs)
  generalize trim cs = word, pluralized cs = plural at hplural htrim ⊢
  have hnone {other : List Char} (hother : other <:+ word)
      (hapart : ∀ ending ∈ sharedEndings, ¬ ending <:+ other ∧ ¬ other <:+ ending) :
      ∀ ending ∈ sharedEndings, ¬ ending <:+ word := fun ending hmem hsuffix =>
    endings_apart hsuffix hother (hapart ending hmem)
  cases hplural with
  | @sibilant ending _ hmem hsuffix =>
    have hapart : ∀ sibilant ∈ sibilants, ∀ ending ∈ sharedEndings,
        ¬ ending <:+ sibilant ∧ ¬ sibilant <:+ ending := by decide
    exact iff_of_true (singularized_sibilant hmem hsuffix htrim) (hnone hsuffix (hapart _ hmem))
  | consonantY hstem =>
    exact iff_of_true (singularized_ies htrim) (hnone (List.suffix_append _ _) (by decide))
  | f stem => exact iff_of_true (singularized_ves htrim) (hnone (List.suffix_append _ _) (by decide))
  | fe stem =>
    refine iff_of_false ?_ fun hshared => hshared ['f', 'e'] (by decide) (List.suffix_append _ _)
    rw [singularized_ves htrim, List.append_cancel_left_eq]
    decide
  | plain hsibilants hfe =>
    constructor
    · intro hsame ending hmem hsuffix
      refine singularized_shared hmem ?_ hsuffix htrim hsame
      rintro rfl
      exact hfe hsuffix
    · intro hshared
      exact singularized_s hshared (hsibilants ['s'] (by decide)) htrim

/-- Another word has the plural of `horse`. -/
example : singularized (pluralized "horse".toList) = "hors".toList := by decide

end TaleLoom.Modifier
