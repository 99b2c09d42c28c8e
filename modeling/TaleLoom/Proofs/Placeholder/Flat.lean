import TaleLoom.Proofs.Placeholder.Braces
import TaleLoom.Proofs.Placeholder.Segments
/-!
Flat texts: those whose braces are all braces of their placeholders. Flat texts are what is written
down of plain characters and placeholders (`flat_iff`), putting them one after another leaves the
placeholders of each as they are (`segments_append`), and modifiers leave a flat text flat
(`flat_inflect`). They may change what its placeholders say, but not how many there are or which of them
stand between double braces (`inflect_keeps_braces`).
-/

namespace TaleLoom

open Text

def Flat (cs : List Char) : Prop := ∀ segment ∈ segments cs, segment.Sound

instance (cs : List Char) : Decidable (Flat cs) :=
  inferInstanceAs (Decidable (∀ segment ∈ segments cs, segment.Sound))

theorem flat_iff (cs : List Char) :
    Flat cs ↔ ∃ row : List Segment, (∀ segment ∈ row, segment.Sound) ∧ row.flatMap Segment.text = cs := by
  constructor
  · exact fun h => ⟨segments cs, h, flatten_segments cs⟩
  · rintro ⟨row, hrow, rfl⟩
    rwa [Flat, segments_written hrow]

theorem segments_append {cs ds : List Char} (h : Flat cs) (h' : Flat ds) :
    segments (cs ++ ds) = segments cs ++ segments ds := by
  have hsound : ∀ segment ∈ segments cs ++ segments ds, segment.Sound := by
    intro segment hmem
    exact (List.mem_append.1 hmem).elim (h segment) (h' segment)
  have hwritten := segments_written hsound
  rwa [List.flatMap_append, flatten_segments, flatten_segments] at hwritten

theorem flat_of_free {cs : List Char} (h : ∀ c ∈ cs, isBrace c = false) : Flat cs := by
  refine (flat_iff cs).2 ⟨cs.map .plain, ?_, ?_⟩
  · intro segment hmem
    obtain ⟨c, hc, rfl⟩ := List.mem_map.1 hmem
    exact .plain (h c hc)
  · rw [List.flatMap_map]
    exact List.flatMap_singleton' cs

theorem flat_of_all {cs : List Char} (h : cs.all (!isBrace ·) = true) : Flat cs :=
  flat_of_free (by simpa using h)

namespace Flat

variable {cs ds : List Char}

theorem append (h : Flat cs) (h' : Flat ds) : Flat (cs ++ ds) := by
  rw [Flat, segments_append h h']
  intro segment hmem
  exact (List.mem_append.1 hmem).elim (h segment) (h' segment)

theorem of_cons {c : Char} (h : Flat (c :: cs)) (hc : isBrace c = false) : Flat cs := by
  rw [Flat, segments_of_none (Token.at?_of_free hc cs)] at h
  exact (List.forall_mem_cons.1 h).2

/-- Plain characters can be taken off the front. -/
theorem of_append_right (h : Flat (cs ++ ds)) (hcs : ∀ c ∈ cs, isBrace c = false) : Flat ds := by
  induction cs with
  | nil => exact h
  | cons c rest ih =>
    obtain ⟨hc, hrest⟩ := List.forall_mem_cons.1 hcs
    exact ih (of_cons h hc) hrest

theorem of_concat {c : Char} (h : Flat (cs ++ [c])) (hc : isBrace c = false) : Flat cs := by
  obtain ⟨row, hrow, htext⟩ := (flat_iff _).1 h
  rcases List.eq_nil_or_concat row with rfl | ⟨front, last, rfl⟩
  · cases cs <;> cases htext
  rw [List.concat_eq_append] at hrow htext
  rw [List.flatMap_append, List.flatMap_singleton] at htext
  have hfront : ∀ segment ∈ front, segment.Sound := fun segment hmem =>
    hrow segment (List.mem_append_left _ hmem)
  cases last with
  | plain d =>
    obtain ⟨hcs, -⟩ := List.append_inj' htext rfl
    exact (flat_iff cs).2 ⟨front, hfront, hcs⟩
  | token t =>
    have hends : ∃ start, t.text = start ++ ['\x7d'] := by
      unfold Token.text
      split
      · exact ⟨'\x7b' :: '\x7b' :: t.body ++ ['\x7d'], by simp⟩
      · exact ⟨'\x7b' :: t.body, rfl⟩
    obtain ⟨start, hstart⟩ := hends
    rw [Segment.text, hstart, ← List.append_assoc] at htext
    obtain ⟨-, hlast⟩ := List.append_inj' htext rfl
    obtain rfl : '\x7d' = c := (List.cons.inj hlast).1
    cases hc

/-- Plain characters can be taken off the end. -/
theorem of_append_left (h : Flat (cs ++ ds)) (hds : ∀ c ∈ ds, isBrace c = false) : Flat cs := by
  induction ds generalizing cs with
  | nil => rwa [List.append_nil] at h
  | cons c rest ih =>
    obtain ⟨hc, hrest⟩ := List.forall_mem_cons.1 hds
    rw [List.append_cons] at h
    exact of_concat (ih h hrest) hc

end Flat

namespace Recased

/-- A placeholder becomes a placeholder. -/
theorem token {t : Token} {ds : List Char} (ht : t.Proper) (h : Recased t.text ds) :
    ∃ t' : Token, t'.Proper ∧ t'.text = ds := by
  obtain ⟨doubled, body⟩ := t
  have hbraces (front back : List Char) (hfront : ∀ c ∈ front, isBrace c = true)
      (hback : ∀ c ∈ back, isBrace c = true) (h : Recased (front ++ (body ++ back)) ds) :
      ∃ body', body' ≠ [] ∧ (∀ c ∈ body', isBrace c = false) ∧ ds = front ++ (body' ++ back) := by
    obtain ⟨es, es', rfl, hes, hrest⟩ := h.split
    obtain ⟨body', es'', rfl, hbody, hes''⟩ := hrest.split
    obtain ⟨hfree, hne⟩ := hbody.free ht.free
    exact ⟨body', hne ht.filled, hfree, by rw [of_braces hfront hes, of_braces hback hes'']⟩
  cases doubled with
  | true =>
    obtain ⟨body', hne, hfree, rfl⟩ := hbraces ['\x7b', '\x7b'] ['\x7d', '\x7d']
      (by simp [isBrace]) (by simp [isBrace]) (by simpa [Token.text] using h)
    exact ⟨⟨true, body'⟩, ⟨hne, hfree⟩, by simp [Token.text]⟩
  | false =>
    obtain ⟨body', hne, hfree, rfl⟩ := hbraces ['\x7b'] ['\x7d'] (by simp [isBrace])
      (by simp [isBrace]) (by simpa [Token.text] using h)
    exact ⟨⟨false, body'⟩, ⟨hne, hfree⟩, by simp [Token.text]⟩

end Recased

/-- Letter case leaves a flat text flat. -/
theorem Flat.recased {cs ds : List Char} (h : Flat cs) (hcase : Recased cs ds) : Flat ds := by
  obtain ⟨row, hrow, rfl⟩ := (flat_iff cs).1 h
  clear h
  induction row generalizing ds with
  | nil =>
    cases hcase
    exact flat_of_free (by simp)
  | cons segment rest ih =>
    obtain ⟨hfirst, hrest⟩ := List.forall_mem_cons.1 hrow
    rw [List.flatMap_cons] at hcase
    obtain ⟨es, es', rfl, hes, hes'⟩ := hcase.split
    refine Flat.append ?_ (ih hrest hes')
    cases hfirst with
    | plain hc => exact flat_of_free (hes.free (List.forall_mem_singleton.2 hc)).1
    | token ht =>
      obtain ⟨t', ht', rfl⟩ := hes.token ht
      exact (flat_iff _).2 ⟨[.token t'], List.forall_mem_singleton.2 (.token ht'), by simp [Segment.text]⟩

/-- What stands around a part of a flat text can be changed. -/
theorem Flat.reframed {cs ds : List Char} (h : Flat cs) (hframed : Reframed cs ds) : Flat ds := by
  cases hframed with
  | intro part hfront hback hfront' hback' =>
    have hpart : Flat part := (h.of_append_right hfront).of_append_left hback
    exact (flat_of_free hfront').append (hpart.append (flat_of_free hback'))

/-- Modifiers leave a flat text flat. -/
theorem flat_inflect {text : String} (h : Flat text.toList) (names : List String) :
    Flat (inflect text names).toList := by
  rw [inflect, String.toList_ofList]
  generalize text.toList = cs at h ⊢
  induction names generalizing cs with
  | nil => exact h
  | cons name rest ih =>
    have hfirst : Flat (Modifier.applyNamed cs name) := by
      unfold Modifier.applyNamed
      split
      · next modifier _ => exact (modifier.recased_or_reframed cs).elim h.recased h.reframed
      · exact h
    rw [List.foldl_cons]
    exact ih _ hfirst

/-- Flat texts with commas between them are flat. -/
theorem flat_join {texts : List String} (h : ∀ text ∈ texts, Flat text.toList) :
    Flat (join ", " texts).toList := by
  rw [join, String.toList_intercalate]
  induction texts with
  | nil => exact flat_of_free (by simp)
  | cons text rest ih =>
    obtain ⟨htext, hrest⟩ := List.forall_mem_cons.1 h
    cases rest with
    | nil => simpa using htext
    | cons next others =>
      rw [List.map_cons, List.map_cons, List.intercalate_cons_cons]
      exact (htext.append (flat_of_all (by decide))).append (ih hrest)

/-! ### Kinds of placeholders -/

def kindBraces : Bool → List Char
  | true => ['\x7b', '\x7b', '\x7d', '\x7d']
  | false => ['\x7b', '\x7d']

theorem Token.Proper.braces_text {t : Token} (h : t.Proper) : braces t.text = kindBraces t.doubled := by
  obtain ⟨doubled, body⟩ := t
  have hbody : braces body = [] := braces_eq_nil_iff.2 h.free
  cases doubled with
  | true =>
    show braces (['\x7b', '\x7b'] ++ (body ++ ['\x7d', '\x7d'])) = _
    rw [braces_append, braces_append, hbody]
    rfl
  | false =>
    show braces (['\x7b'] ++ (body ++ ['\x7d'])) = _
    rw [braces_append, braces_append, hbody]
    rfl

/-- Kinds are known by the braces they write one after another: behind the first brace another one opens,
or it closes. -/
theorem kinds_inj {kinds kinds' : List Bool} (h : kinds.flatMap kindBraces = kinds'.flatMap kindBraces) :
    kinds = kinds' := by
  induction kinds generalizing kinds' with
  | nil =>
    cases kinds' with
    | nil => rfl
    | cons kind' rest' => cases kind' <;> cases h
  | cons kind rest ih =>
    cases kinds' with
    | nil => cases kind <;> cases h
    | cons kind' rest' =>
      have hsame : kind = kind' := by
        cases kind <;> cases kind' <;> first | rfl | simp [kindBraces] at h
      subst hsame
      rw [List.flatMap_cons, List.flatMap_cons] at h
      rw [ih (List.append_cancel_left h)]

/-- The braces of a flat text are those of its placeholders. -/
theorem Flat.braces_eq {cs : List Char} (h : Flat cs) :
    braces cs = ((tokens cs).map Token.doubled).flatMap kindBraces := by
  have hcs := flatten_segments cs
  rw [tokens]
  unfold Flat at h
  generalize segments cs = row at h hcs ⊢
  subst hcs
  induction row with
  | nil => rfl
  | cons segment rest ih =>
    obtain ⟨hfirst, hrest⟩ := List.forall_mem_cons.1 h
    rw [List.flatMap_cons, braces_append, ih hrest]
    cases hfirst with
    | plain hc => rw [Segment.text, braces_eq_nil_iff.2 (List.forall_mem_singleton.2 hc)]; rfl
    | token ht => rw [Segment.text, ht.braces_text]; rfl

/-- Modifiers leave the braces of a text as they are. Where they are all braces of placeholders, they stay
so, and there are as many placeholders as before, of the same kinds in the same order. -/
theorem inflect_keeps_braces (text : String) (names : List String) :
    braces (inflect text names).toList = braces text.toList ∧
      (Flat text.toList → Flat (inflect text names).toList ∧
        (tokens (inflect text names).toList).map Token.doubled =
          (tokens text.toList).map Token.doubled) := by
  refine ⟨braces_inflect text names, fun h => ?_⟩
  have hflat := flat_inflect h names
  refine ⟨hflat, kinds_inj ?_⟩
  rw [← hflat.braces_eq, ← h.braces_eq]
  exact braces_inflect text names

theorem inflect_keeps_braces_story :
    let text := " The \x7b\x7bhero name\x7d\x7d's \x7bweapon\x7d strikes. "
    let names := ["Plural", "no such modifier", "UPPERCASE", "article"]
    Flat text.toList ∧
      (tokens (inflect text names).toList).map Token.doubled = [true, false] ∧
        (inflect text names).toList =
          "a THE \x7b\x7bHERO NAME\x7d\x7d'S \x7bWEAPON\x7d STRIKES.S".toList :=
  have hflat : Flat " The \x7b\x7bhero name\x7d\x7d's \x7bweapon\x7d strikes. ".toList := by decide +kernel
  ⟨hflat, ((inflect_keeps_braces _ _).2 hflat).2.trans (by decide +kernel), by decide +kernel⟩

end TaleLoom
