import TaleLoom.Placeholder.Token
import TaleLoom.Proofs.Placeholder.Trail
/-!
Cutting a text is the inverse of writing it down: the segments of a written row of plain characters and
placeholders are that row (`segments_written`). So a placeholder is known by its text
(`Token.text_inj`), and what holds of the placeholders on a list of rejected ones can be said of their
texts (`AllRejected`).
-/

namespace TaleLoom

namespace Token

/-- A placeholder that a text can hold: there is something between its braces, and no brace. -/
structure Proper (t : Token) : Prop where
  filled : t.body ≠ []
  free : ∀ c ∈ t.body, isBrace c = false

instance : DecidablePred Proper := fun t =>
  decidable_of_iff (t.body ≠ [] ∧ t.body.all (!isBrace ·) = true)
    ⟨fun h => ⟨h.1, by simpa using h.2⟩, fun h => ⟨h.filled, by simpa using h.free⟩⟩

theorem spanBody_append {body : List Char} (h : ∀ c ∈ body, isBrace c = false) (rest : List Char) :
    spanBody (body ++ '\x7d' :: rest) = (body, '\x7d' :: rest) := by
  have hfree : ∀ c ∈ body, (!isBrace c) = true := by simpa using h
  have hbrace : (!isBrace '\x7d') = false := rfl
  rw [spanBody, List.takeWhile_append_of_pos hfree, List.dropWhile_append_of_pos hfree,
    List.takeWhile_cons, List.dropWhile_cons, hbrace]
  simp

/-- At the front of a text that starts with a placeholder, that placeholder is found. -/
theorem at?_text {t : Token} (h : t.Proper) (rest : List Char) : at? (t.text ++ rest) = some (t, rest) := by
  obtain ⟨doubled, body⟩ := t
  obtain ⟨hfilled, hfree⟩ := h
  obtain ⟨c, cs, rfl⟩ := List.exists_cons_of_ne_nil hfilled
  cases doubled with
  | true =>
    have hspan := spanBody_append hfree ('\x7d' :: rest)
    simp only [List.cons_append] at hspan
    simp [at?, text, doubledAt?, hspan]
  | false =>
    have hc : c ≠ '\x7b' := by
      rintro rfl
      exact absurd (hfree _ List.mem_cons_self) (by decide)
    have hsingle : doubledAt? ('\x7b' :: c :: (cs ++ '\x7d' :: rest)) = none := by
      unfold doubledAt?
      split
      · next heq =>
        obtain ⟨-, heq⟩ := List.cons.inj heq
        exact absurd (List.cons.inj heq).1 hc
      · rfl
    have hspan := spanBody_append hfree rest
    simp only [List.cons_append] at hspan
    simp [at?, text, hsingle, singleAt?, hspan]

theorem at?_of_free {c : Char} (h : isBrace c = false) (cs : List Char) : at? (c :: cs) = none := by
  have hc : c ≠ '\x7b' := by
    rintro rfl
    exact absurd h (by decide)
  have hdoubled : doubledAt? (c :: cs) = none := by
    unfold doubledAt?
    split
    · next heq => exact absurd (List.cons.inj heq).1 hc
    · rfl
  have hsingle : singleAt? (c :: cs) = none := by
    unfold singleAt?
    split
    · next heq => exact absurd (List.cons.inj heq).1 hc
    · rfl
  rw [at?, hdoubled, hsingle]
  rfl

/-- What is found at the front of a text is a placeholder that a text can hold. -/
theorem proper_of_at? {cs rest : List Char} {t : Token} (h : at? cs = some (t, rest)) : t.Proper := by
  have hspanned {cs body rest : List Char} {c : Char} (h : spanBody cs = (c :: body, rest)) :
      ∀ x ∈ c :: body, isBrace x = false := by
    intro x hx
    have hbody : cs.takeWhile (!isBrace ·) = c :: body := congrArg Prod.fst h
    rw [← hbody] at hx
    have hall := List.all_takeWhile (p := (!isBrace ·)) (l := cs)
    simpa using List.all_eq_true.1 hall x hx
  unfold at? at h
  cases hdoubled : doubledAt? cs with
  | some found =>
    rw [hdoubled] at h
    obtain rfl : found = (t, rest) := by simpa using h
    unfold doubledAt? at hdoubled
    split at hdoubled
    · split at hdoubled
      · next hspan =>
        obtain ⟨rfl, -⟩ := Prod.mk.inj (Option.some.inj hdoubled)
        exact ⟨List.cons_ne_nil _ _, hspanned hspan⟩
      · cases hdoubled
    · cases hdoubled
  | none =>
    rw [hdoubled] at h
    have hsingle : singleAt? cs = some (t, rest) := by simpa using h
    unfold singleAt? at hsingle
    split at hsingle
    · split at hsingle
      · next hspan =>
        obtain ⟨rfl, -⟩ := Prod.mk.inj (Option.some.inj hsingle)
        exact ⟨List.cons_ne_nil _ _, hspanned hspan⟩
      · cases hsingle
    · cases hsingle

end Token

/-- A character that is no brace, or a placeholder that a text can hold. -/
inductive Segment.Sound : Segment → Prop
  | plain {c : Char} : isBrace c = false → Sound (.plain c)
  | token {t : Token} : t.Proper → Sound (.token t)

instance : DecidablePred Segment.Sound
  | .plain c => decidable_of_iff (isBrace c = false) ⟨.plain, fun | .plain h => h⟩
  | .token t => decidable_of_iff t.Proper ⟨.token, fun | .token h => h⟩

theorem segments_of_none {c : Char} {cs : List Char} (h : Token.at? (c :: cs) = none) :
    segments (c :: cs) = .plain c :: segments cs := by
  rw [segments]
  split
  · next hfound =>
    rw [h] at hfound
    cases hfound
  · rfl

theorem segments_text_append {segment : Segment} (h : segment.Sound) (rest : List Char) :
    segments (segment.text ++ rest) = segment :: segments rest := by
  cases h with
  | plain hfree => exact segments_of_none (Token.at?_of_free hfree rest)
  | @token t hproper =>
    have hfound := Token.at?_text hproper rest
    obtain ⟨c, cs, hcs⟩ := List.exists_cons_of_ne_nil (List.length_pos_iff.1 t.text_length_pos)
    rw [hcs, List.cons_append] at hfound
    rw [Segment.text, hcs, List.cons_append]
    exact segments_of_at? hfound

/-- The segments of a written row are that row. -/
theorem segments_written {row : List Segment} (h : ∀ segment ∈ row, segment.Sound) :
    segments (row.flatMap Segment.text) = row := by
  induction row with
  | nil => rw [List.flatMap_nil, segments]
  | cons segment rest ih =>
    obtain ⟨hfirst, hrest⟩ := List.forall_mem_cons.1 h
    rw [List.flatMap_cons, segments_text_append hfirst, ih hrest]

theorem proper_of_mem_segments {cs : List Char} {t : Token} (h : .token t ∈ segments cs) :
    t.Proper := by
  fun_induction segments cs with
  | case1 => cases h
  | case2 c cs found rest hat ih =>
    rcases List.mem_cons.1 h with heq | h
    · obtain rfl := Segment.token.inj heq
      exact Token.proper_of_at? hat
    · exact ih h
  | case3 c cs hat ih =>
    rcases List.mem_cons.1 h with heq | h
    · cases heq
    · exact ih h

theorem Segment.Sound.segments_text {segment : Segment} (h : segment.Sound) :
    segments segment.text = [segment] := by
  have hwritten := segments_written (List.forall_mem_singleton.2 h)
  rwa [List.flatMap_singleton] at hwritten

/-- A placeholder is known by its text. -/
theorem Token.text_inj {t t' : Token} (h : t.Proper) (h' : t'.Proper) (htext : t.text = t'.text) :
    t = t' := by
  have hrow (t : Token) (h : t.Proper) : segments t.text = [.token t] :=
    (Segment.Sound.token h).segments_text
  have heq := hrow t h
  rw [htext, hrow t' h'] at heq
  exact (Segment.token.inj (List.cons.inj heq).1).symm

def AllRejected (p : Token → Prop) (rejected : List (List Char)) : Prop :=
  ∀ t : Token, t.Proper → t.text ∈ rejected → p t

namespace AllRejected

variable {p : Token → Prop} {rejected : List (List Char)}

theorem nil : AllRejected p [] := by
  intro t _ hmem
  cases hmem

theorem cons {t : Token} (ht : t.Proper) (hp : p t) (h : AllRejected p rejected) :
    AllRejected p (t.text :: rejected) := by
  intro t' ht' hmem
  rcases List.mem_cons.1 hmem with htext | hmem
  · exact Token.text_inj ht' ht htext ▸ hp
  · exact h t' ht' hmem

end AllRejected

end TaleLoom
