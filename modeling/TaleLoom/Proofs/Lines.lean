import TaleLoom.Proofs.Text
/-!
The lines of a text. A line break of two characters counts once (`lines_induction`). White space at the
ends of a text makes blank lines and changes the ends of others, so cutting it off keeps the lines that are
not blank (`filled_trim`); in what is left the first line and the last one are not blank.
-/

namespace TaleLoom.Text

variable {c : Char} {cs rest : List Char}

theorem isBlank_of_isLineBreak (h : isLineBreak c = true) : isBlank c = true := by
  simp only [isLineBreak, isBlank, Bool.or_eq_true, Bool.and_eq_true, decide_eq_true_eq, beq_iff_eq] at h ⊢
  omega

/-- A character within a line is put in front of the first of the lines behind it. -/
theorem lines_cons (h : isLineBreak c = false) (rest : List Char) :
    lines (c :: rest) = (c :: (lines rest).headD []) :: (lines rest).tail := by
  have hreturn : ∀ other, c = '\r' → rest = '\n' :: other → False := by
    rintro other rfl
    cases h
  rw [lines.eq_3 c rest hreturn, h]
  cases lines rest <;> rfl

/-- A line break ends a line, unless it is followed by its other half. -/
theorem lines_break (h : isLineBreak c = true)
    (hreturn : ∀ other, c = '\r' → rest = '\n' :: other → False) :
    lines (c :: rest) = [] :: lines rest := by
  rw [lines.eq_3 c rest hreturn, h, if_pos rfl]

/-- A text is made of the two halves of a line break, other line breaks, and characters within lines. -/
theorem lines_induction {motive : List Char → Prop} (nil : motive [])
    (pair : ∀ rest, motive rest → motive ('\r' :: '\n' :: rest))
    (ends : ∀ c rest, isLineBreak c = true → (∀ other, c = '\r' → rest = '\n' :: other → False) →
      motive rest → motive (c :: rest))
    (within : ∀ c rest, isLineBreak c = false → motive rest → motive (c :: rest)) (cs : List Char) :
    motive cs := by
  induction cs using lines.induct with
  | case1 => exact nil
  | case2 rest ih => exact pair rest ih
  | case3 c rest hreturn hbreak ih => exact ends c rest hbreak hreturn ih
  | case4 c rest _ hwithin _ ih => exact within c rest (Bool.eq_false_iff.2 hwithin) ih
  | case5 c rest _ hwithin _ _ _ ih => exact within c rest (Bool.eq_false_iff.2 hwithin) ih

/-- White space is cut into lines of white space. -/
theorem blanks_of_mem_lines {blanks : List Char} (h : Blanks blanks) :
    ∀ line ∈ lines blanks, Blanks line := by
  induction blanks using lines_induction with
  | nil => exact List.forall_mem_nil _
  | pair rest ih =>
    rw [lines, List.forall_mem_cons]
    exact ⟨List.forall_mem_nil _, ih fun c hc => h c (List.mem_cons_of_mem _ (List.mem_cons_of_mem _ hc))⟩
  | ends c rest hbreak hreturn ih =>
    rw [lines_break hbreak hreturn, List.forall_mem_cons]
    exact ⟨List.forall_mem_nil _, ih fun d hd => h d (List.mem_cons_of_mem _ hd)⟩
  | within c rest hwithin ih =>
    obtain ⟨hc, hrest⟩ := List.forall_mem_cons.1 h
    have hlines := ih hrest
    rw [lines_cons hwithin, List.forall_mem_cons]
    cases hcut : lines rest with
    | nil => exact ⟨List.forall_mem_singleton.2 hc, List.forall_mem_nil _⟩
    | cons line others =>
      rw [hcut, List.forall_mem_cons] at hlines
      exact ⟨List.forall_mem_cons.2 ⟨hc, hlines.1⟩, hlines.2⟩

def filled (ls : List (List Char)) : List (List Char) := (ls.map trim).filter (!·.isEmpty)

theorem filled_cons_of_blanks {line : List Char} (h : Blanks line) (ls : List (List Char)) :
    filled (line :: ls) = filled ls := by
  rw [filled, List.map_cons, trim_blanks h]
  rfl

theorem filled_cons_of_ne {line : List Char} (h : trim line ≠ []) (ls : List (List Char)) :
    filled (line :: ls) = trim line :: filled ls := by
  rw [filled, List.map_cons, List.filter_cons_of_pos (by simpa using h), filled]

theorem filled_of_blanks {ls : List (List Char)} (h : ∀ line ∈ ls, Blanks line) : filled ls = [] := by
  induction ls with
  | nil => rfl
  | cons line rest ih =>
    obtain ⟨hline, hrest⟩ := List.forall_mem_cons.1 h
    rw [filled_cons_of_blanks hline, ih hrest]

/-- White space in front of a line does not change what is left of it. -/
theorem filled_congr {line line' : List Char} (h : trim line = trim line') (ls : List (List Char)) :
    filled (line :: ls) = filled (line' :: ls) := by
  rw [filled, List.map_cons, h, filled, List.map_cons]

/-- White space in front of a text makes and changes blank lines alone. -/
theorem filled_lines_cons (h : isBlank c = true) (rest : List Char) :
    filled (lines (c :: rest)) = filled (lines rest) := by
  have hnone : Blanks [] := List.forall_mem_nil _
  cases hbreak : isLineBreak c with
  | false =>
    have hc : Blanks [c] := List.forall_mem_singleton.2 h
    rw [lines_cons hbreak]
    cases lines rest with
    | nil => exact filled_cons_of_blanks hc []
    | cons line others => exact filled_congr (trim_append_front hc line) others
  | true =>
    by_cases hpair : ∃ other, c = '\r' ∧ rest = '\n' :: other
    · -- two halves of one break end as many blank lines as the second half alone, or one more
      obtain ⟨other, rfl, rfl⟩ := hpair
      have hhalf : ∀ more, '\n' = '\r' → other = '\n' :: more → False := by
        intro more hsame
        exact absurd hsame (by decide)
      rw [lines, lines_break rfl hhalf]
    · have hreturn : ∀ other, c = '\r' → rest = '\n' :: other → False :=
        fun other hc hrest => hpair ⟨other, hc, hrest⟩
      rw [lines_break hbreak hreturn, filled_cons_of_blanks hnone]

theorem filled_lines_append_front {blanks : List Char} (h : Blanks blanks) (cs : List Char) :
    filled (lines (blanks ++ cs)) = filled (lines cs) := by
  induction blanks with
  | nil => rfl
  | cons c rest ih =>
    obtain ⟨hc, hrest⟩ := List.forall_mem_cons.1 h
    rw [List.cons_append, filled_lines_cons hc, ih hrest]

inductive Padded : List (List Char) → List (List Char) → Prop
  | blank {more : List (List Char)} (h : ∀ line ∈ more, Blanks line) : Padded more []
  | line {line blanks : List Char} {longer shorter : List (List Char)} (here : Blanks blanks)
      (others : Padded longer shorter) : Padded ((line ++ blanks) :: longer) (line :: shorter)

theorem Padded.cons {longer shorter : List (List Char)} (h : Padded longer shorter) (line : List Char) :
    Padded (line :: longer) (line :: shorter) := by
  have hline : Padded ((line ++ []) :: longer) (line :: shorter) := Padded.line (List.forall_mem_nil _) h
  rwa [List.append_nil] at hline

theorem Padded.filled_eq {longer shorter : List (List Char)} (h : Padded longer shorter) :
    filled longer = filled shorter := by
  induction h with
  | blank h => exact filled_of_blanks h
  | @line line blanks longer shorter here _ ih =>
    have htrim := trim_append_back here line
    by_cases hline : trim line = []
    · have hlonger := blanks_of_trim (htrim.trans hline)
      rw [filled_cons_of_blanks hlonger, filled_cons_of_blanks (blanks_of_trim hline), ih]
    · rw [filled_congr htrim, filled_cons_of_ne hline, filled_cons_of_ne hline, ih]

/-- White space behind a text is put to its last line, and makes blank lines. -/
theorem padded_lines {blanks : List Char} (h : Blanks blanks) (cs : List Char) :
    Padded (lines (cs ++ blanks)) (lines cs) := by
  induction cs using lines_induction with
  | nil => exact Padded.blank (blanks_of_mem_lines h)
  | pair rest ih =>
    rw [List.cons_append, List.cons_append, lines, lines]
    exact ih.cons []
  | ends c rest hbreak hreturn ih =>
    rw [lines_break hbreak hreturn]
    by_cases hpair : ∃ other, c = '\r' ∧ rest ++ blanks = '\n' :: other
    · -- the other half of the break is the first of the white space
      obtain ⟨other, rfl, hother⟩ := hpair
      cases rest with
      | cons d rest =>
        obtain ⟨rfl, -⟩ := List.cons.inj hother
        exact (hreturn rest rfl rfl).elim
      | nil =>
        rw [List.nil_append] at hother
        rw [hother] at h
        have hmore := Padded.blank (blanks_of_mem_lines (List.forall_mem_cons.1 h).2)
        have hcut : lines ('\r' :: '\n' :: other) = [] :: lines other := by rw [lines]
        rw [List.cons_append, List.nil_append, hother, hcut]
        exact hmore.cons []
    · rw [List.cons_append, lines_break hbreak fun other hc hrest => hpair ⟨other, hc, hrest⟩]
      exact ih.cons []
  | within c rest hwithin ih =>
    rw [List.cons_append, lines_cons hwithin, lines_cons hwithin]
    generalize lines (rest ++ blanks) = longer at ih ⊢
    generalize lines rest = shorter at ih ⊢
    cases ih with
    | blank hmore =>
      cases longer with
      | nil => exact (Padded.blank hmore).cons [c]
      | cons line others =>
        obtain ⟨hline, hothers⟩ := List.forall_mem_cons.1 hmore
        have hfirst : Padded (([c] ++ line) :: others) [[c]] := Padded.line hline (Padded.blank hothers)
        exact hfirst
    | @line line spaces longer shorter here others =>
      have hfirst : Padded (((c :: line) ++ spaces) :: longer) ((c :: line) :: shorter) :=
        Padded.line here others
      exact hfirst

/-- Cutting off the white space at the ends of a text keeps the lines that are not blank. -/
theorem filled_trim (cs : List Char) : filled (lines (trim cs)) = filled (lines cs) := by
  obtain ⟨front, back, hfront, hback, hcs⟩ := exists_trimmed cs
  calc filled (lines (trim cs)) = filled (lines (trim cs ++ back)) := (padded_lines hback _).filled_eq.symm
    _ = filled (lines (front ++ (trim cs ++ back))) := (filled_lines_append_front hfront _).symm
    _ = filled (lines cs) := by rw [← hcs]

/-- A character within a line that ends a text ends the last of its lines. -/
theorem lines_concat (h : isLineBreak c = false) (cs : List Char) :
    ∃ before line, lines (cs ++ [c]) = before ++ [line ++ [c]] := by
  induction cs using lines_induction with
  | nil => exact ⟨[], [], lines_cons h []⟩
  | pair rest ih =>
    obtain ⟨before, line, hlines⟩ := ih
    refine ⟨[] :: before, line, ?_⟩
    rw [List.cons_append, List.cons_append, lines, hlines, List.cons_append]
  | ends d rest hbreak hreturn ih =>
    obtain ⟨before, line, hlines⟩ := ih
    have hreturn' : ∀ other, d = '\r' → rest ++ [c] = '\n' :: other → False := by
      intro other hd hother
      cases rest with
      | cons e rest =>
        obtain ⟨rfl, -⟩ := List.cons.inj hother
        exact hreturn rest hd rfl
      | nil =>
        obtain ⟨rfl, -⟩ := List.cons.inj hother
        cases h
    refine ⟨[] :: before, line, ?_⟩
    rw [List.cons_append, lines_break hbreak hreturn', hlines, List.cons_append]
  | within d rest hwithin ih =>
    obtain ⟨before, line, hlines⟩ := ih
    rw [List.cons_append, lines_cons hwithin, hlines]
    cases before with
    | nil => exact ⟨[], d :: line, rfl⟩
    | cons first others => exact ⟨(d :: first) :: others, line, rfl⟩

theorem isLineBreak_of_not_blank (h : isBlank c = false) : isLineBreak c = false := by
  cases hbreak : isLineBreak c with
  | false => rfl
  | true =>
    rw [isBlank_of_isLineBreak hbreak] at h
    cases h

/-- The first line of a text that was trimmed is not blank. -/
theorem exists_firstLine (h : trim cs ≠ []) :
    ∃ first others, lines (trim cs) = first :: others ∧ trim first ≠ [] := by
  obtain ⟨c, rest, hcons⟩ := List.exists_cons_of_ne_nil h
  have hc : isBlank c = false := head_trim cs c (by rw [hcons]; rfl)
  rw [hcons, lines_cons (isLineBreak_of_not_blank hc)]
  exact ⟨_, _, rfl, trim_ne_nil List.mem_cons_self hc⟩

/-- The last line of a text that was trimmed is not blank. -/
theorem exists_lastLine (h : trim cs ≠ []) :
    ∃ before last, lines (trim cs) = before ++ [last] ∧ trim last ≠ [] := by
  have hc : isBlank ((trim cs).getLast h) = false :=
    getLast_trim cs _ (List.getLast?_eq_some_getLast h)
  obtain ⟨before, line, hlines⟩ := lines_concat (isLineBreak_of_not_blank hc) (trim cs).dropLast
  rw [List.dropLast_concat_getLast] at hlines
  exact ⟨before, _, hlines, trim_ne_nil (List.mem_append_right line List.mem_cons_self) hc⟩

/-- Behind the first line of a text that was trimmed, where there are lines, there is one that is not
blank. -/
theorem filled_rows_ne_nil {first : List Char} {others : List (List Char)}
    (h : lines (trim cs) = first :: others) (hothers : others ≠ []) : filled others ≠ [] := by
  have htrim : trim cs ≠ [] := by
    intro hnone
    rw [hnone] at h
    cases h
  obtain ⟨before, last, hlines, hlast⟩ := exists_lastLine htrim
  rw [hlines] at h
  have hmem : last ∈ others := by
    cases before with
    | nil =>
      obtain ⟨-, rfl⟩ := List.cons.inj h
      exact absurd rfl hothers
    | cons _ before =>
      obtain ⟨-, rfl⟩ := List.cons.inj h
      exact List.mem_append_right before List.mem_cons_self
  apply List.ne_nil_of_mem (a := trim last)
  exact List.mem_filter.2 ⟨List.mem_map_of_mem hmem, by simpa using hlast⟩

end TaleLoom.Text
