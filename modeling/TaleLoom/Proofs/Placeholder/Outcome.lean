import TaleLoom.Proofs.Placeholder.Single
import TaleLoom.Proofs.Table.Difficulty
/-!
Outcomes against a difficulty that a placeholder asks for. The number behind the word is read back
(`ofBody_outcomeBody`). With the built-in table of outcomes there is a row for every total of the die, so that
the placeholder always gives one of the four outcomes, and without a warning (`run_resolve_outcome`).
-/

namespace TaleLoom

open Text Number Expression

theorem Desk.unwarned_rolled (desk : Desk) {formula : Value} {f : Formula}
    (h : Formula.ofValue formula = .ok f) (reason : String) :
    unwarned.holds desk (desk.rolled formula reason f) :=
  (unwarned_quiet.roll formula reason).of_ok (run_roll_ok h reason desk)

namespace BuiltIn

def outcomes : List String := ["Critical failure", "Failure", "Success", "Critical success"]

theorem literal_difficulty {row : Row} (h : row ∈ difficulty.rows) :
    ∃ text ∈ outcomes, row.description = .literal text := by
  simp only [difficulty, List.mem_cons, List.not_mem_nil, or_false] at h
  rcases h with rfl | rfl | rfl | rfl
  all_goals exact ⟨_, by simp [outcomes], rfl⟩

/-- A roll against any difficulty gives one of the outcomes and no warning. -/
theorem run_rollOn_difficulty (n : Int) (desk : Desk) :
    ∃ result after, Registry.rollOn difficulty (some n) 0 desk = .ok result after ∧
      result.description ∈ outcomes ∧ Desk.unwarned.holds desk after := by
  obtain ⟨row, hlands, hrow⟩ := landsAt_difficulty n (Formula.totalOn ⟨1, 20, 0⟩ desk.source)
  obtain ⟨text, houtcome, htext⟩ := literal_difficulty (List.mem_of_getElem? hlands.stands)
  have hroll := RandomTable.run_roll_literal rollable_difficulty hrow htext 0
  simp only [Registry.rollOn, Act.run_bind, hroll, Act.run_discard, Desk.run_post, Act.run_pure]
  refine ⟨_, _, rfl, houtcome, ?_⟩
  exact Desk.unwarned.trans (Desk.unwarned_rolled desk rollable_difficulty.formula _)
    (Desk.unwarned_posted _ _ _)

end BuiltIn

namespace Expression

/-- A word, a space and a text without white space: the text is what the word is about. -/
theorem argument?_of_spaced {word cs argument : List Char} (h : afterWord? word cs = some (' ' :: argument))
    (hne : argument ≠ []) (hblank : ∀ c ∈ argument, isBlank c = false) :
    argument? word cs = some argument := by
  have hline : ∀ c ∈ ' ' :: argument, c ≠ '\n' := by
    refine List.forall_mem_cons.2 ⟨by decide, fun c hc => ?_⟩
    rintro rfl
    exact absurd (hblank '\n' hc) (by decide)
  have hbreak : dropFinalBreak (' ' :: argument) = ' ' :: argument := by
    rw [dropFinalBreak, if_neg]
    exact fun hlast => hline '\n' (List.mem_of_getLast? hlast) rfl
  have hspace : Blanks [' '] := List.forall_mem_singleton.2 rfl
  have hhead : ∀ c ∈ argument.head?, isBlank c = false := fun c hc => hblank c (List.mem_of_mem_head? hc)
  have hlead : (' ' :: argument).takeWhile isBlank = [' '] := (span_append hspace hhead).1
  have hlast : (' ' :: argument).reverse.takeWhile (· != '\n') = (' ' :: argument).reverse := by
    rw [List.takeWhile_eq_self_iff]
    intro c hc
    simpa using hline c (List.mem_reverse.1 hc)
  have htrim : trim (' ' :: argument) = argument :=
    (trim_append_front hspace argument).trans (trim_of_no_blank hblank)
  have hlength : 0 < argument.length := List.length_pos_iff.2 hne
  have hleads : 1 ≤ min 1 (argument.length + 1 - 1) := by omega
  simp only [argument?, h, Option.bind_some, hbreak, hlead, hlast, htrim, List.length_reverse, List.length_cons,
    List.length_nil, Nat.zero_add, Nat.sub_self, decide_eq_true hleads, Nat.zero_le, decide_true, Bool.and_self,
    if_true]

end Expression

namespace Resolver

def outcomeBody (n : Int) : List Char := ("dc " ++ decimal n).toList

def outcomeToken (doubled : Bool) (n : Int) : Token := ⟨doubled, outcomeBody n⟩

theorem outcomeBody_eq (n : Int) : outcomeBody n = ['d', 'c', ' '] ++ (decimal n).toList := by
  simp [outcomeBody]

theorem proper_outcomeToken (doubled : Bool) (n : Int) : (outcomeToken doubled n).Proper := by
  have hword : Bare ['d', 'c', ' '] := by decide
  rw [outcomeToken, outcomeBody_eq]
  exact ⟨List.cons_ne_nil _ _, hword.append (bare_decimal n)⟩

theorem trim_outcomeBody (n : Int) : trim (outcomeBody n) = outcomeBody n := by
  rw [outcomeBody_eq]
  apply trim_append_decimal (List.cons_ne_nil _ _)
  intro c hc
  obtain rfl : 'd' = c := Option.some.inj hc
  rfl

/-- What the placeholder asks for is an outcome against the number behind the word. -/
theorem ofBody_outcomeBody (hasItems : Bool) (n : Int) :
    ofBody hasItems (outcomeBody n) = .outcome (decimal n).toList := by
  have hword : afterWord? ['d', 'c'] (outcomeBody n) = some (' ' :: (decimal n).toList) := by
    rw [outcomeBody_eq]
    rfl
  have hargument := argument?_of_spaced hword (decimal_ne_nil n) fun c hc => isBlank_of_mem_decimal hc
  have hothers (letters : List Char) :
      startsWithWord ('r' :: letters) (lowerAfter false (outcomeBody n)) = false := by
    rw [outcomeBody_eq]
    exact not_startsWithWord (by decide) rfl (by decide) letters _
  simp only [ofBody, hothers, hargument, Bool.false_eq_true, if_false, Option.map_some, Option.getD_some]

section Resolving

variable (resolver : Resolver) {n depth : Int} {scene : Scene}

theorem run_attempt_outcome (hn : isTooLong n = false)
    (htable : scene.registry.difficultyTable = BuiltIn.difficulty) :
    ∃ text ∈ BuiltIn.outcomes, ∃ after, resolver.attempt (outcomeBody n) scene = .ok (.ok (.text text)) after ∧
      Desk.unwarned.holds scene.desk after.desk := by
  obtain ⟨result, desk, hroll, houtcome, hunwarned⟩ := BuiltIn.run_rollOn_difficulty n scene.desk
  refine ⟨result.description, houtcome, { scene with desk }, ?_, hunwarned⟩
  simp only [attempt, ofBody_outcomeBody, resolveOutcome, readInteger?_decimal hn, Registry.rollDifficulty,
    Act.run_bind, Act.run_get, htable, Scene.run_liftDesk, Scene.run_atDesk, hroll, Act.run_pure]

/-- With the built-in table the placeholder gives one of the outcomes, whatever is drawn, and the author is
told of nothing but subscribers that fail. -/
theorem run_resolve_outcome (hn : isTooLong n = false)
    (htable : scene.registry.difficultyTable = BuiltIn.difficulty) (doubled : Bool)
    (hdepth : depth < resolver.options.maxDepth) :
    ∃ text ∈ BuiltIn.outcomes, ∃ after,
      resolver.resolve (String.ofList (outcomeToken doubled n).text) depth scene = .ok text after ∧
        Desk.unwarned.holds scene.desk after.desk := by
  obtain ⟨text, houtcome, after, hattempt, hunwarned⟩ := run_attempt_outcome resolver hn htable
  have htoken : resolver.resolveToken (trim (outcomeToken doubled n).body) scene =
      .ok (some (.text text)) after := by
    rw [outcomeToken, trim_outcomeBody]
    exact run_resolveToken_answered hattempt
  have hbare : ∀ text ∈ BuiltIn.outcomes, Bare text.toList := by decide
  have hresolve := resolve_answered (proper_outcomeToken doubled n) hdepth (hbare text houtcome) htoken
  exact ⟨text, houtcome, _, hresolve, Desk.unwarned.trans hunwarned (Desk.unwarned_posted _ _ _)⟩

end Resolving

end Resolver

/-- A difficulty only shifts the scale: where all bounds are open or offsets, a total against a difficulty has
the row, by its place, that the margin between them has without one. In the built-in table of outcomes
each total has exactly one row against every difficulty, there are no gaps, and a larger total never has an
earlier row. So a placeholder that asks for an outcome always gives one of the four, and no warning. -/
theorem difficulty_shifts_scale :
    (∀ table : RandomTable, (∀ row ∈ table.rows, row.IsOffset) → ∀ n total : Int,
      table.SameRow (some n) total none (total - n)) ∧
    (∀ n : Int, BuiltIn.difficulty.gaps (some n) = .ok [] ∧
      (∀ total, ∃ place row, BuiltIn.difficulty.LandsAt (some n) total place row ∧
        BuiltIn.difficulty.rowFor (some n) total = .ok (some row) ∧
        ∀ other row', BuiltIn.difficulty.rows[other]? = some row' →
          row'.covers (some n) total = .ok true → other = place) ∧
      ∀ total total' place place' row row', total ≤ total' →
        BuiltIn.difficulty.LandsAt (some n) total place row →
        BuiltIn.difficulty.LandsAt (some n) total' place' row' → place ≤ place') ∧
    ∀ (resolver : Resolver) (n depth : Int) (doubled : Bool) (scene : Scene), isTooLong n = false →
      scene.registry.difficultyTable = BuiltIn.difficulty → depth < resolver.options.maxDepth →
      ∃ text ∈ BuiltIn.outcomes, ∃ after,
        resolver.resolve (String.ofList (Resolver.outcomeToken doubled n).text) depth scene = .ok text after ∧
          Desk.unwarned.holds scene.desk after.desk ∧
          ((∀ subscriber ∈ scene.desk.log.subscribers, subscriber.fails = false) →
            after.desk.notices = scene.desk.notices) := by
  refine ⟨fun table h => RandomTable.sameRow_margin h, fun n => ⟨BuiltIn.gaps_difficulty n,
    BuiltIn.covered_once n, fun _ _ _ _ _ _ hle h h' => BuiltIn.landsAt_mono h h' hle⟩, ?_⟩
  intro resolver n depth doubled scene hn htable hdepth
  obtain ⟨text, houtcome, after, hrun, hunwarned⟩ :=
    resolver.run_resolve_outcome hn htable doubled hdepth
  exact ⟨text, houtcome, after, hrun, hunwarned, Desk.notices_of_unwarned hunwarned⟩

def passOrFail : RandomTable :=
  { name := .text "pass or fail", formula := .text "1d20"
    rows := [⟨.null, .text " -1 ", .literal "fail"⟩, ⟨.text "+0", .null, .literal "pass"⟩] }

theorem difficulty_shifts_scale_check :
    (∀ row ∈ passOrFail.rows, row.IsOffset) ∧ passOrFail.SameRow (some 15) 12 none (-3) ∧
      isTooLong 15 = false ∧ Scene.blank.registry.difficultyTable = BuiltIn.difficulty ∧
      ∃ text ∈ BuiltIn.outcomes, ∃ after,
        ({} : Resolver).resolve "\x7bdc 15\x7d" 0 Scene.blank = .ok text after ∧
          after.desk.notices = Scene.blank.desk.notices := by
  have hrows : ∀ row ∈ passOrFail.rows, row.IsOffset := by
    intro row hrow
    simp only [passOrFail, List.mem_cons, List.not_mem_nil, or_false] at hrow
    rcases hrow with rfl | rfl
    · exact ⟨Or.inl rfl, Or.inr ⟨_, -1, rfl, by decide⟩⟩
    · exact ⟨Or.inr ⟨_, 0, rfl, by decide⟩, Or.inl rfl⟩
  have hshort : isTooLong 15 = false := isTooLong_of_lt_hundred (by decide)
  have htable : Scene.blank.registry.difficultyTable = BuiltIn.difficulty := rfl
  obtain ⟨text, houtcome, after, hrun, -, hnotices⟩ :=
    difficulty_shifts_scale.2.2 {} 15 0 false Scene.blank hshort htable (by decide)
  refine ⟨hrows, difficulty_shifts_scale.1 passOrFail hrows 15 12, hshort, htable, text, houtcome, after, hrun,
    hnotices ?_⟩
  exact List.forall_mem_nil _

end TaleLoom
