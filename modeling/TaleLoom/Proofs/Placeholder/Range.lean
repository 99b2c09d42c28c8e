import TaleLoom.Proofs.Placeholder.Single
import TaleLoom.Proofs.Record
/-!
Numbers from a range that a placeholder asks for. The ends of the range are written with the minus sign that
also stands between them. Each number is read up to the first character that is no digit, so that only a
minus sign in front of digits belongs to a number, and both ends are read back (`ends?_rangeBody`). A range
that is not empty is drawn from once, and an empty one is refused before anything is drawn
(`range_reads_back`).
-/

namespace TaleLoom

open Text Number Expression

/-- The scene after a number was drawn from a range. -/
def Scene.drawn (scene : Scene) (low high : Int) (reason : String) : Scene :=
  let drawn := scene.desk.source.number ⟨low, high⟩
  let desk : Desk := { scene.desk with source := drawn.2 }
  { scene with desk := desk.recorded (Desk.numberRoll low high drawn.1 reason) }

namespace Resolver

section Reading

/-- The digits in front of a character that is none are read, and a minus sign before them. -/
theorem writtenInteger?_digits {digits rest : List Char} (hne : digits ≠ []) (hdigits : Digits digits)
    (hrest : ∀ c ∈ rest.head?, isDecimal c = false) :
    writtenInteger? (digits ++ rest) = some (⟨false, digits⟩, rest) ∧
      writtenInteger? ('-' :: (digits ++ rest)) = some (⟨true, digits⟩, rest) := by
  obtain ⟨htake, hdrop⟩ := span_append hdigits hrest
  have hfilled : digits.isEmpty = false := List.isEmpty_eq_false_iff.2 hne
  constructor
  · unfold writtenInteger?
    split
    next negative body hsign =>
    split at hsign
    · next heq =>
      obtain ⟨c, others, rfl⟩ := List.exists_cons_of_ne_nil hne
      obtain rfl : c = '-' := (List.cons.inj heq).1
      exact absurd (hdigits '-' List.mem_cons_self) (by decide)
    · obtain ⟨rfl, rfl⟩ := Prod.mk.inj hsign
      simp only [htake, hdrop, hfilled, Bool.false_eq_true, if_false]
  · simp only [writtenInteger?, htake, hdrop, hfilled, Bool.false_eq_true, if_false]

/-- A number is read up to the first character that is no digit. -/
theorem writtenInteger?_decimal {n : Int} (h : isTooLong n = false) {rest : List Char}
    (hrest : ∀ c ∈ rest.head?, isDecimal c = false) :
    ∃ w, writtenInteger? ((decimal n).toList ++ rest) = some (w, rest) ∧ w.value = .ok n := by
  have hread := readDigits?_of_le (length_digits_le h)
  rw [Value.digitsValue_toDigits] at hread
  obtain ⟨hplain, hminus⟩ := writtenInteger?_digits Nat.toDigits_ne_nil (digits_toDigits n.natAbs) hrest
  obtain ⟨c, cs, heq, -, hwrite⟩ := Value.decimal_cases n
  rw [heq] at hplain hminus hread
  rcases hwrite with ⟨hwrite, hvalue⟩ | ⟨hwrite, hvalue⟩
  · rw [hwrite]
    refine ⟨_, hplain, ?_⟩
    simp only [WrittenInteger.value, hread, Bool.false_eq_true, if_false, hvalue]
  · rw [hwrite]
    refine ⟨_, hminus, ?_⟩
    simp only [WrittenInteger.value, hread, if_true, hvalue]

def rangeBody (low high : Int) : List Char := ("rand " ++ decimal low ++ "-" ++ decimal high).toList

variable {low high : Int}

theorem rangeBody_eq (low high : Int) : rangeBody low high =
    ['r', 'a', 'n', 'd', ' '] ++ ((decimal low).toList ++ '-' :: (decimal high).toList) := by
  simp [rangeBody]

/-- Both ends of a range are read back, whatever their signs. -/
theorem ends?_rangeBody (hlow : isTooLong low = false) (hhigh : isTooLong high = false) :
    ∃ first last, ends? (rangeBody low high) = some (first, last) ∧ first.value = .ok low ∧
      last.value = .ok high := by
  have hminus : ∀ c ∈ ('-' :: (decimal high).toList).head?, isDecimal c = false := by
    intro c hc
    obtain rfl : '-' = c := Option.some.inj hc
    decide
  obtain ⟨first, hfirst, hlowValue⟩ := writtenInteger?_decimal hlow hminus
  have hend : ∀ c ∈ ([] : List Char).head?, isDecimal c = false := by simp
  obtain ⟨last, hlast, hhighValue⟩ := writtenInteger?_decimal hhigh hend
  rw [List.append_nil] at hlast
  refine ⟨first, last, ?_, hlowValue, hhighValue⟩
  have hword : afterWord? ['r', 'a', 'n', 'd'] (rangeBody low high) =
      some (' ' :: ((decimal low).toList ++ '-' :: (decimal high).toList)) := by
    rw [rangeBody_eq]
    rfl
  have hspace : trimStart (' ' :: ((decimal low).toList ++ '-' :: (decimal high).toList)) =
      (decimal low).toList ++ '-' :: (decimal high).toList := by
    have hblanks : Blanks [' '] := List.forall_mem_singleton.2 rfl
    have hfirst : ∀ c ∈ ((decimal low).toList ++ '-' :: (decimal high).toList).head?, isBlank c = false := by
      rw [List.head?_append_of_ne_nil _ (decimal_ne_nil low)]
      exact fun c hc => isBlank_of_mem_decimal (List.mem_of_mem_head? hc)
    exact trimStart_append hblanks hfirst
  have hsign : trimStart ('-' :: (decimal high).toList) = '-' :: (decimal high).toList := rfl
  have hnumber : trimStart (decimal high).toList = (decimal high).toList :=
    dropWhile_of_head fun c hc => isBlank_of_mem_decimal (List.mem_of_mem_head? hc)
  have hblank : (!(Option.map isBlank (' ' :: ((decimal low).toList ++
      '-' :: (decimal high).toList)).head?).getD false) = false := rfl
  simp only [ends?, hword, Option.bind_eq_bind, Option.bind_some, hblank, hspace, hfirst, hsign, hnumber,
    hlast, Bool.false_eq_true, if_false, decide_true, Bool.true_or, if_true]

theorem ofBody_rangeBody (hasItems : Bool) (low high : Int) :
    ofBody hasItems (rangeBody low high) = .range (ends? (rangeBody low high)) := by
  have hstarts : startsWithWord ['r', 'a', 'n', 'd'] (lowerAfter false (rangeBody low high)) = true := by
    rw [rangeBody_eq]
    generalize (decimal low).toList ++ '-' :: (decimal high).toList = rest
    simp only [List.cons_append, List.nil_append]
    iterate 5 rw [lowerAfter, if_neg (by decide)]
    rfl
  rw [ofBody]
  simp only [hstarts, if_true]

end Reading

section Drawing

variable {resolver : Resolver} {low high depth : Int} {scene : Scene}

def rangeToken (doubled : Bool) (low high : Int) : Token := ⟨doubled, rangeBody low high⟩

def placeholderReason (body : List Char) : String := "placeholder: " ++ String.ofList body

theorem proper_rangeToken (doubled : Bool) (low high : Int) : (rangeToken doubled low high).Proper := by
  have hbody : Bare (rangeBody low high) := by
    have hword : Bare ['r', 'a', 'n', 'd', ' '] := by decide
    have hminus : Bare ['-'] := by decide
    rw [rangeBody_eq]
    exact hword.append ((bare_decimal low).append (hminus.append (bare_decimal high)))
  refine ⟨?_, hbody⟩
  rw [rangeToken, rangeBody_eq]
  exact List.cons_ne_nil _ _

theorem trim_rangeBody (low high : Int) : trim (rangeBody low high) = rangeBody low high := by
  have hparts : rangeBody low high =
      (['r', 'a', 'n', 'd', ' '] ++ (decimal low).toList ++ ['-']) ++ (decimal high).toList := by
    simp [rangeBody]
  rw [hparts]
  apply trim_append_decimal
  · exact List.append_ne_nil_of_right_ne_nil _ (List.cons_ne_nil _ _)
  · intro c hc
    obtain rfl : 'r' = c := Option.some.inj hc
    rfl

/-- A range that is not empty gives the number that is drawn from it. -/
theorem run_attempt_rangeBody (hlow : isTooLong low = false) (hhigh : isTooLong high = false)
    (h : low ≤ high) (scene : Scene) :
    resolver.attempt (rangeBody low high) scene =
      .ok (.ok (.text (decimal (scene.desk.source.number ⟨low, high⟩).1)))
        (scene.drawn low high (placeholderReason (rangeBody low high))) := by
  obtain ⟨first, last, hends, hfirst, hlast⟩ := ends?_rangeBody hlow hhigh
  obtain ⟨hleast, hgreatest⟩ := Source.number_between h scene.desk.source
  have hdigits := digits_ok (isTooLong_of_between hlow hhigh hleast hgreatest)
  have hdraw := Desk.run_draw_recorded h hlow hhigh (placeholderReason (rangeBody low high)) scene.desk
  rw [placeholderReason] at hdraw
  simp only [attempt, ofBody_rangeBody, hends, resolveRange, Act.run_bind, Act.run_liftExcept, hfirst, hlast,
    Act.run_ofExcept_ok, if_neg (Int.not_lt.2 h), Scene.run_liftDesk, Scene.run_atDesk, hdraw, hdigits,
    Act.run_pure]
  rfl

/-- An empty range is refused, and nothing is drawn from it. -/
theorem run_attempt_rangeBody_empty (hlow : isTooLong low = false) (hhigh : isTooLong high = false)
    (h : high < low) (scene : Scene) :
    resolver.attempt (rangeBody low high) scene =
      .ok (.error (.range (String.ofList (rangeBody low high)))) scene := by
  obtain ⟨first, last, hends, hfirst, hlast⟩ := ends?_rangeBody hlow hhigh
  simp only [attempt, ofBody_rangeBody, hends, resolveRange, Act.run_bind, Act.run_liftExcept, hfirst, hlast,
    Act.run_ofExcept_ok, if_pos h, Act.run_pure]

/-- A placeholder for a number from a range is read as it was written, whatever the signs of the two ends. If
the range is not empty, a number of it takes the placeholder's place, which one draw from the range gives and
nothing else is drawn; and each number of the range is given by some source. If it is empty, the placeholder
is kept with a warning, and nothing is drawn. -/
theorem range_reads_back (resolver : Resolver) (hlow : isTooLong low = false) (hhigh : isTooLong high = false)
    (doubled : Bool) (hdepth : depth < resolver.options.maxDepth) (scene : Scene) :
    let token := rangeToken doubled low high
    let text := String.ofList token.text
    let body := trim token.body
    (low ≤ high →
      (let n := (scene.desk.source.number ⟨low, high⟩).1
       let after := scene.drawn low high (placeholderReason body)
       low ≤ n ∧ n ≤ high ∧
        resolver.resolveToken body scene = .ok (some (.text (decimal n))) after ∧
        resolver.resolve text depth scene =
          .ok (decimal n) (after.expanded ⟨depth, token, scene⟩ (.text (decimal n)))) ∧
      ∀ n, low ≤ n → n ≤ high → ∃ source after,
        resolver.resolve text depth { scene with desk := { scene.desk with source } } =
          .ok (decimal n) after) ∧
    (high < low → resolver.options.markUnresolved = false →
      let after := scene.told [refusal body (.range (String.ofList body))]
      resolver.resolveToken body scene = .ok none after ∧
        resolver.resolve text depth scene = .ok text after) := by
  intro token text body
  have hproper : token.Proper := proper_rangeToken doubled low high
  have hbody : body = rangeBody low high := trim_rangeBody low high
  refine ⟨fun h => ?_, fun h hmark => ?_⟩
  · have hgiven (scene : Scene) :
        resolver.resolveToken body scene =
          .ok (some (.text (decimal (scene.desk.source.number ⟨low, high⟩).1)))
            (scene.drawn low high (placeholderReason body)) := by
      rw [hbody]
      exact run_resolveToken_answered (run_attempt_rangeBody hlow hhigh h scene)
    have hwhole (scene : Scene) := resolve_answered hproper hdepth (bare_decimal _) (hgiven scene)
    obtain ⟨hleast, hgreatest⟩ := Source.number_between h scene.desk.source
    refine ⟨⟨hleast, hgreatest, hgiven scene, hwhole scene⟩, fun n hleast hgreatest => ?_⟩
    obtain ⟨source, rfl⟩ := Source.exists_number hleast hgreatest
    exact ⟨source, _, hwhole _⟩
  · have hkept : resolver.resolveToken body scene =
        .ok none (scene.told [refusal body (.range (String.ofList body))]) := by
      rw [hbody]
      exact run_resolveToken_left hmark (run_attempt_rangeBody_empty hlow hhigh h scene)
    exact ⟨hkept, resolve_refused hproper hdepth hkept⟩

/-- Of the range from minus five to minus three the second number is drawn; turned around, it is kept. -/
theorem range_reads_back_below_zero :
    let scene := { Scene.blank with desk := { Scene.blank.desk with source := .listed [1] } }
    isTooLong (-5) = false ∧ isTooLong (-3) = false ∧ (0 : Int) < ({} : Resolver).options.maxDepth ∧
      (∃ after, ({} : Resolver).resolve "\x7brand -5--3\x7d" 0 scene = .ok "-4" after) ∧
        ∃ after, ({} : Resolver).resolve "\x7brand -3--5\x7d" 0 scene = .ok "\x7brand -3--5\x7d" after := by
  intro scene
  have hfive : isTooLong (-5) = false := isTooLong_of_lt_hundred (by decide)
  have hthree : isTooLong (-3) = false := isTooLong_of_lt_hundred (by decide)
  have hdepth : (0 : Int) < ({} : Resolver).options.maxDepth := by decide
  have hdrawn := (range_reads_back {} hfive hthree false hdepth scene).1 (by decide)
  have hkept := (range_reads_back {} hthree hfive false hdepth scene).2 (by decide) rfl
  refine ⟨hfive, hthree, hdepth, ⟨_, hdrawn.1.2.2.2⟩, ⟨_, hkept.2⟩⟩

end Drawing

end Resolver

end TaleLoom
