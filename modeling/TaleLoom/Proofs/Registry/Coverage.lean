import Mathlib.Data.List.TakeWhile
import TaleLoom.Proofs.Table.Coverage
import TaleLoom.Proofs.Table.Definition
import TaleLoom.Registry.Load
/-!
What the registry says of totals that no row covers. A table that misses a total is taken in with a
warning, unless the first missed totals are too long to be told, which ends the registering; a table of
a file of which every table has to be sound misses none.
-/

namespace TaleLoom

open Number

namespace Span

def Tellable (span : Span) : Prop := isTooLong span.first = false ∧ isTooLong span.last = false

theorem text_of_tellable {span : Span} (h : span.Tellable) : ∃ s, span.text = .ok s := by
  obtain ⟨hfirst, hlast⟩ := h
  simp only [text, digits_ok hfirst, digits_ok hlast, ok_bind]
  split
  · exact ⟨_, rfl⟩
  · exact ⟨_, rfl⟩

theorem text_of_not_tellable {span : Span} (h : ¬ span.Tellable) :
    span.text = .error .numeral := by
  cases hfirst : isTooLong span.first with
  | true => simp only [text, digits_error hfirst, error_bind]
  | false =>
    have hlast : isTooLong span.last = true := by
      cases hlast : isTooLong span.last with
      | true => rfl
      | false => exact absurd ⟨hfirst, hlast⟩ h
    have hne : span.first ≠ span.last := by
      intro heq
      rw [heq, hlast] at hfirst
      cases hfirst
    simp only [text, digits_ok hfirst, digits_error hlast, ok_bind, hne, if_false, error_bind]

theorem mapM_text (spans : List Span) :
    ((∀ span ∈ spans, span.Tellable) ∧ ∃ texts, spans.mapM Span.text = .ok texts) ∨
      (¬ ∀ span ∈ spans, span.Tellable) ∧ spans.mapM Span.text = .error .numeral := by
  induction spans with
  | nil => exact Or.inl ⟨by simp, [], rfl⟩
  | cons span rest ih =>
    rw [List.forall_mem_cons, List.mapM_cons]
    by_cases hspan : span.Tellable
    · obtain ⟨s, hs⟩ := text_of_tellable hspan
      rcases ih with ⟨hrest, texts, htexts⟩ | ⟨hrest, herror⟩
      · exact Or.inl ⟨⟨hspan, hrest⟩, s :: texts, by simp [hs, htexts]⟩
      · exact Or.inr ⟨fun h => hrest h.2, by simp [hs, herror]⟩
    · exact Or.inr ⟨fun h => hspan h.1, by simp [text_of_not_tellable hspan]⟩

end Span

def GapsTellable (gaps : List Span) : Prop := ∀ gap ∈ gaps.take 5, gap.Tellable

theorem describeGaps_cases (gaps : List Span) :
    (GapsTellable gaps ∧ ∃ text, describeGaps gaps shownGaps = .ok text) ∨
      ¬ GapsTellable gaps ∧ describeGaps gaps shownGaps = .error .numeral := by
  have htake : takeLimit shownGaps gaps = gaps.take 5 := rfl
  unfold describeGaps GapsTellable
  rw [htake]
  rcases Span.mapM_text (gaps.take 5) with ⟨htell, texts, htexts⟩ | ⟨htell, herror⟩
  · refine Or.inl ⟨htell, ?_⟩
    simp only [htexts, ok_bind]
    split
    · exact ⟨_, rfl⟩
    · exact ⟨_, rfl⟩
  · exact Or.inr ⟨htell, by simp only [herror, error_bind]⟩

namespace Registry

def gapWarning (table : RandomTable) (text : String) : Notice :=
  ⟨.warning, "Table '" ++ table.name.plain ++ "'" ++ " has no rows for totals " ++ text⟩

section Warning

variable {table : RandomTable} {gaps : List Span}

theorem run_warnOfGaps_nil (h : table.gaps none = .ok []) (desk : Desk) :
    warnOfGaps table desk = .ok () desk := by
  simp only [warnOfGaps, h, Act.run_pure]

theorem run_warnOfGaps_ok (h : table.gaps none = .ok gaps) (hgaps : gaps ≠ []) {text : String}
    (htext : describeGaps gaps shownGaps = .ok text) (desk : Desk) :
    warnOfGaps table desk =
      .ok () { desk with notices := desk.notices.push (gapWarning table text) } := by
  cases gaps with
  | nil => exact absurd rfl hgaps
  | cons gap rest =>
    simp only [warnOfGaps, h, Act.run_bind, Act.run_liftExcept, htext, Act.run_ofExcept_ok,
      Desk.run_warn]
    rfl

theorem run_warnOfGaps_error (h : table.gaps none = .ok gaps) (hgaps : gaps ≠ []) {fault : Fault}
    (htext : describeGaps gaps shownGaps = .error fault) (desk : Desk) :
    warnOfGaps table desk = .error fault desk := by
  cases gaps with
  | nil => exact absurd rfl hgaps
  | cons gap rest =>
    simp only [warnOfGaps, h, Act.run_bind, Act.run_liftExcept, htext, Act.run_ofExcept_error]

def keyFor (table : RandomTable) : Option Value → Value
  | some key => if key.truthy then key else table.name
  | none => table.name

/-- After the warnings registering only sets the table under its key. -/
theorem register_eq (table : RandomTable) (key : Option Value) :
    register table key = (do
      Scene.atDesk (warnOfGaps table)
      let key ← Act.ofExcept (keyFor table key).asKey
      modify fun scene => { scene with registry :=
        { scene.registry with custom := Keyed.set key table scene.registry.custom } }
      return key) := by
  cases key <;> rfl

theorem desk_after_register {key : Option Value} {scene : Scene} {desk : Desk}
    (h : warnOfGaps table scene.desk = .ok () desk) :
    ((register table key).after scene).desk = desk := by
  have hwarn : Scene.atDesk (warnOfGaps table) scene = .ok () { scene with desk } := by
    rw [Scene.run_atDesk, h]
  rw [register_eq, Act.after_bind, hwarn]
  simp only [Act.after_bind]
  cases (keyFor table key).asKey with
  | error fault => rfl
  | ok key => rfl

theorem run_register_error {key : Option Value} {scene : Scene} {fault : Fault}
    (h : warnOfGaps table scene.desk = .error fault scene.desk) :
    register table key scene = .error fault scene := by
  have hwarn : Scene.atDesk (warnOfGaps table) scene = .error fault scene := by
    rw [Scene.run_atDesk, h]
  rw [register_eq, Act.run_bind, hwarn]

end Warning

section Loading

/-- Every roll on the table gives a row, whatever the dice show. -/
def AlwaysMatched (table : RandomTable) : Prop :=
  ∀ rerolls desk, ∃ result after row, table.roll none rerolls desk = .ok result after ∧
    result.row = some row

theorem alwaysMatched_of_tableOf {key : Option String} {entry : Value} {table : RandomTable}
    (h : tableOf true key entry = .ok table) : AlwaysMatched table := by
  unfold tableOf at h
  cases hvalue : RandomTable.ofValue key entry with
  | error fault => simp [hvalue] at h
  | ok given =>
    simp only [hvalue, ok_bind, if_true] at h
    cases hgaps : given.gaps none with
    | error fault => simp [hgaps] at h
    | ok gaps =>
      cases gaps with
      | nil =>
        obtain rfl : given = table := by simpa [hgaps] using h
        exact RandomTable.run_roll_of_no_gaps hgaps (RandomTable.renders_of_ofValue hvalue)
      | cons gap rest =>
        simp only [hgaps, ok_bind, List.isEmpty_cons, Bool.not_false, if_true] at h
        cases hdescribe : describeGaps (gap :: rest) shownGaps with
        | error fault => simp [hdescribe] at h
        | ok text =>
          rw [hdescribe] at h
          cases h

theorem mem_values_set {κ α : Type} [BEq κ] {key : κ} {a b : α} {m : Keyed κ α}
    (h : b ∈ Keyed.values (Keyed.set key a m)) : b = a ∨ b ∈ Keyed.values m := by
  induction m with
  | nil => simpa [Keyed.set, Keyed.values] using h
  | cons entry rest ih =>
    obtain ⟨k, old⟩ := entry
    simp only [Keyed.set] at h
    split at h
    · rcases List.mem_cons.1 h with rfl | hmem
      · exact Or.inl rfl
      · exact Or.inr (List.mem_cons_of_mem _ hmem)
    · rcases List.mem_cons.1 h with rfl | hmem
      · exact Or.inr List.mem_cons_self
      · exact (ih hmem).imp_right (List.mem_cons_of_mem _)

def sound : Frame Scene where
  holds s t := ∀ table ∈ Keyed.values t.registry.custom,
    table ∈ Keyed.values s.registry.custom ∨ AlwaysMatched table
  refl _ _ h := Or.inl h
  trans hst htu table h := (htu table h).elim (hst table) Or.inr

theorem sound_of_custom {s t : Scene} (h : t.registry.custom = s.registry.custom) :
    sound.holds s t := by
  intro table htable
  exact Or.inl (h ▸ htable)

theorem sound_atDesk {α : Type} (act : Act Desk α) : (Scene.atDesk act).Keeps sound :=
  Scene.keeps_atDesk act fun _ _ => sound_of_custom rfl

theorem sound_register {table : RandomTable} (h : AlwaysMatched table) (key : Option Value) :
    (register table key).Keeps sound := by
  rw [register_eq]
  refine Act.Keeps.bind (sound_atDesk _) fun _ => Act.Keeps.bind (Act.Keeps.ofExcept _) fun key => ?_
  refine Act.Keeps.bind (Act.Keeps.modify fun scene other hother => ?_) fun _ => Act.Keeps.pure _
  rcases mem_values_set hother with rfl | hmem
  · exact Or.inr h
  · exact Or.inl hmem

theorem sound_takeIn (file : Path) (count : Nat) (entries : List (Option String × Value)) :
    (takeIn file true count entries).Keeps sound := by
  induction entries generalizing count with
  | nil =>
    unfold takeIn
    exact Act.Keeps.pure _
  | cons entry rest ih =>
    obtain ⟨key, entry⟩ := entry
    have hrefuse (fault : Fault) : (takeIn.refuse file true fault count rest).Keeps sound := by
      unfold takeIn.refuse
      exact Act.Keeps.bind (Act.Keeps.throw _) fun _ => Act.Keeps.bind (sound_atDesk _) fun _ => ih _
    unfold takeIn
    cases htable : tableOf true key entry with
    | ok table =>
      exact Act.Keeps.bind (Act.Keeps.discard (sound_register (alwaysMatched_of_tableOf htable) _))
        fun _ => ih _
    | error fault =>
      cases fault with
      | table why => exact hrefuse _
      | dice written why => exact hrefuse _
      | _ => exact Act.Keeps.throw _

theorem sound_load (file : Path) : (load file true).Keeps sound := by
  refine Act.Keeps.bind (sound_atDesk _) fun document => ?_
  exact Act.Keeps.bind (Act.Keeps.ofExcept _) fun entries => sound_takeIn file 0 entries

end Loading

section Telling

variable {table : RandomTable} {f : Formula} {gaps : List Span}

/-- No total is missed exactly where there is no gap. -/
theorem gaps_eq_nil_iff (hfilled : ∀ gap ∈ gaps, Span.Within ⟨f.least, f.greatest⟩ gap)
    (hexact : ∀ total, (∃ gap ∈ gaps, gap.Has total) ↔ table.Missed f none total) :
    gaps = [] ↔ ¬ ∃ total, table.Missed f none total := by
  constructor
  · rintro rfl ⟨total, hmissed⟩
    obtain ⟨gap, hgap, -⟩ := (hexact total).2 hmissed
    cases hgap
  · intro hnone
    cases gaps with
    | nil => rfl
    | cons gap rest =>
      have hhas : gap.Has gap.first := ⟨Int.le_refl _, (hfilled gap List.mem_cons_self).filled⟩
      exact absurd ⟨gap.first, (hexact _).1 ⟨gap, List.mem_cons_self, hhas⟩⟩ hnone

/-- The gaps of a table are exactly the totals that its rolls miss: without rerolls such a roll comes
back without a row, or fails where its total is too long to be told. The registry warns of a table
exactly where there are such totals, or fails where the first of them are too long to be told, and a
file that is loaded with every table sound brings in no table that a roll can miss. -/
theorem gaps_match_rolls (h : table.Rollable f) :
    (∀ difficulty, ∃ gaps, table.gaps difficulty = .ok gaps ∧ Span.Apart gaps ∧
      (∀ gap ∈ gaps, Span.Within ⟨f.least, f.greatest⟩ gap) ∧
      ∀ total, ((∃ gap ∈ gaps, gap.Has total) ↔ table.Missed f difficulty total) ∧
        (table.Unmatched difficulty total ↔
          table.Missed f difficulty total ∧ isTooLong total = false) ∧
        (table.Unspoken difficulty total ↔
          table.Missed f difficulty total ∧ isTooLong total = true)) ∧
    (∀ key scene gaps, table.gaps none = .ok gaps →
      ((¬ ∃ total, table.Missed f none total) →
        ((register table key).after scene).desk = scene.desk) ∧
      ((∃ total, table.Missed f none total) → GapsTellable gaps →
        ∃ text, describeGaps gaps shownGaps = .ok text ∧
          ((register table key).after scene).desk =
            { scene.desk with notices := scene.desk.notices.push (gapWarning table text) }) ∧
      ((∃ total, table.Missed f none total) → ¬ GapsTellable gaps →
        register table key scene = .error .numeral scene)) ∧
    ∀ file scene, ∀ other ∈ Keyed.values ((load file true).after scene).registry.custom,
      other ∈ Keyed.values scene.registry.custom ∨ AlwaysMatched other := by
  refine ⟨fun difficulty => ?_, fun key scene gaps hgaps => ?_, fun file scene => sound_load file scene⟩
  · obtain ⟨gaps, hgaps, hapart, hwithin, hexact⟩ := RandomTable.run_gaps h difficulty
    exact ⟨gaps, hgaps, hapart, hwithin, fun total =>
      ⟨hexact total, RandomTable.unmatched_iff h, RandomTable.unspoken_iff h⟩⟩
  -- registering: by what the sweep found, in three cases
  · obtain ⟨gaps', hgaps', -, hwithin, hexact⟩ := RandomTable.run_gaps h none
    obtain rfl : gaps = gaps' := Except.ok.inj (hgaps.symm.trans hgaps')
    have hnil := gaps_eq_nil_iff hwithin hexact
    have hne (hmissed : ∃ total, table.Missed f none total) : gaps ≠ [] := fun heq => hnil.1 heq hmissed
    refine ⟨fun hnone => ?_, fun hmissed htell => ?_, fun hmissed htell => ?_⟩
    · obtain rfl := hnil.2 hnone
      exact desk_after_register (run_warnOfGaps_nil hgaps _)
    · rcases describeGaps_cases gaps with ⟨-, text, htext⟩ | ⟨hnot, -⟩
      · exact ⟨text, htext, desk_after_register (run_warnOfGaps_ok hgaps (hne hmissed) htext _)⟩
      · exact absurd htell hnot
    · rcases describeGaps_cases gaps with ⟨htell', -⟩ | ⟨-, herror⟩
      · exact absurd htell' htell
      · exact run_register_error (run_warnOfGaps_error hgaps (hne hmissed) herror _)

def middleTable : RandomTable where
  name := .text "middle"
  formula := .text "1d4"
  rows := [⟨.int 2, .int 3, .literal "in between"⟩]

theorem middle_rollable : middleTable.Rollable ⟨1, 4, 0⟩ where
  formula := rfl
  bounds := by
    intro row hrow
    obtain rfl := List.mem_singleton.1 hrow
    exact ⟨⟨some 2, rfl⟩, ⟨some 3, rfl⟩⟩

theorem middle_sound : middleTable.Sound where
  rollable := ⟨_, middle_rollable⟩
  firm := by
    intro row hrow
    obtain rfl := List.mem_singleton.1 hrow
    exact (Description.renders_literal _).firm

/-- A die that shows one leaves the table without a row, and registering it leaves a warning. -/
theorem gaps_match_rolls_middle :
    middleTable.Rollable ⟨1, 4, 0⟩ ∧ middleTable.Unmatched none 1 ∧
      ∃ text, ((register middleTable none).after Scene.blank).desk =
        { Scene.blank.desk with
          notices := Scene.blank.desk.notices.push (gapWarning middleTable text) } := by
  obtain ⟨hgaps, hregister, -⟩ := gaps_match_rolls middle_rollable
  obtain ⟨gaps, hrun, -, -, hexact⟩ := hgaps none
  have hmissed : middleTable.Missed ⟨1, 4, 0⟩ none 1 := by
    refine ⟨⟨[1], ⟨rfl, by simp⟩, rfl⟩, rfl⟩
  -- the sort is by recursion on the length, which does not evaluate
  have hgapsEq : middleTable.gaps none = .ok [⟨1, 1⟩, ⟨4, 4⟩] := by
    have hspans : middleTable.rows.mapM (Row.span? ⟨1, 4⟩ none) = .ok [some ⟨2, 3⟩] := rfl
    have hsorted : ([some ⟨2, 3⟩].filterMap id).mergeSort Span.before = [⟨2, 3⟩] := by simp
    have hbounds : Formula.bounds middleTable.formula = .ok (1, 4) := rfl
    simp only [RandomTable.gaps, hbounds, ok_bind, hspans, hsorted]
    rfl
  have htell : GapsTellable [⟨1, 1⟩, ⟨4, 4⟩] := by
    simp only [GapsTellable, Span.Tellable]
    decide +kernel
  obtain ⟨text, -, hdesk⟩ := (hregister none Scene.blank _ hgapsEq).2.1 ⟨1, hmissed⟩ htell
  exact ⟨middle_rollable, (hexact 1).2.1.2 ⟨hmissed, by decide +kernel⟩, text, hdesk⟩

def shiftedTable (digits : List Char) : RandomTable where
  name := .text "far"
  formula := .text (String.ofList ("1d2+".toList ++ digits))
  rows := []

section Shifted

variable {digits : List Char}

theorem parts_shifted (hdecimal : ∀ c ∈ digits, Text.isDecimal c = true) (hne : digits ≠ [])
    (htrim : Text.trimStart digits = digits) :
    Formula.parts? ("1d2+".toList ++ digits) = some ⟨['1'], ['2'], some (false, digits)⟩ := by
  have htake : digits.takeWhile Text.isDecimal = digits := List.takeWhile_eq_self_iff.2 hdecimal
  have hdrop : digits.dropWhile Text.isDecimal = [] := List.dropWhile_eq_nil_iff.2 hdecimal
  have hmodifier : Formula.modifierPart? ('+' :: digits) = some (some (false, digits)) := by
    simp only [Formula.modifierPart?, htrim, htake, hdrop]
    simp [hne, Text.trimStart]
  have hparts : Formula.parts? ("1d2+".toList ++ digits) =
      (Formula.modifierPart? ('+' :: digits)).map fun modifier => ⟨['1'], ['2'], modifier⟩ := rfl
  rw [hparts, hmodifier]
  rfl

theorem shifted_rollable (hdecimal : ∀ c ∈ digits, Text.isDecimal c = true) (hne : digits ≠ [])
    (htrim : Text.trimStart digits = digits) (hlength : digits.length ≤ digitLimit) :
    (shiftedTable digits).Rollable ⟨1, 2, Text.digitsValue digits⟩ where
  formula := by
    have hmodifier := readDigits?_of_le hlength
    simp only [shiftedTable, Formula.ofValue, Formula.ofText, String.toList_ofList,
      parts_shifted hdecimal hne htrim, Formula.ofParts, Formula.modifierOf, Formula.number, hmodifier]
    rfl
  bounds := by
    intro row hrow
    cases hrow

/-- Without rows every total that the dice come to is missed. -/
theorem gaps_shifted (h : (shiftedTable digits).Rollable ⟨1, 2, Text.digitsValue digits⟩) :
    (shiftedTable digits).gaps none =
      .ok [⟨1 + Text.digitsValue digits, 2 + Text.digitsValue digits⟩] := by
  have hspans (bounds : Span) : (shiftedTable digits).rows.mapM (Row.span? bounds none) = .ok [] := rfl
  have hbounds : Formula.bounds (shiftedTable digits).formula =
      .ok (1 + Text.digitsValue digits, 2 + Text.digitsValue digits) := by
    rw [Formula.bounds, h.formula]
    rfl
  simp only [RandomTable.gaps, hbounds, ok_bind, hspans, List.filterMap_nil, List.mergeSort_nil,
    Span.missing, pure_eq_ok]
  rw [if_pos (by omega)]

end Shifted

def longDigits : List Char := List.replicate 4299 '9' ++ ['8']

theorem isDecimal_of_mem_longDigits {c : Char} (h : c ∈ longDigits) : Text.isDecimal c = true := by
  rcases List.mem_append.1 h with h | h
  · obtain ⟨-, rfl⟩ := List.mem_replicate.1 h
    decide
  · obtain rfl := List.mem_singleton.1 h
    decide

theorem longDigits_limits : isTooLong (1 + Text.digitsValue longDigits) = false ∧
    isTooLong (2 + Text.digitsValue longDigits) = true := by
  decide +kernel

theorem longDigits_rollable :
    (shiftedTable longDigits).Rollable ⟨1, 2, Text.digitsValue longDigits⟩ := by
  refine shifted_rollable (fun c hc => isDecimal_of_mem_longDigits hc) ?_ rfl ?_
  · exact List.append_ne_nil_of_right_ne_nil _ (List.cons_ne_nil _ _)
  · rw [longDigits, List.length_append, List.length_replicate]
    exact Nat.le_refl _

/-- A die that shows one leaves the table without a row, and yet registering it fails, since the other
total cannot be told. -/
theorem shifted_not_registered :
    (shiftedTable longDigits).Unmatched none (1 + Text.digitsValue longDigits) ∧
      ∀ scene, register (shiftedTable longDigits) none scene = .error .numeral scene := by
  obtain ⟨hshort, hlong⟩ := longDigits_limits
  have hrollable := longDigits_rollable
  -- from here the digits are any with these limits, and are not written out
  generalize longDigits = digits at hshort hlong hrollable ⊢
  have hmissed : (shiftedTable digits).Missed ⟨1, 2, Text.digitsValue digits⟩ none
      (1 + Text.digitsValue digits) := ⟨⟨[1], ⟨rfl, by simp⟩, rfl⟩, rfl⟩
  refine ⟨(RandomTable.unmatched_iff hrollable).2 ⟨hmissed, hshort⟩, fun scene => ?_⟩
  have hgaps := gaps_shifted hrollable
  rcases describeGaps_cases [⟨1 + Text.digitsValue digits, 2 + Text.digitsValue digits⟩] with
    ⟨htell, -⟩ | ⟨-, herror⟩
  · have hlast := (htell _ (List.mem_singleton.2 rfl)).2
    rw [hlong] at hlast
    cases hlast
  · exact run_register_error (run_warnOfGaps_error hgaps (by simp) herror _)

end Telling

end Registry

end TaleLoom
