import TaleLoom.Proofs.Dice.Notation
import TaleLoom.Proofs.Placeholder.Refusals
import TaleLoom.Proofs.Registry.Coverage
/-!
What is asked of a table behind its name. The segments of a placeholder are read one after the other,
and what they come to is read off without an order: whether one of them asks for remembered draws, the
last number of draws, and the modifiers as they stand (`DrawRequest.ofParts_eq`). So the draws of a
placeholder are that many draws of that kind, and they stay the same wherever the other segments stand
among the modifiers (`resolveTable_arranged`).
-/

namespace TaleLoom

open Text Number

namespace Text

variable {separator : Char} {piece : List Char} {pieces : List (List Char)}

theorem cut_of_not_mem (h : separator ∉ piece) : cut separator piece = [piece] := by
  induction piece with
  | nil => rfl
  | cons c rest ih =>
    obtain ⟨hc, hrest⟩ := not_or.1 (mt List.mem_cons.2 h)
    rw [cut, if_neg (Ne.symm hc), ih hrest]

theorem cut_append (h : separator ∉ piece) (rest : List Char) :
    cut separator (piece ++ separator :: rest) = piece :: cut separator rest := by
  induction piece with
  | nil => rw [List.nil_append, cut, if_pos rfl]
  | cons c piece ih =>
    obtain ⟨hc, hpiece⟩ := not_or.1 (mt List.mem_cons.2 h)
    rw [List.cons_append, cut, if_neg (Ne.symm hc), ih hpiece]

/-- Pieces without the separator are found again where it stands between them. -/
theorem cut_joinWith (hfree : ∀ piece ∈ pieces, separator ∉ piece) (hne : pieces ≠ []) :
    cut separator (joinWith separator pieces) = pieces := by
  induction pieces with
  | nil => exact absurd rfl hne
  | cons piece rest ih =>
    obtain ⟨hpiece, hrest⟩ := List.forall_mem_cons.1 hfree
    cases rest with
    | nil => exact cut_of_not_mem hpiece
    | cons next others => rw [joinWith, cut_append hpiece, ih hrest (List.cons_ne_nil _ _)]

theorem not_mem_of_mem_cut {cs : List Char} (h : piece ∈ cut separator cs) : separator ∉ piece := by
  induction cs generalizing piece with
  | nil =>
    obtain rfl := List.mem_singleton.1 h
    exact List.not_mem_nil
  | cons c rest ih =>
    rw [cut] at h
    split at h
    · rcases List.mem_cons.1 h with rfl | h
      · exact List.not_mem_nil
      · exact ih h
    · next hc =>
      obtain ⟨first, others, hcut⟩ := List.exists_cons_of_ne_nil (cut_ne_nil separator rest)
      rw [hcut] at h ih
      rcases List.mem_cons.1 h with rfl | h
      · intro hmem
        rcases List.mem_cons.1 hmem with rfl | hmem
        · exact hc rfl
        · exact ih List.mem_cons_self hmem
      · exact ih (List.mem_cons_of_mem _ h)

end Text

/-- A text is a name and segments with dots between them. -/
structure Dotted (name : List Char) (segments : List (List Char)) (body : List Char) : Prop where
  free : ∀ piece ∈ name :: segments, '.' ∉ piece
  eq : joinWith '.' (name :: segments) = body

namespace Dotted

theorem exists_dotted (body : List Char) : ∃ name segments, Dotted name segments body := by
  obtain ⟨name, segments, hcut⟩ := List.exists_cons_of_ne_nil (cut_ne_nil '.' body)
  refine ⟨name, segments, ?_, by rw [← hcut, joinWith_cut]⟩
  rw [← hcut]
  exact fun piece hpiece => not_mem_of_mem_cut hpiece

theorem tableParts {name body : List Char} {segments : List (List Char)}
    (h : Dotted name segments body) :
    Resolver.tableParts body = (String.ofList (trim name), segments.map trim) := by
  rw [Resolver.tableParts, ← h.eq, cut_joinWith h.free (List.cons_ne_nil _ _)]
  rfl

end Dotted

namespace Expression

/-- A text asks for a number of draws: the word for it in any letter case, white space and digits. -/
inductive SpellsPicks : List Char → List Char → Prop
  | intro {word blanks digits : List Char} :
      word.map plainLetter = ['p', 'i', 'c', 'k'] → blanks ≠ [] → Blanks blanks → digits ≠ [] →
      Digits digits → SpellsPicks (word ++ (blanks ++ digits)) digits

theorem afterWord?_eq_some_iff {word cs rest : List Char} :
    afterWord? word cs = some rest ↔ ∃ front, front ++ rest = cs ∧ front.map plainLetter = word := by
  induction word generalizing cs with
  | nil => simp [afterWord?, eq_comm]
  | cons w word ih =>
    cases cs with
    | nil => simp [afterWord?]
    | cons c cs =>
      rw [afterWord?]
      split
      · next hw =>
        rw [ih]
        constructor
        · rintro ⟨front, rfl, hfront⟩
          exact ⟨c :: front, rfl, by rw [List.map_cons, hw, hfront]⟩
        · rintro ⟨front, hcs, hfront⟩
          obtain ⟨first, front, rfl, -, hmap⟩ := List.map_eq_cons_iff.1 hfront
          exact ⟨front, (List.cons.inj hcs).2, hmap⟩
      · next hw =>
        refine iff_of_false (by simp) ?_
        rintro ⟨front, hcs, hfront⟩
        obtain ⟨first, front, rfl, hfirst, -⟩ := List.map_eq_cons_iff.1 hfront
        rw [(List.cons.inj hcs).1] at hfirst
        exact hw hfirst

/-- A number of draws is read exactly where a text asks for one. -/
theorem pickCount?_eq_some_iff {cs digits : List Char} :
    pickCount? cs = some digits ↔ SpellsPicks cs digits := by
  constructor
  · intro h
    obtain ⟨rest, hafter, hcount⟩ := Option.bind_eq_some_iff.1 h
    obtain ⟨word, rfl, hword⟩ := afterWord?_eq_some_iff.1 hafter
    dsimp only at hcount
    split at hcount
    · next hcond =>
      obtain rfl := Option.some.inj hcount
      simp only [Bool.and_eq_true, Bool.not_eq_true', List.isEmpty_eq_false_iff,
        List.all_eq_true] at hcond
      obtain ⟨⟨hblank, hne⟩, hdigits⟩ := hcond
      obtain ⟨blanks, hblanks, hrest⟩ := exists_blanks rest
      have hfilled : blanks ≠ [] := by
        rintro rfl
        rw [hrest, List.nil_append] at hblank
        obtain ⟨digit, others, hcons⟩ := List.exists_cons_of_ne_nil hne
        have hdigit := hdigits digit (by rw [hcons]; exact List.mem_cons_self)
        rw [hcons, List.head?_cons, Option.map_some, Option.getD_some,
          isBlank_of_isDecimal hdigit] at hblank
        cases hblank
      have hspelled : SpellsPicks (word ++ (blanks ++ trimStart rest)) (trimStart rest) :=
        .intro hword hfilled hblanks hne hdigits
      rwa [← hrest] at hspelled
    · cases hcount
  · intro h
    cases h with
    | @intro word blanks digits hword hfilled hblanks hne hdigits =>
      have hafter : afterWord? ['p', 'i', 'c', 'k'] (word ++ (blanks ++ digits)) =
          some (blanks ++ digits) := afterWord?_eq_some_iff.2 ⟨word, rfl, hword⟩
      have hhead : ∀ c ∈ digits.head?, isBlank c = false := by
        intro c hc
        exact isBlank_of_isDecimal (hdigits c (List.mem_of_head? hc))
      have hstart : trimStart (blanks ++ digits) = digits := trimStart_append hblanks hhead
      have hblank : ((blanks ++ digits).head?.map isBlank).getD false = true := by
        obtain ⟨blank, others, rfl⟩ := List.exists_cons_of_ne_nil hfilled
        exact hblanks blank List.mem_cons_self
      have hall : digits.all isDecimal = true := List.all_eq_true.2 hdigits
      simp only [pickCount?, hafter, Option.bind_some, hstart, hblank,
        List.isEmpty_eq_false_iff.2 hne, hall, Bool.not_false, Bool.and_self, if_true]

end Expression

namespace Resolver.DrawRequest

def asksConsumable (segment : List Char) : Bool := lower (String.ofList (trim segment)) = "consumable"

def askedDigits? (segment : List Char) : Option (List Char) := Expression.pickCount? (trim segment)

def asksTooMuch (segment : List Char) : Bool :=
  (askedDigits? segment).any fun digits => digitLimit < digits.length

def namesModifier (segment : List Char) : Bool :=
  !(trim segment).isEmpty && !asksConsumable segment && (askedDigits? segment).isNone

/-- The last number of draws that the segments ask for, within its limits, or the usual one. -/
def lastAsked (usual : Nat) (segments : List (List Char)) : Nat :=
  ((segments.filterMap askedDigits?).getLast?).elim usual fun digits =>
    min (max (digitsValue digits) 1) 100

def modifierNames (segments : List (List Char)) : List String :=
  (segments.filter namesModifier).map fun segment => String.ofList (trim segment)

def extended (request : DrawRequest) (segments : List (List Char)) : DrawRequest where
  consumable := request.consumable || segments.any asksConsumable
  picks := lastAsked request.picks segments
  modifiers := request.modifiers ++ modifierNames segments

/-- A letter that counts as `p` is one in lower case too. -/
theorem lowerLetter_of_plain {c : Char} (h : Expression.plainLetter c = 'p') :
    c ≠ 'Σ' ∧ lowerLetter c = ['p'] := by
  unfold Expression.plainLetter at h
  split at h
  · exact absurd h (by decide)
  split at h
  · exact absurd h (by decide)
  split at h
  · exact absurd h (by decide)
  have hsmall : c.toNat < 128 := by
    unfold Char.toLower at h
    split at h
    · next hupper =>
      have hle : c.toNat ≤ 90 := UInt32.le_iff_toNat_le.1 hupper.2
      omega
    · rw [h]
      decide
  refine ⟨?_, by rw [lowerLetter, if_pos hsmall, h]⟩
  rintro rfl
  exact absurd hsmall (by decide)

/-- The word for remembered draws asks for no number of draws. -/
theorem pickCount?_of_consumable {cs : List Char} (h : lower (String.ofList cs) = "consumable") :
    Expression.pickCount? cs = none := by
  cases cs with
  | nil => rfl
  | cons c rest =>
    by_cases hp : Expression.plainLetter c = 'p'
    · obtain ⟨hsigma, hlower⟩ := lowerLetter_of_plain hp
      have hletters := congrArg String.toList h
      simp only [lower, String.toList_ofList, lowerAfter, hsigma, if_false, hlower,
        List.singleton_append] at hletters
      exact absurd (List.cons.inj hletters).1 (by decide)
    · simp [Expression.pickCount?, Expression.afterWord?, hp]

theorem lastAsked_cons (usual : Nat) (segment : List Char) (segments : List (List Char)) :
    lastAsked usual (segment :: segments) = lastAsked (lastAsked usual [segment]) segments := by
  unfold lastAsked
  cases hasked : askedDigits? segment with
  | none => simp [hasked]
  | some digits =>
    rw [List.filterMap_cons_some hasked, List.getLast?_cons]
    cases (segments.filterMap askedDigits?).getLast? <;> simp [hasked]

theorem extended_cons (request : DrawRequest) (segment : List Char) (segments : List (List Char)) :
    request.extended (segment :: segments) = (request.extended [segment]).extended segments := by
  have hnames : modifierNames (segment :: segments) =
      modifierNames [segment] ++ modifierNames segments := by
    rw [modifierNames, List.filter_cons]
    split
    · next h => simp [modifierNames, h]
    · next h => simp [modifierNames, h]
  simp only [extended, List.any_cons, List.any_nil, Bool.or_false, Bool.or_assoc,
    lastAsked_cons request.picks segment segments, hnames, List.append_assoc]

/-- What one segment adds. -/
theorem add_trim (request : DrawRequest) (segment : List Char) :
    request.add (trim segment) =
      if asksTooMuch segment then .error .numeral else .ok (request.extended [segment]) := by
  unfold add
  by_cases hblank : (trim segment).isEmpty = true
  · have hnil : trim segment = [] := List.isEmpty_iff.1 hblank
    have hasked : askedDigits? segment = none := by rw [askedDigits?, hnil]; rfl
    have hconsumable : asksConsumable segment = false := by rw [asksConsumable, hnil]; rfl
    simp [hblank, asksTooMuch, hasked, extended, hconsumable, lastAsked, modifierNames, namesModifier]
  · by_cases hword : lower (String.ofList (trim segment)) = "consumable"
    · have hasked : askedDigits? segment = none := pickCount?_of_consumable hword
      have hconsumable : asksConsumable segment = true := decide_eq_true hword
      simp [hblank, hword, asksTooMuch, hasked, extended, hconsumable, lastAsked, modifierNames,
        namesModifier]
    · have hconsumable : asksConsumable segment = false := decide_eq_false hword
      rw [if_neg hblank, if_neg hword, ← askedDigits?]
      cases hasked : askedDigits? segment with
      | none =>
        simp [hblank, asksTooMuch, hasked, extended, hconsumable, lastAsked, modifierNames,
          namesModifier]
      | some digits =>
        by_cases hlong : digitLimit < digits.length
        · simp [readDigits?_eq_none_iff.2 hlong, asksTooMuch, hasked, hlong]
        · simp [readDigits?_of_le (Nat.le_of_not_lt hlong), asksTooMuch, hasked, hlong, extended,
            hconsumable, lastAsked, modifierNames, namesModifier, maxPicks]

/-- The request of a placeholder is read off its segments without an order, unless one of them asks for
a number of draws that cannot be read. -/
theorem ofParts_eq (table : RandomTable) (segments : List (List Char)) :
    ofParts table (segments.map trim) =
      if segments.any asksTooMuch then .error .numeral
      else .ok (extended { consumable := table.consumable } segments) := by
  rw [ofParts]
  generalize ({ consumable := table.consumable } : DrawRequest) = request
  induction segments generalizing request with
  | nil => simp [extended, lastAsked, modifierNames]
  | cons segment rest ih =>
    rw [List.map_cons, List.foldlM_cons, add_trim, List.any_cons]
    cases asksTooMuch segment with
    | true => rfl
    | false =>
      rw [extended_cons request segment rest]
      exact ih _

section Moves

/-- Segments in another order: blank ones come and go, those that ask for remembered draws stand
anywhere, and so do those that ask for a number of draws, as long as the last of them stays the last.
The names of modifiers keep their order. -/
inductive Rearranged : List (List Char) → List (List Char) → Prop
  | blank (front rest : List (List Char)) {segment : List Char} :
      trim segment = [] → Rearranged (front ++ segment :: rest) (front ++ rest)
  | consumable (front between rest : List (List Char)) {segment : List Char} :
      asksConsumable segment = true →
      Rearranged (front ++ segment :: (between ++ rest)) (front ++ (between ++ segment :: rest))
  | picks (front between rest : List (List Char)) {segment : List Char} :
      (askedDigits? segment).isSome = true →
      ((∀ other ∈ between, askedDigits? other = none) ∨
        ∃ later ∈ rest, (askedDigits? later).isSome = true) →
      Rearranged (front ++ segment :: (between ++ rest)) (front ++ (between ++ segment :: rest))
  | refl (segments : List (List Char)) : Rearranged segments segments
  | symm {segments segments' : List (List Char)} :
      Rearranged segments segments' → Rearranged segments' segments
  | trans {segments segments' segments'' : List (List Char)} :
      Rearranged segments segments' → Rearranged segments' segments'' → Rearranged segments segments''

variable {front between rest : List (List Char)} {segment : List Char}

theorem any_moved (p : List Char → Bool) :
    (front ++ segment :: (between ++ rest)).any p = (front ++ (between ++ segment :: rest)).any p :=
  (List.perm_middle.symm.append_left front).any_eq

theorem modifierNames_append (segments segments' : List (List Char)) :
    modifierNames (segments ++ segments') = modifierNames segments ++ modifierNames segments' := by
  rw [modifierNames, List.filter_append, List.map_append, ← modifierNames, ← modifierNames]

theorem modifierNames_cons (h : namesModifier segment = false) (segments : List (List Char)) :
    modifierNames (segment :: segments) = modifierNames segments := by
  rw [modifierNames, List.filter_cons_of_neg (by simp [h]), ← modifierNames]

/-- Where it stands makes no difference for a segment that names no modifier. -/
theorem modifierNames_moved (h : namesModifier segment = false) :
    modifierNames (front ++ segment :: (between ++ rest)) =
      modifierNames (front ++ (between ++ segment :: rest)) := by
  simp only [modifierNames_append, modifierNames_cons h]

theorem lastAsked_congr {segments segments' : List (List Char)}
    (h : (segments.filterMap askedDigits?).getLast? = (segments'.filterMap askedDigits?).getLast?)
    (usual : Nat) : lastAsked usual segments = lastAsked usual segments' := by
  rw [lastAsked, h, ← lastAsked]

/-- The last number stays the last where none was passed, or where one comes later. -/
theorem getLast?_moved (hlast : (∀ other ∈ between, askedDigits? other = none) ∨
      ∃ later ∈ rest, (askedDigits? later).isSome = true) :
    ((front ++ segment :: (between ++ rest)).filterMap askedDigits?).getLast? =
      ((front ++ (between ++ segment :: rest)).filterMap askedDigits?).getLast? := by
  rcases hlast with hnone | ⟨later, hlater, hasked⟩
  · have hbetween : between.filterMap askedDigits? = [] := by
      rw [List.filterMap_eq_nil_iff]
      exact hnone
    have hmoved : (segment :: (between ++ rest)).filterMap askedDigits? =
        (between ++ segment :: rest).filterMap askedDigits? := by
      rw [List.filterMap_append, hbetween, List.nil_append, ← List.singleton_append,
        List.filterMap_append, List.filterMap_append, hbetween, List.nil_append,
        ← List.filterMap_append, List.singleton_append]
    rw [List.filterMap_append, List.filterMap_append, hmoved]
  · have hrest : rest.filterMap askedDigits? ≠ [] := by
      obtain ⟨digits, hdigits⟩ := Option.isSome_iff_exists.1 hasked
      exact List.ne_nil_of_mem (List.mem_filterMap.2 ⟨later, hlater, hdigits⟩)
    have hends (before : List (List Char)) :
        ((before ++ rest).filterMap askedDigits?).getLast? = (rest.filterMap askedDigits?).getLast? := by
      rw [List.filterMap_append, List.getLast?_append_of_ne_nil _ hrest]
    have hfirst := hends (front ++ segment :: between)
    have hsecond := hends (front ++ (between ++ [segment]))
    simp only [List.append_assoc, List.cons_append, List.nil_append] at hfirst hsecond
    rw [hfirst, hsecond]

/-- Segments in another order add the same to a request, and fail to be read together. -/
theorem Rearranged.same {segments segments' : List (List Char)} (h : Rearranged segments segments') :
    segments.any asksTooMuch = segments'.any asksTooMuch ∧
      ∀ request : DrawRequest, request.extended segments = request.extended segments' := by
  induction h with
  | @blank front rest segment hblank =>
    have hasked : askedDigits? segment = none := by rw [askedDigits?, hblank]; rfl
    have hconsumable : asksConsumable segment = false := by rw [asksConsumable, hblank]; rfl
    have hmodifier : namesModifier segment = false := by simp [namesModifier, hblank]
    have hlong : asksTooMuch segment = false := by simp [asksTooMuch, hasked]
    refine ⟨by simp [hlong], fun request => ?_⟩
    have hpicks : lastAsked request.picks (front ++ segment :: rest) =
        lastAsked request.picks (front ++ rest) := by
      apply lastAsked_congr
      rw [List.filterMap_append, List.filterMap_cons_none hasked, ← List.filterMap_append]
    simp [extended, hconsumable, hpicks, modifierNames_append, modifierNames_cons hmodifier]
  | @consumable front between rest segment hconsumable =>
    have hasked : askedDigits? segment = none :=
      pickCount?_of_consumable (of_decide_eq_true hconsumable)
    have hmodifier : namesModifier segment = false := by simp [namesModifier, hconsumable]
    refine ⟨any_moved _, fun request => ?_⟩
    have hpicks : lastAsked request.picks (front ++ segment :: (between ++ rest)) =
        lastAsked request.picks (front ++ (between ++ segment :: rest)) := by
      apply lastAsked_congr
      simp only [List.filterMap_append, List.filterMap_cons_none hasked]
    rw [extended, extended, any_moved, hpicks, modifierNames_moved hmodifier]
  | @picks front between rest segment hasked hlast =>
    have hmodifier : namesModifier segment = false := by
      rw [namesModifier, Option.isNone_eq_false_iff.2 hasked, Bool.and_false]
    refine ⟨any_moved _, fun request => ?_⟩
    rw [extended, extended, any_moved, lastAsked_congr (getLast?_moved hlast),
      modifierNames_moved hmodifier]
  | refl segments => exact ⟨rfl, fun _ => rfl⟩
  | symm _ ih => exact ⟨ih.1.symm, fun request => (ih.2 request).symm⟩
  | trans _ _ ih ih' => exact ⟨ih.1.trans ih'.1, fun request => (ih.2 request).trans (ih'.2 request)⟩

end Moves

end Resolver.DrawRequest

namespace Resolver

open DrawRequest

variable {resolver : Resolver} {table : RandomTable}

/-- So many draws, one after the other. -/
def drawMany (resolver : Resolver) (table : RandomTable) (consumable : Bool) (count : Nat) :
    Act Scene (List TableResult) :=
  (List.replicate count (resolver.drawOne table consumable)).mapM id

/-- Draws from a sound table give a text for each of them. -/
theorem drawTexts_eq (h : table.Sound) (request : DrawRequest) (count : Nat) (scene : Scene) :
    resolver.drawTexts table request count scene =
      ((fun results => Except.ok (results.map fun r => inflect r.description request.modifiers)) <$>
        resolver.drawMany table request.consumable count) scene := by
  induction count generalizing scene with
  | zero => rfl
  | succ count ih =>
    rw [drawMany, List.replicate_succ, List.mapM_cons, ← drawMany]
    simp only [drawTexts, Act.run_bind, Act.run_attempt, Act.run_map, id]
    cases hdraw : resolver.drawOne table request.consumable scene with
    | ok result next =>
      have hrest := ih next
      rw [Act.run_map] at hrest
      simp only [hrest, Act.run_bind]
      cases resolver.drawMany table request.consumable count next with
      | ok results after => rfl
      | error fault after => rfl
    | error fault next =>
      have hsound : ¬ (resolver.drawOne table request.consumable).FailsWith
          (fun fault => fault.refusesTable = true) scene :=
        not_refused_drawOne h request.consumable scene
      rw [Act.failsWith_of_error hdraw] at hsound
      cases fault <;> first | exact absurd rfl hsound | rfl

section Bodies

variable {name body : List Char} {segments : List (List Char)} {scene : Scene}

/-- What a placeholder that names a table gives, read off its segments without an order. -/
theorem run_resolveTable_dotted (hbody : Dotted name segments body)
    (hfind : scene.registry.find (String.ofList (trim name)) = .ok (some table))
    (hsound : table.Sound) (hshort : segments.any asksTooMuch = false) :
    resolver.resolveTable body scene =
      ((fun results => Except.ok (.text (join ", "
          (results.map fun r => inflect r.description (modifierNames segments))))) <$>
        resolver.drawMany table (table.consumable || segments.any asksConsumable)
          (lastAsked 1 segments)) scene := by
  rw [run_resolveTable, hbody.tableParts]
  simp only [hfind, ofParts_eq, hshort, Bool.false_eq_true, if_false, extended, Act.run_map,
    drawTexts_eq hsound, List.nil_append]
  cases resolver.drawMany table (table.consumable || segments.any asksConsumable)
      (lastAsked 1 segments) scene with
  | ok results after => rfl
  | error fault after => rfl

theorem fails_resolveTable_dotted (hbody : Dotted name segments body)
    (hfind : scene.registry.find (String.ofList (trim name)) = .ok (some table))
    (hshort : segments.any asksTooMuch = false) :
    (resolver.resolveTable body).Fails scene ↔
      ∃ d ∈ resolver.drawsOf table (table.consumable || segments.any asksConsumable)
        (lastAsked 1 segments) scene, d.Breaks resolver := by
  have hrequest := ofParts_eq table segments
  rw [if_neg (by simp [hshort])] at hrequest
  have hfound : ¬ scene.registry.Stumbles (String.ofList (trim name)) := by
    rw [← Registry.find_error_iff, hfind]
    simp
  have hread : ¬ ∃ part ∈ segments.map trim, LongCount part := by
    rw [← ofParts_error_iff table, hrequest]
    simp
  have hdraws : resolver.tableDraws body scene =
      resolver.drawsOf table (table.consumable || segments.any asksConsumable)
        (lastAsked 1 segments) scene := by
    simp only [tableDraws, hbody.tableParts, hfind, hrequest, extended]
  rw [fails_resolveTable, TableBreaks, hbody.tableParts, hdraws]
  simp only [hfound, hread, and_false, exists_false, false_or]

/-- The same is read from segments in another order. -/
theorem run_resolveTable_rearranged {body' : List Char} {segments' : List (List Char)}
    (hbody : Dotted name segments body) (hbody' : Dotted name segments' body')
    (h : Rearranged segments segments') (scene : Scene) :
    resolver.resolveTable body' scene = resolver.resolveTable body scene := by
  obtain ⟨hlong, hextended⟩ := h.same
  rw [run_resolveTable, run_resolveTable, hbody.tableParts, hbody'.tableParts]
  simp only [ofParts_eq, hlong, hextended]

end Bodies

theorem lastAsked_between (segments : List (List Char)) :
    1 ≤ lastAsked 1 segments ∧ lastAsked 1 segments ≤ 100 := by
  unfold lastAsked
  cases (segments.filterMap askedDigits?).getLast? with
  | none => decide
  | some digits =>
    simp only [Option.elim_some]
    omega

/-- Where the segments stand that name no modifier makes no difference. Every text is a name and
segments with dots between them, and a segment asks for a number of draws where it is spelled so. If the
name stands for a sound table and the numbers of draws can be read, the text is replaced
by as many draws as the last of the numbers says, remembered ones if the table or one of the segments
asks for it, with the other segments as modifiers in order, unless one of these draws breaks. Segments
in another order come to the same in every scene: the same replacement, the same draws and the same
records afterwards. -/
theorem resolveTable_arranged (resolver : Resolver) (body : List Char) :
    (∀ segment digits,
      askedDigits? segment = some digits ↔ Expression.SpellsPicks (trim segment) digits) ∧
    ∃ name segments, Dotted name segments body ∧
      (∀ (scene : Scene) (table : RandomTable),
        scene.registry.find (String.ofList (trim name)) = .ok (some table) → table.Sound →
        (∀ segment ∈ segments, asksTooMuch segment = false) →
        ∃ count consumable, count = lastAsked 1 segments ∧ 1 ≤ count ∧ count ≤ 100 ∧
          (consumable = true ↔
            table.consumable = true ∨ ∃ segment ∈ segments, asksConsumable segment = true) ∧
          resolver.resolveTable body scene =
            ((fun results => Except.ok (.text (join ", "
                (results.map fun r => inflect r.description (modifierNames segments))))) <$>
              resolver.drawMany table consumable count) scene ∧
          ((resolver.resolveTable body).Fails scene ↔
            ∃ d ∈ resolver.drawsOf table consumable count scene, d.Breaks resolver)) ∧
      ∀ segments' body', Dotted name segments' body' → Rearranged segments segments' →
        ∀ scene, resolver.resolveTable body' scene = resolver.resolveTable body scene := by
  obtain ⟨name, segments, hbody⟩ := Dotted.exists_dotted body
  refine ⟨fun _ _ => Expression.pickCount?_eq_some_iff, name, segments, hbody, ?drawn, ?moved⟩
  case drawn =>
    intro scene table hfind hsound hshort
    obtain ⟨hone, hmost⟩ := lastAsked_between segments
    have hread : segments.any asksTooMuch = false := by
      rw [List.any_eq_false]
      exact fun segment hsegment => by simp [hshort segment hsegment]
    refine ⟨_, table.consumable || segments.any asksConsumable, rfl, hone, hmost, ?_,
      run_resolveTable_dotted hbody hfind hsound hread, fails_resolveTable_dotted hbody hfind hread⟩
    rw [Bool.or_eq_true, List.any_eq_true]
  case moved =>
    intro segments' body' hbody' harranged scene
    exact run_resolveTable_rearranged hbody hbody' harranged scene

def sceneWith (table : RandomTable) (draws : List Int) : Scene :=
  { Scene.blank with
    registry := { builtIn := [], custom := [(table.name, table)] }
    desk := { Scene.blank.desk with source := .listed draws } }

/-- Two draws are asked for behind the modifier or in front of it, and what is blank is passed over. -/
theorem resolveTable_arranged_middle :
    ({} : Resolver).resolveTable "middle.the.pick 2".toList (sceneWith Registry.middleTable [1, 2]) =
        ((fun results => Except.ok (.text (join ", "
            (results.map fun r => inflect r.description ["the"])))) <$>
          ({} : Resolver).drawMany Registry.middleTable false 2)
            (sceneWith Registry.middleTable [1, 2]) ∧
      ∀ scene, ({} : Resolver).resolveTable "middle.pick 2. .the".toList scene =
        ({} : Resolver).resolveTable "middle.the.pick 2".toList scene := by
  obtain ⟨-, name, segments, hbody, hdrawn, hmoved⟩ :=
    resolveTable_arranged {} "middle.the.pick 2".toList
  obtain ⟨rfl, rfl⟩ : name = "middle".toList ∧ segments = ["the".toList, "pick 2".toList] := by
    have hcut := cut_joinWith hbody.free (List.cons_ne_nil _ _)
    rw [hbody.eq] at hcut
    exact ⟨(List.cons.inj hcut).1.symm, (List.cons.inj hcut).2.symm⟩
  constructor
  · obtain ⟨count, consumable, rfl, -, -, hconsumable, hrun, -⟩ :=
      hdrawn (sceneWith Registry.middleTable [1, 2]) Registry.middleTable rfl Registry.middle_sound
        (by decide)
    obtain rfl : consumable = false := by
      rw [← Bool.not_eq_true, hconsumable]
      decide
    exact hrun
  · apply hmoved ["pick 2".toList, " ".toList, "the".toList] "middle.pick 2. .the".toList
      ⟨by decide, rfl⟩
    have hpicks : Rearranged ["pick 2".toList, "the".toList] ["the".toList, "pick 2".toList] :=
      .picks [] ["the".toList] [] rfl (Or.inl (by decide))
    have hblank : Rearranged ["pick 2".toList, " ".toList, "the".toList]
        ["pick 2".toList, "the".toList] :=
      .blank ["pick 2".toList] ["the".toList] rfl
    exact (hblank.trans hpicks).symm

/-- The die shows two, no row covers the total, and telling so fails, since the total is too long: the
one draw that is asked for gives no text. -/
theorem resolveTable_untold :
    (sceneWith (Registry.shiftedTable Registry.longDigits) [1]).registry.find "far" =
        .ok (some (Registry.shiftedTable Registry.longDigits)) ∧
      (Registry.shiftedTable Registry.longDigits).Rollable ⟨1, 2, digitsValue Registry.longDigits⟩ ∧
      (({} : Resolver).resolveTable "far.pick 1".toList).Fails
        (sceneWith (Registry.shiftedTable Registry.longDigits) [1]) := by
  obtain ⟨-, hlong⟩ := Registry.longDigits_limits
  have hrollable := Registry.longDigits_rollable
  -- from here the digits are any with these limits, and are not written out
  generalize Registry.longDigits = digits at hlong hrollable ⊢
  refine ⟨rfl, hrollable, ?_⟩
  have hbody : Dotted "far".toList ["pick 1".toList] "far.pick 1".toList := ⟨by decide, rfl⟩
  have hfind : (sceneWith (Registry.shiftedTable digits) [1]).registry.find
      (String.ofList (trim "far".toList)) = .ok (some (Registry.shiftedTable digits)) := rfl
  have hcount : lastAsked 1 ["pick 1".toList] = 1 := by decide
  have hconsumable : ((Registry.shiftedTable digits).consumable ||
      ["pick 1".toList].any asksConsumable) = false := rfl
  rw [fails_resolveTable_dotted hbody hfind (by decide), hcount, hconsumable, drawsOf]
  refine ⟨⟨Registry.shiftedTable digits, false, _⟩, List.mem_cons_self, ?_⟩
  have huntold : (Registry.shiftedTable digits).Untold none 0
      (Formula.totalOn ⟨1, 2, digitsValue digits⟩ (.listed [1])) :=
    ⟨rfl, Or.inl (Int.le_refl 0), hlong⟩
  exact Or.inr (Or.inl ⟨_, hrollable.formula, huntold⟩)

end Resolver

end TaleLoom
