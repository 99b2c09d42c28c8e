import TaleLoom.Proofs.Placeholder.Braces
import TaleLoom.Proofs.Placeholder.Diagnostics
import TaleLoom.Proofs.Placeholder.Requests
import TaleLoom.Proofs.Placeholder.Segments
import TaleLoom.Proofs.Spark.Keywords
/-!
Keywords asked for by the names of their tables. A placeholder has the names in a row and the count behind
them, and the row is read as it was written: a name that is a number is no count, and the white space around
a name makes no difference (`sparkRequest_sparksSpec`). So the placeholder draws from the tables that a
direct call with the same names draws from, and the two come to the same keywords (`sparks_agree`).
-/

namespace TaleLoom

open Text Number Expression

namespace Text

variable {blanks : List Char} {separator : Char}

/-- White space in front of a text belongs to its first piece. -/
theorem map_trim_cut_front (h : Blanks blanks) (hseparator : isBlank separator = false)
    (cs : List Char) : (cut separator (blanks ++ cs)).map trim = (cut separator cs).map trim := by
  induction blanks with
  | nil => rfl
  | cons blank blanks ih =>
    obtain ⟨hblank, hblanks⟩ := List.forall_mem_cons.1 h
    have hne : blank ≠ separator := by
      rintro rfl
      rw [hblank] at hseparator
      cases hseparator
    rw [← ih hblanks, List.cons_append, cut, if_neg hne]
    obtain ⟨piece, others, hcut⟩ := List.exists_cons_of_ne_nil (cut_ne_nil separator (blanks ++ cs))
    have hpiece : trim (blank :: piece) = trim piece :=
      trim_append_front (List.forall_mem_singleton.2 hblank) piece
    rw [hcut, List.map_cons, List.map_cons, hpiece]

/-- White space behind a text belongs to its last piece. -/
theorem forall₂_cut_back (h : Blanks blanks) (hseparator : isBlank separator = false) (cs : List Char) :
    List.Forall₂ (fun padded piece => ∃ tail, Blanks tail ∧ padded = piece ++ tail)
      (cut separator (cs ++ blanks)) (cut separator cs) := by
  induction cs with
  | nil =>
    have hfree : separator ∉ blanks := by
      intro hmem
      rw [h separator hmem] at hseparator
      cases hseparator
    rw [List.nil_append, cut_of_not_mem hfree]
    exact List.Forall₂.cons ⟨blanks, h, rfl⟩ List.Forall₂.nil
  | cons c rest ih =>
    rw [List.cons_append, cut, cut]
    split
    · have hnone : Blanks [] := fun c hc => absurd hc List.not_mem_nil
      exact List.Forall₂.cons ⟨[], hnone, rfl⟩ ih
    · obtain ⟨piece, others, hcut⟩ := List.exists_cons_of_ne_nil (cut_ne_nil separator rest)
      obtain ⟨padded, others', hcut'⟩ :=
        List.exists_cons_of_ne_nil (cut_ne_nil separator (rest ++ blanks))
      rw [hcut, hcut'] at ih ⊢
      obtain ⟨⟨tail, htail, rfl⟩, hothers⟩ := List.forall₂_cons.1 ih
      exact List.Forall₂.cons ⟨tail, htail, rfl⟩ hothers

/-- The pieces of a text, without the white space around each of them, do not depend on the white space
around the text. -/
theorem map_trim_cut_trim (hseparator : isBlank separator = false) (cs : List Char) :
    (cut separator (trim cs)).map trim = (cut separator cs).map trim := by
  obtain ⟨front, back, hfront, hback, hcs⟩ := exists_trimmed cs
  have hbehind : (cut separator (trim cs ++ back)).map trim = (cut separator (trim cs)).map trim := by
    rw [← List.forall₂_eq_eq_eq, List.forall₂_map_left_iff, List.forall₂_map_right_iff]
    refine (forall₂_cut_back hback hseparator (trim cs)).imp ?_
    rintro padded piece ⟨tail, htail, rfl⟩
    exact trim_append_back htail piece
  calc (cut separator (trim cs)).map trim
      = (cut separator (trim cs ++ back)).map trim := hbehind.symm
    _ = (cut separator (front ++ (trim cs ++ back))).map trim :=
      (map_trim_cut_front hfront hseparator _).symm
    _ = (cut separator cs).map trim := by rw [← hcs]

end Text

namespace Resolver

/-- A name can stand in a row of names: it is not blank, and none of its characters means something there. -/
structure Listable (name : String) : Prop where
  filled : trim name.toList ≠ []
  free : ∀ c ∈ name.toList, c ≠ ',' ∧ c ≠ ':' ∧ c ≠ '\n' ∧ isBrace c = false

instance : DecidablePred Listable := fun name =>
  decidable_of_iff (trim name.toList ≠ [] ∧
      name.toList.all (fun c => c != ',' && c != ':' && c != '\n' && !isBrace c) = true)
    ⟨fun h => ⟨h.1, by simpa [and_assoc] using h.2⟩, fun h => ⟨h.filled, by simpa [and_assoc] using h.free⟩⟩

/-- A count that can be read: a row of digits, which is not too long. -/
structure Countable (digits : List Char) : Prop where
  filled : digits ≠ []
  decimal : Digits digits
  short : digits.length ≤ digitLimit

/-- Every number is written so, if it has no more digits than can be read. -/
theorem countable_repr {count : Nat} (h : (Nat.repr count).length ≤ digitLimit) :
    Countable (Nat.repr count).toList ∧ digitsValue (Nat.repr count).toList = count := by
  have hlength : (Nat.repr count).toList.length ≤ digitLimit := h
  rw [Nat.toList_repr] at hlength ⊢
  exact ⟨⟨Nat.toDigits_ne_nil, digits_toDigits count, hlength⟩, Value.digitsValue_toDigits count⟩

def sparksSpec (names : List String) (digits : List Char) : List Char :=
  joinWith ',' (names.map String.toList) ++ ':' :: digits

/-- The placeholder that asks for so many keywords from the tables of some names. -/
def sparksToken (names : List String) (digits : List Char) : Token :=
  ⟨false, ['s', 'p', 'a', 'r', 'k', 's', ':'] ++ sparksSpec names digits⟩

variable {names : List String} {digits : List Char}

section Row

theorem mem_joinWith {separator c : Char} {pieces : List (List Char)}
    (h : c ∈ joinWith separator pieces) : c = separator ∨ ∃ piece ∈ pieces, c ∈ piece := by
  induction pieces with
  | nil => cases h
  | cons piece rest ih =>
    cases rest with
    | nil => exact Or.inr ⟨piece, List.mem_cons_self, h⟩
    | cons next others =>
      rw [joinWith, List.mem_append, List.mem_cons] at h
      rw [List.exists_mem_cons_iff]
      rcases h with hpiece | hseparator | hrest
      · exact Or.inr (Or.inl hpiece)
      · exact Or.inl hseparator
      · exact (ih hrest).imp_right Or.inr

/-- The row of names has no character that means something in it, but for the commas between them. -/
theorem free_row (h : ∀ name ∈ names, Listable name) {c : Char}
    (hc : c ∈ joinWith ',' (names.map String.toList)) : c ≠ ':' ∧ c ≠ '\n' ∧ isBrace c = false := by
  rcases mem_joinWith hc with rfl | ⟨piece, hpiece, hc⟩
  · decide
  · obtain ⟨name, hname, rfl⟩ := List.mem_map.1 hpiece
    exact ((h name hname).free c hc).2

theorem free_of_isDecimal {c : Char} (h : isDecimal c = true) :
    c ≠ ':' ∧ c ≠ '\n' ∧ isBrace c = false := by
  have hne {other : Char} (hother : isDecimal other = false) : c ≠ other := by
    rintro rfl
    rw [h] at hother
    cases hother
  exact ⟨hne (by decide), hne (by decide), isBrace_of_isDecimal h⟩

theorem free_spec (h : ∀ name ∈ names, Listable name) (hdigits : Digits digits) {c : Char}
    (hc : c ∈ sparksSpec names digits) : c ≠ '\n' ∧ isBrace c = false := by
  rcases List.mem_append.1 hc with hrow | hbehind
  · exact (free_row h hrow).2
  · rcases List.mem_cons.1 hbehind with rfl | hdigit
    · decide
    · exact (free_of_isDecimal (hdigits c hdigit)).2

/-- The names are told from one another, whatever white space is around them. -/
theorem filledParts_row (hne : names ≠ []) (h : ∀ name ∈ names, Listable name) :
    filledParts ',' (trim (joinWith ',' (names.map String.toList))) =
      names.map fun name => trim name.toList := by
  have hfree : ∀ piece ∈ names.map String.toList, ',' ∉ piece := by
    refine List.forall_mem_map.2 fun name hname hcomma => ?_
    exact absurd rfl ((h name hname).free ',' hcomma).1
  have hmap : names.map String.toList ≠ [] := mt List.map_eq_nil_iff.1 hne
  rw [filledParts, map_trim_cut_trim (by decide), cut_joinWith hfree hmap, List.map_map,
    List.filter_eq_self.2]
  · rfl
  · refine List.forall_mem_map.2 fun name hname => ?_
    simpa using (h name hname).filled

/-- The row of names is not blank. -/
theorem trim_row_ne_nil (hne : names ≠ []) (h : ∀ name ∈ names, Listable name) :
    trim (joinWith ',' (names.map String.toList)) ≠ [] := by
  intro hnil
  have hparts := filledParts_row hne h
  rw [hnil] at hparts
  exact hne (List.map_eq_nil_iff.1 hparts.symm)

/-- The count is told from the names before it, also where these are numbers. -/
theorem sparkRequest_sparksSpec (hne : names ≠ []) (h : ∀ name ∈ names, Listable name)
    (hcount : Countable digits) :
    sparkRequest "sparks" (sparksSpec names digits) = .ok ((digitsValue digits : Int), names.map strip) := by
  have hrow : ':' ∉ joinWith ',' (names.map String.toList) := fun hc => (free_row h hc).1 rfl
  have hcolon : ':' ∉ digits := fun hc => (free_of_isDecimal (hcount.decimal ':' hc)).1 rfl
  have htrim : trim digits = digits :=
    trim_of_no_blank fun c hc => isBlank_of_isDecimal (hcount.decimal c hc)
  have hparts : filledParts ':' (sparksSpec names digits) =
      [trim (joinWith ',' (names.map String.toList)), digits] := by
    rw [filledParts, sparksSpec, cut_append hrow, cut_of_not_mem hcolon]
    simp [htrim, trim_row_ne_nil hne h, hcount.filled]
  have hall : digits.all isDigit = true := by
    refine List.all_eq_true.2 fun c hc => ?_
    rw [isDigit, hcount.decimal c hc, Bool.true_or]
  have hread := readInteger?_digits hcount.filled hcount.decimal hcount.short
  have hsplit : splitCount (filledParts ':' (sparksSpec names digits)) =
      .ok (some (digitsValue digits : Int), [trim (joinWith ',' (names.map String.toList))]) := by
    rw [hparts, splitCount]
    simp only [List.getLast?_cons_cons, List.getLast?_singleton, hall, if_true, hread,
      List.dropLast_cons_cons, List.dropLast_singleton]
  have husual : sparkCount "sparks" = .ok 2 := rfl
  rw [sparkRequest, husual, ok_bind, hsplit, ok_bind]
  simp only [Option.getD_some, List.flatMap_singleton, filledParts_row hne h, List.map_map]
  rfl

/-- What the placeholder asks for are keywords. -/
theorem ofBody_sparksToken (hasItems : Bool) (h : ∀ name ∈ names, Listable name)
    (hcount : Countable digits) :
    Expression.ofBody hasItems (sparksToken names digits).body =
      .sparks "sparks" (sparksSpec names digits) := by
  have hbreak : dropFinalBreak (sparksSpec names digits) = sparksSpec names digits := by
    rw [dropFinalBreak, if_neg]
    intro hlast
    exact (free_spec h hcount.decimal (List.mem_of_getLast? hlast)).1 rfl
  have hline : (sparksSpec names digits).contains '\n' = false := by
    rw [← Bool.not_eq_true, List.contains_iff_mem]
    exact fun hmem => (free_spec h hcount.decimal hmem).1 rfl
  have hname : lower (String.ofList ['s', 'p', 'a', 'r', 'k', 's']) = "sparks" := by decide +kernel
  rw [sparksToken]
  generalize sparksSpec names digits = spec at hbreak hline ⊢
  have hword : sparkWord? (['s', 'p', 'a', 'r', 'k', 's', ':'] ++ spec) =
      some (['s', 'p', 'a', 'r', 'k', 's'], ':' :: spec) := rfl
  have hsparks : sparks? (['s', 'p', 'a', 'r', 'k', 's', ':'] ++ spec) = some (.sparks "sparks" spec) := by
    simp only [sparks?, hword, Option.bind_some, hbreak, hline, hname, Bool.false_eq_true, if_false]
  have hothers (letters : List Char) : startsWithWord ('r' :: letters)
      (lowerAfter false (['s', 'p', 'a', 'r', 'k', 's', ':'] ++ spec)) = false := by
    exact not_startsWithWord (by decide) rfl (by decide) letters _
  have houtcome : argument? ['d', 'c'] (['s', 'p', 'a', 'r', 'k', 's', ':'] ++ spec) = none := rfl
  simp only [ofBody, hothers, houtcome, hsparks, Bool.false_eq_true, if_false, Option.map_none,
    Option.getD_none, Option.getD_some]

theorem proper_sparksToken (h : ∀ name ∈ names, Listable name) (hcount : Countable digits) :
    (sparksToken names digits).Proper where
  filled := List.cons_ne_nil _ _
  free := by
    have hword : ['s', 'p', 'a', 'r', 'k', 's', ':'].all (!isBrace ·) = true := by decide
    intro c hc
    rcases List.mem_append.1 hc with hletter | hspec
    · simpa using List.all_eq_true.1 hword c hletter
    · exact (free_spec h hcount.decimal hspec).2

theorem trim_sparksToken (hcount : Countable digits) :
    trim (sparksToken names digits).body = (sparksToken names digits).body := by
  have hlast : (sparksToken names digits).body.getLast? = digits.getLast? := by
    rw [sparksToken, sparksSpec, List.append_cons, ← List.append_assoc,
      List.getLast?_append_of_ne_nil _ hcount.filled]
  apply trim_of_ends
  · intro c hc
    obtain rfl : 's' = c := Option.some.inj hc
    decide
  · intro c hc
    rw [hlast] at hc
    exact isBlank_of_isDecimal (hcount.decimal c (List.mem_of_getLast? hc))

end Row

/-- A name is looked up without the white space around it. -/
theorem find_strip (library : SparkLibrary) (name : String) : library.find (strip name) = library.find name := by
  simp only [SparkLibrary.find, Lookup.findIn, strip_strip]

theorem tablesNamed_strip (library : SparkLibrary) (names : List String) :
    tablesNamed library (names.map strip) = tablesNamed library names := by
  simp only [tablesNamed, List.filterMap_map, Function.comp_def, find_strip]

theorem stumbles_strip (library : SparkLibrary) (names : List String) :
    (∃ name ∈ names.map strip, library.Stumbles name) ↔ ∃ name ∈ names, library.Stumbles name := by
  simp only [List.mem_map, exists_exists_and_eq_and, ← SparkLibrary.find_error_iff, find_strip]

/-- Keywords from tables that were found are what a draw from them comes to. -/
theorem run_keywordsFrom {tables : List SparkTable} (h : tables ≠ []) (count : Int) (names : List String)
    (scene : Scene) : keywordsFrom count names (some tables) scene =
      match SparkLibrary.generate count .sparks (some tables) scene with
      | .ok keywords after =>
        .ok (if keywords = [] then .error .noSparks else .ok (.text (join ", " keywords))) after
      | .error fault after => .error fault after := by
  have hsome : ((some tables).map List.isEmpty).getD false = false := by simpa using h
  rw [keywordsFrom, hsome, if_neg Bool.false_ne_true, Act.run_bind]
  cases SparkLibrary.generate count .sparks (some tables) scene with
  | error fault after => rfl
  | ok keywords after => cases keywords <;> rfl

/-- All names can be looked up where the library stumbles over none of them. -/
theorem exists_mapM_find_iff {library : SparkLibrary} :
    (∃ found, names.mapM library.find = .ok found) ↔ ¬ ∃ name ∈ names, library.Stumbles name := by
  rw [exists_mapM_ok_iff]
  simp only [not_exists, not_and, ← SparkLibrary.find_error_iff]
  refine forall₂_congr fun name _ => ?_
  cases library.find name <;> simp

/-- A direct call draws from the tables of its names, where it can look all of them up. -/
theorem run_generateNamed {scene : Scene} (hne : names ≠ [])
    (h : ¬ ∃ name ∈ names, scene.sparks.Stumbles name) (count : Int) :
    SparkLibrary.generateNamed count (some names) scene =
      SparkLibrary.generate count .sparks (some (tablesNamed scene.sparks names)) scene := by
  obtain ⟨found, hfound⟩ := exists_mapM_find_iff.2 h
  have htables : found.filterMap id = tablesNamed scene.sparks names := by
    have hparts := mapM_ok_iff.1 hfound
    clear hfound h hne
    induction hparts with
    | nil => rfl
    | @cons name table names found hfind _ ih =>
      rw [tablesNamed] at ih ⊢
      rw [List.filterMap_cons, List.filterMap_cons, ih, hfind]
      rfl
  obtain ⟨first, rest, rfl⟩ := List.exists_cons_of_ne_nil hne
  simp only [SparkLibrary.generateNamed, Act.run_bind, Act.run_get, hfound, Act.run_ofExcept_ok, htables]

theorem fails_generateNamed {scene : Scene} (h : ∃ name ∈ names, scene.sparks.Stumbles name)
    (count : Int) : (SparkLibrary.generateNamed count (some names)).Fails scene := by
  cases hfound : names.mapM scene.sparks.find with
  | ok found => exact absurd h (exists_mapM_find_iff.1 ⟨found, hfound⟩)
  | error fault =>
    obtain ⟨name, hname, -⟩ := h
    obtain ⟨first, rest, rfl⟩ := List.exists_cons_of_ne_nil (List.ne_nil_of_mem hname)
    have hrun : SparkLibrary.generateNamed count (some (first :: rest)) scene = .error fault scene := by
      simp only [SparkLibrary.generateNamed, Act.run_bind, Act.run_get, hfound, Act.run_ofExcept_error]
    exact Act.fails_of_error hrun

section Agreement

variable (resolver : Resolver)

def refused (body : List Char) (d : Diagnostic) (scene : Scene) :
    EStateM.Result Fault Scene (Option Value) :=
  .ok (if resolver.options.markUnresolved then some (.text d.message) else none)
    (scene.told [refusal body d])

/-- What a placeholder that asks for keywords by names comes to. `tables` are those of the names, in their
order and as often as they are named, and `told` is the scene after the author was told of the names that
stand for none. -/
structure NamedDraw (names : List String) (count : Int) (body : List Char) (tables : List SparkTable)
    (scene told : Scene) : Prop where
  /-- Where no name is known, the placeholder is refused. -/
  unknown : tables = [] → resolver.resolveToken body scene =
    resolver.refused body (.unknownSparks (names.map strip)) told
  /-- Else keywords are drawn from the tables and put in its place, -/
  drawn : tables ≠ [] → ∀ keywords after,
    SparkLibrary.generate count .sparks (some tables) told = .ok keywords after → keywords ≠ [] →
      resolver.resolveToken body scene = .ok (some (.text (join ", " keywords))) after
  /-- unless nothing is drawn -/
  nothing : tables ≠ [] → ∀ after,
    SparkLibrary.generate count .sparks (some tables) told = .ok [] after →
      resolver.resolveToken body scene = resolver.refused body .noSparks after
  /-- or the draw fails. -/
  broken : tables ≠ [] → ∀ fault after,
    SparkLibrary.generate count .sparks (some tables) told = .error fault after →
      resolver.resolveToken body scene = .error fault after
  /-- The direct call comes to the same, but for what the author is told. -/
  direct : tables ≠ [] → Act.Alike Scene.unnoticed
    (SparkLibrary.generate count .sparks (some tables) told)
    (SparkLibrary.generateNamed count (some names) scene)
  /-- The draw does not fail where the names of the tables in use can be keys. -/
  returns : (∀ table ∈ scene.sparks.inUse .sparks (some tables), table.name.isKey = true) →
    ∃ keywords after, SparkLibrary.generate count .sparks (some tables) told = .ok keywords after

theorem run_attempt_sparksToken (hne : names ≠ []) (hnames : ∀ name ∈ names, Listable name)
    (hcount : Countable digits) (scene : Scene) :
    resolver.attempt (sparksToken names digits).body scene =
      (findSparkTables (names.map strip) >>= fun tables =>
        keywordsFrom (digitsValue digits) (names.map strip) (some tables) : Act Scene Attempt) scene := by
  have hsome : (names.map strip).isEmpty = false := by simpa using hne
  have hrun := run_resolveSparks (sparkRequest_sparksSpec hne hnames hcount) scene
  rw [hsome, if_neg Bool.false_ne_true] at hrun
  rw [attempt, ofBody_sparksToken resolver.items.isSome hnames hcount]
  exact hrun

theorem namedDraw_sparksToken (hne : names ≠ []) (hnames : ∀ name ∈ names, Listable name)
    (hcount : Countable digits) {scene : Scene} (hreads : ¬ ∃ name ∈ names, scene.sparks.Stumbles name) :
    resolver.NamedDraw names (digitsValue digits) (sparksToken names digits).body
      (tablesNamed scene.sparks names) scene (scene.told (absences scene.sparks (names.map strip))) := by
  have hfind : findSparkTables (names.map strip) scene = .ok (tablesNamed scene.sparks names)
      (scene.told (absences scene.sparks (names.map strip))) := by
    rcases run_findSparkTables (names.map strip) scene with ⟨hstumbles, -⟩ | ⟨-, hrun⟩
    · exact absurd ((stumbles_strip _ _).1 hstumbles) hreads
    · rw [hrun, tablesNamed_strip]
  have hattempt := resolver.run_attempt_sparksToken hne hnames hcount scene
  rw [Act.run_bind, hfind] at hattempt
  have hdirect := run_generateNamed hne hreads (digitsValue digits)
  have hunnoticed : (scene.told (absences scene.sparks (names.map strip))).unnoticed = scene.unnoticed := rfl
  have hsparks : (scene.told (absences scene.sparks (names.map strip))).sparks = scene.sparks := rfl
  generalize tablesNamed scene.sparks names = tables at hattempt hdirect ⊢
  generalize scene.told (absences scene.sparks (names.map strip)) = told at hattempt hunnoticed hsparks ⊢
  have htoken := resolver.run_resolveToken (sparksToken names digits).body scene
  rw [hattempt] at htoken
  dsimp only at htoken
  constructor
  case unknown =>
    rintro rfl
    exact htoken
  case drawn =>
    intro hsome keywords after hdraw hkeywords
    rw [run_keywordsFrom hsome, hdraw] at htoken
    simpa only [if_neg hkeywords, Value.present?_text] using htoken
  case nothing =>
    intro hsome after hdraw
    rw [run_keywordsFrom hsome, hdraw] at htoken
    exact htoken
  case broken =>
    intro hsome fault after hdraw
    rw [run_keywordsFrom hsome, hdraw] at htoken
    exact htoken
  case direct =>
    intro _
    rw [hdirect]
    exact (SparkLibrary.steady_generate _ _ _).blind told scene hunnoticed
  case returns =>
    intro hkeys
    obtain ⟨after, hdraw, -⟩ := SparkLibrary.run_generate (digitsValue digits) .sparks (some tables) told
      (hsparks ▸ hkeys)
    exact ⟨_, after, hdraw⟩

/-- The token and the direct call agree. A placeholder that asks for keywords by names is one placeholder,
whatever the names are that can stand in a row. Where the library stumbles over none of them, it comes to
what a draw from the tables of the names comes to, as does the direct call with the same names and count
(`NamedDraw`); where it stumbles over one, both of them fail. -/
theorem sparks_agree (hne : names ≠ []) (hnames : ∀ name ∈ names, Listable name)
    (hcount : Countable digits) :
    segments (sparksToken names digits).text = [.token (sparksToken names digits)] ∧
    trim (sparksToken names digits).body = (sparksToken names digits).body ∧
    ∀ scene : Scene,
      ((∃ name ∈ names, scene.sparks.Stumbles name) →
        (resolver.resolveToken (sparksToken names digits).body).Fails scene ∧
        (SparkLibrary.generateNamed (digitsValue digits) (some names)).Fails scene) ∧
      ((¬ ∃ name ∈ names, scene.sparks.Stumbles name) →
        resolver.NamedDraw names (digitsValue digits) (sparksToken names digits).body
          (tablesNamed scene.sparks names) scene
          (scene.told (absences scene.sparks (names.map strip)))) := by
  refine ⟨(Segment.Sound.token (proper_sparksToken hnames hcount)).segments_text,
    trim_sparksToken hcount, fun scene => ⟨fun hstumbles => ⟨?_, ?_⟩, ?_⟩⟩
  · have hfind : (findSparkTables (names.map strip)).Fails scene := by
      rcases run_findSparkTables (names.map strip) scene with ⟨-, hfails⟩ | ⟨hnone, -⟩
      · exact hfails
      · exact absurd ((stumbles_strip _ _).2 hstumbles) hnone
    apply Act.failsWith_bind.2
    apply Or.inl
    rw [Act.failsWith_congr (resolver.run_attempt_sparksToken hne hnames hcount scene)]
    exact Act.failsWith_bind.2 (Or.inl hfind)
  · exact fails_generateNamed hstumbles _
  · exact resolver.namedDraw_sparksToken hne hnames hcount

def ravens : Scene :=
  { Scene.blank with sparks := { tables := [
    (.text "1", { name := .text "1", entries := ["Raven"], lastModified := .int 0 }),
    (.text "Moods", { name := .text "Moods", entries := ["Dread"], lastModified := .int 0 })] } }

/-- The number that is a name is told from the count, a name that stands for no table is passed over, and a
table that is named twice is drawn from twice. -/
theorem sparks_agree_ravens :
    let names := ["1", "Hopes", " 1"]
    let count := (Nat.repr 2).toList
    (∀ name ∈ names, Listable name) ∧ Countable count ∧
      (¬ ∃ name ∈ names, ravens.sparks.Stumbles name) ∧
      ∃ after after',
        ({} : Resolver).resolveToken (sparksToken names count).body ravens =
          .ok (some (.text "Raven")) after ∧
        SparkLibrary.generateNamed 2 (some names) ravens = .ok ["Raven"] after' := by
  intro names count
  have hnames : ∀ name ∈ names, Listable name := by
    simp only [names, List.forall_mem_cons, List.not_mem_nil, false_imp_iff, implies_true, and_true]
    exact ⟨by decide, by decide, by decide⟩
  have hshort : (Nat.repr 2).length ≤ digitLimit := by decide
  obtain ⟨hcount, hvalue⟩ := countable_repr hshort
  have hreads : ¬ ∃ name ∈ names, ravens.sparks.Stumbles name := exists_mapM_find_iff.1 ⟨_, rfl⟩
  obtain ⟨-, -, hagree⟩ := sparks_agree {} (List.cons_ne_nil _ _) hnames hcount
  have hdraws := (hagree ravens).2 hreads
  rw [hvalue] at hdraws
  have hsome : tablesNamed ravens.sparks names ≠ [] := List.cons_ne_nil _ _
  let told := ravens.told (absences ravens.sparks (names.map strip))
  have hkeys : ∀ table ∈ told.sparks.inUse .sparks (some (tablesNamed ravens.sparks names)),
      table.name.isKey = true := by
    rintro table (_ | ⟨_, _ | ⟨_, ⟨⟩⟩⟩)
    · rfl
    · rfl
  have hpicks : told.sparks.picksFor (2 : Nat) .sparks (some (tablesNamed ravens.sparks names))
      told.desk.source = [("Raven", .text "1")] := rfl
  obtain ⟨after, hdraw, -⟩ := SparkLibrary.run_generate (2 : Nat) .sparks _ told hkeys
  rw [hpicks] at hdraw
  have htoken := hdraws.drawn hsome ["Raven"] after hdraw (List.cons_ne_nil _ _)
  have hdirect := hdraws.direct hsome
  rw [hdraw] at hdirect
  obtain ⟨after', hrun, -⟩ := hdirect.of_ok
  exact ⟨hnames, hcount, hreads, after, after', htoken, hrun⟩

end Agreement

end Resolver

end TaleLoom
