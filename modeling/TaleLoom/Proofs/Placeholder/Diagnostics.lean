import TaleLoom.Proofs.Placeholder.Flat
import TaleLoom.Proofs.Placeholder.Refusals
/-!
What a refused placeholder is refused with. There is only one diagnostic for it (`refused_only`), and
what it quotes comes from between the placeholder's braces, so that it is a flat text; only the name of
a table, which stands in the diagnostic for a table that cannot be rolled on, may hold any text.
-/

namespace TaleLoom

namespace Text

theorem subset_of_mem_cut {separator : Char} {cs piece : List Char} (h : piece ∈ cut separator cs) :
    piece ⊆ cs := by
  induction cs generalizing piece with
  | nil =>
    obtain rfl := List.mem_singleton.1 h
    exact List.Subset.refl _
  | cons c rest ih =>
    rw [cut] at h
    split at h
    · rcases List.mem_cons.1 h with rfl | h
      · exact List.nil_subset _
      · exact List.subset_cons_of_subset c (ih h)
    · split at h
      · next hcut => exact absurd hcut (cut_ne_nil separator rest)
      · next first others hcut =>
        rw [hcut] at ih
        rcases List.mem_cons.1 h with rfl | h
        · exact List.cons_subset_cons c (ih List.mem_cons_self)
        · exact List.subset_cons_of_subset c (ih (List.mem_cons_of_mem _ h))

end Text

open Text

namespace Expression

def quoted : Expression → List Char
  | roll formula => formula
  | outcome difficulty => difficulty
  | sparks _ spec => spec
  | range _ | item _ | table => []

theorem suffix_of_afterWord? {word cs rest : List Char} (h : afterWord? word cs = some rest) :
    rest <:+ cs := by
  induction word generalizing cs with
  | nil =>
    cases h
    exact List.suffix_refl _
  | cons w word ih =>
    cases cs with
    | nil => cases h
    | cons c cs =>
      rw [afterWord?] at h
      split at h
      · exact (ih h).trans (List.suffix_cons c cs)
      · cases h

theorem dropFinalBreak_subset (cs : List Char) : dropFinalBreak cs ⊆ cs := by
  unfold dropFinalBreak
  split
  · exact List.dropLast_subset cs
  · exact List.Subset.refl _

theorem argument?_subset {word cs argument : List Char} (h : argument? word cs = some argument) :
    argument ⊆ cs := by
  obtain ⟨rest, hrest, h⟩ := Option.bind_eq_some_iff.1 h
  dsimp only at h
  split at h
  · obtain rfl := Option.some.inj h
    have hbody := List.Subset.trans (trim_subset _) (dropFinalBreak_subset rest)
    exact List.Subset.trans hbody (suffix_of_afterWord? hrest).subset
  · cases h

theorem sparkWord?_subset {cs word rest : List Char} (h : sparkWord? cs = some (word, rest)) :
    rest ⊆ cs := by
  obtain ⟨behind, hbehind, h⟩ := Option.map_eq_some_iff.1 h
  have hsubset := (suffix_of_afterWord? hbehind).subset
  cases behind with
  | nil =>
    cases h
    exact hsubset
  | cons c more =>
    dsimp only at h
    split at h
    · cases h
      exact List.Subset.trans (List.subset_cons_self c rest) hsubset
    · cases h
      exact hsubset

theorem sparks?_subset {cs : List Char} {e : Expression} (h : sparks? cs = some e) :
    e.quoted ⊆ cs := by
  obtain ⟨⟨word, rest⟩, hword, h⟩ := Option.bind_eq_some_iff.1 h
  have hrest := sparkWord?_subset hword
  dsimp only at h
  split at h
  · cases h
    exact List.nil_subset _
  · cases h
    exact List.nil_subset _
  · next spec =>
    split at h
    · cases h
    · cases h
      have hspec := List.Subset.trans (dropFinalBreak_subset spec) (List.subset_cons_self ':' spec)
      exact List.Subset.trans hspec hrest
  · cases h

/-- A text whose first letter is another one does not start with the word. -/
theorem not_startsWithWord {first letter small : Char} (hsigma : first ≠ 'Σ')
    (hlower : lowerLetter first = [small]) (hne : letter ≠ small) (letters rest : List Char) :
    startsWithWord (letter :: letters) (lowerAfter false (first :: rest)) = false := by
  have hlowered : ∃ later, lowerAfter false (first :: rest) = small :: later := by
    rw [lowerAfter, if_neg hsigma, hlower]
    exact ⟨_, rfl⟩
  obtain ⟨later, hlater⟩ := hlowered
  have hspaced : (letter :: letters ++ [' ']).isPrefixOf (small :: later) = false := by
    rw [List.cons_append, List.isPrefixOf_cons_cons, beq_false_of_ne hne, Bool.false_and]
  have hword : (small :: later == letter :: letters) = false :=
    beq_false_of_ne fun h => hne (List.cons.inj h).1.symm
  rw [startsWithWord, hlater, hspaced, hword, Bool.or_false]

/-- An expression quotes nothing but the text that it was read from. -/
theorem quoted_ofBody_subset (hasItems : Bool) (cs : List Char) : (ofBody hasItems cs).quoted ⊆ cs := by
  unfold ofBody
  dsimp only
  split
  · exact List.nil_subset _
  split
  · cases hargument : argument? ['r', 'o', 'l', 'l'] cs with
    | none => exact List.nil_subset _
    | some formula => exact argument?_subset hargument
  cases hargument : argument? ['d', 'c'] cs with
  | some difficulty => exact argument?_subset hargument
  | none =>
    cases hsparks : sparks? cs with
    | some e => exact sparks?_subset hsparks
    | none =>
      cases hitem : if hasItems then item? cs else none with
      | none => exact List.nil_subset _
      | some e =>
        have hnothing : e.quoted = [] := by
          split at hitem
          · obtain ⟨rest, -, hitem⟩ := Option.bind_eq_some_iff.1 hitem
            obtain ⟨category, -, rfl⟩ := Option.map_eq_some_iff.1 hitem
            rfl
          · cases hitem
        show e.quoted ⊆ cs
        rw [hnothing]
        exact List.nil_subset _

end Expression

namespace Resolver

open Scene

theorem subset_of_mem_filledParts {separator : Char} {cs part : List Char}
    (h : part ∈ filledParts separator cs) : part ⊆ cs := by
  obtain ⟨piece, hpiece, rfl⟩ := List.mem_map.1 (List.mem_filter.1 h).1
  exact List.Subset.trans (trim_subset piece) (subset_of_mem_cut hpiece)

theorem splitCount_subset {parts others : List (List Char)} {count : Option Int}
    (h : splitCount parts = .ok (count, others)) : others ⊆ parts := by
  unfold splitCount at h
  split at h
  · cases h
    exact List.Subset.refl _
  · split at h
    · split at h
      · cases h
        exact List.dropLast_subset parts
      · cases h
    · cases h
      exact List.Subset.refl _

/-- The names of spark tables are taken from the text that asks for them. -/
theorem sparkRequest_subset {word : String} {spec : List Char} {count : Int} {names : List String}
    (h : sparkRequest word spec = .ok (count, names)) : ∀ name ∈ names, name.toList ⊆ spec := by
  unfold sparkRequest at h
  cases hcount : sparkCount word with
  | error fault => simp [hcount] at h
  | ok usual =>
    cases hsplit : splitCount (filledParts ':' spec) with
    | error fault => simp [hcount, hsplit] at h
    | ok given =>
      obtain ⟨given, parts⟩ := given
      simp only [hcount, hsplit, ok_bind, pure_eq_ok, Except.ok.injEq, Prod.mk.injEq] at h
      obtain ⟨-, rfl⟩ := h
      intro name hname
      obtain ⟨piece, hpiece, rfl⟩ := List.mem_map.1 hname
      obtain ⟨part, hpart, hpiece⟩ := List.mem_flatMap.1 hpiece
      rw [String.toList_ofList]
      exact List.Subset.trans (subset_of_mem_filledParts hpiece)
        (subset_of_mem_filledParts (splitCount_subset hsplit hpart))

theorem tableParts_subset (body : List Char) : (tableParts body).1.toList ⊆ body := by
  rw [tableParts, String.toList_ofList]
  obtain ⟨first, others, hcut⟩ := List.exists_cons_of_ne_nil (cut_ne_nil '.' body)
  rw [hcut]
  have hfirst : first ∈ cut '.' body := hcut ▸ List.mem_cons_self
  exact List.Subset.trans (trim_subset first) (subset_of_mem_cut hfirst)

section Messages

theorem flat_of_subset {s : String} {cs : List Char} (h : s.toList ⊆ cs)
    (hcs : ∀ c ∈ cs, isBrace c = false) : Flat s.toList :=
  flat_of_free fun c hc => hcs c (h hc)

theorem flat_bracketed {front s : String} (hfront : front.toList.all (!isBrace ·) = true)
    (hs : Flat s.toList) : Flat (front ++ s ++ "]").toList := by
  rw [String.toList_append, String.toList_append]
  exact ((flat_of_all hfront).append hs).append (flat_of_all (by decide))

theorem flat_noSparks : Flat Diagnostic.noSparks.message.toList := flat_of_all (by decide)

theorem flat_noItems (category : ItemCategory) :
    Flat (Diagnostic.noItems category).message.toList := by
  cases category <;> exact flat_of_all (by decide)

end Messages

variable {resolver : Resolver} {base : Scene} {t : Token}

def RefusedWith (resolver : Resolver) (base : Scene) (t : Token) (d : Diagnostic) : Prop :=
  ∃ scene after, scene.constants = base.constants ∧
    resolver.attempt (trim t.body) scene = .ok (.error d) after

def Complains (base : Scene) (d : Diagnostic) (act : Act Scene Attempt) : Prop :=
  ∀ scene d' after, scene.constants = base.constants → act scene = .ok (.error d') after → d' = d

theorem complains_of_gives {act : Act Scene Attempt} {d : Diagnostic}
    (h : act.Gives fun attempt => ∀ d', attempt = .error d' → d' = d) : Complains base d act :=
  fun scene _ after _ hrun => h scene _ after hrun _ rfl

theorem complains_resolveRange (body : String) (ends : Option (WrittenInteger × WrittenInteger)) :
    Complains base (.range body) (resolveRange body ends) := by
  refine complains_of_gives ?_
  have hrefused : ∀ d', (.error (.range body) : Attempt) = .error d' → d' = .range body := by
    rintro d' ⟨⟩
    rfl
  cases ends with
  | none => exact Act.Gives.pure hrefused
  | some ends =>
    refine Act.Gives.bind fun low => Act.Gives.bind fun high => ?_
    refine Act.Gives.ite (Act.Gives.pure hrefused) ?_
    exact Act.Gives.bind fun n => Act.Gives.bind fun text => Act.Gives.pure (by rintro d' ⟨⟩)

theorem complains_resolveRoll (body formula : String) :
    Complains base (.dice formula) (resolveRoll body formula) := by
  refine complains_of_gives (Act.Gives.bind fun rolled => ?_)
  split
  · exact Act.Gives.bind fun text => Act.Gives.pure (by rintro d' ⟨⟩)
  · exact Act.Gives.pure (by rintro d' ⟨⟩; rfl)
  · exact Act.Gives.throw _

theorem complains_resolveOutcome (value : List Char) :
    Complains base (.difficulty (String.ofList value)) (resolveOutcome value) := by
  refine complains_of_gives ?_
  unfold resolveOutcome
  split
  · exact Act.Gives.pure (by rintro d' ⟨⟩; rfl)
  · exact Act.Gives.bind fun result => Act.Gives.pure (by rintro d' ⟨⟩)

theorem complains_resolveItem (resolver : Resolver) (category : ItemCategory) :
    Complains base (.noItems category) (resolver.resolveItem category) := by
  refine complains_of_gives (Act.Gives.ite (Act.Gives.pure (by rintro d' ⟨⟩; rfl)) ?_)
  exact Act.Gives.bind fun item => Act.Gives.pure (by rintro d' ⟨⟩)

def keywordDiagnostic (names : List String) (tables : Option (List SparkTable)) : Diagnostic :=
  if (tables.map List.isEmpty).getD false then .unknownSparks names else .noSparks

theorem flat_keywordDiagnostic {names : List String} (h : ∀ name ∈ names, Flat name.toList)
    (tables : Option (List SparkTable)) : Flat (keywordDiagnostic names tables).message.toList := by
  unfold keywordDiagnostic
  split
  · exact flat_bracketed (by decide) (flat_join h)
  · exact flat_noSparks

theorem complains_keywordsFrom (count : Int) (names : List String)
    (tables : Option (List SparkTable)) :
    Complains base (keywordDiagnostic names tables) (keywordsFrom count names tables) := by
  refine complains_of_gives ?_
  unfold keywordsFrom keywordDiagnostic
  split
  · exact Act.Gives.pure (by rintro d' ⟨⟩; rfl)
  · refine Act.Gives.bind fun keywords => Act.Gives.ite (Act.Gives.pure ?_) (Act.Gives.pure ?_)
    · rintro d' ⟨⟩
      rfl
    · rintro d' ⟨⟩

theorem exists_complains_resolveSparks (word : String) {spec : List Char}
    (hspec : ∀ c ∈ spec, isBrace c = false) :
    ∃ d, Complains base d (resolveSparks word spec) ∧ Flat d.message.toList := by
  cases hrequest : sparkRequest word spec with
  | error fault =>
    refine ⟨.noSparks, fun scene d' after _ hrun => ?_, flat_noSparks⟩
    simp only [resolveSparks, Act.run_bind, Act.run_liftExcept, hrequest, Act.run_ofExcept_error]
      at hrun
    cases hrun
  | ok request =>
    obtain ⟨count, names⟩ := request
    have hnames : ∀ name ∈ names, Flat name.toList := fun name hname =>
      flat_of_subset (sparkRequest_subset hrequest name hname) hspec
    cases hempty : names.isEmpty with
    | true =>
      refine ⟨keywordDiagnostic names none, fun scene d' after htables hattempt => ?_,
        flat_keywordDiagnostic hnames _⟩
      rw [run_resolveSparks hrequest, hempty] at hattempt
      exact complains_keywordsFrom count names none scene d' after htables hattempt
    | false =>
      refine ⟨keywordDiagnostic names (some (tablesNamed base.sparks names)),
        fun scene d' after htables hattempt => ?_, flat_keywordDiagnostic hnames _⟩
      have hnamed : tablesNamed scene.sparks names = tablesNamed base.sparks names := by
        simp only [tablesNamed, SparkLibrary.find_of_constants htables]
      rw [run_resolveSparks hrequest, hempty, if_neg Bool.false_ne_true, Act.run_bind] at hattempt
      cases hfind : findSparkTables names scene with
      | error fault next =>
        rw [hfind] at hattempt
        cases hattempt
      | ok tables next =>
        have hnext : next.constants = scene.constants :=
          (steady_findSparkTables names).keeps.of_ok hfind
        have hsame : tables = tablesNamed base.sparks names := by
          rcases run_findSparkTables names scene with ⟨-, hfails⟩ | ⟨-, hfind'⟩
          · exact absurd hfails (Act.failsWith_of_ok hfind)
          · rw [hfind] at hfind'
            exact ((EStateM.Result.ok.inj hfind').1).trans hnamed
        rw [hfind, hsame] at hattempt
        exact complains_keywordsFrom count names _ next d' after (hnext.trans htables) hattempt

/-- Draws are refused for the table that they are made from. -/
theorem gives_drawTexts_refused (table : RandomTable) (request : DrawRequest) (count : Nat) :
    (resolver.drawTexts table request count).Gives fun result =>
      ∀ d, result = .error d → d = .invalidTable table.name := by
  induction count with
  | zero => exact Act.Gives.pure (by rintro d ⟨⟩)
  | succ count ih =>
    refine Act.Gives.bind fun drawn => ?_
    split
    · exact Act.Gives.pure (by rintro d ⟨⟩; rfl)
    · exact Act.Gives.pure (by rintro d ⟨⟩; rfl)
    · exact Act.Gives.throw _
    · refine ih.and_then fun texts htexts => ?_
      split
      · next d => exact Act.Gives.pure (by rintro d' ⟨⟩; exact htexts d rfl)
      · exact Act.Gives.pure (by rintro d' ⟨⟩)

/-- The placeholder is the name of a table, with what is asked of it. -/
structure NamesTable (resolver : Resolver) (base : Scene) (t : Token) (table : RandomTable) : Prop where
  read : Expression.ofBody resolver.items.isSome (trim t.body) = .table
  found : base.registry.find (tableParts (trim t.body)).1 = .ok (some table)

theorem NamesTable.eq {table table' : RandomTable} (h : resolver.NamesTable base t table)
    (h' : resolver.NamesTable base t table') : table = table' :=
  Option.some.inj (Except.ok.inj (h.found.symm.trans h'.found))

/-- An attempt at the name of a table comes to an end where what is asked of the table can be read, with
the end of the draws. -/
theorem draws_of_resolveTable {body : List Char} {table : RandomTable} {scene after : Scene}
    {attempt : Attempt} (htables : scene.constants = base.constants)
    (hfind : base.registry.find (tableParts body).1 = .ok (some table))
    (h : resolver.resolveTable body scene = .ok attempt after) :
    ∃ request result, DrawRequest.ofParts table (tableParts body).2 = .ok request ∧
      resolver.drawTexts table request request.picks scene = .ok result after ∧
      attempt = tableAttempt result := by
  have hregistry : scene.registry = base.registry := congrArg Prod.fst htables
  simp only [run_resolveTable, hregistry, hfind] at h
  split at h
  · cases h
  · next request hrequest =>
    obtain ⟨result, hdraws, hattempt⟩ := Act.parts_of_map h
    exact ⟨request, result, hrequest, hdraws, hattempt.symm⟩

theorem exists_complains_resolveTable (resolver : Resolver) {body : List Char}
    (hbody : ∀ c ∈ body, isBrace c = false) :
    ∃ d, Complains base d (resolver.resolveTable body) ∧ (Flat d.message.toList ∨
      ∃ table, base.registry.find (tableParts body).1 = .ok (some table) ∧
        d = .invalidTable table.name) := by
  have hregistry {scene : Scene} (h : scene.constants = base.constants) :
      scene.registry = base.registry := congrArg Prod.fst h
  cases hfind : base.registry.find (tableParts body).1 with
  | error fault =>
    refine ⟨.noSparks, fun scene d' after htables hrun => ?_, Or.inl flat_noSparks⟩
    simp only [run_resolveTable, hregistry htables, hfind] at hrun
    cases hrun
  | ok found =>
    cases found with
    | none =>
      refine ⟨.unknownTable (tableParts body).1, fun scene d' after htables hrun => ?_, Or.inl
        (flat_bracketed (by decide) (flat_of_subset (tableParts_subset body) hbody))⟩
      simp only [run_resolveTable, hregistry htables, hfind] at hrun
      cases hrun
      rfl
    | some table =>
      refine ⟨.invalidTable table.name, fun scene d' after htables hrun => ?_,
        Or.inr ⟨table, rfl, rfl⟩⟩
      obtain ⟨request, result, -, hdraws, hattempt⟩ := draws_of_resolveTable htables hfind hrun
      cases result with
      | error d =>
        cases hattempt
        exact gives_drawTexts_refused table request request.picks scene _ after hdraws d' rfl
      | ok texts => cases hattempt

/-- A refused placeholder has only one diagnostic, which is a flat text or names a table. -/
theorem refused_only (resolver : Resolver) (base : Scene) (ht : t.Proper) :
    ∃ only, (∀ d, resolver.RefusedWith base t d → d = only) ∧ (Flat only.message.toList ∨
      ∃ table, resolver.NamesTable base t table ∧ only = .invalidTable table.name) := by
  have hfree : ∀ c ∈ trim t.body, isBrace c = false := fun c hc =>
    ht.free c (trim_subset t.body hc)
  have hquoted : ∀ c ∈ (Expression.ofBody resolver.items.isSome (trim t.body)).quoted,
      isBrace c = false := fun c hc => hfree c (Expression.quoted_ofBody_subset _ _ hc)
  have hflat {s : String} {front : String} {cs : List Char} (hs : s = String.ofList cs)
      (hfront : front.toList.all (!isBrace ·) = true) (hcs : ∀ c ∈ cs, isBrace c = false) :
      Flat (front ++ s ++ "]").toList := by
    subst hs
    refine flat_bracketed hfront ?_
    rw [String.toList_ofList]
    exact flat_of_free hcs
  have hcomplains : ∃ d, Complains base d (resolver.attempt (trim t.body)) ∧
      (Flat d.message.toList ∨
        ∃ table, resolver.NamesTable base t table ∧ d = .invalidTable table.name) := by
    unfold attempt
    cases hread : Expression.ofBody resolver.items.isSome (trim t.body) with
    | range ends => exact ⟨_, complains_resolveRange _ _, Or.inl (hflat rfl (by decide) hfree)⟩
    | roll formula =>
      rw [hread] at hquoted
      exact ⟨_, complains_resolveRoll _ _, Or.inl (hflat rfl (by decide) hquoted)⟩
    | outcome value =>
      rw [hread] at hquoted
      exact ⟨_, complains_resolveOutcome _, Or.inl (hflat rfl (by decide) hquoted)⟩
    | sparks word spec =>
      rw [hread] at hquoted
      obtain ⟨d, hd, hmessage⟩ := exists_complains_resolveSparks word hquoted
      exact ⟨d, hd, Or.inl hmessage⟩
    | item category =>
      exact ⟨_, complains_resolveItem resolver _, Or.inl (flat_noItems category)⟩
    | table =>
      obtain ⟨d, hd, hmessage⟩ := exists_complains_resolveTable resolver hfree
      refine ⟨d, hd, hmessage.imp_right ?_⟩
      rintro ⟨table, hfind, rfl⟩
      exact ⟨table, ⟨hread, hfind⟩, rfl⟩
  obtain ⟨only, honly, hmessage⟩ := hcomplains
  refine ⟨only, ?_, hmessage⟩
  rintro d ⟨scene, after, htables, hrun⟩
  exact honly scene d after htables hrun

end Resolver

end TaleLoom
