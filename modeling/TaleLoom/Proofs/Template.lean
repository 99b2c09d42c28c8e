import TaleLoom.Proofs.Placeholder.Sure
import TaleLoom.Proofs.Table.Entries
import TaleLoom.Template
/-!
The templates that come with the library are expanded in full, whatever is drawn and whatever was drawn
before. `Resolver.clears` is a check of a text: it looks every placeholder up among the built-in tables,
and checks every text that a draw can give in the same way for the passes that are left. What passes it
clears in so many passes (`Resolver.clearsIn_of_clears`), and the templates pass it for two
(`Template.defaults_clear`).
-/

namespace TaleLoom

open Number Text

namespace BuiltIn

theorem complete_entryTable {entries : List String} (name description : String) (consumable : Bool)
    (hsome : entries ≠ []) (hmost : entries.length ≤ Formula.maxSides) :
    (entryTable name entries description consumable).Complete where
  named := ⟨name, rfl⟩
  rows := by
    obtain ⟨entry, rest, rfl⟩ := List.exists_cons_of_ne_nil hsome
    exact List.cons_ne_nil _ _
  gaps := RandomTable.gaps_ofEntries _ hsome hmost _ _ none

theorem complete_treasures : treasures.Complete where
  named := ⟨_, rfl⟩
  rows := List.cons_ne_nil _ _
  gaps := by
    have hformula : Formula.ofValue treasures.formula = .ok ⟨1, 6, 0⟩ := rfl
    apply RandomTable.gaps_of_rowFor hformula
    intro total hlow hhigh
    have htotal : total = 1 ∨ total = 2 ∨ total = 3 ∨ total = 4 ∨ total = 5 ∨ total = 6 := by
      simp only [Formula.least, Formula.greatest] at hlow hhigh
      omega
    rcases htotal with rfl | rfl | rfl | rfl | rfl | rfl
    all_goals exact ⟨_, rfl⟩

theorem complete_weather : weather.Complete where
  named := ⟨_, rfl⟩
  rows := List.cons_ne_nil _ _
  gaps := by
    have hformula : Formula.ofValue weather.formula = .ok ⟨2, 6, 0⟩ := rfl
    apply RandomTable.gaps_of_rowFor hformula
    intro total hlow hhigh
    have htotal : total = 2 ∨ total = 3 ∨ total = 4 ∨ total = 5 ∨ total = 6 ∨ total = 7 ∨ total = 8 ∨
        total = 9 ∨ total = 10 ∨ total = 11 ∨ total = 12 := by
      simp only [Formula.least, Formula.greatest] at hlow hhigh
      omega
    rcases htotal with rfl | rfl | rfl | rfl | rfl | rfl | rfl | rfl | rfl | rfl | rfl
    all_goals exact ⟨_, rfl⟩

/-- Every built-in table has a row for every total of its dice. -/
theorem complete_tables {table : RandomTable} (h : table ∈ Keyed.values tables) : table.Complete := by
  simp only [Keyed.values, tables, List.map_cons, List.map_nil, List.mem_cons, List.not_mem_nil,
    or_false] at h
  rcases h with rfl | rfl | rfl | rfl | rfl | rfl | rfl | rfl | rfl | rfl | rfl | rfl | rfl
  iterate 11 exact complete_entryTable _ _ _ (by decide) (by decide)
  · exact complete_treasures
  · exact complete_weather

end BuiltIn

/-- Whether there are items to ask for matters only where one is asked for. -/
theorem Expression.ofBody_eq {cs : List Char} (h : ∀ category, ofBody true cs ≠ .item category)
    (hasItems : Bool) : ofBody hasItems cs = ofBody true cs := by
  cases hasItems with
  | true => rfl
  | false =>
    unfold ofBody at h ⊢
    dsimp only at h ⊢
    split
    · rfl
    next hrange =>
    split
    · rfl
    next hroll =>
    rw [if_neg hrange, if_neg hroll] at h
    cases hword : (argument? ['d', 'c'] cs).map outcome with
    | some e => rfl
    | none =>
      cases hsparks : sparks? cs with
      | some e => rfl
      | none =>
        simp only [hword, hsparks, Option.getD_none, if_true, Bool.false_eq_true, if_false] at h ⊢
        cases hitem : item? cs with
        | none => rfl
        | some e =>
          obtain ⟨rest, -, hrest⟩ := Option.bind_eq_some_iff.1 hitem
          obtain ⟨category, -, rfl⟩ := Option.map_eq_some_iff.1 hrest
          exact absurd (by rw [hitem]; rfl) (h category)

/-- The scene has the tables that come with the library, and those alone. -/
structure Scene.Shipped (scene : Scene) : Prop where
  registry : scene.registry = .initial true
  sparks : ∃ millis, scene.sparks = .initial millis

namespace Description

def clears (check : List Char → Bool) (modifiers : List String) : Description → Bool
  | literal text => decide (Bare text.toList) || (modifiers.isEmpty && check text.toList)
  | generated _ _ _ => true

inductive Plain : Description → Prop
  | literal (text : String) : Plain (literal text)
  | coins (label name : String) : Plain (generated label name .coins)

theorem says_of_clears {check : List Char → Bool} {q : List Char → Prop} (hq : Closed q)
    (hcheck : ∀ cs, check cs = true → q cs) {modifiers : List String} {d : Description} (hd : d.Plain)
    (h : d.clears check modifiers = true) : d.Says fun text => q (inflect text modifiers).toList := by
  cases hd with
  | literal text =>
    apply says_literal
    simp only [clears, Bool.or_eq_true, Bool.and_eq_true, decide_eq_true_eq] at h
    rcases h with hbare | ⟨hmodifiers, htext⟩
    · exact hq.bare (bare_inflect hbare modifiers)
    · obtain rfl := List.isEmpty_iff.1 hmodifiers
      rw [show (inflect text []).toList = text.toList from String.toList_ofList]
      exact hcheck _ htext
  | coins label name =>
    refine says_coins (fun n number hnumber => ?_) label name
    have hcoins : Bare (number ++ " silver coins").toList := by
      rw [String.toList_append]
      exact Bare.append (free_digits hnumber) (by decide)
    exact hq.bare (bare_inflect hcoins modifiers)

end Description

namespace BuiltIn

theorem plain_of_mem_entryRows {first : Nat} {entries : List String} {row : Row}
    (h : row ∈ RandomTable.entryRows first entries) : row.description.Plain := by
  induction entries generalizing first with
  | nil => cases h
  | cons entry rest ih =>
    rcases List.mem_cons.1 h with rfl | h
    · exact .literal entry
    · exact ih h

/-- The only texts of the built-in tables that are made anew are those of purses. -/
theorem plain_tables {table : RandomTable} (h : table ∈ Keyed.values tables) {row : Row}
    (hrow : row ∈ table.rows) : row.description.Plain := by
  simp only [Keyed.values, tables, List.map_cons, List.map_nil, List.mem_cons, List.not_mem_nil,
    or_false] at h
  rcases h with rfl | rfl | rfl | rfl | rfl | rfl | rfl | rfl | rfl | rfl | rfl | rfl | rfl
  iterate 11 exact plain_of_mem_entryRows hrow
  all_goals
    simp only [treasures, weather, List.mem_cons, List.not_mem_nil, or_false] at hrow
  · rcases hrow with rfl | rfl | rfl | rfl
    · exact .coins _ _
    all_goals exact .literal _
  · rcases hrow with rfl | rfl | rfl | rfl | rfl | rfl
    all_goals exact .literal _

end BuiltIn

namespace Resolver

def answerClears (check : List Char → Bool) (body : List Char) : Bool :=
  match Expression.ofBody true body with
  | .range (some (first, last)) =>
    match first.value, last.value with
    | .ok low, .ok high => low ≤ high
    | _, _ => false
  | .roll formula =>
    match Formula.ofValue (.text (String.ofList formula)) with
    | .ok f => !isTooLong f.least && !isTooLong f.greatest
    | .error _ => false
  | .sparks word spec => word = "sparks" && spec.isEmpty
  | .table =>
    match (Registry.initial true).find (tableParts body).1 with
    | .ok (some table) =>
      match DrawRequest.ofParts table (tableParts body).2 with
      | .ok request => table.rows.all fun row => row.description.clears check request.modifiers
      | .error _ => false
    | _ => false
  | _ => false

def clears : Nat → List Char → Bool
  | 0, cs => decide (Bare cs)
  | passes + 1, cs =>
    decide (Flat cs) && (tokens cs).all fun token => answerClears (clears passes) (trim token.body)

section Checked

variable {resolver : Resolver} {base : Scene} {q : List Char → Prop} {body : List Char}

/-- Keywords come from the default table. -/
theorem answers_keywords (hq : Closed q) (hsparks : ∃ millis, base.sparks = .initial millis)
    (hbody : Expression.ofBody resolver.items.isSome body = .sparks "sparks" []) :
    resolver.Answers base q body := by
  obtain ⟨millis, hsparks⟩ := hsparks
  have htables : base.sparks.inUse .sparks none = [BuiltIn.sparkTable millis] := by
    rw [hsparks]
    rfl
  have hbare : ∀ keyword ∈ BuiltIn.sparkKeywords, Bare keyword.toList := by decide
  refine answers_sparks hq hbody rfl (by decide) ?_ ?_ ?_
  · rw [htables]
    exact List.forall_mem_singleton.2 rfl
  · rw [htables]
    exact List.cons_ne_nil _ _
  · rw [htables]
    refine List.forall_mem_singleton.2 fun keyword hkeyword => ?_
    exact hq.bare (hbare keyword (List.mem_filter.1 hkeyword).1)

theorem answers_of_answerClears (hq : Closed q) (hbase : base.Shipped) {check : List Char → Bool}
    (hcheck : ∀ cs, check cs = true → q cs) (h : answerClears check body = true) :
    resolver.Answers base q body := by
  have hbody : Expression.ofBody resolver.items.isSome body = Expression.ofBody true body := by
    apply Expression.ofBody_eq
    intro category hitem
    rw [answerClears, hitem] at h
    cases h
  unfold answerClears at h
  -- one case for each kind of request, and each of its checks is what the answer asks for
  split at h
  case h_1 first last hrange =>
    split at h
    · next low high hlow hhigh =>
      exact answers_range hq (hbody.trans hrange) hlow hhigh (of_decide_eq_true h)
    · cases h
  case h_2 formula hroll =>
    split at h
    · next f hf =>
      simp only [Bool.and_eq_true, Bool.not_eq_true'] at h
      exact answers_roll hq (hbody.trans hroll) hf h.1 h.2
    · cases h
  case h_3 word spec hsparks =>
    simp only [Bool.and_eq_true, decide_eq_true_eq, List.isEmpty_iff] at h
    obtain ⟨rfl, rfl⟩ := h
    exact answers_keywords hq hbase.sparks (hbody.trans hsparks)
  case h_4 htable =>
    split at h
    · next table hfind =>
      split at h
      · next request hrequest =>
        have hmem : table ∈ Keyed.values BuiltIn.tables := by
          simpa [Registry.initial, Keyed.values] using Lookup.mem_of_findIn hfind
        rw [← hbase.registry] at hfind
        refine answers_table hq (hbody.trans htable) hfind hrequest (BuiltIn.complete_tables hmem) ?_
        intro row hrow
        exact Description.says_of_clears hq hcheck (BuiltIn.plain_tables hmem hrow)
          (List.all_eq_true.1 h row hrow)
      · cases h
    · cases h
  case h_5 => cases h

/-- What passes the check clears, whatever is drawn. -/
theorem clearsIn_of_clears (hbase : base.Shipped) {passes : Nat} {cs : List Char}
    (h : clears passes cs = true) : resolver.ClearsIn base passes cs := by
  induction passes generalizing cs with
  | zero =>
    rw [clears, decide_eq_true_eq] at h
    exact h
  | succ passes ih =>
    rw [clears, Bool.and_eq_true, decide_eq_true_eq, List.all_eq_true] at h
    obtain ⟨hflat, htokens⟩ := h
    refine ⟨hflat, fun token htoken => ?_⟩
    exact answers_of_answerClears (closed_clearsIn passes) hbase (fun _ => ih) (htokens token htoken)

end Checked

end Resolver

namespace Template

/-- Every line of the templates that come with the library passes the check for two passes. -/
theorem defaults_clear {millis : Int} {t : Template} (h : t ∈ Keyed.values (defaults millis)) :
    ∃ lines : List String, t.content = .text (join "\n" lines) ∧
      ∀ line ∈ lines, Resolver.clears 2 line.toList = true := by
  simp only [Keyed.values, defaults, List.map_cons, List.map_nil, List.mem_cons, List.not_mem_nil,
    or_false] at h
  rcases h with rfl | rfl | rfl | rfl | rfl
  -- the lines are checked one by one: a text is read much faster in short pieces
  all_goals exact ⟨_, rfl, by decide +kernel⟩

/-- How a template is expanded in full: no brace is left, the author is warned of nothing but subscribers
that fail, and the log tells of expansions at the first two depths alone. -/
structure Expanded (before : Scene) (text : String) (after : Scene) : Prop where
  noBrace : '\x7b' ∉ text.toList ∧ '\x7d' ∉ text.toList
  unwarned : ∃ told, after.desk.notices.toList = before.desk.notices.toList ++ told ∧
    ∀ notice ∈ told, ∃ subscriber ∈ before.desk.log.subscribers,
      subscriber.fails = true ∧ notice = Desk.subscriberWarning subscriber.name
  depths : ∃ told, after.desk.expansions = before.desk.expansions ++ told ∧
    ∀ detail ∈ told, ∃ token replacement depth,
      detail = .expansion token replacement (.int depth) ∧ (depth = 0 ∨ depth = 1)

theorem expanded_of_readyBelow {before after : Scene} {text : String} (hbare : Bare text.toList)
    (h : before.ReadyBelow 2 after) : Expanded before text after where
  noBrace := by
    constructor
    · intro hmem
      cases hbare _ hmem
    · intro hmem
      cases hbare _ hmem
  unwarned := h.1.unwarned.2
  depths := by
    obtain ⟨told, htold, hbelow⟩ := h.2
    refine ⟨told, htold, fun detail hdetail => ?_⟩
    obtain ⟨token, replacement, depth, rfl, hlow, hhigh⟩ := hbelow detail hdetail
    exact ⟨token, replacement, depth, rfl, by omega⟩

/-- Every template that comes with the library is expanded in full over the tables that come with it, for
every story, whatever the source gives and whatever the story has drawn before. -/
theorem execute_defaults (story : String) (items : Option (List Item)) (millis : Int) {scene : Scene}
    (hscene : scene.Shipped) (hwritable : scene.Writable) {key : String}
    (hkey : key ∈ Keyed.keys (defaults millis)) :
    ∃ text after, execute { options := { story }, items } (defaults millis) key scene = .ok text after ∧
      Expanded scene text after := by
  obtain ⟨t, hget⟩ := Keyed.exists_get? hkey
  obtain ⟨lines, hcontent, hlines⟩ := defaults_clear (Keyed.mem_values_of_get? hget)
  let resolver : Resolver := { options := { story }, items }
  have hclears : resolver.ClearsIn scene 2 (join "\n" lines).toList :=
    (Resolver.closed_clearsIn 2).join (by decide) fun line hline =>
      Resolver.clearsIn_of_clears hscene (hlines line hline)
  have hdepth : (2 : Int) ≤ resolver.options.maxDepth := show (2 : Int) ≤ 10 by decide
  have hready := Scene.readyBelow_self hwritable 2
  obtain ⟨text, after, hrun, hafter, hbare⟩ := Resolver.delivers_resolve rfl hdepth hclears scene hready
  refine ⟨text, after, ?_, expanded_of_readyBelow hbare hafter⟩
  simp only [execute, hget, run, hcontent]
  exact hrun

def hillside : Scene where
  desk := { Scene.blank.desk with source := .listed [7, 3, 0, 1, 6, 2, 0, 5, 2, 5] }
  registry := .initial true
  sparks := .initial 0
  store := { records := [(ConsumptionStore.key "secrets" "default",
    { table := "secrets", story := "default", items := BuiltIn.secrets.drop 1 })] }

theorem execute_defaults_hillside :
    hillside.Shipped ∧ hillside.Writable ∧ "location_detailed" ∈ Keyed.keys (defaults 0) ∧
      ∃ text after, execute { options := { story := "default" }, items := none } (defaults 0)
          "location_detailed" hillside = .ok text after ∧ Expanded hillside text after := by
  have hshipped : hillside.Shipped := ⟨rfl, 0, rfl⟩
  have hwritable : hillside.Writable := by
    intro file hfile
    cases hfile
  have hkey : "location_detailed" ∈ Keyed.keys (defaults 0) := by decide
  exact ⟨hshipped, hwritable, hkey, execute_defaults "default" none 0 hshipped hwritable hkey⟩

end Template

end TaleLoom
