import TaleLoom.Proofs.Dice.Totals
import TaleLoom.Proofs.Placeholder.Cleared
/-!
Placeholders that are sure to be answered: a range whose ends are in order, dice whose totals can be
written, keywords from tables that have some, and draws from a complete table whose texts are what is
asked for. None of them leaves a warning, whatever is drawn.
-/

namespace TaleLoom

open Number Text

namespace SparkLibrary

variable {base : Scene} {count : Int} {purpose : SparkUse} {given : Option (List SparkTable)}

/-- The first keyword of a draw is always found. -/
theorem picks_ne_nil {pool : List (String × Value)} (hpool : pool ≠ []) {wanted : Nat} (hwanted : 0 < wanted)
    (source : Source) : picks pool.length wanted pool [] source ≠ [] := by
  have hlength : 0 < pool.length := List.length_pos_iff.2 hpool
  obtain ⟨pick, hpick⟩ := exists_drawn source pool hlength
  obtain ⟨size, hsize⟩ : ∃ size, pool.length = size + 1 := ⟨pool.length - 1, by omega⟩
  obtain ⟨wanted, rfl⟩ : ∃ fewer, wanted = fewer + 1 := ⟨wanted - 1, by omega⟩
  have hpicks := picks.eq_def (size + 1) (wanted + 1) pool [] source
  simp only [hpick, List.contains_nil, Bool.false_eq_true, if_false] at hpicks
  rw [hsize, hpicks]
  exact List.cons_ne_nil _ _

/-- A draw from tables with keywords gives some of them, and warns of nothing. -/
theorem delivers_generate (hcount : 0 < count)
    (hnames : ∀ table ∈ base.sparks.inUse purpose given, table.name.isKey = true)
    (hpool : ((base.sparks.inUse purpose given).map SparkTable.pool).flatten ≠ []) :
    (generate count purpose given).Delivers base.Ready fun keywords =>
      keywords ≠ [] ∧
        ∀ keyword ∈ keywords, ∃ table ∈ base.sparks.inUse purpose given, keyword ∈ table.keywords := by
  intro scene hscene
  rw [← inUse_of_constants hscene.constants] at hnames hpool ⊢
  have htables : scene.sparks.inUse purpose given ≠ [] := by
    intro hnone
    rw [hnone] at hpool
    exact hpool rfl
  obtain ⟨after, hrun, -⟩ := run_generate count purpose given scene hnames
  have hroutine := (keeps_generate count purpose given).of_ok hrun
  refine ⟨_, after, hrun, ⟨?_, ?_, ?_⟩, ?_, ?_⟩
  · exact ((steady_generate count purpose given).keeps.of_ok hrun).trans hscene.constants
  · have hstore : after.store = scene.store := congrArg Prod.snd hroutine.1
    exact ConsumptionStore.writable_of_files (congrArg (·.file) hstore) hroutine.2.1 hscene.writable
  · have hunwarned : (Scene.deskwise Desk.unwarned).holds scene after := by
      rw [← Act.after_of_ok hrun]
      exact Desk.unwarned_quiet.generate htables
    exact Desk.unwarned.trans hscene.unwarned hunwarned
  · rw [Ne, List.map_eq_nil_iff]
    exact picks_ne_nil hpool (by omega) _
  · intro keyword hkeyword
    obtain ⟨pick, hpick, rfl⟩ := List.mem_map.1 hkeyword
    obtain ⟨entries, hentries, hmem⟩ := List.mem_flatten.1 (picks_subset _ _ _ _ _ hpick)
    obtain ⟨table, htable, rfl⟩ := List.mem_map.1 hentries
    exact ⟨table, htable, (SparkTable.mem_pool.1 hmem).1⟩

end SparkLibrary

namespace Resolver

variable {resolver : Resolver} {base : Scene} {q : List Char → Prop} {body : List Char}

/-- A range whose ends are in order gives a number. -/
theorem answers_range (hq : Closed q) {first last : WrittenInteger} {low high : Int}
    (hbody : Expression.ofBody resolver.items.isSome body = .range (some (first, last)))
    (hlow : first.value = .ok low) (hhigh : last.value = .ok high) (hle : low ≤ high) :
    resolver.Answers base q body := by
  unfold Answers attempt
  rw [hbody]
  refine Act.Delivers.ofExcept_bind hlow (Act.Delivers.ofExcept_bind hhigh ?_)
  rw [if_neg (by omega)]
  have hdraw : (Scene.atDesk (Desk.draw low high ("placeholder: " ++ String.ofList body))).Delivers
      base.Ready fun n => isTooLong n = false :=
    Scene.delivers_atDesk fun _ => Desk.delivers_draw hle (WrittenInteger.short_of_value hlow)
      (WrittenInteger.short_of_value hhigh) _
  refine Act.Delivers.bind hdraw fun n hn => ?_
  have hdigits := digits_ok hn
  exact Act.Delivers.ofExcept_bind hdigits (Act.Delivers.pure ⟨_, rfl, hq.bare (free_digits hdigits)⟩)

/-- Dice whose least and greatest totals can be written give a number. -/
theorem answers_roll (hq : Closed q) {formula : List Char} {f : Formula}
    (hbody : Expression.ofBody resolver.items.isSome body = .roll formula)
    (hformula : Formula.ofValue (.text (String.ofList formula)) = .ok f)
    (hleast : isTooLong f.least = false) (hgreatest : isTooLong f.greatest = false) :
    resolver.Answers base q body := by
  unfold Answers attempt
  rw [hbody]
  have hroll : (Scene.atDesk (Desk.roll (.text (String.ofList formula))
      ("placeholder: " ++ String.ofList body))).Delivers base.Ready fun r =>
        ∃ source, r.total = f.totalOn source :=
    Scene.delivers_atDesk fun _ => Desk.delivers_roll hformula _
  refine Act.Delivers.bind hroll.attempt ?_
  rintro _ ⟨r, rfl, source, hsource⟩
  have hshort := Formula.short_totalOn (Formula.pos_of_ofValue hformula).2 hleast hgreatest source
  have hdigits := digits_ok (hsource ▸ hshort)
  exact Act.Delivers.ofExcept_bind hdigits (Act.Delivers.pure ⟨_, rfl, hq.bare (free_digits hdigits)⟩)

/-- Keywords without a table's name come from the tables in use, if these have some. -/
theorem answers_sparks (hq : Closed q) {word : String} {spec : List Char} {count : Int}
    (hbody : Expression.ofBody resolver.items.isSome body = .sparks word spec)
    (hrequest : sparkRequest word spec = .ok (count, [])) (hcount : 0 < count)
    (hnames : ∀ table ∈ base.sparks.inUse .sparks none, table.name.isKey = true)
    (hpool : ((base.sparks.inUse .sparks none).map SparkTable.pool).flatten ≠ [])
    (htexts : ∀ table ∈ base.sparks.inUse .sparks none, ∀ keyword ∈ table.keywords, q keyword.toList) :
    resolver.Answers base q body := by
  unfold Answers attempt
  rw [hbody]
  refine Act.Delivers.ofExcept_bind hrequest ?_
  refine Act.Delivers.bind (SparkLibrary.delivers_generate hcount hnames hpool) ?_
  rintro keywords ⟨hsome, hkeywords⟩
  rw [if_neg (by simpa using hsome)]
  refine Act.Delivers.pure ⟨_, rfl, hq.join (by decide) fun keyword hkeyword => ?_⟩
  obtain ⟨table, htable, hmem⟩ := hkeywords keyword hkeyword
  exact htexts table htable keyword hmem

section Draws

variable {table : RandomTable} {request : DrawRequest}

theorem delivers_drawTexts (h : table.Complete)
    (htexts : ∀ row ∈ table.rows,
      row.description.Says fun text => q (inflect text request.modifiers).toList) (count : Nat) :
    (resolver.drawTexts table request count).Delivers base.Ready fun drawn =>
      ∃ texts, drawn = .ok texts ∧ ∀ text ∈ texts, q text.toList := by
  induction count with
  | zero => exact Act.Delivers.pure ⟨[], rfl, List.forall_mem_nil _⟩
  | succ count ih =>
    have hone : (resolver.drawOne table request.consumable).Delivers base.Ready fun result =>
        q (inflect result.description request.modifiers).toList :=
      resolver.delivers_drawOne h htexts request.consumable
    refine Act.Delivers.bind hone.attempt ?_
    rintro _ ⟨result, rfl, hresult⟩
    refine Act.Delivers.bind ih ?_
    rintro _ ⟨texts, rfl, htexts⟩
    exact Act.Delivers.pure ⟨_, rfl, List.forall_mem_cons.2 ⟨hresult, htexts⟩⟩

/-- Draws from a complete table give its texts, with the modifiers put on them. -/
theorem answers_table (hq : Closed q)
    (hbody : Expression.ofBody resolver.items.isSome body = .table)
    (hfind : base.registry.find (tableParts body).1 = .ok (some table))
    (hrequest : DrawRequest.ofParts table (tableParts body).2 = .ok request)
    (h : table.Complete)
    (htexts : ∀ row ∈ table.rows,
      row.description.Says fun text => q (inflect text request.modifiers).toList) :
    resolver.Answers base q body := by
  unfold Answers attempt
  rw [hbody]
  refine Act.Delivers.bind Act.Delivers.get fun scene hscene => ?_
  have hregistry : scene.registry = base.registry := congrArg (·.1) hscene.constants
  rw [← hregistry] at hfind
  refine Act.Delivers.ofExcept_bind hfind (Act.Delivers.ofExcept_bind hrequest ?_)
  refine Act.Delivers.bind (delivers_drawTexts h htexts request.picks) ?_
  rintro _ ⟨texts, rfl, htexts⟩
  exact Act.Delivers.pure ⟨_, rfl, hq.join (by decide) htexts⟩

end Draws

end Resolver

end TaleLoom
