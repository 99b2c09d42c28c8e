import TaleLoom.Proofs.Lasting
/-!
What is on record of the numbers that were drawn. A source is asked for numbers from spans, one after
another (`Source.numbers`), and the formula of each roll that was recorded tells what spans it asked for
(`Roll.Asks`). Whatever is played on a desk comes down to takings: numbers that were taken together, and
the roll that they were recorded as (`Played.onRecord`). A number of a range with an end that is too long
to be told is taken and not recorded (`drawing_unrecorded`), and nothing else is.
-/

namespace TaleLoom

open Number

namespace Source

/-- The number of a span that a source gives, and the source after it. -/
def number (span : Span) (source : Source) : Int × Source :=
  let drawn := source.below (span.last - span.first + 1).toNat
  (span.first + drawn.1, drawn.2)

theorem number_of_size {first last : Int} {size : Nat} (h : last - first + 1 = size)
    (source : Source) :
    source.number ⟨first, last⟩ = (first + (source.below size).1, (source.below size).2) := by
  simp only [number, h, Int.toNat_natCast]

/-- A number of a span lies in it, whatever the source. -/
theorem number_between {first last : Int} (h : first ≤ last) (source : Source) :
    first ≤ (source.number ⟨first, last⟩).1 ∧ (source.number ⟨first, last⟩).1 ≤ last := by
  obtain ⟨size, hsize⟩ := Int.eq_ofNat_of_zero_le (by omega : 0 ≤ last - first + 1)
  have hlt := source.below_lt (by omega : 0 < size)
  rw [number_of_size hsize]
  dsimp only
  omega

/-- Each number of a span is given by some source. -/
theorem exists_number {first last n : Int} (h : first ≤ n) (h' : n ≤ last) :
    ∃ source : Source, (source.number ⟨first, last⟩).1 = n := by
  obtain ⟨size, hsize⟩ := Int.eq_ofNat_of_zero_le (by omega : 0 ≤ last - first + 1)
  refine ⟨.listed [n - first], ?_⟩
  have hmod : (n - first) % (size : Int) = n - first := Int.emod_eq_of_lt (by omega) (by omega)
  rw [number_of_size hsize, below, hmod]
  dsimp only
  omega

/-- The numbers that a source gives for spans, one after another, and the source after them. -/
def numbers : List Span → Source → List Int × Source
  | [], source => ([], source)
  | span :: rest, source =>
    let drawn := source.number span
    let others := numbers rest drawn.2
    (drawn.1 :: others.1, others.2)

theorem numbers_append (spans others : List Span) (source : Source) :
    source.numbers (spans ++ others) =
      let first := source.numbers spans
      let second := first.2.numbers others
      (first.1 ++ second.1, second.2) := by
  induction spans generalizing source with
  | nil => rfl
  | cons span rest ih => simp only [List.cons_append, numbers, ih]

/-- Dice are numbers from one to the sides. -/
theorem faces_eq_numbers (sides count : Nat) (source : Source) :
    source.faces sides count = source.numbers (List.replicate count ⟨1, sides⟩) := by
  induction count generalizing source with
  | zero => rfl
  | succ count ih =>
    have hsize : (sides : Int) - 1 + 1 = sides := by omega
    simp only [faces, List.replicate_succ, numbers, number_of_size hsize, ih]
    rw [Int.add_comm]

end Source

namespace Roll

/-- The spans that a roll asked the source for, as its formula and its modifier tell: those of dice, or
the one of a range. -/
inductive Asks (r : Roll) : List Span → Prop
  | dice {written : Value} {f : Formula} : Formula.ofValue written = .ok f →
      r.formula = Text.strip written.plain → r.modifier = f.modifier →
      Asks r (List.replicate f.count ⟨1, f.sides⟩)
  | range {low high : Int} : low ≤ high →
      r.formula = "range(" ++ decimal low ++ "-" ++ decimal high ++ ")" → r.modifier = 0 →
      Asks r [⟨low, high⟩]

def detail (r : Roll) : EventDetail :=
  .roll (.text r.formula) (.list (r.faces.map .int)) (.int r.modifier) (.int r.total) (.text r.reason)

def Adds (r : Roll) : Prop := r.total = r.faces.foldr (· + ·) 0 + r.modifier

end Roll

/-- Numbers of some spans that were taken from a source together, and the roll that they were recorded as
if they were. -/
structure Taking where
  spans : List Span
  numbers : List Int
  roll : Option Roll

namespace Taking

/-- A roll has the numbers for its faces, asked for their spans and adds them up; not recorded is one
number of a range with an end that is too long to be told. -/
inductive Sound : Taking → Prop
  | roll {spans : List Span} {numbers : List Int} {r : Roll} :
      r.Asks spans → r.faces = numbers → r.Adds → Sound ⟨spans, numbers, some r⟩
  | lost {low high n : Int} : low ≤ high → isTooLong low = true ∨ isTooLong high = true →
      Sound ⟨[⟨low, high⟩], [n], none⟩

/-- Every number that was taken is a face on record or was lost. -/
theorem length_faces_add {takings : List Taking} (h : ∀ t ∈ takings, t.Sound) :
    ((takings.filterMap (·.roll)).flatMap (·.faces)).length +
      (takings.filter fun t => t.roll.isNone).length = (takings.flatMap (·.numbers)).length := by
  induction takings with
  | nil => rfl
  | cons t rest ih =>
    obtain ⟨ht, hrest⟩ := List.forall_mem_cons.1 h
    have hcount := ih hrest
    cases ht with
    | roll _ hfaces _ => simp [hfaces] at hcount ⊢; omega
    | lost _ _ => simp at hcount ⊢; omega

/-- The faces on record are the numbers that were taken exactly where every taking was recorded. -/
theorem faces_eq_numbers_iff {takings : List Taking} (h : ∀ t ∈ takings, t.Sound) :
    (takings.filterMap (·.roll)).flatMap (·.faces) = takings.flatMap (·.numbers) ↔
      ∀ t ∈ takings, t.roll ≠ none := by
  constructor
  · intro heq t ht hnone
    have hlength := length_faces_add h
    have hlost : t ∈ takings.filter fun t => t.roll.isNone := by simp [ht, hnone]
    have hpos := List.length_pos_of_mem hlost
    rw [heq] at hlength
    omega
  · intro hall
    induction takings with
    | nil => rfl
    | cons t rest ih =>
      obtain ⟨ht, hrest⟩ := List.forall_mem_cons.1 h
      obtain ⟨hsome, hkept⟩ := List.forall_mem_cons.1 hall
      cases ht with
      | roll _ hfaces _ => simp [hfaces, ih hrest hkept]
      | lost _ _ => exact absurd rfl hsome

theorem adds_of_mem {takings : List Taking} (h : ∀ t ∈ takings, t.Sound) {r : Roll}
    (hr : r ∈ takings.filterMap (·.roll)) : r.Adds := by
  obtain ⟨t, ht, hroll⟩ := List.mem_filterMap.1 hr
  cases h t ht with
  | roll _ _ hadds =>
    obtain rfl := Option.some.inj hroll
    exact hadds
  | lost _ _ => cases hroll

end Taking

namespace Desk

/-- Takings between two desks: the rolls among them were recorded, and no other number was drawn. Where
events are kept, a log that is not paused tells of the same rolls. -/
structure Records (kept : Bool) (before after : Desk) (takings : List Taking) : Prop where
  sound : ∀ t ∈ takings, t.Sound
  recorded : after.rolls.toList = before.rolls.toList ++ takings.filterMap (·.roll)
  drawn : before.source.numbers (takings.flatMap (·.spans)) = (takings.flatMap (·.numbers), after.source)
  told : kept = true → before.log.paused = false → after.log.paused = false ∧
    after.details .roll = before.details .roll ++ (takings.filterMap (·.roll)).map Roll.detail

namespace Records

variable {kept : Bool} {s t u : Desk} {takings others : List Taking}

theorem none (hrolls : t.rolls = s.rolls) (hsource : t.source = s.source)
    (htold : kept = true →
      t.log.paused = s.log.paused ∧ t.details .roll = s.details .roll) :
    Records kept s t [] where
  sound := by simp
  recorded := by rw [hrolls, List.filterMap_nil, List.append_nil]
  drawn := by rw [hsource]; rfl
  told hkept hpaused := by
    obtain ⟨hlog, hdetails⟩ := htold hkept
    rw [hlog, hdetails]
    exact ⟨hpaused, by simp⟩

theorem append (h : Records kept s t takings) (h' : Records kept t u others) :
    Records kept s u (takings ++ others) where
  sound taking htaking := (List.mem_append.1 htaking).elim (h.sound taking) (h'.sound taking)
  recorded := by rw [h'.recorded, h.recorded, List.filterMap_append, List.append_assoc]
  drawn := by
    rw [List.flatMap_append, Source.numbers_append, h.drawn]
    simp only [h'.drawn, List.flatMap_append]
  told hkept hpaused := by
    obtain ⟨hpaused, htold⟩ := h.told hkept hpaused
    obtain ⟨hpaused, htold'⟩ := h'.told hkept hpaused
    refine ⟨hpaused, ?_⟩
    rw [htold', htold, List.filterMap_append, List.map_append, List.append_assoc]

/-- One roll was recorded after the numbers of its spans were drawn. -/
theorem one {r : Roll} {asked : List Span} {source : Source} (hasks : r.Asks asked)
    (hdrawn : s.source.numbers asked = (r.faces, source)) (hadds : r.Adds) :
    Records kept s ({ s with source }.recorded r) [⟨asked, r.faces, some r⟩] where
  sound := by
    rintro taking htaking
    obtain rfl := List.mem_singleton.1 htaking
    exact .roll hasks rfl hadds
  recorded := by simp [Desk.recorded, posted]
  drawn := by simp [hdrawn]
  told hkept hpaused := by
    refine ⟨?_, ?_⟩
    · rw [Desk.recorded, paused_posted]
      exact hpaused
    · rw [Desk.recorded, details_posted]
      simp [hpaused, EventDetail.kind, Roll.detail, details]

/-- A number was drawn and not recorded. -/
theorem lost {low high : Int} (h : low ≤ high) (hlong : isTooLong low = true ∨ isTooLong high = true) :
    Records kept s { s with source := (s.source.number ⟨low, high⟩).2 }
      [⟨[⟨low, high⟩], [(s.source.number ⟨low, high⟩).1], .none⟩] where
  sound := by
    rintro taking htaking
    obtain rfl := List.mem_singleton.1 htaking
    exact .lost h hlong
  recorded := by simp
  drawn := rfl
  told _ hpaused := ⟨hpaused, by simp [details]⟩

end Records

def recording (kept : Bool) : Frame Desk where
  holds s t := ∃ takings, Records kept s t takings
  refl s := ⟨[], .none rfl rfl fun _ => ⟨rfl, rfl⟩⟩
  trans := by
    rintro s t u ⟨takings, h⟩ ⟨others, h'⟩
    exact ⟨takings ++ others, h.append h'⟩

variable {kept : Bool}

theorem adds_rollOf (formula : Value) (reason : String) (f : Formula) (source : Source) :
    (rollOf formula reason f source).Adds := by
  simp only [Roll.Adds, rollOf, Formula.totalOn, Formula.total]

theorem records_rolled {formula : Value} {f : Formula} (h : Formula.ofValue formula = .ok f)
    (reason : String) (desk : Desk) : (recording kept).holds desk (desk.rolled formula reason f) := by
  refine ⟨_, Records.one (.dice h rfl rfl) ?_ (adds_rollOf formula reason f desk.source)⟩
  exact (Source.faces_eq_numbers f.sides f.count desk.source).symm

theorem recording_roll (formula : Value) (reason : String) :
    (roll formula reason).Keeps (recording kept) := by
  intro desk
  cases h : Formula.ofValue formula with
  | ok f =>
    rw [Act.after_of_ok (run_roll_ok h reason desk)]
    exact records_rolled h reason desk
  | error fault =>
    rw [Act.after_of_error (run_roll_error h reason desk)]
    exact (recording kept).refl desk

theorem records_placed {count : Nat} (hcount : 0 < count) (reason : String) (desk : Desk) :
    (recording kept).holds desk (desk.placed count reason) := by
  have hsize : ((count - 1 : Nat) : Int) - 0 + 1 = count := by omega
  have hasks : (placeRoll count (desk.source.below count).1 reason).Asks [⟨0, (count - 1 : Nat)⟩] :=
    .range (by omega) rfl rfl
  refine ⟨_, Records.one hasks ?_ ?_⟩
  · simp only [Source.numbers, Source.number_of_size hsize, placeRoll, Int.zero_add]
  · simp [Roll.Adds, placeRoll]

theorem recording_drawPlace {count : Nat} (hcount : 0 < count) (reason : String) :
    (drawPlace count reason).Keeps (recording kept) := by
  intro desk
  rw [Act.after_of_ok (run_drawPlace count reason desk)]
  exact records_placed hcount reason desk

def numberRoll (low high n : Int) (reason : String) : Roll :=
  { formula := "range(" ++ decimal low ++ "-" ++ decimal high ++ ")", faces := [n], modifier := 0
    total := n, reason }

/-- A draw from a range with ends that can be told is recorded. -/
theorem run_draw_recorded {low high : Int} (h : low ≤ high) (hlow : isTooLong low = false)
    (hhigh : isTooLong high = false) (reason : String) (desk : Desk) :
    draw low high reason desk =
      let drawn := desk.source.number ⟨low, high⟩
      .ok drawn.1
        ({ desk with source := drawn.2 }.recorded (numberRoll low high drawn.1 reason)) := by
  simp only [draw, if_neg (Int.not_lt.2 h), Act.run_bind, Act.run_pure, run_below, Act.run_liftExcept,
    digits_ok hlow, digits_ok hhigh, Act.run_ofExcept_ok, run_record]
  rfl

/-- A draw with an end that is too long to be told takes a number from the source and records nothing. -/
theorem run_draw_untold {low high : Int} (h : low ≤ high)
    (hlong : isTooLong low = true ∨ isTooLong high = true) (reason : String) (desk : Desk) :
    draw low high reason desk =
      .error .numeral { desk with source := (desk.source.number ⟨low, high⟩).2 } := by
  simp only [draw, if_neg (Int.not_lt.2 h), Act.run_bind, Act.run_pure, run_below, Act.run_liftExcept]
  cases hlow : isTooLong low with
  | true => rw [digits_error hlow]; rfl
  | false =>
    have hhigh : isTooLong high = true := by simpa [hlow] using hlong
    rw [digits_ok hlow, digits_error hhigh]
    rfl

theorem recording_draw (low high : Int) (reason : String) :
    (draw low high reason).Keeps (recording kept) := by
  intro desk
  by_cases h : low ≤ high
  · by_cases hlong : isTooLong low = true ∨ isTooLong high = true
    · rw [Act.after_of_error (run_draw_untold h hlong reason desk)]
      exact ⟨_, .lost h hlong⟩
    · simp only [not_or, Bool.not_eq_true] at hlong
      rw [Act.after_of_ok (run_draw_recorded h hlong.1 hlong.2 reason desk)]
      exact ⟨_, .one (.range h rfl rfl) rfl (by simp [Roll.Adds, numberRoll])⟩
  · have hempty : draw low high reason desk = .error .emptyRange desk := by
      simp only [draw, if_pos (Int.not_le.1 h), Act.run_bind, Act.run_throw]
    rw [Act.after_of_error hempty]
    exact (recording kept).refl desk

/-- The recording lasts: each step of a desk takes numbers as one taking, or takes none and records
nothing. -/
theorem recording_lasts : Lasting (recording kept) where
  roll := recording_roll
  draw := recording_draw
  place := recording_drawPlace
  warn text := Act.Keeps.modify fun desk => ⟨[], .none rfl rfl fun _ => ⟨rfl, rfl⟩⟩
  post {detail} hkind context := by
    intro desk
    rw [Act.after_of_ok (run_post detail context desk)]
    refine ⟨[], .none rfl rfl fun _ => ⟨paused_posted desk detail context, ?_⟩⟩
    rw [details_posted]
    simp [hkind]
  wheel number := by
    apply Act.Keeps.modifyGet
    intro desk
    refine ⟨[], ?_⟩
    split
    · exact .none rfl rfl fun _ => ⟨rfl, rfl⟩
    · exact .none rfl rfl fun _ => ⟨rfl, rfl⟩
  files files := Act.Keeps.modify fun desk => ⟨[], .none rfl rfl fun _ => ⟨rfl, rfl⟩⟩

end Desk

/-- The operations of an engine. -/
inductive Operation : {α : Type} → Act Scene α → Prop
  | roll (formula : Value) (reason : String) : Operation (Scene.atDesk (Desk.roll formula reason))
  | draw (low high : Int) (reason : String) : Operation (Scene.atDesk (Desk.draw low high reason))
  | choose {α : Type} (items : List α) (reason : String) :
      Operation (Scene.atDesk (Desk.choose items reason))
  | rollTable (table : RandomTable) (difficulty : Option Int) (rerolls : Int) :
      Operation (Scene.atDesk (table.roll difficulty rerolls))
  | rollOn (table : RandomTable) (difficulty : Option Int) (rerolls : Int) :
      Operation (Scene.atDesk (Registry.rollOn table difficulty rerolls))
  | rollNamed (name : String) (difficulty : Option Int) (rerolls : Int) :
      Operation (Registry.rollNamed name difficulty rerolls)
  | rollDifficulty (difficulty : Int) : Operation (Registry.rollDifficulty difficulty)
  | drawConsumable (resolver : Resolver) (table : RandomTable) :
      Operation (resolver.drawConsumable table)
  | resetConsumption (resolver : Resolver) (name : Option String) :
      Operation (resolver.resetConsumption name)
  | generate (count : Int) (purpose : SparkUse) (given : Option (List SparkTable)) :
      Operation (SparkLibrary.generate count purpose given)
  | generateNamed (count : Int) (names : Option (List String)) :
      Operation (SparkLibrary.generateNamed count names)
  | resolve (resolver : Resolver) (text : String) (depth : Int) :
      Operation (resolver.resolve text depth)
  | execute (resolver : Resolver) (templates : Keyed String Template) (key : String) :
      Operation (Template.execute resolver templates key)

/-- Whatever lasts through the steps of a desk lasts through every operation. -/
theorem Operation.keeps {frame : Frame Desk} (h : Desk.Lasting frame) {α : Type}
    {act : Act Scene α} (op : Operation act) : act.Keeps (Scene.deskwise frame) := by
  cases op with
  | roll formula reason => exact Scene.keeps_deskwise (h.roll formula reason)
  | draw low high reason => exact Scene.keeps_deskwise (h.draw low high reason)
  | choose items reason => exact Scene.keeps_deskwise (h.choose items reason)
  | rollTable table difficulty rerolls =>
    exact Scene.keeps_deskwise (h.rollTable table difficulty rerolls)
  | rollOn table difficulty rerolls =>
    exact Scene.keeps_deskwise (h.rollOn table difficulty rerolls)
  | rollNamed name difficulty rerolls => exact h.rollNamed name difficulty rerolls
  | rollDifficulty difficulty => exact h.rollDifficulty difficulty
  | drawConsumable resolver table => exact h.drawConsumable resolver table
  | resetConsumption resolver name => exact h.resetConsumption resolver name
  | generate count purpose given => exact h.generate count purpose given
  | generateNamed count names => exact h.generateNamed count names
  | resolve resolver text depth => exact h.resolve resolver text depth
  | execute resolver templates key => exact h.execute resolver templates key

/-- What is played on a desk: operations, each in a scene of its own with that desk and whether it ends
well or fails, and between them whatever else neither draws nor clears the record. Where events are
kept, that neither pauses the log nor takes rolls from it or puts them in. -/
inductive Played (kept : Bool) (start : Desk) : Desk → Prop
  | start : Played kept start start
  | operation {scene : Scene} {α : Type} {act : Act Scene α} :
      Played kept start scene.desk → Operation act → Played kept start (act.after scene).desk
  | aside {before after : Desk} : Played kept start before →
      after.source = before.source → after.rolls = before.rolls →
      (kept = true →
        after.log.paused = before.log.paused ∧ after.details .roll = before.details .roll) →
      Played kept start after

theorem Played.recording {kept : Bool} {start desk : Desk} (h : Played kept start desk) :
    (Desk.recording kept).holds start desk := by
  induction h with
  | start => exact (Desk.recording kept).refl start
  | operation _ op ih =>
    exact (Desk.recording kept).trans ih (op.keeps Desk.recording_lasts _)
  | aside _ hsource hrolls htold ih =>
    exact (Desk.recording kept).trans ih ⟨[], .none hrolls hsource htold⟩

/-- Whatever is played from an empty record on, its operations failing or not, what was taken from the
source comes in takings, and the source is left where they end. The rolls on record are those of the
takings, in their order, and their faces are all that was taken exactly where no taking was lost; each
total is the sum of the faces and the modifier; and a log that is kept and not paused tells of the same
rolls, one by one. -/
theorem Played.onRecord {kept : Bool} {start desk : Desk} (h : Played kept start desk)
    (hempty : start.rolls = #[]) :
    ∃ takings : List Taking, (∀ t ∈ takings, t.Sound) ∧
      start.source.numbers (takings.flatMap (·.spans)) = (takings.flatMap (·.numbers), desk.source) ∧
      desk.rolls.toList = takings.filterMap (·.roll) ∧
      (desk.rolls.toList.flatMap (·.faces) = takings.flatMap (·.numbers) ↔
        ∀ t ∈ takings, t.roll ≠ none) ∧
      (∀ r ∈ desk.rolls, r.total = r.faces.foldr (· + ·) 0 + r.modifier) ∧
      (kept = true → start.log.paused = false →
        desk.details .roll = start.details .roll ++ desk.rolls.toList.map Roll.detail) := by
  obtain ⟨takings, hrecords⟩ := h.recording
  have hrolls : desk.rolls.toList = takings.filterMap (·.roll) := by
    rw [hrecords.recorded, hempty]
    rfl
  refine ⟨takings, hrecords.sound, hrecords.drawn, hrolls, ?_, ?_, ?_⟩
  · rw [hrolls]
    exact Taking.faces_eq_numbers_iff hrecords.sound
  · intro r hr
    rw [← Array.mem_toList_iff, hrolls] at hr
    exact Taking.adds_of_mem hrecords.sound hr
  · intro hkept hpaused
    rw [hrolls]
    exact (hrecords.told hkept hpaused).2

/-! ### A parry and a blow that fails -/

def duelDesk : Desk :=
  { Desk.start ⟨{ year := 2024, month := 1, day := 1 }, 0⟩ with source := .listed [10, 1, 8, 3] }

def blows : RandomTable :=
  { name := .text "Blows", formula := .text "1d4"
    rows := [{ low := .text "hard", high := .null, description := .literal "a hit" }] }

def parry : Act Scene Roll := Scene.atDesk (Desk.roll (.text "2d6+1") "parry")

def blow : Act Scene TableResult := Scene.atDesk (blows.roll none 0)

def parriedDesk : Desk := duelDesk.rolled (.text "2d6+1") "parry" ⟨2, 6, 1⟩

def struckDesk : Desk := parriedDesk.rolled (.text "1d4") "table roll: Blows" ⟨1, 4, 0⟩

theorem run_parry : (parry.after { Scene.blank with desk := duelDesk }).desk = parriedDesk := by
  have hformula : Formula.ofValue (.text "2d6+1") = .ok ⟨2, 6, 1⟩ := by cbv
  simp only [parry, Act.after, Scene.run_atDesk, Desk.run_roll_ok hformula]
  rfl

theorem run_blow : blow { Scene.blank with desk := parriedDesk } =
    .error (.table (.bound (.text "hard"))) { Scene.blank with desk := struckDesk } := by
  have hformula : Formula.ofValue blows.formula = .ok ⟨1, 4, 0⟩ := by cbv
  have hrow : blows.rowFor none 1 = .error (.table (.bound (.text "hard"))) := by cbv
  have htotal : (Desk.rollOf blows.formula ("table roll: " ++ blows.name.plain) ⟨1, 4, 0⟩
      parriedDesk.source).total = 1 := by decide
  simp only [blow, Scene.run_atDesk, RandomTable.roll, Act.run_bind, Desk.run_roll_ok hformula, htotal,
    hrow, Act.run_liftExcept, Act.run_ofExcept_error]
  rfl

theorem played_duel : Played true duelDesk struckDesk := by
  have hparry : Played true duelDesk parriedDesk := by
    rw [← run_parry]
    exact .operation .start (.roll _ _)
  have hblow : (blow.after { Scene.blank with desk := parriedDesk }).desk = struckDesk := by
    rw [Act.after_of_error run_blow]
  rw [← hblow]
  exact .operation hparry (.rollTable _ _ _)

/-- The die of the blow that failed is on record behind those of the parry. -/
theorem onRecord_duel :
    Played true duelDesk struckDesk ∧ duelDesk.rolls = #[] ∧
      blow.Fails { Scene.blank with desk := parriedDesk } ∧
      struckDesk.rolls.toList.map (·.faces) = [[5, 2], [1]] ∧ struckDesk.source = .listed [3] ∧
      ∃ takings : List Taking, (∀ t ∈ takings, t.Sound) ∧
        duelDesk.source.numbers (takings.flatMap (·.spans)) =
          (takings.flatMap (·.numbers), struckDesk.source) ∧
        struckDesk.rolls.toList = takings.filterMap (·.roll) ∧
        (struckDesk.rolls.toList.flatMap (·.faces) = takings.flatMap (·.numbers) ↔
          ∀ t ∈ takings, t.roll ≠ none) ∧
        (∀ r ∈ struckDesk.rolls, r.total = r.faces.foldr (· + ·) 0 + r.modifier) ∧
        (true = true → duelDesk.log.paused = false →
          struckDesk.details .roll =
            duelDesk.details .roll ++ struckDesk.rolls.toList.map Roll.detail) := by
  have hfaces : struckDesk.rolls.toList.map (·.faces) = [[5, 2], [1]] := by
    simp only [struckDesk, parriedDesk, duelDesk, Desk.rolled, Desk.recorded, Desk.posted, Desk.rollOf,
      Formula.sourceAfter, Desk.start]
    decide
  have hsource : struckDesk.source = .listed [3] := by
    simp only [struckDesk, parriedDesk, duelDesk, Desk.rolled_source, Formula.sourceAfter, Source.faces,
      Source.below]
  exact ⟨played_duel, rfl, Act.fails_of_error run_blow, hfaces, hsource,
    Played.onRecord played_duel rfl⟩

def drawing : Act Scene Int := Scene.atDesk (Desk.draw 0 (tenTo digitLimit) "drawing")

/-- The first number of the source is taken, and there is nothing on record of it. -/
theorem drawing_unrecorded : ∃ after, drawing { Scene.blank with desk := duelDesk } = .error .numeral after ∧
    Played true duelDesk after.desk ∧ duelDesk.rolls = #[] ∧ duelDesk.source = .listed [10, 1, 8, 3] ∧
    after.desk.source = .listed [1, 8, 3] ∧ after.desk.rolls = #[] := by
  have hlong : isTooLong (tenTo digitLimit) = true :=
    decide_eq_true (Nat.le_of_eq (Int.natAbs_natCast _).symm)
  let after : Scene := { Scene.blank with
    desk := { duelDesk with source := (duelDesk.source.number ⟨0, tenTo digitLimit⟩).2 } }
  have hrun : drawing { Scene.blank with desk := duelDesk } = .error .numeral after := by
    rw [drawing, Scene.run_atDesk, Desk.run_draw_untold (Int.natCast_nonneg _) (Or.inr hlong)]
  refine ⟨after, hrun, ?_, rfl, rfl, rfl, rfl⟩
  rw [← Act.after_of_error hrun]
  exact .operation .start (.draw _ _ _)

end TaleLoom
