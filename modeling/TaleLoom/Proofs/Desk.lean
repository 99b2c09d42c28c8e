import TaleLoom.Proofs.Act
/-!
What the steps of the desk do. Posting, warning and drawing never fail; `Desk.posted` and
`Desk.recorded` are the desk afterwards. A roll fails only for its formula, and its faces are those
that the source gives (`Source.faces`), each of them a side of the die.
-/

namespace TaleLoom

/-- The faces of so many dice from a source, and the source after them. -/
def Source.faces (sides : Nat) : Nat → Source → List Int × Source
  | 0, source => ([], source)
  | count + 1, source =>
    let drawn := source.below sides
    let others := faces sides count drawn.2
    (((drawn.1 : Int) + 1) :: others.1, others.2)

namespace Source

/-- Every face is a side of the die. -/
theorem mem_faces {sides count : Nat} (hsides : 0 < sides) {source : Source} {face : Int}
    (h : face ∈ (source.faces sides count).1) : 1 ≤ face ∧ face ≤ sides := by
  induction count generalizing source with
  | zero => simp [faces] at h
  | succ count ih =>
    simp only [faces, List.mem_cons] at h
    rcases h with rfl | h
    · have hlt := source.below_lt hsides
      omega
    · exact ih h

end Source

namespace Formula

def totalOn (f : Formula) (source : Source) : Int :=
  f.total (source.faces f.sides f.count).1

def sourceAfter (f : Formula) (source : Source) : Source := (source.faces f.sides f.count).2

end Formula

namespace Desk

def subscriberWarning (name : String) : Notice :=
  ⟨.warning, "Subscriber error: " ++ name ++ " failed"⟩

def posted (desk : Desk) (detail : EventDetail) (context : Value) : Desk :=
  let e : Event := { timestamp := desk.clock.moment, sequence := .int 0, context, detail }
  { desk with
    log := (desk.log.post e).1
    notices := desk.notices ++ ((desk.log.post e).2.2.map subscriberWarning).toArray }

def recorded (desk : Desk) (r : Roll) : Desk :=
  { desk with rolls := desk.rolls.push r }.posted
    (.roll (.text r.formula) (.list (r.faces.map .int)) (.int r.modifier) (.int r.total)
      (.text r.reason)) (.object [])

def told (desk : Desk) (notices : List Notice) : Desk :=
  { desk with notices := desk.notices ++ notices.toArray }

@[simp] theorem told_nil (desk : Desk) : desk.told [] = desk := by simp [told]

theorem told_told (desk : Desk) (earlier later : List Notice) :
    (desk.told earlier).told later = desk.told (earlier ++ later) := by simp [told]

@[simp] theorem run_warn (text : String) (desk : Desk) :
    warn text desk = .ok () { desk with notices := desk.notices.push ⟨.warning, text⟩ } := rfl

theorem run_warn_told (text : String) (desk : Desk) :
    warn text desk = .ok () (desk.told [⟨.warning, text⟩]) := by simp [told]

theorem run_warnings (names : List String) (desk : Desk) :
    (names.forM fun name => warn ("Subscriber error: " ++ name ++ " failed")) desk =
      .ok () { desk with notices := desk.notices ++ (names.map subscriberWarning).toArray } := by
  induction names generalizing desk with
  | nil => simp [List.forM]
  | cons name names ih =>
    rw [List.forM, Act.run_bind, run_warn]
    simp only [ih]
    simp [subscriberWarning]

theorem run_post (detail : EventDetail) (context : Value) (desk : Desk) :
    post detail context desk = .ok
      (desk.log.post { timestamp := desk.clock.moment, sequence := .int 0, context, detail }).2.1
      (desk.posted detail context) := by
  simp only [post, eventNow, Act.run_bind, Act.run_get, Act.run_pure, Act.run_modify]
  rw [run_warnings]
  rfl

theorem run_record (r : Roll) (desk : Desk) : record r desk = .ok () (desk.recorded r) := by
  simp only [record, Act.run_bind, Act.run_modify, Act.run_discard, run_post]
  rfl

def details (desk : Desk) (kind : EventKind) : List EventDetail :=
  (desk.log.ofKind kind).map (·.detail)

/-- The log after an event tells of the events before, and of this one if it is of the kind. -/
theorem details_posted (desk : Desk) (detail : EventDetail) (context : Value) (kind : EventKind) :
    (desk.posted detail context).details kind =
      desk.details kind ++ if desk.log.paused || detail.kind ≠ kind then [] else [detail] := by
  simp only [details, posted, RunLog.ofKind, RunLog.post]
  cases hpaused : desk.log.paused with
  | true => simp
  | false =>
    by_cases hkind : detail.kind = kind
    · simp [Event.kind, hkind]
    · simp [Event.kind, hkind]

theorem paused_posted (desk : Desk) (detail : EventDetail) (context : Value) :
    (desk.posted detail context).log.paused = desk.log.paused := by
  simp only [posted, RunLog.post]
  split <;> rfl

@[simp] theorem posted_source (desk : Desk) (detail : EventDetail) (context : Value) :
    (desk.posted detail context).source = desk.source := rfl

@[simp] theorem posted_files (desk : Desk) (detail : EventDetail) (context : Value) :
    (desk.posted detail context).files = desk.files := rfl

@[simp] theorem recorded_source (desk : Desk) (r : Roll) : (desk.recorded r).source = desk.source :=
  rfl

@[simp] theorem recorded_files (desk : Desk) (r : Roll) : (desk.recorded r).files = desk.files := rfl

theorem run_below (n : Nat) (desk : Desk) :
    below n desk = .ok (desk.source.below n).1 { desk with source := (desk.source.below n).2 } := rfl

theorem run_castFaces (sides count : Nat) (desk : Desk) :
    castFaces sides count desk = .ok (desk.source.faces sides count).1
      { desk with source := (desk.source.faces sides count).2 } := by
  induction count generalizing desk with
  | zero => rfl
  | succ count ih =>
    simp only [castFaces, Act.run_bind, run_below, ih, Act.run_pure]
    rfl

def rollOf (formula : Value) (reason : String) (f : Formula) (source : Source) : Roll :=
  { formula := Text.strip formula.plain, faces := (source.faces f.sides f.count).1
    modifier := f.modifier, total := f.totalOn source, reason }

def rolled (desk : Desk) (formula : Value) (reason : String) (f : Formula) : Desk :=
  { desk with source := f.sourceAfter desk.source }.recorded
    (rollOf formula reason f desk.source)

@[simp] theorem rolled_source (desk : Desk) (formula : Value) (reason : String) (f : Formula) :
    (desk.rolled formula reason f).source = f.sourceAfter desk.source := rfl

@[simp] theorem rolled_files (desk : Desk) (formula : Value) (reason : String) (f : Formula) :
    (desk.rolled formula reason f).files = desk.files := rfl

/-- A roll of what is a formula gives the faces of the source. -/
theorem run_roll_ok {formula : Value} {f : Formula} (h : Formula.ofValue formula = .ok f)
    (reason : String) (desk : Desk) :
    roll formula reason desk =
      .ok (rollOf formula reason f desk.source) (desk.rolled formula reason f) := by
  simp only [roll, h, Act.run_bind, Act.run_liftExcept, Act.run_ofExcept_ok, run_castFaces,
    run_record, Act.run_pure]
  rfl

theorem run_roll_error {formula : Value} {fault : Fault}
    (h : Formula.ofValue formula = .error fault) (reason : String) (desk : Desk) :
    roll formula reason desk = .error fault desk := by
  simp only [roll, h, Act.run_bind, Act.run_liftExcept, Act.run_ofExcept_error]

def placeRoll (count place : Nat) (reason : String) : Roll :=
  { formula := "range(0-" ++ Nat.repr (count - 1) ++ ")", faces := [(place : Int)], modifier := 0
    total := place, reason }

/-- The desk after the draw of a place. -/
def placed (desk : Desk) (count : Nat) (reason : String) : Desk :=
  { desk with source := (desk.source.below count).2 }.recorded
    (placeRoll count (desk.source.below count).1 reason)

@[simp] theorem placed_source (desk : Desk) (count : Nat) (reason : String) :
    (desk.placed count reason).source = (desk.source.below count).2 := rfl

@[simp] theorem placed_files (desk : Desk) (count : Nat) (reason : String) :
    (desk.placed count reason).files = desk.files := rfl

theorem run_drawPlace (count : Nat) (reason : String) (desk : Desk) :
    drawPlace count reason desk =
      .ok (desk.source.below count).1 (desk.placed count reason) := by
  simp only [drawPlace, Act.run_bind, run_below, run_record, Act.run_pure]
  rfl

def chosen {α : Type} (items : List α) (hitems : items ≠ []) (source : Source) : α :=
  items.get ⟨(source.below items.length).1,
    source.below_lt (List.length_pos_iff.2 hitems)⟩

theorem chosen_mem {α : Type} (items : List α) (hitems : items ≠ []) (source : Source) :
    chosen items hitems source ∈ items := List.get_mem _ _

theorem run_choose {α : Type} {items : List α} (hitems : items ≠ []) (reason : String)
    (desk : Desk) :
    choose items reason desk = .ok (chosen items hitems desk.source)
      (desk.placed items.length (if reason.isEmpty then
        "choice from " ++ Nat.repr items.length ++ " options" else reason)) := by
  have hlt := desk.source.below_lt (List.length_pos_iff.2 hitems)
  simp only [choose, List.isEmpty_eq_false_iff.2 hitems, Bool.false_eq_true, if_false,
    Act.run_bind, Act.run_pure, run_drawPlace, List.getElem?_eq_getElem hlt]
  rfl

end Desk

def Scene.told (scene : Scene) (notices : List Notice) : Scene :=
  { scene with desk := scene.desk.told notices }

@[simp] theorem Scene.told_nil (scene : Scene) : scene.told [] = scene := by simp [told]

def Scene.posted (scene : Scene) (detail : EventDetail) (context : Value) : Scene :=
  { scene with desk := scene.desk.posted detail context }

end TaleLoom
