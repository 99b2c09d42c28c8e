import TaleLoom.Proofs.Fault
import TaleLoom.Scene
/-!
Laws of steps. A step is run by the `run_` lemmas. `Act.after` is the state that a step leaves behind
however it ends, and `Act.Keeps` says that it stands in a relation to the state before;
`Act.Gives` says what a step gives, `Act.Yields` what it gives and keeps where an invariant holds,
`Act.Delivers` that it ends well there too, and `Act.FailsWith` that it ends in a fault of some kind.
-/

namespace TaleLoom

structure Frame (σ : Type) where
  holds : σ → σ → Prop
  refl : ∀ s, holds s s
  trans : ∀ {s t u}, holds s t → holds t u → holds s u

namespace Frame

variable {σ τ α : Type}

def fixing (part : σ → α) : Frame σ where
  holds s t := part t = part s
  refl _ := rfl
  trans h h' := h'.trans h

def keeping (p : σ → Prop) : Frame σ where
  holds s t := p s → p t
  refl _ h := h
  trans h h' hs := h' (h hs)

def on (frame : Frame τ) (part : σ → τ) : Frame σ where
  holds s t := frame.holds (part s) (part t)
  refl s := frame.refl (part s)
  trans := frame.trans

def and (frame frame' : Frame σ) : Frame σ where
  holds s t := frame.holds s t ∧ frame'.holds s t
  refl s := ⟨frame.refl s, frame'.refl s⟩
  trans h h' := ⟨frame.trans h.1 h'.1, frame'.trans h.2 h'.2⟩

end Frame

namespace Act

variable {σ τ α β : Type}

section Running

@[simp] theorem run_pure (a : α) (s : σ) : (pure a : Act σ α) s = .ok a s := rfl

@[simp] theorem run_bind (act : Act σ α) (f : α → Act σ β) (s : σ) :
    (act >>= f) s = match act s with
      | .ok a t => f a t
      | .error fault t => .error fault t := by
  show EStateM.bind act f s = _
  unfold EStateM.bind
  cases act s <;> rfl

/-- Two steps give a result where both of them do. -/
theorem parts_of_bind {act : Act σ α} {f : α → Act σ β} {s u : σ} {b : β}
    (h : (act >>= f) s = .ok b u) : ∃ a t, act s = .ok a t ∧ f a t = .ok b u := by
  rw [run_bind] at h
  split at h
  · next a t hs => exact ⟨a, t, hs, h⟩
  · cases h

@[simp] theorem run_map (f : α → β) (act : Act σ α) (s : σ) :
    (f <$> act) s = match act s with
      | .ok a t => .ok (f a) t
      | .error fault t => .error fault t := by
  show EStateM.map f act s = _
  unfold EStateM.map
  cases act s <;> rfl

theorem parts_of_map {f : α → β} {act : Act σ α} {s t : σ} {b : β} (h : (f <$> act) s = .ok b t) :
    ∃ a, act s = .ok a t ∧ f a = b := by
  rw [run_map] at h
  split at h
  · next a t' hs =>
    cases h
    exact ⟨a, hs, rfl⟩
  · cases h

@[simp] theorem run_discard (act : Act σ α) (s : σ) :
    (discard act : Act σ PUnit) s = match act s with
      | .ok _ t => .ok ⟨⟩ t
      | .error fault t => .error fault t := by
  rw [show (discard act : Act σ PUnit) = (fun _ => PUnit.unit) <$> act from rfl, run_map]

@[simp] theorem run_get (s : σ) : (get : Act σ σ) s = .ok s s := rfl

@[simp] theorem run_modify (f : σ → σ) (s : σ) : (modify f : Act σ PUnit) s = .ok ⟨⟩ (f s) := rfl

@[simp] theorem run_modifyGet (f : σ → α × σ) (s : σ) :
    (modifyGet f : Act σ α) s = .ok (f s).1 (f s).2 := rfl

@[simp] theorem run_throw (fault : Fault) (s : σ) : (throw fault : Act σ α) s = .error fault s := rfl

@[simp] theorem run_ofExcept_ok (a : α) (s : σ) : Act.ofExcept (.ok a) s = .ok a s := rfl

@[simp] theorem run_ofExcept_error (fault : Fault) (s : σ) :
    (Act.ofExcept (.error fault) : Act σ α) s = .error fault s := rfl

@[simp] theorem run_liftExcept (e : Except Fault α) :
    (liftM e : Act σ α) = Act.ofExcept e := rfl

/-- A list is gone through without any change where each of its items is. -/
theorem run_mapM_map {f : α → Act σ β} {g : β → α} {bs : List β} {s : σ}
    (h : ∀ b ∈ bs, f (g b) s = .ok b s) : (bs.map g).mapM f s = .ok bs s := by
  induction bs with
  | nil => rfl
  | cons b rest ih =>
    have hrest := ih fun c hc => h c (List.mem_cons_of_mem b hc)
    simp only [List.map_cons, List.mapM_cons, run_bind, h b List.mem_cons_self, hrest, run_pure]

@[simp] theorem run_within (part : σ → τ) (update : τ → σ → σ) (act : Act τ α) (s : σ) :
    Act.within part update act s = match act (part s) with
      | .ok a t => .ok a (update t s)
      | .error fault t => .error fault (update t s) := rfl

@[simp] theorem run_attempt (act : Act σ α) (s : σ) :
    Act.attempt act s = match act s with
      | .ok a t => .ok (.ok a) t
      | .error fault t => .ok (.error fault) t := rfl

end Running

def result? (act : Act σ α) (s : σ) : Option α :=
  match act s with
  | .ok a _ => some a
  | .error _ _ => none

theorem ok_of_result? {act : Act σ α} {s : σ} {a : α} (h : act.result? s = some a) :
    ∃ t, act s = .ok a t := by
  unfold result? at h
  split at h
  · next t hrun => exact ⟨t, by rw [hrun, Option.some.inj h]⟩
  · cases h

/-- The state that a step leaves behind, however it ends. -/
def after (act : Act σ α) (s : σ) : σ :=
  match act s with
  | .ok _ t => t
  | .error _ t => t

theorem after_of_ok {act : Act σ α} {s t : σ} {a : α} (h : act s = .ok a t) : act.after s = t := by
  simp only [after, h]

theorem after_of_error {act : Act σ α} {s t : σ} {fault : Fault} (h : act s = .error fault t) :
    act.after s = t := by
  simp only [after, h]

theorem after_congr {act act' : Act σ α} {s : σ} (h : act s = act' s) :
    act.after s = act'.after s := by
  simp only [after, h]

theorem after_map (f : α → β) (act : Act σ α) (s : σ) : (f <$> act).after s = act.after s := by
  cases hs : act s <;> simp only [after, run_map, hs]

theorem after_bind (act : Act σ α) (f : α → Act σ β) (s : σ) :
    (act >>= f).after s = match act s with
      | .ok a t => (f a).after t
      | .error _ t => t := by
  cases hs : act s <;> simp only [after, run_bind, hs]

theorem after_bind_pure (act : Act σ α) (b : β) (s : σ) :
    (act >>= fun _ => pure b).after s = act.after s := by
  rw [after_bind]
  cases hs : act s <;> simp only [after, run_pure, hs]

def EndsIn (act : Act σ α) (s : σ) (last : Option Fault) (t : σ) : Prop :=
  match last with
  | none => ∃ a, act s = .ok a t
  | some fault => act s = .error fault t

theorem after_of_endsIn {act : Act σ α} {s t : σ} {last : Option Fault} (h : act.EndsIn s last t) :
    act.after s = t := by
  cases last with
  | none =>
    obtain ⟨a, ha⟩ := h
    exact after_of_ok ha
  | some fault => exact after_of_error h

def Keeps (frame : Frame σ) (act : Act σ α) : Prop := ∀ s, frame.holds s (act.after s)

namespace Keeps

variable {frame : Frame σ} {act : Act σ α}

theorem of_ok (h : act.Keeps frame) {s t : σ} {a : α} (hs : act s = .ok a t) : frame.holds s t :=
  after_of_ok hs ▸ h s

theorem of_error (h : act.Keeps frame) {s t : σ} {fault : Fault} (hs : act s = .error fault t) :
    frame.holds s t :=
  after_of_error hs ▸ h s

theorem mono {frame' : Frame σ} (h : act.Keeps frame)
    (hle : ∀ s t, frame.holds s t → frame'.holds s t) : act.Keeps frame' :=
  fun s => hle s _ (h s)

theorem pure (a : α) : (Pure.pure a : Act σ α).Keeps frame := fun s => frame.refl s

theorem throw (fault : Fault) : (throw fault : Act σ α).Keeps frame := fun s => frame.refl s

theorem get : (get : Act σ σ).Keeps frame := fun s => frame.refl s

theorem modify {f : σ → σ} (h : ∀ s, frame.holds s (f s)) :
    (modify f : Act σ PUnit).Keeps frame := h

theorem modifyGet {f : σ → α × σ} (h : ∀ s, frame.holds s (f s).2) :
    (modifyGet f : Act σ α).Keeps frame := h

theorem ofExcept (e : Except Fault α) : (Act.ofExcept e : Act σ α).Keeps frame := by
  intro s
  cases e <;> exact frame.refl s

theorem bind {f : α → Act σ β} (h : act.Keeps frame) (hf : ∀ a, (f a).Keeps frame) :
    (act >>= f).Keeps frame := by
  intro s
  rw [after_bind]
  cases hs : act s with
  | ok a t => exact frame.trans (h.of_ok hs) (hf a t)
  | error fault t => exact h.of_error hs

/-- What follows a calculation may use that it succeeded. -/
theorem ofExcept_bind {e : Except Fault α} {f : α → Act σ β}
    (h : ∀ a, e = .ok a → (f a).Keeps frame) : (Act.ofExcept e >>= f).Keeps frame := by
  intro s
  cases he : e with
  | ok a => exact h a he s
  | error fault => exact frame.refl s

theorem map {f : α → β} (h : act.Keeps frame) : (f <$> act).Keeps frame := by
  intro s
  rw [after_map]
  exact h s

theorem discard (h : act.Keeps frame) : (discard act : Act σ PUnit).Keeps frame := map h

theorem attempt (h : act.Keeps frame) : act.attempt.Keeps frame := by
  intro s
  have heq : act.attempt.after s = act.after s := by
    cases hs : act s <;> simp only [after, run_attempt, hs]
  exact heq ▸ h s

theorem ite {act' : Act σ α} {p : Prop} [Decidable p] (h : act.Keeps frame)
    (h' : act'.Keeps frame) : (if p then act else act').Keeps frame := by
  split
  · exact h
  · exact h'

theorem within {part : τ → σ} {update : σ → τ → τ} {frame' : Frame τ} (h : act.Keeps frame)
    (hu : ∀ s t, frame.holds (part s) t → frame'.holds s (update t s)) :
    (Act.within part update act).Keeps frame' := by
  intro s
  have heq : (Act.within part update act).after s = update (act.after (part s)) s := by
    cases hs : act (part s) <;> simp only [after, run_within, hs]
  exact heq ▸ hu s _ (h (part s))

end Keeps

def afterAll {ι : Type} (run : ι → Act σ α) (steps : List ι) (s : σ) : σ :=
  steps.foldl (fun s step => (run step).after s) s

theorem afterAll_concat {ι : Type} (run : ι → Act σ α) (steps : List ι) (step : ι) (s : σ) :
    afterAll run (steps ++ [step]) s = (run step).after (afterAll run steps s) := by
  simp only [afterAll, List.foldl_append, List.foldl_cons, List.foldl_nil]

/-- What each step keeps is kept by all of them together. -/
theorem Keeps.afterAll {ι : Type} {frame : Frame σ} {run : ι → Act σ α}
    (h : ∀ step, (run step).Keeps frame) (steps : List ι) (s : σ) :
    frame.holds s (Act.afterAll run steps s) := by
  induction steps generalizing s with
  | nil => exact frame.refl s
  | cons step rest ih => exact frame.trans (h step s) (ih ((run step).after s))

def Gives (p : α → Prop) (act : Act σ α) : Prop := ∀ s a t, act s = .ok a t → p a

namespace Gives

variable {p : β → Prop}

theorem pure {b : β} (h : p b) : (Pure.pure b : Act σ β).Gives p := by
  rintro s a t ⟨⟩
  exact h

theorem throw (fault : Fault) : (throw fault : Act σ β).Gives p := by
  rintro s a t ⟨⟩

theorem bind {act : Act σ α} {f : α → Act σ β} (h : ∀ a, (f a).Gives p) : (act >>= f).Gives p := by
  intro s b u hb
  obtain ⟨a, t, -, hb⟩ := parts_of_bind hb
  exact h a t b u hb

/-- What the first step gives may matter to the second one. -/
theorem and_then {act : Act σ α} {f : α → Act σ β} {q : α → Prop} (h : act.Gives q)
    (hf : ∀ a, q a → (f a).Gives p) : (act >>= f).Gives p := by
  intro s b u hb
  obtain ⟨a, t, hs, hb⟩ := parts_of_bind hb
  exact hf a (h s a t hs) t b u hb

theorem ite {act act' : Act σ β} {q : Prop} [Decidable q] (h : act.Gives p) (h' : act'.Gives p) :
    (if q then act else act').Gives p := by
  split
  · exact h
  · exact h'

end Gives

structure Yields (inv : σ → Prop) (p : α → Prop) (act : Act σ α) : Prop where
  keeps : ∀ s, inv s → inv (act.after s)
  gives : ∀ s a t, inv s → act s = .ok a t → p a

namespace Yields

variable {inv : σ → Prop} {p : α → Prop} {q : β → Prop} {act : Act σ α}

theorem of_keeps {frame : Frame σ} {start : σ} (h : act.Keeps frame) :
    act.Yields (frame.holds start) fun _ => True :=
  ⟨fun s hs => frame.trans hs (h s), fun _ _ _ _ _ => trivial⟩

theorem pure {a : α} (h : p a) : (Pure.pure a : Act σ α).Yields inv p :=
  ⟨fun _ hs => hs, fun s b t _ hrun => Gives.pure h s b t hrun⟩

theorem throw (fault : Fault) : (throw fault : Act σ α).Yields inv p :=
  ⟨fun _ hs => hs, fun s a t _ hrun => Gives.throw fault s a t hrun⟩

theorem get : (get : Act σ σ).Yields inv inv := by
  refine ⟨fun _ hs => hs, fun s a t hs hrun => ?_⟩
  cases hrun
  exact hs

theorem bind {f : α → Act σ β} (h : act.Yields inv p) (hf : ∀ a, p a → (f a).Yields inv q) :
    (act >>= f).Yields inv q := by
  have hnext {s t : σ} {a : α} (hs : inv s) (hrun : act s = .ok a t) :
      inv t ∧ (f a).Yields inv q :=
    ⟨after_of_ok hrun ▸ h.keeps s hs, hf a (h.gives s a t hs hrun)⟩
  constructor
  case keeps =>
    intro s hs
    rw [after_bind]
    cases hrun : act s with
    | ok a t =>
      obtain ⟨ht, hrest⟩ := hnext hs hrun
      exact hrest.keeps t ht
    | error fault t => exact after_of_error hrun ▸ h.keeps s hs
  case gives =>
    intro s b u hs hrun
    obtain ⟨a, t, hact, hrun⟩ := parts_of_bind hrun
    obtain ⟨ht, hrest⟩ := hnext hs hact
    exact hrest.gives t b u ht hrun

theorem ofExcept_bind {e : Except Fault α} {f : α → Act σ β}
    (hf : ∀ a, e = .ok a → (f a).Yields inv q) : (Act.ofExcept e >>= f).Yields inv q := by
  cases e with
  | ok a => exact hf a rfl
  | error fault => exact throw fault

theorem map {f : α → β} (h : act.Yields inv fun a => q (f a)) : (f <$> act).Yields inv q := by
  rw [map_eq_pure_bind]
  exact h.bind fun _ ha => pure ha

theorem discard (h : act.Yields inv p) :
    (discard act : Act σ PUnit).Yields inv fun _ => True :=
  map ⟨h.keeps, fun _ _ _ _ _ => trivial⟩

theorem attempt (h : act.Yields inv p) :
    act.attempt.Yields inv fun result => ∀ a, result = .ok a → p a := by
  constructor
  case keeps =>
    intro s hs
    have heq : act.attempt.after s = act.after s := by
      cases hrun : act s <;> simp only [after, run_attempt, hrun]
    exact heq ▸ h.keeps s hs
  case gives =>
    rintro s result t hs hrun a rfl
    rw [run_attempt] at hrun
    split at hrun
    · next hact =>
      cases hrun
      exact h.gives s a t hs hact
    · cases hrun

theorem ite {act' : Act σ α} {c : Prop} [Decidable c] (h : act.Yields inv p)
    (h' : act'.Yields inv p) : (if c then act else act').Yields inv p := by
  split
  · exact h
  · exact h'

end Yields

def Delivers (inv : σ → Prop) (p : α → Prop) (act : Act σ α) : Prop :=
  ∀ s, inv s → ∃ a t, act s = .ok a t ∧ inv t ∧ p a

namespace Delivers

variable {inv : σ → Prop} {p : α → Prop} {q : β → Prop} {act : Act σ α}

theorem mono {p' : α → Prop} (h : act.Delivers inv p) (hle : ∀ a, p a → p' a) :
    act.Delivers inv p' := by
  intro s hs
  obtain ⟨a, t, hrun, ht, ha⟩ := h s hs
  exact ⟨a, t, hrun, ht, hle a ha⟩

/-- A step that always ends well, and ends in a state that stands in the relation. -/
theorem of_keeps {frame : Frame σ} {start : σ} (h : act.Keeps frame)
    (hrun : ∀ s, ∃ a t, act s = .ok a t ∧ p a) : act.Delivers (frame.holds start) p := by
  intro s hs
  obtain ⟨a, t, hact, ha⟩ := hrun s
  exact ⟨a, t, hact, frame.trans hs (h.of_ok hact), ha⟩

/-- What lasts through the step can be added to the invariant. -/
theorem also {frame : Frame σ} {extra : σ → Prop} (h : act.Delivers inv p) (hkeeps : act.Keeps frame)
    (hextra : ∀ s t, frame.holds s t → extra s → extra t) :
    act.Delivers (fun s => inv s ∧ extra s) p := by
  intro s hs
  obtain ⟨a, t, hrun, ht, ha⟩ := h s hs.1
  exact ⟨a, t, hrun, ⟨ht, hextra s t (hkeeps.of_ok hrun) hs.2⟩, ha⟩

theorem pure {a : α} (h : p a) : (Pure.pure a : Act σ α).Delivers inv p :=
  fun s hs => ⟨a, s, rfl, hs, h⟩

theorem get : (get : Act σ σ).Delivers inv inv := fun s hs => ⟨s, s, rfl, hs, hs⟩

theorem bind {f : α → Act σ β} (h : act.Delivers inv p) (hf : ∀ a, p a → (f a).Delivers inv q) :
    (act >>= f).Delivers inv q := by
  intro s hs
  obtain ⟨a, t, hact, ht, ha⟩ := h s hs
  obtain ⟨b, u, hrest, hu, hb⟩ := hf a ha t ht
  exact ⟨b, u, by rw [run_bind, hact]; exact hrest, hu, hb⟩

theorem ofExcept_bind {e : Except Fault α} {f : α → Act σ β} {a : α} (he : e = .ok a)
    (hf : (f a).Delivers inv q) : (Act.ofExcept e >>= f).Delivers inv q := by
  subst he
  exact hf

theorem map {f : α → β} (h : act.Delivers inv fun a => q (f a)) : (f <$> act).Delivers inv q := by
  rw [map_eq_pure_bind]
  exact h.bind fun _ ha => pure ha

theorem discard (h : act.Delivers inv p) :
    (discard act : Act σ PUnit).Delivers inv fun _ => True :=
  map (h.mono fun _ _ => trivial)

theorem attempt (h : act.Delivers inv p) :
    act.attempt.Delivers inv fun result => ∃ a, result = .ok a ∧ p a := by
  intro s hs
  obtain ⟨a, t, hact, ht, ha⟩ := h s hs
  exact ⟨.ok a, t, by rw [run_attempt, hact], ht, a, rfl, ha⟩

end Delivers

def FailsWith (kind : Fault → Prop) (act : Act σ α) (s : σ) : Prop :=
  ∃ fault t, kind fault ∧ act s = .error fault t

abbrev Fails (act : Act σ α) (s : σ) : Prop := act.FailsWith (fun _ => True) s

section Failing

variable {kind : Fault → Prop} {act : Act σ α} {s t : σ}

theorem failsWith_of_ok {a : α} (h : act s = .ok a t) : ¬ act.FailsWith kind s := by
  rintro ⟨fault, u, -, h'⟩
  rw [h] at h'
  cases h'

theorem failsWith_of_error {fault : Fault} (h : act s = .error fault t) :
    act.FailsWith kind s ↔ kind fault := by
  constructor
  · rintro ⟨fault', u, hk, h'⟩
    rw [h] at h'
    cases h'
    exact hk
  · exact fun hk => ⟨fault, t, hk, h⟩

@[simp] theorem failsWith_pure (a : α) : ¬ (pure a : Act σ α).FailsWith kind s :=
  failsWith_of_ok rfl

@[simp] theorem failsWith_throw (fault : Fault) :
    (throw fault : Act σ α).FailsWith kind s ↔ kind fault :=
  failsWith_of_error rfl

theorem failsWith_congr {act' : Act σ α} (h : act s = act' t) :
    act.FailsWith kind s ↔ act'.FailsWith kind t := by
  rw [FailsWith, h, FailsWith]

/-- Two steps fail exactly when the first does or, after it, the second. -/
theorem failsWith_bind {f : α → Act σ β} :
    (act >>= f).FailsWith kind s ↔
      act.FailsWith kind s ∨ ∃ a t, act s = .ok a t ∧ (f a).FailsWith kind t := by
  cases hs : act s with
  | ok a t =>
    have h : (act >>= f) s = f a t := by simp only [run_bind, hs]
    simp only [FailsWith, h, hs, reduceCtorEq, and_false, exists_false, false_or,
      EStateM.Result.ok.injEq]
    constructor
    · exact fun h' => ⟨a, t, ⟨rfl, rfl⟩, h'⟩
    · rintro ⟨a', t', ⟨rfl, rfl⟩, h'⟩
      exact h'
  | error fault t =>
    have h : (act >>= f) s = .error fault t := by simp only [run_bind, hs]
    rw [failsWith_of_error h, failsWith_of_error hs]
    simp

/-- Where the first step ends well the second one decides. -/
theorem failsWith_bind_of_ok {f : α → Act σ β} {a : α} (h : act s = .ok a t) :
    (act >>= f).FailsWith kind s ↔ (f a).FailsWith kind t := by
  rw [FailsWith, run_bind, h, FailsWith]

@[simp] theorem failsWith_map {f : α → β} :
    (f <$> act).FailsWith kind s ↔ act.FailsWith kind s := by
  cases hs : act s <;> simp [FailsWith, hs]

theorem fails_iff : act.Fails s ↔ ∃ fault t, act s = .error fault t := by simp [FailsWith]

theorem fails_of_error {fault : Fault} (h : act s = .error fault t) : act.Fails s :=
  fails_iff.2 ⟨fault, t, h⟩

theorem not_fails_iff : ¬ act.Fails s ↔ ∃ a t, act s = .ok a t := by
  rw [fails_iff]
  cases act s <;> simp

end Failing

end Act

namespace Scene

variable {α : Type}

def blank : Scene where
  desk := .start ⟨{ year := 2024, month := 1, day := 1 }, 0⟩
  registry := .initial false
  sparks := .initial 0

@[simp] theorem run_liftDesk (act : Act Desk α) : (liftM act : Act Scene α) = atDesk act := rfl

@[simp] theorem run_atDesk (act : Act Desk α) (scene : Scene) :
    atDesk act scene = match act scene.desk with
      | .ok a desk => .ok a { scene with desk }
      | .error fault desk => .error fault { scene with desk } := by
  unfold atDesk
  rw [Act.run_within]
  cases act scene.desk <;> rfl

@[simp] theorem failsWith_atDesk {kind : Fault → Prop} (act : Act Desk α) (scene : Scene) :
    (atDesk act).FailsWith kind scene ↔ act.FailsWith kind scene.desk := by
  simp only [Act.FailsWith, run_atDesk]
  cases act scene.desk <;> simp

theorem keeps_atDesk {frame : Frame Scene} (act : Act Desk α)
    (h : ∀ scene desk, frame.holds scene { scene with desk }) : (atDesk act).Keeps frame := by
  intro scene
  simp only [Act.after, run_atDesk]
  cases act scene.desk <;> exact h scene _

end Scene

end TaleLoom
