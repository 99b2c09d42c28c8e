import Mathlib.Data.List.Forall2
import TaleLoom.Fault
/-!
Calculations that end in a result or a fault, one after the other.
-/

namespace TaleLoom

variable {α β : Type}

@[simp] theorem ok_bind (a : α) (f : α → Except Fault β) : (Except.ok a >>= f) = f a := rfl

@[simp] theorem error_bind (fault : Fault) (f : α → Except Fault β) :
    (Except.error fault >>= f) = .error fault := rfl

@[simp] theorem pure_eq_ok (a : α) : (pure a : Except Fault α) = .ok a := rfl

/-- A calculation of two steps comes to a result where both of them do. -/
theorem parts_of_bind_eq_ok {e : Except Fault α} {f : α → Except Fault β} {b : β}
    (h : (e >>= f) = .ok b) : ∃ a, e = .ok a ∧ f a = .ok b := by
  cases e with
  | ok a => exact ⟨a, rfl, h⟩
  | error fault => cases h

/-- A calculation of two steps fails where one of them does. -/
theorem parts_of_bind_eq_error {e : Except Fault α} {f : α → Except Fault β} {fault : Fault}
    (h : (e >>= f) = .error fault) : e = .error fault ∨ ∃ a, e = .ok a ∧ f a = .error fault := by
  cases e with
  | ok a => exact Or.inr ⟨a, rfl, h⟩
  | error own =>
    obtain rfl := Except.error.inj h
    exact Or.inl rfl

/-- A list is gone through exactly where each of its items comes to a result. -/
theorem mapM_ok_iff {f : α → Except Fault β} {as : List α} {bs : List β} :
    as.mapM f = .ok bs ↔ List.Forall₂ (fun a b => f a = .ok b) as bs := by
  induction as generalizing bs with
  | nil => cases bs <;> simp
  | cons a rest ih =>
    rw [List.mapM_cons]
    constructor
    · intro h
      obtain ⟨b, hb, h⟩ := parts_of_bind_eq_ok h
      obtain ⟨others, hothers, h⟩ := parts_of_bind_eq_ok h
      obtain rfl := Except.ok.inj h
      exact List.Forall₂.cons hb (ih.1 hothers)
    · intro h
      cases h with
      | cons hb hothers => rw [hb, ok_bind, ih.2 hothers, ok_bind, pure_eq_ok]

theorem exists_mapM_ok_iff {f : α → Except Fault β} {as : List α} :
    (∃ bs, as.mapM f = .ok bs) ↔ ∀ a ∈ as, ∃ b, f a = .ok b := by
  simp only [mapM_ok_iff]
  induction as with
  | nil => simp
  | cons a rest ih =>
    rw [List.forall_mem_cons, ← ih]
    constructor
    · rintro ⟨_, h⟩
      cases h with
      | cons hb hothers => exact ⟨⟨_, hb⟩, _, hothers⟩
    · rintro ⟨⟨b, hb⟩, others, hothers⟩
      exact ⟨b :: others, List.Forall₂.cons hb hothers⟩

/-- What comes of a list has come of its items. -/
theorem exists_of_mem_mapM {f : α → Except Fault β} {as : List α} {bs : List β}
    (h : as.mapM f = .ok bs) {b : β} (hb : b ∈ bs) : ∃ a ∈ as, f a = .ok b := by
  have hparts := mapM_ok_iff.1 h
  clear h
  induction hparts with
  | nil => cases hb
  | @cons a own rest others ha _ ih =>
    rcases List.mem_cons.1 hb with rfl | hb
    · exact ⟨a, List.mem_cons_self, ha⟩
    · obtain ⟨c, hc, hgives⟩ := ih hb
      exact ⟨c, List.mem_cons_of_mem a hc, hgives⟩

/-- A list that is written item by item is read back where each item is. -/
theorem mapM_map_eq_ok {f : α → Except Fault β} {g : β → α} {bs : List β}
    (h : ∀ b ∈ bs, f (g b) = .ok b) : (bs.map g).mapM f = .ok bs := by
  apply mapM_ok_iff.2
  rw [List.forall₂_map_left_iff]
  exact List.forall₂_same.2 h

/-- Where going through a list fails, it fails with the fault of an item. -/
theorem exists_of_mapM_error {f : α → Except Fault β} {as : List α} {fault : Fault}
    (h : as.mapM f = .error fault) : ∃ a ∈ as, f a = .error fault := by
  induction as with
  | nil => cases h
  | cons a rest ih =>
    rw [List.mapM_cons] at h
    cases ha : f a with
    | error own =>
      rw [ha, error_bind] at h
      obtain rfl := Except.error.inj h
      exact ⟨a, List.mem_cons_self, ha⟩
    | ok b =>
      cases hrest : rest.mapM f with
      | error other =>
        rw [ha, ok_bind, hrest, error_bind] at h
        obtain ⟨c, hc, hfault⟩ := ih (hrest.trans h)
        exact ⟨c, List.mem_cons_of_mem a hc, hfault⟩
      | ok bs =>
        rw [ha, ok_bind, hrest] at h
        cases h

/-- Calculations that all come to a result, one after the other. -/
theorem mapM_eq_ok {f : α → Except Fault β} {g : α → β} {as : List α}
    (h : ∀ a ∈ as, f a = .ok (g a)) : as.mapM f = .ok (as.map g) := by
  induction as with
  | nil => rfl
  | cons a rest ih =>
    have hrest := ih fun b hb => h b (List.mem_cons_of_mem a hb)
    rw [List.mapM_cons, h a List.mem_cons_self, hrest]
    rfl

/-- Calculations that each start from the result of the one before, and all come to one. -/
theorem foldlM_eq_ok {f : β → α → Except Fault β} {g : β → α → β} {as : List α}
    (start : β) (h : ∀ b, ∀ a ∈ as, f b a = .ok (g b a)) :
    as.foldlM f start = .ok (as.foldl g start) := by
  induction as generalizing start with
  | nil => rfl
  | cons a rest ih =>
    rw [List.foldlM_cons, h start a List.mem_cons_self, List.foldl_cons]
    exact ih (g start a) fun b c hc => h b c (List.mem_cons_of_mem a hc)

/-- Tests that all come to a result choose the items for which it is true. -/
theorem filterM_eq_ok {f : α → Except Fault Bool} {p : α → Bool} {as : List α}
    (h : ∀ a ∈ as, f a = .ok (p a)) : as.filterM f = .ok (as.filter p) := by
  have haux (as done : List α) (h : ∀ a ∈ as, f a = .ok (p a)) :
      as.filterAuxM f done = .ok ((as.filter p).reverse ++ done) := by
    induction as generalizing done with
    | nil => rfl
    | cons a rest ih =>
      rw [List.filterAuxM, h a List.mem_cons_self, ok_bind,
        ih _ fun b hb => h b (List.mem_cons_of_mem a hb)]
      cases hp : p a with
      | true => simp [hp]
      | false => simp [hp]
  rw [List.filterM, haux as [] h]
  simp

end TaleLoom
