import Mathlib.Data.List.Nodup
import TaleLoom.Keyed
/-!
Laws of keyed collections: what is found after an item was erased or the collection was filtered, and
that setting, erasing and filtering leave the keys different from one another.
-/

namespace TaleLoom.Keyed

variable {κ α : Type} [BEq κ] [LawfulBEq κ]

omit [LawfulBEq κ] in
/-- What is found stands somewhere under a key that counts as the one looked for. -/
theorem exists_of_get? {key : κ} {a : α} {m : Keyed κ α} (h : get? key m = some a) :
    ∃ before k after, m = before ++ (k, a) :: after ∧ (k == key) = true := by
  induction m with
  | nil => cases h
  | cons entry rest ih =>
    obtain ⟨k, own⟩ := entry
    rw [get?] at h
    split at h
    · next hk =>
      obtain rfl := Option.some.inj h
      exact ⟨[], k, rest, rfl, hk⟩
    · obtain ⟨before, k', after, rfl, hk'⟩ := ih h
      exact ⟨(k, own) :: before, k', after, rfl, hk'⟩

omit [LawfulBEq κ] in
theorem beq_of_get?_none {key : κ} {m : Keyed κ α} (h : get? key m = none) :
    ∀ entry ∈ m, (entry.1 == key) = false := by
  induction m with
  | nil => exact nofun
  | cons entry rest ih =>
    obtain ⟨k, a⟩ := entry
    rw [get?] at h
    split at h
    · cases h
    · next hk => exact List.forall_mem_cons.2 ⟨Bool.eq_false_iff.2 hk, ih h⟩

theorem mem_of_get? {key : κ} {a : α} {m : Keyed κ α} (h : get? key m = some a) : (key, a) ∈ m := by
  obtain ⟨before, k, after, rfl, hk⟩ := exists_of_get? h
  obtain rfl := eq_of_beq hk
  exact List.mem_append_right before List.mem_cons_self

omit [LawfulBEq κ] in
theorem mem_values_of_get? {key : κ} {a : α} {m : Keyed κ α}
    (h : get? key m = some a) : a ∈ values m := by
  obtain ⟨before, k, after, rfl, -⟩ := exists_of_get? h
  simp [values]

theorem get?_eq_none_of_not_mem {key : κ} {m : Keyed κ α} (h : key ∉ keys m) :
    get? key m = none := by
  cases hm : get? key m with
  | none => rfl
  | some a => exact absurd (List.mem_map_of_mem (f := Prod.fst) (mem_of_get? hm)) h

omit [LawfulBEq κ] in
theorem exists_get? [ReflBEq κ] {key : κ} {m : Keyed κ α} (h : key ∈ keys m) : ∃ a, get? key m = some a := by
  induction m with
  | nil => cases h
  | cons entry rest ih =>
    obtain ⟨k, a⟩ := entry
    rw [get?]
    rcases List.mem_cons.1 h with rfl | hrest
    · exact ⟨a, if_pos BEq.rfl⟩
    · split
      · exact ⟨a, rfl⟩
      · exact ih hrest

theorem get?_of_mem {key : κ} {a : α} {m : Keyed κ α} (hm : (keys m).Nodup) (h : (key, a) ∈ m) :
    get? key m = some a := by
  induction m with
  | nil => simp at h
  | cons entry rest ih =>
    obtain ⟨k, b⟩ := entry
    simp only [keys, List.map_cons, List.nodup_cons] at hm
    rcases List.mem_cons.1 h with heq | htail
    · obtain ⟨rfl, rfl⟩ := Prod.mk.inj heq
      simp [get?]
    · have hk : k ≠ key := by
        rintro rfl
        exact hm.1 (List.mem_map_of_mem (f := Prod.fst) htail)
      simp only [get?, beq_iff_eq, hk, if_false]
      exact ih hm.2 htail

theorem get?_erase_of_ne {key other : κ} (h : key ≠ other) (m : Keyed κ α) :
    get? other (erase key m) = get? other m := by
  induction m with
  | nil => rfl
  | cons entry rest ih =>
    obtain ⟨k, a⟩ := entry
    by_cases hk : k = key
    · subst hk
      simp [erase, get?, h]
    · by_cases ho : k = other
      · subst ho
        simp [erase, get?, hk]
      · simp [erase, get?, hk, ho, ih]

omit [LawfulBEq κ] in
theorem erase_sublist (key : κ) (m : Keyed κ α) : (erase key m).Sublist m := by
  induction m with
  | nil => exact List.Sublist.refl _
  | cons entry rest ih =>
    obtain ⟨k, a⟩ := entry
    simp only [erase]
    split
    · exact List.sublist_cons_self _ _
    · exact ih.cons_cons _

omit [BEq κ] [LawfulBEq κ] in
theorem nodup_keys_of_sublist {m m' : Keyed κ α} (h : m'.Sublist m) (hm : (keys m).Nodup) :
    (keys m').Nodup :=
  hm.sublist (h.map _)

theorem get?_erase_self {key : κ} {m : Keyed κ α} (hm : (keys m).Nodup) :
    get? key (erase key m) = none := by
  induction m with
  | nil => rfl
  | cons entry rest ih =>
    obtain ⟨k, a⟩ := entry
    simp only [keys, List.map_cons, List.nodup_cons] at hm
    by_cases hk : k = key
    · subst hk
      simp only [erase, beq_self_eq_true, if_true]
      exact get?_eq_none_of_not_mem hm.1
    · simp only [erase, beq_iff_eq, hk, if_false, get?]
      exact ih hm.2

omit [LawfulBEq κ] in
/-- An item that is set under a new key comes last. -/
theorem set_of_new {key : κ} {m : Keyed κ α} (h : ∀ entry ∈ m, (entry.1 == key) = false) (a : α) :
    set key a m = m ++ [(key, a)] := by
  induction m with
  | nil => rfl
  | cons entry rest ih =>
    obtain ⟨k, own⟩ := entry
    obtain ⟨hk, hrest⟩ := List.forall_mem_cons.1 h
    dsimp only at hk
    rw [set, hk, ih hrest]
    rfl

theorem set_of_not_mem {key : κ} (a : α) {m : Keyed κ α} (h : key ∉ keys m) :
    set key a m = m ++ [(key, a)] := by
  apply set_of_new
  intro entry hentry
  rw [beq_eq_false_iff_ne]
  rintro rfl
  exact h (List.mem_map_of_mem hentry)

omit [BEq κ] [LawfulBEq κ] in
theorem not_mem_keys_of_nodup {key : κ} {a : α} {m m' : Keyed κ α}
    (h : (keys (m ++ (key, a) :: m')).Nodup) : key ∉ keys m := by
  rw [keys, List.map_append, List.nodup_append] at h
  intro hmem
  exact h.2.2 key hmem key (by simp) rfl

theorem keys_set_of_not_mem {key : κ} (a : α) {m : Keyed κ α} (h : key ∉ keys m) :
    keys (set key a m) = keys m ++ [key] := by
  rw [set_of_not_mem a h, keys, List.map_append]
  rfl

theorem keys_set_of_mem {key : κ} (a : α) {m : Keyed κ α} (h : key ∈ keys m) :
    keys (set key a m) = keys m := by
  induction m with
  | nil => simp [keys] at h
  | cons entry rest ih =>
    obtain ⟨k, b⟩ := entry
    by_cases hk : k = key
    · simp [set, hk, keys]
    · have hrest : key ∈ keys rest := by
        simpa only [keys, List.map_cons, List.mem_cons, Ne.symm hk, false_or] using h
      have ih' : List.map Prod.fst (set key a rest) = List.map Prod.fst rest := ih hrest
      simp only [set, beq_iff_eq, hk, if_false, keys, List.map_cons, ih']

theorem nodup_keys_set {key : κ} (a : α) {m : Keyed κ α} (hm : (keys m).Nodup) :
    (keys (set key a m)).Nodup := by
  by_cases h : key ∈ keys m
  · rwa [keys_set_of_mem a h]
  · rw [keys_set_of_not_mem a h, List.nodup_append]
    refine ⟨hm, List.nodup_singleton _, ?_⟩
    rintro x hx y hy rfl
    exact h (List.mem_singleton.1 hy ▸ hx)

theorem mem_set {key : κ} {a : α} {m : Keyed κ α} {entry : κ × α} (h : entry ∈ set key a m) :
    entry = (key, a) ∨ entry ∈ m := by
  induction m with
  | nil => exact Or.inl (by simpa [set] using h)
  | cons first rest ih =>
    obtain ⟨k, b⟩ := first
    by_cases hk : k = key
    · subst hk
      simp only [set, beq_self_eq_true, if_true, List.mem_cons] at h
      exact h.imp_right (List.mem_cons_of_mem _)
    · simp only [set, beq_iff_eq, hk, if_false, List.mem_cons] at h
      rcases h with rfl | h
      · exact Or.inr List.mem_cons_self
      · exact (ih h).imp_right (List.mem_cons_of_mem _)

/-- What is found in a filtered collection: what was there, if it passes. -/
theorem get?_filter {m : Keyed κ α} (hm : (keys m).Nodup) (p : κ × α → Bool) (key : κ) :
    get? key (m.filter p) = (get? key m).filter fun a => p (key, a) := by
  have hm' : (keys (m.filter p)).Nodup := nodup_keys_of_sublist List.filter_sublist hm
  cases hg : get? key m with
  | none =>
    apply get?_eq_none_of_not_mem
    intro h
    obtain ⟨⟨k, a⟩, ha, rfl⟩ := List.mem_map.1 h
    have := get?_of_mem hm (List.mem_filter.1 ha).1
    simp only at hg
    rw [hg] at this
    cases this
  | some a =>
    by_cases hp : p (key, a) = true
    · simp only [Option.filter_some, hp, if_true]
      exact get?_of_mem hm' (List.mem_filter.2 ⟨mem_of_get? hg, hp⟩)
    · simp only [Option.filter_some, hp]
      apply get?_eq_none_of_not_mem
      intro h
      obtain ⟨⟨k, b⟩, hb, rfl⟩ := List.mem_map.1 h
      obtain ⟨hmem, hpass⟩ := List.mem_filter.1 hb
      have heq := get?_of_mem hm hmem
      rw [hg] at heq
      obtain rfl := Option.some.inj heq
      exact hp hpass

end TaleLoom.Keyed
