import TaleLoom.Proofs.Keyed
import TaleLoom.Proofs.Value.Order
/-!
Which values are the same key. A key is known by its form: nothing, a text, the amount that a number comes
to, however the number is written, or that it is an undefined number (`same_iff`). So what is looked up
under a key is found under every other way of writing it (`Keyed.get?_of_same`), and setting an item under
a key changes what is found under these keys alone (`Keyed.get?_set_key`). Sameness can be chained through
values of any kind (`same_trans`). Where no two keys of a collection are the same (`Keyed.Apart`), every
item of it is found.
-/

namespace TaleLoom

open Number

/-- What a key is known by. -/
inductive KeyForm where
  | nothing
  | text (s : String)
  | undefined
  | amount (a : Amount)
  deriving DecidableEq

namespace Value

/-- What a value is known by as a key; lists and objects are known by nothing. -/
def form? : Value → Option KeyForm
  | null => some .nothing
  | text s => some (.text s)
  | real .undefined => some .undefined
  | v => v.amount?.map .amount

/-- Numbers are the same where they come to the same. -/
theorem sameNumber_iff (v w : Value) :
    v.sameNumber w = true ↔ ∃ a, v.amount? = some a ∧ w.amount? = some a := by
  rw [sameNumber, beq_iff_eq, compare?_eq_some_iff]
  constructor
  · rintro ⟨a, b, ha, hb, horder⟩
    obtain rfl := Amount.place_injective (compare_eq_iff_eq.1 horder)
    exact ⟨a, ha, hb⟩
  · rintro ⟨a, ha, hb⟩
    exact ⟨a, a, ha, hb, compare_eq_iff_eq.2 rfl⟩

theorem form?_eq_none {v : Value} (h : v.isKey = false) : v.form? = none := by
  cases v <;> first | rfl | cases h

/-- A value is the same as a key where it is known by the same. -/
theorem same_iff {v w : Value} (h : v.isKey = true ∨ w.isKey = true) :
    v.same w = true ↔ ∃ f, v.form? = some f ∧ w.form? = some f := by
  by_cases htext : ∃ s t, v = text s ∧ w = text t
  · obtain ⟨s, t, rfl, rfl⟩ := htext
    rw [same_text, beq_iff_eq]
    constructor
    · rintro rfl
      exact ⟨_, rfl, rfl⟩
    · rintro ⟨f, hs, ht⟩
      exact KeyForm.text.inj (Option.some.inj (hs.trans ht.symm))
  · rcases v with _ | _ | _ | (_ | _ | _) | _ | _ | _ <;>
      rcases w with _ | _ | _ | (_ | _ | _) | _ | _ | _ <;>
      simp_all [same, sameNumber_iff, form?, amount?, Binary64.amount?, isKey]

theorem same_self {key : Value} (hkey : key.isKey = true) : key.same key = true := by
  obtain ⟨f, hf⟩ : ∃ f, key.form? = some f := by
    rcases key with _ | _ | _ | (_ | _ | _) | _ | _ | _ <;>
      simp_all [form?, amount?, Binary64.amount?, Binary64.fraction?, isKey]
  exact (same_iff (Or.inl hkey)).2 ⟨f, hf, hf⟩

theorem same_comm {key : Value} (hkey : key.isKey = true) (v : Value) : v.same key = key.same v := by
  rw [Bool.eq_iff_iff, same_iff (Or.inr hkey), same_iff (Or.inl hkey)]
  simp only [and_comm]

theorem isKey_of_same {key v : Value} (hkey : key.isKey = true) (h : v.same key = true) :
    v.isKey = true := by
  obtain ⟨f, hv, -⟩ := (same_iff (Or.inr hkey)).1 h
  cases hkind : v.isKey with
  | true => rfl
  | false => simp [form?_eq_none hkind] at hv

/-- What is the same as a key is the same as whatever the key is the same as. -/
theorem same_left {key v : Value} (hkey : key.isKey = true) (h : v.same key = true) (w : Value) :
    v.same w = key.same w := by
  have hvkey := isKey_of_same hkey h
  obtain ⟨f, hv, hk⟩ := (same_iff (Or.inr hkey)).1 h
  rw [Bool.eq_iff_iff, same_iff (Or.inl hvkey), same_iff (Or.inl hkey), hv, hk]

theorem same_right {key v : Value} (hkey : key.isKey = true) (h : v.same key = true) (w : Value) :
    w.same v = w.same key := by
  calc w.same v = v.same w := same_comm (isKey_of_same hkey h) w
    _ = key.same w := same_left hkey h w
    _ = w.same key := (same_comm hkey w).symm

section Chains

/-- What is the same as a key is the same as whatever this is the same as. -/
theorem same_trans_of_key {v w u : Value} (hv : v.isKey = true) (h : v.same w = true)
    (h' : w.same u = true) : v.same u = true := by
  have hsame : w.same v = true := (same_comm hv w).trans h
  rwa [same_left (isKey_of_same hv hsame) h u]

theorem eq_null_of_same {v : Value} (h : v.same null = true) : v = null := by
  obtain ⟨f, hv, hnull⟩ := (same_iff (Or.inr rfl)).1 h
  obtain rfl := Option.some.inj hnull
  cases v with
  | null => rfl
  | real x => cases x <;> simp [form?] at hv
  | _ => simp [form?] at hv

theorem eq_text_of_same {v : Value} {s : String} (h : v.same (text s) = true) : v = text s := by
  obtain ⟨f, hv, htext⟩ := (same_iff (Or.inr rfl)).1 h
  obtain rfl := Option.some.inj htext
  cases v with
  | text t =>
    obtain rfl := KeyForm.text.inj (Option.some.inj hv)
    rfl
  | real x => cases x <;> simp [form?] at hv
  | _ => simp [form?, amount?] at hv

/-- A list is the same as lists alone. -/
theorem eq_list_of_same {xs : List Value} {w : Value} (h : (list xs).same w = true) :
    ∃ ys, w = list ys ∧ sameItems xs ys = true := by
  cases w with
  | list ys => exact ⟨ys, rfl, by rwa [same] at h⟩
  | _ => simp [same, sameNumber_iff, amount?] at h

/-- An object is the same as objects alone. -/
theorem eq_object_of_same {fs : List (String × Value)} {w : Value} (h : (object fs).same w = true) :
    ∃ gs, w = object gs ∧ fs.length = gs.length ∧ sameFields fs gs = true := by
  cases w with
  | object gs =>
    rw [same, Bool.and_eq_true, beq_iff_eq] at h
    exact ⟨gs, rfl, h⟩
  | _ => simp [same, sameNumber_iff, amount?] at h

theorem exists_same_field {fs gs : List (String × Value)} (h : sameFields fs gs = true) {key : String}
    {x : Value} (hmem : (key, x) ∈ fs) : ∃ y, Keyed.get? key gs = some y ∧ x.same y = true := by
  induction fs with
  | nil => cases hmem
  | cons field rest ih =>
    obtain ⟨k, own⟩ := field
    rw [sameFields] at h
    split at h
    · next y hget =>
      obtain ⟨hsame, hrest⟩ := Bool.and_eq_true_iff.1 h
      rcases List.mem_cons.1 hmem with heq | hmem
      · obtain ⟨rfl, rfl⟩ := Prod.mk.inj heq
        exact ⟨y, hget, hsame⟩
      · exact ih hrest hmem
    · cases h

mutual

theorem same_trans (v w u : Value) (h : v.same w = true) (h' : w.same u = true) : v.same u = true := by
  cases v with
  | list xs =>
    obtain ⟨ys, rfl, hys⟩ := eq_list_of_same h
    obtain ⟨zs, rfl, hzs⟩ := eq_list_of_same h'
    rw [same]
    exact sameItems_trans xs ys zs hys hzs
  | object fs =>
    obtain ⟨gs, rfl, hlength, hgs⟩ := eq_object_of_same h
    obtain ⟨hs, rfl, hlength', hhs⟩ := eq_object_of_same h'
    rw [same, Bool.and_eq_true, beq_iff_eq]
    exact ⟨hlength.trans hlength', sameFields_trans fs gs hs hgs hhs⟩
  | _ => exact same_trans_of_key rfl h h'
termination_by structural v

theorem sameItems_trans (xs ys zs : List Value) (h : sameItems xs ys = true)
    (h' : sameItems ys zs = true) : sameItems xs zs = true := by
  cases xs with
  | nil =>
    cases ys with
    | nil => exact h'
    | cons y ys => cases h
  | cons x xs =>
    cases ys with
    | nil => cases h
    | cons y ys =>
      cases zs with
      | nil => cases h'
      | cons z zs =>
        rw [sameItems, Bool.and_eq_true] at h h' ⊢
        exact ⟨same_trans x y z h.1 h'.1, sameItems_trans xs ys zs h.2 h'.2⟩
termination_by structural xs

theorem sameFields_trans (fs gs hs : List (String × Value)) (h : sameFields fs gs = true)
    (h' : sameFields gs hs = true) : sameFields fs hs = true := by
  cases fs with
  | nil => rfl
  | cons field rest =>
    obtain ⟨key, x⟩ := field
    rw [sameFields] at h
    split at h
    · next y hget =>
      obtain ⟨hsame, hrest⟩ := Bool.and_eq_true_iff.1 h
      obtain ⟨z, hget', hsame'⟩ := exists_same_field h' (Keyed.mem_of_get? hget)
      rw [sameFields, hget']
      exact Bool.and_eq_true_iff.2 ⟨same_trans x y z hsame hsame', sameFields_trans rest gs hs hrest h'⟩
    · cases h
termination_by structural fs

end

end Chains

end Value

namespace Keyed

variable {α : Type} {key other : Value}

/-- Keys that are the same find the same. -/
theorem get?_of_same (hkey : key.isKey = true) (h : other.same key = true) (m : Keyed Value α) :
    get? other m = get? key m := by
  induction m with
  | nil => rfl
  | cons entry rest ih =>
    obtain ⟨k, a⟩ := entry
    have hsame : (k == other) = (k == key) := Value.same_right hkey h k
    simp only [get?, hsame, ih]

/-- What is found after an item was set under a key: the item under every key that is the same, and under
any other value what was there before. -/
theorem get?_set_key (hkey : key.isKey = true) (other : Value) (a : α) (m : Keyed Value α) :
    get? other (set key a m) = if key == other then some a else get? other m := by
  induction m with
  | nil => rfl
  | cons entry rest ih =>
    obtain ⟨k, old⟩ := entry
    rw [set]
    cases hk : k == key with
    | true =>
      have hsame : (k == other) = (key == other) := Value.same_left hkey hk other
      simp only [if_true, get?, hsame]
      split
      · rfl
      · rfl
    | false =>
      simp only [Bool.false_eq_true, if_false, get?, ih]
      cases hother : key == other with
      | false => rfl
      | true =>
        have hother' : other.same key = true := (Value.same_comm hkey other).trans hother
        have hk' : (k == other) = false := (Value.same_right hkey hother' k).trans hk
        simp [hk']

/-- Erasing an item does not touch what is under a key that is not the same. -/
theorem get?_erase_key (hother : other.isKey = true) (h : key.same other = false)
    (m : Keyed Value α) : get? other (erase key m) = get? other m := by
  induction m with
  | nil => rfl
  | cons entry rest ih =>
    obtain ⟨k, a⟩ := entry
    rw [erase]
    cases hk : k == key with
    | true =>
      have hfront : (k == other) = false := by
        rw [Bool.eq_false_iff]
        intro hsame
        have hkey : other.same key = true := (Value.same_left hother hsame key).symm.trans hk
        rw [← Value.same_comm hother key, h] at hkey
        cases hkey
      simp only [if_true, get?, hfront, Bool.false_eq_true, if_false]
    | false => simp only [Bool.false_eq_true, if_false, get?, ih]

/-- An entry has the key that was set, or was there under its key before. -/
theorem mem_set_cases {a : α} {m : Keyed Value α} {entry : Value × α} (h : entry ∈ set key a m) :
    entry.1 = key ∨ ∃ old, (entry.1, old) ∈ m := by
  induction m with
  | nil =>
    obtain rfl := List.mem_singleton.1 h
    exact Or.inl rfl
  | cons first rest ih =>
    obtain ⟨k, old⟩ := first
    rw [set] at h
    split at h
    · rcases List.mem_cons.1 h with rfl | hrest
      · exact Or.inr ⟨old, List.mem_cons_self⟩
      · exact Or.inr ⟨entry.2, List.mem_cons_of_mem _ hrest⟩
    · rcases List.mem_cons.1 h with rfl | hrest
      · exact Or.inr ⟨old, List.mem_cons_self⟩
      · rcases ih hrest with hkey | ⟨own, hown⟩
        · exact Or.inl hkey
        · exact Or.inr ⟨own, List.mem_cons_of_mem _ hown⟩

/-- The items are under keys of which no two are the same, as in every collection that items were only
set in. -/
structure Apart (m : Keyed Value α) : Prop where
  keys : ∀ entry ∈ m, entry.1.isKey = true
  pairwise : m.Pairwise fun entry other => entry.1.same other.1 = false

namespace Apart

variable {m m' : Keyed Value α} {a : α}

theorem sublist (h : m.Apart) (hsub : m'.Sublist m) : m'.Apart :=
  ⟨fun entry hentry => h.keys entry (hsub.subset hentry), h.pairwise.sublist hsub⟩

theorem cons (h : m.Apart) (hkey : key.isKey = true) (hnew : ∀ entry ∈ m, entry.1.same key = false)
    (a : α) : Apart ((key, a) :: m) where
  keys := List.forall_mem_cons.2 ⟨hkey, h.keys⟩
  pairwise := by
    refine List.pairwise_cons.2 ⟨?_, h.pairwise⟩
    intro entry hentry
    rw [← Value.same_comm hkey]
    exact hnew entry hentry

/-- The other items are under other keys. -/
theorem same_of_mem (h : Apart (m ++ (key, a) :: m')) :
    ∀ entry ∈ m ++ m', entry.1.same key = false := by
  have hkey : key.isKey = true := h.keys (key, a) (List.mem_append_right m List.mem_cons_self)
  obtain ⟨-, hafter, hbefore⟩ := List.pairwise_append.1 h.pairwise
  intro entry hentry
  rcases List.mem_append.1 hentry with hentry | hentry
  · exact hbefore entry hentry (key, a) List.mem_cons_self
  · rw [Value.same_comm hkey]
    exact (List.pairwise_cons.1 hafter).1 entry hentry

theorem get?_of_mem (h : m.Apart) (hmem : (key, a) ∈ m) : get? key m = some a := by
  obtain ⟨before, after, rfl⟩ := List.append_of_mem hmem
  have hkey : key.isKey = true := h.keys (key, a) hmem
  have hbefore : ∀ entry ∈ before, entry.1.same key = false := fun entry hentry =>
    h.same_of_mem entry (List.mem_append_left after hentry)
  clear h hmem
  induction before with
  | nil => exact if_pos (Value.same_self hkey)
  | cons entry before ih =>
    obtain ⟨hentry, hrest⟩ := List.forall_mem_cons.1 hbefore
    have hentry' : (entry.1 == key) = false := hentry
    rw [List.cons_append, get?, hentry', if_neg Bool.false_ne_true]
    exact ih hrest

theorem set_key (h : m.Apart) (hkey : key.isKey = true) (a : α) : (Keyed.set key a m).Apart := by
  induction m with
  | nil => exact ⟨List.forall_mem_singleton.2 hkey, List.pairwise_singleton _ _⟩
  | cons first rest ih =>
    obtain ⟨k, old⟩ := first
    obtain ⟨hfirst, hrest⟩ := List.forall_mem_cons.1 h.keys
    obtain ⟨hothers, hpairwise⟩ := List.pairwise_cons.1 h.pairwise
    rw [Keyed.set]
    split
    · exact ⟨List.forall_mem_cons.2 ⟨hfirst, hrest⟩, List.pairwise_cons.2 ⟨hothers, hpairwise⟩⟩
    · next hdiffers =>
      apply (ih ⟨hrest, hpairwise⟩).cons hfirst
      intro entry hentry
      rcases mem_set_cases hentry with heq | ⟨own, hown⟩
      · rw [heq, ← Value.same_comm hkey]
        exact Bool.eq_false_iff.2 hdiffers
      · rw [Value.same_comm hfirst]
        exact hothers (entry.1, own) hown

/-- Nothing is left under a key whose item was erased. -/
theorem get?_erase_self (h : m.Apart) (hkey : key.isKey = true) : get? key (erase key m) = none := by
  induction m with
  | nil => rfl
  | cons first rest ih =>
    obtain ⟨k, old⟩ := first
    obtain ⟨hothers, hpairwise⟩ := List.pairwise_cons.1 h.pairwise
    rw [erase]
    split
    · next hsame =>
      cases hget : get? key rest with
      | none => rfl
      | some a =>
        obtain ⟨before, own, after, hrest, hown⟩ := exists_of_get? hget
        have hmem : (own, a) ∈ rest := hrest ▸ List.mem_append_right before List.mem_cons_self
        have hdiffers : k.same own = false := hothers (own, a) hmem
        have heq : k.same own = key.same own := Value.same_left hkey hsame own
        rw [heq, ← Value.same_comm hkey, show own.same key = true from hown] at hdiffers
        cases hdiffers
    · next hdiffers =>
      rw [get?, if_neg hdiffers]
      exact ih (h.sublist (List.sublist_cons_self _ rest))

/-- Items that are set under keys of their own come behind those that are there. -/
theorem foldl_set {entries : Keyed Value α} (h : Apart (m ++ entries)) :
    entries.foldl (fun kept entry => set entry.1 entry.2 kept) m = m ++ entries := by
  induction entries generalizing m with
  | nil => exact (List.append_nil m).symm
  | cons entry rest ih =>
    obtain ⟨key, a⟩ := entry
    have hnew : ∀ entry ∈ m, entry.1.same key = false := fun entry hentry =>
      h.same_of_mem entry (List.mem_append_left rest hentry)
    rw [List.append_cons] at h
    rw [List.foldl_cons, set_of_new hnew, ih h, ← List.append_cons]

/-- Items that are set one after the other beside one under a text. It stays where no other was set under
this text. -/
theorem foldl_set_beside {s : String} (old : α) {entries : Keyed Value α} (h : entries.Apart) :
    ∃ kept, entries.foldl (fun kept entry => set entry.1 entry.2 kept) [(.text s, old)] = kept ∧
      kept.Apart ∧ kept.Perm (entries ++
        if (get? (.text s) entries).isSome then [] else [(.text s, old)]) := by
  cases hget : get? (.text s) entries with
  | none =>
    have hapart := h.cons rfl (beq_of_get?_none hget) old
    exact ⟨_, foldl_set hapart, hapart, List.perm_append_comm⟩
  | some a =>
    obtain ⟨before, k, after, rfl, hk⟩ := exists_of_get? hget
    obtain rfl := Value.eq_text_of_same hk
    have hnew := h.same_of_mem
    have hothers : Apart (before ++ after) :=
      h.sublist (List.Sublist.append_left (List.sublist_cons_self _ after) before)
    have hapart : Apart ((.text s, a) :: before ++ after) := hothers.cons rfl hnew a
    have hfirst : Apart ([(.text s, old)] ++ before) :=
      (hothers.sublist (List.sublist_append_left before after)).cons rfl
        (fun entry hentry => hnew entry (List.mem_append_left after hentry)) old
    have hset : set (.text s) a ([(.text s, old)] ++ before) = (.text s, a) :: before :=
      if_pos (beq_self_eq_true s)
    refine ⟨(.text s, a) :: before ++ after, ?_, hapart, ?_⟩
    · rw [List.foldl_append, List.foldl_cons, foldl_set hfirst, hset, foldl_set hapart]
    · simp only [Option.isSome_some, if_true, List.append_nil]
      exact List.perm_middle.symm

end Apart

end Keyed

end TaleLoom
