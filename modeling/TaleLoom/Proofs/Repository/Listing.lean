import Mathlib.Data.List.Perm.Subperm
import Mathlib.Order.Bounds.Basic
import TaleLoom.Proofs.Desk
import TaleLoom.Proofs.Value.Whole
import TaleLoom.Repository.Basic
/-!
Items of a list get keys of their own. An item whose own key is taken gets the key with the least number
from two on that is not (`ItemCollection.keyFor_freeKey`); there is such a number, since the numbered keys
are all different and only finitely many keys are taken. So no item is lost, and the keys are different
from one another (`ItemCollection.keys_of_list`).
-/

namespace TaleLoom.ItemCollection

def numbered (own : String) (n : Nat) : String := own ++ "_" ++ Nat.repr n

/-- The key that an item with an own key is stored under, where some keys are taken: its own one exactly
where that is free, and else the numbered one with the least number from two on that is free. -/
structure KeyFor (taken : List String) (own key : String) : Prop where
  own_iff : key = own ↔ own ∉ taken
  least : own ∈ taken →
    ∃ n, key = numbered own n ∧ IsLeast {n | 2 ≤ n ∧ numbered own n ∉ taken} n

/-- What the author is told of an entry whose item did not get its own key. -/
def renaming? (entry : String × Item) : Option Notice :=
  match entry.2.key with
  | .ok own =>
    if entry.1 = own then none
    else some ⟨.warning, "Duplicate repository item key '" ++ own ++ "' stored as '" ++ entry.1 ++ "'"⟩
  | .error _ => none

section FreeKeys

variable {own key : String} {taken : List String}

theorem numbered_injective (own : String) : Function.Injective (numbered own) := by
  intro m n h
  have hdigits : Nat.toDigits 10 m = Nat.toDigits 10 n := by
    have htexts := congrArg String.toList h
    simp only [numbered, String.toList_append, Nat.toList_repr] at htexts
    exact List.append_cancel_left htexts
  rw [← Value.digitsValue_toDigits m, hdigits, Value.digitsValue_toDigits]

/-- Of one numbered key more than there are keys taken, one is free. -/
theorem exists_free (taken : List String) (own : String) :
    ∃ n < taken.length + 1, numbered own (n + 2) ∉ taken := by
  by_contra hall
  push Not at hall
  have hnodup : ((List.range (taken.length + 1)).map fun n => numbered own (n + 2)).Nodup := by
    apply List.Nodup.map _ List.nodup_range
    intro m n h
    exact Nat.add_right_cancel (numbered_injective own h)
  have hsubset : ((List.range (taken.length + 1)).map fun n => numbered own (n + 2)) ⊆ taken := by
    intro candidate hcandidate
    obtain ⟨n, hn, rfl⟩ := List.mem_map.1 hcandidate
    exact hall n (List.mem_range.1 hn)
  have hlength := (List.subperm_of_subset hnodup hsubset).length_le
  rw [List.length_map, List.length_range] at hlength
  omega

/-- The search for a numbered key ends at the first free one. -/
theorem freeKey_of_mem (h : own ∈ taken) :
    ∃ n, freeKey taken own = numbered own n ∧ IsLeast {n | 2 ≤ n ∧ numbered own n ∉ taken} n := by
  obtain ⟨bound, hbound, hfree⟩ := exists_free taken own
  have hsome : ((List.range (taken.length + 1)).find? fun n =>
      !taken.contains (numbered own (n + 2))).isSome :=
    List.find?_isSome.2 ⟨bound, List.mem_range.2 hbound, by simpa using hfree⟩
  obtain ⟨n, hn⟩ := Option.isSome_iff_exists.1 hsome
  refine ⟨n + 2, ?_, ⟨by omega, ?_⟩, ?_⟩
  · have hcandidates : ((List.range (taken.length + 1)).map fun n => own ++ "_" ++ Nat.repr (n + 2)).find?
        (fun candidate => !taken.contains candidate) = some (numbered own (n + 2)) := by
      rw [List.find?_map]
      exact congrArg (Option.map _) hn
    rw [freeKey, if_pos (List.contains_iff_mem.2 h), hcandidates, Option.getD_some]
  · simpa using List.find?_some hn
  · rintro k ⟨hk, hfree⟩
    obtain ⟨-, -, hbefore⟩ := List.find?_range_eq_some.1 hn
    by_contra hlt
    have hmissed := hbefore (k - 2) (by omega)
    rw [show k - 2 + 2 = k by omega] at hmissed
    exact hfree (by simpa using hmissed)

theorem keyFor_freeKey (taken : List String) (own : String) : KeyFor taken own (freeKey taken own) := by
  by_cases htaken : own ∈ taken
  · obtain ⟨n, hkey, hleast⟩ := freeKey_of_mem htaken
    refine ⟨?_, fun _ => ⟨n, hkey, hleast⟩⟩
    have hne : freeKey taken own ≠ own := by
      intro hsame
      exact hleast.1.2 (hkey ▸ hsame.symm ▸ htaken)
    exact iff_of_false hne (not_not_intro htaken)
  · have hkey : freeKey taken own = own := by
      rw [freeKey, if_neg (by simpa using htaken)]
    exact ⟨iff_of_true hkey htaken, fun h => absurd h htaken⟩

/-- The key that an item is stored under was free. -/
theorem KeyFor.not_mem (h : KeyFor taken own key) : key ∉ taken := by
  by_cases htaken : own ∈ taken
  · obtain ⟨n, rfl, hleast⟩ := h.least htaken
    exact hleast.1.2
  · rwa [h.own_iff.2 htaken]

end FreeKeys

/-- Behind some entries the items of a list are stored one after the other. -/
inductive Stores : Keyed String Item → List Item → Keyed String Item → Prop
  | nil (done : Keyed String Item) : Stores done [] []
  | cons {done added : Keyed String Item} {item : Item} {rest : List Item} {own key : String} :
      item.key = .ok own → KeyFor (Keyed.keys done) own key →
      Stores (done ++ [(key, item)]) rest added → Stores done (item :: rest) ((key, item) :: added)

namespace Stores

variable {done added : Keyed String Item} {items : List Item}

theorem values (h : Stores done items added) : Keyed.values added = items := by
  induction h with
  | nil => rfl
  | cons _ _ _ ih =>
    rw [← ih]
    rfl

theorem nodup_keys (h : Stores done items added) (hdone : (Keyed.keys done).Nodup) :
    (Keyed.keys (done ++ added)).Nodup := by
  induction h with
  | nil done => rwa [List.append_nil]
  | @cons done added item rest own key _ hkey _ ih =>
    rw [List.append_cons]
    apply ih
    rw [Keyed.keys, List.map_append]
    exact hdone.append (List.nodup_singleton key) (List.disjoint_singleton.2 hkey.not_mem)

/-- Every entry has the key for its item among those before it. -/
theorem keyFor (h : Stores done items added) {before after : Keyed String Item} {key : String} {item : Item}
    (hsplit : added = before ++ (key, item) :: after) :
    ∃ own, item.key = .ok own ∧ KeyFor (Keyed.keys (done ++ before)) own key := by
  induction h generalizing before with
  | nil => simp at hsplit
  | @cons done added first rest own firstKey hown hkey _ ih =>
    cases before with
    | nil =>
      obtain ⟨hentry, -⟩ := List.cons.inj hsplit
      obtain ⟨rfl, rfl⟩ := Prod.mk.inj hentry
      exact ⟨own, hown, by rwa [List.append_nil]⟩
    | cons entry before =>
      obtain ⟨rfl, hrest⟩ := List.cons.inj hsplit
      rw [List.append_cons]
      exact ih hrest

end Stores

/-- One item is stored under the key that is free for it, and reported if that is not its own. -/
theorem keyList_cons {item : Item} {own : String} (hown : item.key = .ok own) (done : Keyed String Item)
    (rest : List Item) (desk : Desk) :
    let entry := (freeKey (Keyed.keys done) own, item)
    keyList done (item :: rest) desk =
      keyList (done ++ [entry]) rest (desk.told (renaming? entry).toList) := by
  intro entry
  rw [keyList, hown]
  by_cases hsame : freeKey (Keyed.keys done) own = own
  · have hsilent : renaming? entry = none := by simp [renaming?, entry, hown, hsame]
    rw [hsilent]
    simp [entry, hsame]
  · have htold : renaming? entry = some ⟨.warning, "Duplicate repository item key '" ++ own ++
        "' stored as '" ++ freeKey (Keyed.keys done) own ++ "'"⟩ := by
      simp [renaming?, entry, hown, hsame]
    rw [htold]
    simp [Desk.told, entry, hsame]

/-- Storing the items of a list goes through all of them, and reports those that do not get their own
key. -/
theorem run_keyList {items : List Item} (hkeys : ∀ item ∈ items, ∃ own, item.key = .ok own)
    (done : Keyed String Item) (desk : Desk) :
    ∃ added, keyList done items desk = .ok (done ++ added) (desk.told (added.filterMap renaming?)) ∧
      Stores done items added := by
  induction items generalizing done desk with
  | nil => exact ⟨[], by simp [keyList], .nil done⟩
  | cons item rest ih =>
    obtain ⟨⟨own, hown⟩, hrest⟩ := List.forall_mem_cons.1 hkeys
    let entry := (freeKey (Keyed.keys done) own, item)
    obtain ⟨added, hrun, hstores⟩ := ih hrest (done ++ [entry]) (desk.told (renaming? entry).toList)
    refine ⟨entry :: added, ?_, .cons hown (keyFor_freeKey _ own) hstores⟩
    have hnotices : (renaming? entry).toList ++ added.filterMap renaming? =
        (entry :: added).filterMap renaming? := by
      rw [List.filterMap_cons]
      cases renaming? entry <;> rfl
    rw [keyList_cons hown, hrun, Desk.told_told, hnotices, ← List.append_cons]

/-- Listing items loses none of them. Where their names are texts, the items of a list are stored in their
order, each under its own key exactly where no item before it is stored under that key, and else under the
numbered key with the least number from two on that is still free. The keys are different from one another,
and the author is told of exactly the items that do not get their own one. -/
theorem keys_of_list (items : List Item) (hnames : ∀ item ∈ items, ∃ name, item.name = .text name)
    (desk : Desk) :
    ∃ m, (list items).keys desk = .ok m (desk.told (m.filterMap renaming?)) ∧
      Keyed.values m = items ∧ (Keyed.keys m).Nodup ∧
      ∀ before key item after, m = before ++ (key, item) :: after →
        ∃ own, item.key = .ok own ∧ KeyFor (Keyed.keys before) own key := by
  have hkeys : ∀ item ∈ items, ∃ own, item.key = .ok own := by
    intro item hitem
    obtain ⟨name, hname⟩ := hnames item hitem
    exact ⟨_, by rw [Item.key, hname]; rfl⟩
  obtain ⟨m, hrun, hstores⟩ := run_keyList hkeys [] desk
  refine ⟨m, hrun, hstores.values, hstores.nodup_keys List.nodup_nil, ?_⟩
  intro before key item after hsplit
  exact hstores.keyFor hsplit

def swords : List Item := ["Sword 2", "Sword", "Sword"].map fun name => Item.named (.text name) 0

theorem keys_of_list_swords : (∀ item ∈ swords, ∃ name, item.name = .text name) ∧
    ∃ m, (list swords).keys Scene.blank.desk =
        .ok m (Scene.blank.desk.told (m.filterMap renaming?)) ∧
      Keyed.keys m = ["sword_2", "sword", "sword_3"] ∧ Keyed.values m = swords ∧
      m.filterMap renaming? =
        [⟨.warning, "Duplicate repository item key 'sword' stored as 'sword_3'"⟩] := by
  have hnames : ∀ item ∈ swords, ∃ name, item.name = .text name := by
    intro item hitem
    obtain ⟨name, -, rfl⟩ := List.mem_map.1 hitem
    exact ⟨name, rfl⟩
  have hstored : ∃ after, (list swords).keys Scene.blank.desk =
      .ok (["sword_2", "sword", "sword_3"].zip swords) after := by
    have hnumbered : (Item.named (.text "Sword 2") 0).key = .ok "sword_2" := rfl
    have hplain : (Item.named (.text "Sword") 0).key = .ok "sword" := rfl
    show ∃ after, keyList [] [_, _, _] Scene.blank.desk = .ok _ after
    rw [keyList_cons hnumbered, keyList_cons hplain, keyList_cons hplain]
    exact ⟨_, by rfl⟩
  obtain ⟨m, hrun, hvalues, -⟩ := keys_of_list swords hnames Scene.blank.desk
  obtain ⟨after, hstored⟩ := hstored
  rw [hrun] at hstored
  obtain ⟨rfl, -⟩ := EStateM.Result.ok.inj hstored
  exact ⟨hnames, _, hrun, rfl, hvalues, by decide⟩

end TaleLoom.ItemCollection
