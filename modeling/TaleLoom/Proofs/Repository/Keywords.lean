import Mathlib.Data.List.Forall2
import Mathlib.Data.List.Infix
import TaleLoom.Proofs.Fault
import TaleLoom.Proofs.Keyed
import TaleLoom.Repository.Keywords
/-!
How a text divides the items that it mentions. An item goes by the first of its keywords that occurs in
the text (`Item.mention?`), and the items that go by the same folded form are one group. `Grouped` says
so of the groups of the items looked at so far; one more item keeps it (`Grouped.join`). The groups are
then put in order, which leaves equally specific items as they are kept (`ScopedItem.filter_sortByScope`).
-/

namespace TaleLoom

open Text

/-- One text occurs inside another where the other has it as a part. -/
theorem Text.contains_iff (haystack needle : String) :
    contains haystack needle = true ↔ needle.toList <:+: haystack.toList := by
  rw [contains]
  induction haystack.toList with
  | nil => simp [occursIn]
  | cons c rest ih =>
    rw [occursIn, Bool.or_eq_true, ih, List.isPrefixOf_iff_prefix, List.infix_cons_iff]

theorem Keyed.forall₂_set {κ α β : Type} [BEq κ] [LawfulBEq κ] {R : κ × α → β → Prop} {key : κ}
    {old new : α} {m : Keyed κ α} {bs : List β} (h : List.Forall₂ R m bs)
    (hold : get? key m = some old) (hnew : ∀ b, R (key, old) b → R (key, new) b) :
    List.Forall₂ R (set key new m) bs := by
  induction h with
  | nil => cases hold
  | @cons entry b rest others hentry hrest ih =>
    obtain ⟨k, a⟩ := entry
    rw [get?] at hold
    rw [set]
    by_cases hk : k = key
    · subst hk
      rw [if_pos (beq_self_eq_true k)] at hold ⊢
      obtain rfl := Option.some.inj hold
      exact List.Forall₂.cons (hnew b hentry) hrest
    · have hk' : ¬ (k == key) = true := by simpa using hk
      rw [if_neg hk'] at hold ⊢
      exact List.Forall₂.cons hentry (ih hold)

namespace Item

/-- The keywords of an item that are texts. -/
def spellings (item : Item) : List String :=
  item.keywords.filterMap fun
    | .text s => some s
    | _ => none

def mention? (text : String) (item : Item) : Option String :=
  item.spellings.find? fun keyword =>
    fold keyword ≠ "" ∧ (fold keyword).toList <:+: (fold text).toList

def form? (text : String) (item : Item) : Option String := (item.mention? text).map fold

/-- The keywords and the content of an item are texts. -/
structure Textual (item : Item) : Prop where
  keywords : ∀ v ∈ item.keywords, ∃ s, v = .text s
  content : ∃ s, item.content = .text s

end Item

namespace ScopedItem

def before (a b : ScopedItem) : Bool := a.rank ≤ b.rank

theorem before_trans (a b c : ScopedItem) (hab : before a b = true) (hbc : before b c = true) :
    before a c = true := by
  simp only [before, decide_eq_true_eq] at hab hbc ⊢
  omega

theorem before_total (a b : ScopedItem) : (before a b || before b a) = true := by
  simp only [before, Bool.or_eq_true, decide_eq_true_eq]
  omega

theorem perm_sortByScope (items : List ScopedItem) : (sortByScope items).Perm items :=
  List.mergeSort_perm items before

theorem pairwise_sortByScope (items : List ScopedItem) :
    (sortByScope items).Pairwise fun a b => a.rank ≤ b.rank := by
  have hsorted := List.pairwise_mergeSort before_trans before_total items
  exact hsorted.imp fun hbefore => of_decide_eq_true hbefore

/-- Equally specific items are read in the order in which they are kept. -/
theorem filter_sortByScope (items : List ScopedItem) (n : Nat) :
    (sortByScope items).filter (fun entry => entry.rank = n) =
      items.filter fun entry => entry.rank = n := by
  have hequal : (items.filter fun entry => entry.rank = n).Pairwise fun a b =>
      before a b = true := by
    apply List.pairwise_of_forall_mem_list
    intro a ha b hb
    have ha' := of_decide_eq_true (List.mem_filter.1 ha).2
    have hb' := of_decide_eq_true (List.mem_filter.1 hb).2
    exact decide_eq_true (ha'.trans hb'.symm).le
  have hkept := List.sublist_mergeSort before_trans before_total hequal List.filter_sublist
  have hfiltered := hkept.filter fun entry : ScopedItem => entry.rank = n
  simp only [List.filter_filter, Bool.and_self] at hfiltered
  have hlength := ((perm_sortByScope items).filter fun entry => entry.rank = n).length_eq
  exact (hfiltered.eq_of_length hlength.symm).symm

end ScopedItem

namespace Repository

def goingBy (text form : String) (items : List ScopedItem) : List ScopedItem :=
  items.filter fun entry => entry.item.form? text = some form

theorem goingBy_concat (text form : String) (items : List ScopedItem) (entry : ScopedItem) :
    goingBy text form (items ++ [entry]) =
      goingBy text form items ++ if entry.item.form? text = some form then [entry] else [] := by
  rw [goingBy, List.filter_append, List.filter_singleton, goingBy]
  simp only [cond_eq_ite, decide_eq_true_eq]

/-- The groups with one more item, if the text mentions it. -/
def join (text : String) (groups : Keyed String (String × List ScopedItem)) (entry : ScopedItem) :
    Keyed String (String × List ScopedItem) :=
  match entry.item.mention? text with
  | some keyword => joinGroup (fold keyword) keyword entry groups
  | none => groups

theorem firstKeyword_eq (text : String) {keywords : List Value}
    (h : ∀ v ∈ keywords, ∃ s, v = .text s) (item : Item) :
    firstKeyword (fold text) keywords =
      .ok (({ item with keywords }.mention? text).map fun keyword => (fold keyword, keyword)) := by
  induction keywords with
  | nil => rfl
  | cons v rest ih =>
    obtain ⟨s, rfl⟩ := h v List.mem_cons_self
    have hrest := ih fun w hw => h w (List.mem_cons_of_mem _ hw)
    have hfound : (!(fold s).isEmpty && contains (fold text) (fold s)) =
        decide (fold s ≠ "" ∧ (fold s).toList <:+: (fold text).toList) := by
      rw [Bool.eq_iff_iff, Bool.and_eq_true, decide_eq_true_eq, contains_iff]
      simp
    simp only [firstKeyword, Value.asText, ok_bind, hfound, hrest, Item.mention?, Item.spellings,
      List.filterMap_cons, List.find?_cons]
    split
    · next hs => simp [hs]
    · next hs => simp [hs]

theorem groups_eq (text : String) {items : List ScopedItem}
    (h : ∀ entry ∈ items, entry.item.Textual) :
    groups (fold text) items = .ok (items.foldl (join text) []) := by
  rw [groups]
  refine foldlM_eq_ok [] fun groups entry hentry => ?_
  rw [firstKeyword_eq text (h entry hentry).keywords entry.item, join]
  cases entry.item.mention? text with
  | none => rfl
  | some keyword => rfl

/-- The groups of the items looked at so far. -/
structure Grouped (text : String) (done : List ScopedItem)
    (groups : Keyed String (String × List ScopedItem)) : Prop where
  /-- There is one group for a form. -/
  forms : (Keyed.keys groups).Nodup
  /-- A group has the items that go by its form, and a spelling of it. -/
  items : ∀ form spelling found, Keyed.get? form groups = some (spelling, found) →
    fold spelling = form ∧ found = goingBy text form done
  /-- No form is without a group. -/
  complete : ∀ entry ∈ done, ∀ form, entry.item.form? text = some form →
    (Keyed.get? form groups).isSome
  /-- The groups are in the order of their first items, and spelled as these are. -/
  firsts : ∃ firsts, List.Sublist firsts done ∧ List.Forall₂ (fun group first =>
    group.2.2.head? = some first ∧ first.item.mention? text = some group.2.1) groups firsts

namespace Grouped

variable {text : String} {done : List ScopedItem}
  {groups : Keyed String (String × List ScopedItem)}

theorem nil (text : String) : Grouped text [] [] where
  forms := List.nodup_nil
  items _ _ _ h := by cases h
  complete _ h := by cases h
  firsts := ⟨[], List.Sublist.refl _, List.Forall₂.nil⟩

theorem not_mem_forms (h : Grouped text done groups) {form : String}
    (hnone : Keyed.get? form groups = none) : form ∉ Keyed.keys groups := by
  intro hmem
  obtain ⟨⟨key, group⟩, hgroup, rfl⟩ := List.mem_map.1 hmem
  have hsome := Keyed.get?_of_mem h.forms hgroup
  rw [hnone] at hsome
  cases hsome

/-- An item that goes by no keyword is in no group. -/
theorem pass (h : Grouped text done groups) {entry : ScopedItem}
    (hnone : entry.item.mention? text = none) : Grouped text (done ++ [entry]) groups where
  forms := h.forms
  items form spelling found hget := by
    obtain ⟨hspelling, hfound⟩ := h.items form spelling found hget
    refine ⟨hspelling, ?_⟩
    rw [goingBy_concat, Item.form?, hnone, ← hfound]
    simp
  complete other hother form hform := by
    rcases List.mem_append.1 hother with hdone | hlast
    · exact h.complete other hdone form hform
    · obtain rfl := List.mem_singleton.1 hlast
      rw [Item.form?, hnone] at hform
      cases hform
  firsts := by
    obtain ⟨firsts, hsub, hall⟩ := h.firsts
    exact ⟨firsts, hsub.trans (List.sublist_append_left done [entry]), hall⟩

/-- A group that has the items of its form goes on having them, when one more item is added to it. -/
theorem add (h : Grouped text done groups) {entry : ScopedItem} {keyword spelling : String}
    {found : List ScopedItem} (hsome : entry.item.mention? text = some keyword)
    (hspelling : fold spelling = fold keyword) (hfound : found = goingBy text (fold keyword) done)
    (hfirsts : ∃ firsts, List.Sublist firsts (done ++ [entry]) ∧ List.Forall₂ (fun group first =>
      group.2.2.head? = some first ∧ first.item.mention? text = some group.2.1)
      (Keyed.set (fold keyword) (spelling, found ++ [entry]) groups) firsts) :
    Grouped text (done ++ [entry])
      (Keyed.set (fold keyword) (spelling, found ++ [entry]) groups) where
  forms := Keyed.nodup_keys_set _ h.forms
  items form other others hget := by
    rw [Keyed.get?_set] at hget
    rw [goingBy_concat, Item.form?, hsome]
    by_cases hform : fold keyword = form
    · subst hform
      rw [if_pos (beq_self_eq_true _)] at hget
      obtain ⟨rfl, rfl⟩ := Prod.mk.inj (Option.some.inj hget)
      exact ⟨hspelling, by simp [hfound]⟩
    · rw [if_neg (by simpa using hform)] at hget
      obtain ⟨hother, hothers⟩ := h.items form other others hget
      exact ⟨hother, by simp [hform, hothers]⟩
  complete other hother form hform := by
    rw [Keyed.get?_set]
    split
    · rfl
    · next hne =>
      rcases List.mem_append.1 hother with hdone | hlast
      · exact h.complete other hdone form hform
      · obtain rfl := List.mem_singleton.1 hlast
        rw [Item.form?, hsome] at hform
        exact absurd (Option.some.inj hform) (by simpa using hne)
  firsts := hfirsts

/-- Looking at one more item keeps the groups as they should be. -/
theorem join (h : Grouped text done groups) (entry : ScopedItem) :
    Grouped text (done ++ [entry]) (Repository.join text groups entry) := by
  rw [Repository.join]
  cases hmention : entry.item.mention? text with
  | none => exact h.pass hmention
  | some keyword =>
    obtain ⟨firsts, hsub, hall⟩ := h.firsts
    dsimp only
    rw [joinGroup]
    cases hget : Keyed.get? (fold keyword) groups with
    | some group =>
      obtain ⟨spelling, found⟩ := group
      obtain ⟨hspelling, hfound⟩ := h.items _ _ _ hget
      refine h.add hmention hspelling hfound ⟨firsts, ?_, Keyed.forall₂_set hall hget ?_⟩
      · exact hsub.trans (List.sublist_append_left done [entry])
      · rintro first ⟨hhead, hfirst⟩
        refine ⟨?_, hfirst⟩
        rw [List.head?_append, hhead]
        rfl
    | none =>
      have hempty : ([] : List ScopedItem) = goingBy text (fold keyword) done := by
        symm
        apply List.filter_eq_nil_iff.2
        intro other hother hform
        have hin := h.complete other hother (fold keyword) (of_decide_eq_true hform)
        rw [hget] at hin
        cases hin
      refine h.add hmention rfl hempty ⟨firsts ++ [entry], hsub.append (List.Sublist.refl _), ?_⟩
      rw [Keyed.set_of_not_mem _ (h.not_mem_forms hget)]
      exact List.rel_append hall (List.Forall₂.cons ⟨rfl, hmention⟩ List.Forall₂.nil)

end Grouped

theorem grouped_foldl (text : String) (items : List ScopedItem) :
    Grouped text items (items.foldl (join text) []) := by
  induction items using List.reverseRecOn with
  | nil => exact Grouped.nil text
  | append_singleton items entry ih =>
    rw [List.foldl_append]
    exact ih.join entry

/-- Workbooks change the order alone. -/
@[simp] theorem override_item (r : Repository) (entry : ScopedItem) :
    (r.override entry).item = entry.item := by
  rw [override]
  split
  · rfl
  · rfl

def contentOf (entry : ScopedItem) : String :=
  match entry.item.content with
  | .text s => s
  | _ => ""

def resolved (r : Repository) (group : String × String × List ScopedItem) : KeywordGroup :=
  let ordered := ScopedItem.sortByScope (group.2.2.map r.override)
  { keyword := group.2.1, items := ordered
    content := "\n\n".intercalate (ordered.map contentOf)
    hasConflicts := 1 < ordered.length }

theorem contentText_eq {entry : ScopedItem} (h : entry.item.Textual) :
    contentText entry = .ok (contentOf entry) := by
  obtain ⟨s, hs⟩ := h.content
  rw [contentText, contentOf, hs]

/-- The groups that a text comes to, where keywords and contents are texts. -/
theorem mentioned_eq (r : Repository) (text : String)
    (h : ∀ entry ∈ r.inScope, entry.item.Textual) :
    r.mentioned text = .ok ((r.inScope.foldl (join text) []).map r.resolved) := by
  have hgrouped := grouped_foldl text r.inScope
  rw [mentioned, groups_eq text h, ok_bind]
  refine mapM_eq_ok fun group hgroup => ?_
  obtain ⟨form, spelling, found⟩ := group
  obtain ⟨-, rfl⟩ := hgrouped.items form spelling found (Keyed.get?_of_mem hgrouped.forms hgroup)
  have hcontents : ∀ entry ∈ ScopedItem.sortByScope
      (r.applyOverrides (goingBy text form r.inScope)),
      contentText entry = .ok (contentOf entry) := by
    intro entry hentry
    have hmem := (ScopedItem.perm_sortByScope _).mem_iff.1 hentry
    obtain ⟨kept, hkept, rfl⟩ := List.mem_map.1 hmem
    apply contentText_eq
    rw [override_item]
    exact h kept (List.mem_of_mem_filter hkept)
  dsimp only
  rw [mapM_eq_ok hcontents]
  rfl

/-- The groups of a text are as they should be. -/
structure Divides (r : Repository) (text : String) (groups : List KeywordGroup) : Prop where
  /-- No two groups have keywords of the same folded form. -/
  forms : (groups.map fun group => fold group.keyword).Nodup
  /-- A mentioned item is in one group alone, that of the keyword it goes by. -/
  once : ∀ entry ∈ r.inScope, ∀ keyword, entry.item.mention? text = some keyword →
    ∃ group ∈ groups, fold group.keyword = fold keyword ∧ r.override entry ∈ group.items ∧
      ∀ other ∈ groups, r.override entry ∈ other.items → other = group
  /-- A group has the items that go by its keyword, each as often as it is kept, and no others. -/
  items : ∀ group ∈ groups, group.items.Perm
    ((goingBy text (fold group.keyword) r.inScope).map r.override)
  /-- The items of a group are in reading order, -/
  sorted : ∀ group ∈ groups, group.items.Pairwise fun a b => a.rank ≤ b.rank
  /-- and those that are equally specific are in the order in which they are kept. -/
  ties : ∀ group ∈ groups, ∀ n, group.items.filter (fun entry => entry.rank = n) =
    ((goingBy text (fold group.keyword) r.inScope).map r.override).filter fun entry => entry.rank = n
  /-- The groups are in the order in which their first items are kept, and spelled as these are. -/
  firsts : ∃ firsts, List.Sublist firsts r.inScope ∧ List.Forall₂ (fun group first =>
    (goingBy text (fold group.keyword) r.inScope).head? = some first ∧
      first.item.mention? text = some group.keyword) groups firsts
  /-- The content of a group are the contents of its items, with a blank line between each two. -/
  content : ∀ group ∈ groups, ∃ contents : List String,
    group.items.map (·.item.content) = contents.map Value.text ∧
      group.content = "\n\n".intercalate contents
  /-- A group of several items is a conflict. -/
  conflicts : ∀ group ∈ groups, group.hasConflicts = true ↔ 2 ≤ group.items.length

section Resolved

variable {r : Repository} {text : String} {raw : Keyed String (String × List ScopedItem)}
  {group : String × String × List ScopedItem}

/-- A group found is that of its form: its spelling has the form, and its items go by it. -/
theorem Grouped.of_mem (h : Grouped text r.inScope raw) (hgroup : group ∈ raw) :
    fold group.2.1 = group.1 ∧ group.2.2 = goingBy text group.1 r.inScope :=
  h.items group.1 group.2.1 group.2.2 (Keyed.get?_of_mem h.forms hgroup)

theorem Grouped.resolved_items (h : Grouped text r.inScope raw) (hgroup : group ∈ raw) :
    (r.resolved group).items = ScopedItem.sortByScope
      ((goingBy text (fold (r.resolved group).keyword) r.inScope).map r.override) := by
  obtain ⟨hspelling, hitems⟩ := h.of_mem hgroup
  calc (r.resolved group).items = ScopedItem.sortByScope (group.2.2.map r.override) := rfl
    _ = ScopedItem.sortByScope ((goingBy text (fold group.2.1) r.inScope).map r.override) := by
      rw [hspelling, hitems]

/-- An item is only in the group of the form that it goes by. -/
theorem Grouped.form_of_mem (h : Grouped text r.inScope raw) (hgroup : group ∈ raw)
    {entry : ScopedItem} (hentry : r.override entry ∈ (r.resolved group).items) :
    entry.item.form? text = some group.1 := by
  rw [h.resolved_items hgroup] at hentry
  have hmem := (ScopedItem.perm_sortByScope _).mem_iff.1 hentry
  obtain ⟨kept, hkept, hsame⟩ := List.mem_map.1 hmem
  have hitem : kept.item = entry.item := by
    rw [← r.override_item kept, hsame, r.override_item]
  have hform := of_decide_eq_true (List.mem_filter.1 hkept).2
  calc entry.item.form? text = kept.item.form? text := by rw [hitem]
    _ = some (fold (r.resolved group).keyword) := hform
    _ = some group.1 := congrArg some (h.of_mem hgroup).1

theorem Grouped.divides (h : Grouped text r.inScope raw)
    (htextual : ∀ entry ∈ r.inScope, entry.item.Textual) :
    r.Divides text (raw.map r.resolved) where
  forms := by
    have hforms : (raw.map r.resolved).map (fun group => fold group.keyword) = Keyed.keys raw := by
      rw [List.map_map]
      apply List.map_congr_left
      intro group hgroup
      exact (h.of_mem hgroup).1
    rw [hforms]
    exact h.forms
  once entry hentry keyword hkeyword := by
    have hform : entry.item.form? text = some (fold keyword) := by rw [Item.form?, hkeyword]; rfl
    obtain ⟨⟨spelling, found⟩, hget⟩ := Option.isSome_iff_exists.1 (h.complete entry hentry _ hform)
    have hgroup := Keyed.mem_of_get? hget
    refine ⟨_, List.mem_map_of_mem hgroup, (h.of_mem hgroup).1, ?_, ?_⟩
    · rw [h.resolved_items hgroup]
      apply (ScopedItem.perm_sortByScope _).mem_iff.2
      apply List.mem_map_of_mem
      apply List.mem_filter.2
      refine ⟨hentry, decide_eq_true (hform.trans ?_)⟩
      exact congrArg some (h.of_mem hgroup).1.symm
    · intro other hother hin
      obtain ⟨group, hmem, rfl⟩ := List.mem_map.1 hother
      have hsame := h.form_of_mem hmem hin
      rw [hform, Option.some.injEq] at hsame
      have hget' := Keyed.get?_of_mem h.forms hmem
      rw [← hsame, hget, Option.some.injEq] at hget'
      exact congrArg r.resolved (Prod.ext hsame.symm hget'.symm)
  items := by
    refine List.forall_mem_map.2 fun group hgroup => ?_
    rw [h.resolved_items hgroup]
    exact ScopedItem.perm_sortByScope _
  sorted := by
    refine List.forall_mem_map.2 fun group hgroup => ?_
    exact ScopedItem.pairwise_sortByScope _
  ties := by
    refine List.forall_mem_map.2 fun group hgroup n => ?_
    rw [h.resolved_items hgroup]
    exact ScopedItem.filter_sortByScope _ n
  firsts := by
    obtain ⟨firsts, hsub, hall⟩ := h.firsts
    have hall' := (List.forall₂_and_left raw firsts).2 ⟨fun group hgroup => h.of_mem hgroup, hall⟩
    refine ⟨firsts, hsub, List.forall₂_map_left_iff.2 (hall'.imp ?_)⟩
    rintro group first ⟨⟨hspelling, hitems⟩, hhead, hfirst⟩
    refine ⟨?_, hfirst⟩
    have hkeyword : fold (r.resolved group).keyword = group.1 := hspelling
    rw [hkeyword, ← hitems, hhead]
  content := by
    refine List.forall_mem_map.2 fun group hgroup => ?_
    refine ⟨(r.resolved group).items.map contentOf, ?_, rfl⟩
    rw [List.map_map]
    apply List.map_congr_left
    intro entry hentry
    rw [h.resolved_items hgroup] at hentry
    have hmem := (ScopedItem.perm_sortByScope _).mem_iff.1 hentry
    obtain ⟨kept, hkept, rfl⟩ := List.mem_map.1 hmem
    obtain ⟨s, hs⟩ := (htextual kept (List.mem_of_mem_filter hkept)).content
    simp only [Function.comp_apply, contentOf, override_item, hs]
  conflicts := by
    refine List.forall_mem_map.2 fun group hgroup => ?_
    exact decide_eq_true_iff

end Resolved

/-- A text divides the items that it mentions: where the keywords and contents of the items in scope are
texts, the groups are there and are as they should be. -/
theorem mentioned_divides (r : Repository) (text : String)
    (h : ∀ entry ∈ r.inScope, entry.item.Textual) :
    ∃ groups, r.mentioned text = .ok groups ∧ r.Divides text groups :=
  ⟨_, r.mentioned_eq text h, (grouped_foldl text r.inScope).divides h⟩

def brooks : Repository where
  items := [
    ("mill", { Item.named (.text "Mill") 0 with
      keywords := [.text "brook", .text "mill"], content := .text "A mill.", tags := [.text "old"] }),
    ("ford", { Item.named (.text "Ford") 0 with
      keywords := [.text "Brook"], content := .text "A ford.", forced := true, scope := .shelf })]
  workbooks := [{ Workbook.named (.text "Ruins") 0 with
    tags := [.text "old"], masterScope := some .chapter }]

theorem mentioned_divides_brooks : (∀ entry ∈ brooks.inScope, entry.item.Textual) ∧
    ∃ groups, brooks.mentioned "By the BROOK." = .ok groups ∧
      brooks.Divides "By the BROOK." groups ∧ groups.map (·.keyword) = ["brook"] := by
  have htextual : ∀ entry ∈ brooks.inScope, entry.item.Textual := by
    intro entry hentry
    have hcases : entry ∈ [_, _] := hentry
    rcases List.mem_pair.1 hcases with rfl | rfl
    · exact ⟨by simp, _, rfl⟩
    · exact ⟨by simp, _, rfl⟩
  obtain ⟨groups, hrun, hdivides⟩ := mentioned_divides brooks "By the BROOK." htextual
  have hgroups := (brooks.mentioned_eq "By the BROOK." htextual).symm.trans hrun
  refine ⟨htextual, groups, hrun, hdivides, ?_⟩
  obtain rfl := Except.ok.inj hgroups
  rw [List.map_map]
  decide +kernel

end Repository

end TaleLoom
